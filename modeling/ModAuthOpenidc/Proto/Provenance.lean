import ModAuthOpenidc.Proto.Response

/-!
# Origin of the stored parameters

Each flow strips parameters that the browser has no say in and overwrites others with the response
of the token endpoint. This file determines when the attributes kept in the session come from the
channel they should come from. Two things go wrong: the flow `id_token` keeps a `scope` of the
browser, and an access token of the token endpoint may come without the type or the lifetime that
the browser supplied.
-/

namespace ModAuthOpenidc

namespace Proto

/-! ## Response types as sets of words -/

theorem mem_words_iff_of_equals {a b : Option String} (same : spacedStringEquals a b = true)
    (word : List Char) : word ∈ spacedStringWords a ↔ word ∈ spacedStringWords b := by
  have distinct (text : Option String) : (spacedStringWords text).Nodup := by
    cases text with
    | none => exact List.nodup_nil
    | some text => exact List.nodup_dedup _
  rw [spacedStringEquals, Bool.and_eq_true, decide_eq_true_eq, List.all_eq_true] at same
  obtain ⟨length, included⟩ := same
  have subset : spacedStringWords a ⊆ spacedStringWords b := by
    intro other member
    simpa using included other member
  have permuted := (List.subperm_of_subset (distinct a) subset).perm_of_length_le length.ge
  exact permuted.mem_iff

theorem contains_of_equals {a b : Option String} (same : spacedStringEquals a b = true)
    (word : String) : spacedStringContains a word = spacedStringContains b word := by
  rw [spacedStringContains, spacedStringContains, decide_eq_decide]
  exact mem_words_iff_of_equals same word.toList

/-- Texts with the same words are equal to the same texts. -/
theorem equals_congr {a b : Option String} (same : spacedStringEquals a b = true)
    (c : Option String) : spacedStringEquals a c = spacedStringEquals b c := by
  have length : (spacedStringWords a).length = (spacedStringWords b).length := by
    rw [spacedStringEquals, Bool.and_eq_true, decide_eq_true_eq] at same
    exact same.1
  have words : (spacedStringWords a).all (· ∈ spacedStringWords c) =
      (spacedStringWords b).all (· ∈ spacedStringWords c) := by
    rw [Bool.eq_iff_iff, List.all_eq_true, List.all_eq_true]
    exact forall_congr' fun word => by rw [mem_words_iff_of_equals same word]
  rw [spacedStringEquals, spacedStringEquals, length, words]

/-! ## Reading the tables -/

section Tables

variable {params : Params} {response : TokenResponse}

/-- A parameter from the token endpoint. -/
def resolved (value : String) : Param := { value, origin := .tokenEndpoint }

/-- All parameters come from the browser. -/
def FromBrowser (params : Params) : Prop := ∀ entry ∈ params, entry.2.origin = .browser

theorem FromBrowser.get (browser : FromBrowser params) {name : String} {param : Param}
    (found : CaseTable.get params name = some param) : param.origin = .browser := by
  obtain ⟨entry, member, rfl⟩ := CaseTable.mem_of_get found
  exact browser entry member

theorem get_foldl_unset (keys : List String) (params : Params) (name : String) :
    CaseTable.get (keys.foldl CaseTable.unset params) name =
      if keys.any fun key => CaseTable.fold name = CaseTable.fold key then none
      else CaseTable.get params name := by
  induction keys generalizing params with
  | nil => simp
  | cons key keys ih =>
      rw [List.foldl_cons, ih, CaseTable.get_unset, List.any_cons]
      by_cases here : CaseTable.fold name = CaseTable.fold key
      · simp [here]
      · simp [here]

/-- Whether a flow strips a parameter. -/
def strips (responseType name : String) : Bool :=
  ((stripList.lookup responseType).getD []).any fun key => CaseTable.fold name = CaseTable.fold key

theorem get_stripParams (params : Params) (responseType name : String) :
    CaseTable.get (stripParams params responseType) name =
      if strips responseType name then none else CaseTable.get params name :=
  get_foldl_unset _ params name

theorem FromBrowser.stripParams (browser : FromBrowser params) (responseType : String) :
    FromBrowser (stripParams params responseType) := by
  unfold Proto.stripParams
  generalize (stripList.lookup responseType).getD [] = keys
  induction keys generalizing params with
  | nil => exact browser
  | cons key keys ih =>
      apply ih
      intro entry member
      exact browser entry (List.mem_of_mem_filter member)

theorem get_resolve (params : Params) (name other : String) (value : Option String) :
    CaseTable.get (params.resolve name value) other =
      if CaseTable.fold other = CaseTable.fold name then
        (value.map resolved).or (CaseTable.get params other)
      else CaseTable.get params other := by
  cases value with
  | none => simp [Params.resolve]
  | some value => rw [Params.resolve, CaseTable.get_set, Option.map_some, Option.some_or, resolved]

/-- The merge gives each parameter at most one new value. -/
theorem mergeTokenResponse_eq (params : Params) (response : TokenResponse) :
    mergeTokenResponse params response =
      (((((params.resolve "id_token"
          (if (params.text "id_token").isNone then response.idToken else none)).resolve
        "access_token" response.accessToken).resolve
        "token_type" (if response.accessToken.isSome then response.tokenType else none)).resolve
        "expires_in" (if response.accessToken.isSome ∧ response.expiresIn ≠ -1 then
          some (toString response.expiresIn) else none)).resolve
        "refresh_token" response.refreshToken).resolve "scope" response.scope := by
  unfold mergeTokenResponse
  cases (params.text "id_token").isNone <;> cases response.accessToken <;>
    by_cases unknown : response.expiresIn = -1 <;> simp [unknown, Params.resolve]

/-- The parameters after the merge: the values of the token endpoint where there are any. -/
theorem get_merge (params : Params) (response : TokenResponse) :
    (CaseTable.get (mergeTokenResponse params response) "access_token" =
      (response.accessToken.map resolved).or (CaseTable.get params "access_token")) ∧
    (CaseTable.get (mergeTokenResponse params response) "token_type" =
      ((if response.accessToken.isSome then response.tokenType else none).map resolved).or
        (CaseTable.get params "token_type")) ∧
    (CaseTable.get (mergeTokenResponse params response) "expires_in" =
      ((if response.accessToken.isSome ∧ response.expiresIn ≠ -1 then
        some (toString response.expiresIn) else none).map resolved).or
        (CaseTable.get params "expires_in")) ∧
    (CaseTable.get (mergeTokenResponse params response) "refresh_token" =
      (response.refreshToken.map resolved).or (CaseTable.get params "refresh_token")) ∧
    (CaseTable.get (mergeTokenResponse params response) "scope" =
      (response.scope.map resolved).or (CaseTable.get params "scope")) ∧
    (CaseTable.get (mergeTokenResponse params response) "id_token" =
      (CaseTable.get params "id_token").or (response.idToken.map resolved)) := by
  rw [mergeTokenResponse_eq]
  refine ⟨?_, ?_, ?_, ?_, ?_, ?_⟩
  · simp +decide only [get_resolve, if_true, if_false]
  · simp +decide only [get_resolve, if_true, if_false]
  · simp +decide only [get_resolve, if_true, if_false]
  · simp +decide only [get_resolve, if_true, if_false]
  · simp +decide only [get_resolve, if_true, if_false]
  · simp +decide only [get_resolve, if_true, if_false, Params.text]
    rcases Option.eq_none_or_eq_some (CaseTable.get params "id_token") with missing | ⟨param, found⟩
    · simp [missing]
    · simp [found]

end Tables

/-! ## Origin of what is stored -/

/-- The stored parameters come from the channels they should come from. -/
structure Provenance (responseType : Option String) (stored : Stored) : Prop where
  accessToken : ∀ param, stored.accessToken = some param → param.origin = .browser →
    spacedStringContains responseType "token" = true
  tokenType : ∀ param, stored.tokenType = some param → param.origin = .browser →
    spacedStringContains responseType "token" = true
  expiresIn : ∀ seconds origin, stored.expiresIn = some (seconds, origin) → origin = .browser →
    spacedStringContains responseType "token" = true
  idToken : ∀ param, stored.idToken = some param → param.origin = .browser →
    spacedStringContains responseType "id_token" = true
  scope : ∀ param, stored.scope = some param → param.origin = .browser →
    spacedStringEquals responseType (some "id_token token") = true
  refreshToken : ∀ param, stored.refreshToken = some param → param.origin ≠ .browser
  /-- The type of an access token comes from the channel of the token. -/
  tokenTypeChannel : ∀ token param, stored.accessToken = some token →
      stored.tokenType = some param →
    param.origin = token.origin
  /-- The lifetime of an access token comes from the channel of the token. -/
  expiresInChannel : ∀ token seconds origin, stored.accessToken = some token →
    stored.expiresIn = some (seconds, origin) → origin = token.origin

/-- The token endpoint returned an access token, but not the type or not the lifetime that the
browser supplied as well. -/
def Mixes (params : Params) (response : TokenResponse) : Prop :=
  response.accessToken.isSome = true ∧
    ((response.tokenType = none ∧ (CaseTable.get params "token_type").isSome = true) ∨
      (response.expiresIn = -1 ∧
        ((CaseTable.get params "expires_in").bind storedExpiresIn).isSome = true))

section Stored

variable {params : Params} {response : TokenResponse} {requested : Option String}

theorem storedExpiresIn_origin {param : Param} {seconds : Int} {origin : Origin}
    (stored : storedExpiresIn param = some (seconds, origin)) : origin = param.origin := by
  unfold storedExpiresIn at stored
  dsimp only at stored
  split at stored
  · exact (Prod.mk.inj (Option.some.inj stored)).2.symm
  · cases stored

/-- A parameter after the merge is the value of the token endpoint or, without one, the older value.
-/
theorem or_resolved {value : Option String} {older : Option Param} {param : Param}
    (found : (value.map resolved).or older = some param) :
    (param.origin = .tokenEndpoint ∧ value.isSome = true) ∨
    (value = none ∧ older = some param) := by
  cases value with
  | none => exact .inr ⟨rfl, found⟩
  | some text =>
      rw [← Option.some.inj found]
      exact .inl ⟨rfl, rfl⟩

theorem tokenType_of_stored {storeIdToken : Bool} {param : Param}
    (stored : (saveInSession storeIdToken params).tokenType = some param) :
    CaseTable.get params "token_type" = some param := by
  unfold saveInSession at stored
  dsimp only at stored
  split at stored
  · exact stored
  · cases stored

theorem expiresIn_of_stored {storeIdToken : Bool} {seconds : Int} {origin : Origin}
    (stored : (saveInSession storeIdToken params).expiresIn = some (seconds, origin)) :
    ∃ param, CaseTable.get params "expires_in" = some param ∧
      storedExpiresIn param = some (seconds, origin) := by
  unfold saveInSession at stored
  dsimp only at stored
  split at stored
  · exact Option.bind_eq_some_iff.mp stored
  · cases stored

theorem idToken_of_stored {storeIdToken : Bool} {param : Param}
    (stored : (saveInSession storeIdToken params).idToken = some param) :
    CaseTable.get params "id_token" = some param := by
  unfold saveInSession at stored
  dsimp only at stored
  split at stored
  · exact stored
  · cases stored

/-- After a merge into parameters of the browser, the origins are right unless the token endpoint
left out something that the browser supplied. -/
theorem provenance_merge_iff (browser : FromBrowser params)
    (noRefreshToken : CaseTable.get params "refresh_token" = none)
    (noScope : CaseTable.get params "scope" = none)
    (tokens : spacedStringContains requested "token" = true ∨
      (CaseTable.get params "access_token" = none ∧ CaseTable.get params "token_type" = none ∧
        CaseTable.get params "expires_in" = none))
    (idToken : spacedStringContains requested "id_token" = true ∨
      CaseTable.get params "id_token" = none) (storeIdToken : Bool) :
    Provenance requested (saveInSession storeIdToken (mergeTokenResponse params response)) ↔
      ¬Mixes params response := by
  obtain ⟨access_eq, type_eq, expires_eq, refresh_eq, scope_eq, id_eq⟩ := get_merge params response
  constructor
  · rintro provenance ⟨returned, without⟩
    obtain ⟨token, token_eq⟩ := Option.isSome_iff_exists.mp returned
    rw [token_eq, Option.map_some, Option.some_or] at access_eq
    rcases without with ⟨noType, present⟩ | ⟨noLifetime, present⟩
    · obtain ⟨param, param_eq⟩ := Option.isSome_iff_exists.mp present
      have stored : (saveInSession storeIdToken (mergeTokenResponse params response)).tokenType =
          some param := by
        simp [saveInSession, access_eq, type_eq, noType, param_eq]
      have channel := provenance.tokenTypeChannel (resolved token) param access_eq stored
      rw [browser.get param_eq] at channel
      cases channel
    · obtain ⟨⟨seconds, origin⟩, bound⟩ := Option.isSome_iff_exists.mp present
      obtain ⟨param, param_eq, lifetime⟩ := Option.bind_eq_some_iff.mp bound
      have stored : (saveInSession storeIdToken (mergeTokenResponse params response)).expiresIn =
          some (seconds, origin) := by
        simp [saveInSession, access_eq, expires_eq, noLifetime, bound]
      have channel := provenance.expiresInChannel (resolved token) seconds origin access_eq stored
      rw [storedExpiresIn_origin lifetime, browser.get param_eq] at channel
      cases channel
  · intro unmixed
    refine ⟨?_, ?_, ?_, ?_, ?_, ?_, ?_, ?_⟩
    · intro param stored front
      rcases or_resolved (access_eq.symm.trans stored) with ⟨back, -⟩ | ⟨-, older⟩
      · cases back.symm.trans front
      · exact tokens.resolve_right fun missing => by simp [missing.1] at older
    · intro param stored front
      rcases or_resolved (type_eq.symm.trans (tokenType_of_stored stored)) with
        ⟨back, -⟩ | ⟨-, older⟩
      · cases back.symm.trans front
      · exact tokens.resolve_right fun missing => by simp [missing.2.1] at older
    · intro seconds origin stored front
      obtain ⟨param, found, lifetime⟩ := expiresIn_of_stored stored
      rw [storedExpiresIn_origin lifetime] at front
      rcases or_resolved (expires_eq.symm.trans found) with ⟨back, -⟩ | ⟨-, older⟩
      · cases back.symm.trans front
      · exact tokens.resolve_right fun missing => by simp [missing.2.2] at older
    · intro param stored front
      rw [idToken_of_stored stored] at id_eq
      refine idToken.resolve_right fun missing => ?_
      rw [missing, Option.none_or] at id_eq
      obtain ⟨text, -, rfl⟩ := Option.map_eq_some_iff.mp id_eq.symm
      cases front
    · intro param stored front
      rcases or_resolved (scope_eq.symm.trans stored) with ⟨back, -⟩ | ⟨-, older⟩
      · cases back.symm.trans front
      · cases noScope.symm.trans older
    · intro param stored front
      rcases or_resolved (refresh_eq.symm.trans stored) with ⟨back, -⟩ | ⟨-, older⟩
      · cases back.symm.trans front
      · cases noRefreshToken.symm.trans older
    · intro token param token_eq stored
      have found := type_eq.symm.trans (tokenType_of_stored stored)
      rcases or_resolved (access_eq.symm.trans token_eq) with ⟨back, returned⟩ | ⟨missing, older⟩
      · rw [if_pos returned] at found
        rcases or_resolved found with ⟨alsoBack, -⟩ | ⟨noType, present⟩
        · rw [back, alsoBack]
        · refine absurd ⟨returned, .inl ⟨noType, ?_⟩⟩ unmixed
          rw [present, Option.isSome_some]
      · rw [missing] at found
        rw [browser.get older, browser.get found]
    · intro token seconds origin token_eq stored
      obtain ⟨param, found, lifetime⟩ := expiresIn_of_stored stored
      rw [storedExpiresIn_origin lifetime]
      rw [expires_eq] at found
      rcases or_resolved (access_eq.symm.trans token_eq) with ⟨back, returned⟩ | ⟨missing, older⟩
      · rcases or_resolved found with ⟨alsoBack, -⟩ | ⟨noLifetime, present⟩
        · rw [back, alsoBack]
        · have unknown : response.expiresIn = -1 := by
            by_contra known
            simp [returned, known] at noLifetime
          refine absurd ⟨returned, .inr ⟨unknown, ?_⟩⟩ unmixed
          rw [present, Option.bind_some, lifetime, Option.isSome_some]
      · simp only [missing, Option.isSome_none, Bool.false_eq_true, false_and, if_false,
          Option.map_none, Option.none_or] at found
        rw [browser.get older, browser.get found]

/-- When everything comes from the browser, only the scope is in question. -/
theorem provenance_browser_iff (browser : FromBrowser params)
    (noRefreshToken : CaseTable.get params "refresh_token" = none)
    (tokens : spacedStringContains requested "token" = true ∨
      CaseTable.get params "access_token" = none)
    (idToken : spacedStringContains requested "id_token" = true) (storeIdToken : Bool) :
    Provenance requested (saveInSession storeIdToken params) ↔
      (spacedStringEquals requested (some "id_token token") = true ∨
        CaseTable.get params "scope" = none) := by
  constructor
  · intro provenance
    cases found : CaseTable.get params "scope" with
    | none => exact .inr rfl
    | some param => exact .inl (provenance.scope param found (browser.get found))
  · intro harmless
    refine ⟨?_, ?_, ?_, ?_, ?_, ?_, ?_, ?_⟩
    · intro param stored _
      exact tokens.resolve_right fun missing => by cases missing.symm.trans stored
    · intro param stored _
      refine tokens.resolve_right fun missing => ?_
      simp [saveInSession, missing] at stored
    · intro seconds origin stored _
      refine tokens.resolve_right fun missing => ?_
      simp [saveInSession, missing] at stored
    · intro param _ _
      exact idToken
    · intro param stored _
      exact harmless.resolve_right fun missing => by cases missing.symm.trans stored
    · intro param stored _
      cases noRefreshToken.symm.trans stored
    · intro token param token_eq stored
      rw [browser.get token_eq, browser.get (tokenType_of_stored stored)]
    · intro token seconds origin token_eq stored
      obtain ⟨param, found, lifetime⟩ := expiresIn_of_stored stored
      rw [storedExpiresIn_origin lifetime, browser.get token_eq, browser.get found]

end Stored

/-! ## The flows -/

/-- The inputs on which the browser decides something it should not: a scope in the flow `id_token`,
or an attribute of an access token that the token endpoint returned without it. -/
def Exposed (ctx : Context) (params : Params) : Prop :=
  (spacedStringEquals (ctx.protoState.getString "rt") (some "id_token") = true ∧
    (CaseTable.get params "scope").isSome = true) ∨
  (spacedStringContains (ctx.protoState.getString "rt") "code" = true ∧
    spacedStringContains (ctx.protoState.getString "rt") "token" = true ∧
    ∃ response, resolveCode ctx (params.text "code") = some response ∧ Mixes params response)

section Flows

variable {ctx : Context} {params final : Params} {responseType : String}

/-- The parameters that are present are those of the response type. -/
theorem Fits.present (fits : Fits ctx params responseType) :
    (params.text "id_token").isSome = spacedStringContains (some responseType) "id_token" ∧
      (params.text "access_token").isSome = spacedStringContains (some responseType) "token" := by
  obtain ⟨mode, valid⟩ := fits
  simp only [validateResponseTypeModeIssuer, validateResponseType, Bool.and_eq_true,
    decide_eq_true_eq] at valid
  exact ⟨valid.1.2.1.2, valid.1.2.2⟩

theorem get_of_text_absent {name : String} (absent : (params.text name).isSome = false) :
    CaseTable.get params name = none := by
  simpa [Params.text] using absent

theorem text_stripParams {name : String} (kept : strips responseType name = false) :
    (stripParams params responseType).text name = params.text name := by
  rw [Params.text, get_stripParams, kept, Params.text]
  rfl

/-- What the strip list does for a flow with a code. -/
structure CodeFlow (responseType : String) : Prop where
  contains : spacedStringContains (some responseType) "code" = true
  notIdToken : spacedStringEquals (some responseType) (some "id_token") = false
  keepsCode : strips responseType "code" = false
  stripsRefreshToken : strips responseType "refresh_token" = true
  stripsScope : strips responseType "scope" = true
  idToken : spacedStringContains (some responseType) "id_token" = true ∨
    strips responseType "id_token" = true
  tokens : (spacedStringContains (some responseType) "token" = true ∧
      strips responseType "token_type" = false ∧ strips responseType "expires_in" = false) ∨
    (spacedStringContains (some responseType) "token" = false ∧
      strips responseType "access_token" = true ∧ strips responseType "token_type" = true ∧
      strips responseType "expires_in" = true)

theorem codeFlow_of_mem
    (kind : responseType ∈ ["code", "code token", "code id_token", "code id_token token"]) :
    CodeFlow responseType := by
  simp only [List.mem_cons, List.not_mem_nil, or_false] at kind
  rcases kind with rfl | rfl | rfl | rfl
  · exact ⟨by decide, by decide, by decide, by decide, by decide, by decide, by decide⟩
  · exact ⟨by decide, by decide, by decide, by decide, by decide, by decide, by decide⟩
  · exact ⟨by decide, by decide, by decide, by decide, by decide, by decide, by decide⟩
  · exact ⟨by decide, by decide, by decide, by decide, by decide, by decide, by decide⟩

/-- The flows with a code. -/
theorem codeFlow_provenance_iff (flow : CodeFlow responseType)
    (requested : spacedStringEquals (ctx.protoState.getString "rt") (some responseType) = true)
    (browser : FromBrowser params)
    (completed : resolveCodeAndValidateResponse ctx responseType (stripParams params responseType) =
      some final) (storeIdToken : Bool) :
    Provenance (ctx.protoState.getString "rt") (saveInSession storeIdToken final) ↔
      ¬Exposed ctx params := by
  have contains (word : String) := contains_of_equals requested word
  obtain ⟨response, answered, rfl⟩ :
    ∃ response, resolveCode ctx (params.text "code") = some response ∧
      mergeTokenResponse (stripParams params responseType) response = final := by
    unfold resolveCodeAndValidateResponse at completed
    rw [text_stripParams flow.keepsCode] at completed
    split at completed
    · cases completed
    · next response answered =>
        split at completed
        · exact ⟨response, answered, Option.some.inj completed⟩
        · cases completed
  have stripped {name : String} (listed : strips responseType name = true) :
      CaseTable.get (stripParams params responseType) name = none := by
    rw [get_stripParams, if_pos listed]
  rw [provenance_merge_iff (browser.stripParams responseType) (stripped flow.stripsRefreshToken)
    (stripped flow.stripsScope) ?_ ?_ storeIdToken, not_iff_not]
  · -- Both sides speak about the same response, and about the token flows only.
    unfold Exposed
    rw [equals_congr requested, flow.notIdToken, contains, contains, flow.contains]
    simp only [Bool.false_eq_true, false_and, false_or, true_and]
    rcases flow.tokens with ⟨token, keepsType, keepsLifetime⟩ | ⟨token, -, noType, noLifetime⟩
    · have same : Mixes (stripParams params responseType) response ↔ Mixes params response := by
        simp only [Mixes, get_stripParams, keepsType, keepsLifetime, Bool.false_eq_true, if_false]
      rw [same, token]
      refine ⟨fun mixes => ⟨rfl, response, answered, mixes⟩, ?_⟩
      rintro ⟨-, other, answered', mixes⟩
      rw [answered] at answered'
      rwa [Option.some.inj answered']
    · refine iff_of_false ?_ fun exposed => ?_
      · rintro ⟨-, ⟨-, present⟩ | ⟨-, present⟩⟩
        · simp [stripped noType] at present
        · simp [stripped noLifetime] at present
      · rw [token] at exposed
        exact Bool.false_ne_true exposed.1
  · rw [contains]
    rcases flow.tokens with ⟨token, -⟩ | ⟨-, noToken, noType, noLifetime⟩
    · exact .inl token
    · exact .inr ⟨stripped noToken, stripped noType, stripped noLifetime⟩
  · rw [contains]
    exact flow.idToken.imp_right stripped

/-- The flows without a code. -/
theorem implicit_provenance_iff (kind : responseType = "id_token" ∨ responseType = "id_token token")
    (requested : spacedStringEquals (ctx.protoState.getString "rt") (some responseType) = true)
    (browser : FromBrowser params) (fits : Fits ctx params responseType) (storeIdToken : Bool) :
    Provenance (ctx.protoState.getString "rt")
        (saveInSession storeIdToken (stripParams params responseType)) ↔ ¬Exposed ctx params := by
  have contains (word : String) := contains_of_equals requested word
  have equals (other : Option String) := equals_congr requested other
  have facts : strips responseType "refresh_token" = true ∧ strips responseType "scope" = false ∧
      strips responseType "access_token" = false ∧
      spacedStringContains (some responseType) "id_token" = true ∧
      spacedStringContains (some responseType) "code" = false ∧
      spacedStringEquals (some responseType) (some "id_token token") =
        !spacedStringEquals (some responseType) (some "id_token") := by
    rcases kind with rfl | rfl <;> decide
  obtain ⟨noRefreshToken, keepsScope, keepsToken, idToken, noCode, exclusive⟩ := facts
  have token : spacedStringContains (ctx.protoState.getString "rt") "token" = true ∨
      CaseTable.get (stripParams params responseType) "access_token" = none := by
    rw [contains, get_stripParams, keepsToken]
    cases wanted : spacedStringContains (some responseType) "token" with
    | true => exact .inl rfl
    | false => exact .inr (get_of_text_absent (fits.present.2.trans wanted))
  rw [provenance_browser_iff (browser.stripParams responseType)
    (by rw [get_stripParams, if_pos noRefreshToken]) token
        ((contains _).trans idToken) storeIdToken,
    get_stripParams, keepsScope]
  unfold Exposed
  rw [equals, equals, exclusive, contains, contains, noCode]
  cases spacedStringEquals (some responseType) (some "id_token") with
  | true => simp
  | false => simp

/-- For every response that a flow accepts, the stored parameters have the right origins exactly
when the input is not an exposed one. -/
theorem stored_provenance_iff {jwt : Jwt} {cache cache' : NonceCache} (browser : FromBrowser params)
    (ran : (responseFlows ctx params).exec cache = (some (final, jwt), cache'))
    (storeIdToken : Bool) :
    Provenance (ctx.protoState.getString "rt") (saveInSession storeIdToken final) ↔
      ¬Exposed ctx params := by
  obtain ⟨responseType, requested, fits, completed⟩ := responseFlows_completed ran
  cases completed with
  | implicit kind parsed hashed =>
      exact implicit_provenance_iff kind requested browser fits storeIdToken
  | hybrid kind parsed hashed merged =>
      refine codeFlow_provenance_iff (codeFlow_of_mem ?_) requested browser merged storeIdToken
      rcases kind with rfl | rfl <;> simp
  | code kind merged parsed =>
      refine codeFlow_provenance_iff (codeFlow_of_mem ?_) requested browser merged storeIdToken
      rcases kind with rfl | rfl <;> simp

end Flows

/-! ## Responses of one provider -/

/-- The claims of a signed id_token. -/
def sampleJwt : Jwt where
  alg := some "RS256"
  claims :=
    [("iss", .str "https://op"), ("sub", .str "alice"), ("aud", .str "client"),
      ("exp", .int 2000), ("iat", .int 1000), ("nonce", .str "n")]

/-- A response to a request with a nonce, at the time the id_token was issued. -/
def sampleContext (jwt : Jwt) (responseType responseMode : String)
    (tokenEndpoint : Option String → Option Object) : Context where
  provider := { issuer := "https://op", clientId := "client" }
  jose :=
    { jwtParse := fun token => if token = some "signed" then some jwt else none
      jwtVerify := fun jwt => jwt.alg = some "RS256"
      hashBytes := fun _ _ => none
      base64urlDecode := fun _ => none }
  env := { now := 1000000000 }
  protoState := [("rt", .str responseType), ("n", .str "n")]
  responseMode := responseMode
  tokenEndpoint := tokenEndpoint

/-- A parameter from the browser. -/
def sent (value : String) : Param := { value, origin := .browser }

/-- A login with a code, where a lifetime in the front channel is ignored. -/
theorem stored_provenance_code : ∃ final cache',
    (responseFlows (sampleContext sampleJwt "code" "query" fun _ =>
      some [("id_token", .str "signed"), ("access_token", .str "at"),
          ("token_type", .str "Bearer")])
      [("code", sent "c"), ("expires_in", sent "99")]).exec (fun _ => none) =
        (some (final, sampleJwt), cache') ∧
      Provenance (some "code") (saveInSession true final) := by
  have browser : FromBrowser [("code", sent "c"), ("expires_in", sent "99")] := by
    intro entry member
    rcases List.mem_cons.mp member with rfl | later
    · rfl
    · rw [List.mem_singleton.mp later]
      rfl
  obtain ⟨final, cache', ran⟩ :
    ∃ final cache', (responseFlows (sampleContext sampleJwt "code" "query" fun _ =>
      some [("id_token", .str "signed"), ("access_token", .str "at"),
          ("token_type", .str "Bearer")])
      [("code", sent "c"), ("expires_in", sent "99")]).exec (fun _ => none) =
        (some (final, sampleJwt), cache') := ⟨_, _, rfl⟩
  refine ⟨final, cache', ran, (stored_provenance_iff browser ran true).mpr ?_⟩
  rintro (⟨implicit, -⟩ | ⟨-, token, -⟩)
  · exact absurd implicit (by decide)
  · exact absurd token (by decide)

/-- Both defects: the scope of the browser is stored in the flow `id_token`, and a token type of the
browser is stored for an access token of the token endpoint. -/
theorem browser_decides_attributes :
    (∃ final cache', (responseFlows (sampleContext sampleJwt "id_token" "fragment" fun _ => none)
        [("id_token", sent "signed"), ("scope", sent "admin")]).exec (fun _ => none) =
          (some (final, sampleJwt), cache') ∧
        ¬Provenance (some "id_token") (saveInSession true final)) ∧
      ∃ final cache', (responseFlows (sampleContext sampleJwt "code token" "fragment" fun _ =>
          some [("id_token", .str "signed"), ("access_token", .str "at")])
        [("code", sent "c"), ("access_token", sent "front"), ("token_type", sent "DPoP")]).exec
          (fun _ => none) = (some (final, sampleJwt), cache') ∧
        ¬Provenance (some "code token") (saveInSession true final) := by
  refine ⟨⟨_, _, rfl, ?_⟩, _, _, rfl, ?_⟩
  · intro provenance
    exact absurd (provenance.scope (sent "admin") rfl rfl) (by decide)
  · intro provenance
    have channel := provenance.tokenTypeChannel (resolved "at") (sent "DPoP") rfl rfl
    cases channel

end Proto

end ModAuthOpenidc
