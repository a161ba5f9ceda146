import ModAuthOpenidc.Filing
import ModAuthOpenidc.Proto.Jwks

/-!
# Candidates for a verification key

A token that does not name its key is verified with all keys of a set that fit. They are kept in a
table under their own identifiers. A key without one is kept under the number of keys so far, on the
assumption that nothing else is kept there. The keys of a signed set are kept in the same way. Two
keys with one identifier, or an identifier that looks like a number, displace a key.
-/

namespace ModAuthOpenidc

namespace Jwks

open Filing (Stays)

/-- The verifier keys of `oidc_metadata_jwks_retrieve_and_cache`. -/
def verifierKeys (jwkList : List Jwk) : Keys :=
  jwkList.foldl (fun keys jwk =>
    match jwk.kid with
    | some kid => hashSet keys kid jwk
    | none => hashSet keys (toString keys.length) jwk) []

/-! ## What should be selected -/

/-- The elements of a set. -/
def elements (jwks : Object) : List Json :=
  match jwks.get "keys" with
  | some (.arr elements) => elements
  | _ => []

/-- The key of an element, if it can be parsed and its type fits the token. -/
def fitting (jose : Jose) (jwt : Token) (elem : Json) : Option Jwk :=
  (jose.parseJwk elem).filter fun jwk => alg2kty jwt.alg = jwk.kty

/-- A key of the set that fits, for signatures or without a use. -/
def Eligible (jose : Jose) (jwt : Token) (jwks : Object) (jwk : Jwk) : Prop :=
  ∃ elem ∈ elements jwks, fitting jose jwt elem = some jwk ∧
    (member elem "use" = none ∨ member elem "use" = some (.str "sig"))

/-- A key of the set that fits, with a use that is not a string. -/
def Misused (jose : Jose) (jwt : Token) (jwks : Object) (jwk : Jwk) : Prop :=
  ∃ elem ∈ elements jwks, fitting jose jwt elem = some jwk ∧
    ∃ use, member elem "use" = some use ∧ use.stringValue = none

/-- The key of an element, if it fits and has the identifier or the thumbprint of the token. -/
def matching (jose : Jose) (jwt : Token) (elem : Json) : Option Jwk :=
  (fitting jose jwt elem).filter fun jwk =>
    (jwt.kid.isSome ∧ jwt.kid = jwk.kid) ∨
      (jwt.x5t.isSome ∧ jwt.x5t = (member elem "x5t").bind Json.stringValue)

/-- Keys are selected from a set, and kept from a list of verifiers, as they should be. -/
structure LosesNoKey (jose : Jose) (jwt : Token) (jwks : Object) (verifiers : List Jwk) : Prop where
  /-- A token that does not name its key has the eligible keys as candidates. -/
  any : jwt.kid = none → jwt.x5t = none → ∀ jwk,
    (∃ name, (name, jwk) ∈ keyGet jose jwt jwks []) ↔ Eligible jose jwt jwks jwk
  /-- Another token has the first key that it names, if there is one. -/
  first : jwt.kid ≠ none ∨ jwt.x5t ≠ none →
    (keyGet jose jwt jwks []).map Prod.snd = ((elements jwks).findSome? (matching jose jwt)).toList
  /-- All verifier keys are candidates. -/
  verifiers : ∀ jwk ∈ verifiers, ∃ name, (name, jwk) ∈ verifierKeys verifiers

/-! ## The loops -/

/-- The key of an element that is included if the token does not name one. -/
def included (jose : Jose) (jwt : Token) (elem : Json) : Option Jwk :=
  (fitting jose jwt elem).filter fun _ =>
    ((member elem "use").bind Json.stringValue).all fun use => use = "sig"

/-- A key of a list is still in the table after all have been filed. -/
abbrev StaysAmong (keys : List Jwk) (jwk : Jwk) : Prop := Stays Jwk.kid toString keys jwk

variable {jose : Jose} {jwt : Token}

/-- A key is filed under its identifier or the number of keys. -/
theorem hashSet_getD (keys : Keys) (jwk : Jwk) :
    hashSet keys (jwk.kid.getD (toString keys.length)) jwk =
      Filing.file Jwk.kid toString keys jwk := by
  rw [Filing.file, Filing.name, List.length_map]
  rfl

/-- The verifier keys are filed one after the other. -/
theorem verifierKeys_eq (jwkList : List Jwk) :
    verifierKeys jwkList = jwkList.foldl (Filing.file Jwk.kid toString) [] := by
  unfold verifierKeys
  congr 1
  funext keys jwk
  rw [← hashSet_getD]
  cases jwk.kid with
  | none => rfl
  | some kid => rfl

/-- Without a name in the token an element is filed if it is included. -/
theorem keyApply_any (kid : jwt.kid = none) (x5t : jwt.x5t = none) (elem : Json) (result : Keys) :
    keyApply jose jwt elem result =
      (false, (included jose jwt elem).toList.foldl (Filing.file Jwk.kid toString) result) := by
  unfold keyApply included fitting
  cases jose.parseJwk elem with
  | none => rfl
  | some jwk =>
      simp only [kid, x5t]
      by_cases fits : alg2kty jwt.alg = jwk.kty
      · rw [if_neg (not_not.mpr fits), Option.filter_some, if_pos (by simpa using fits)]
        unfold keyIncludeAny
        cases (member elem "use").bind Json.stringValue with
        | none => exact congrArg (Prod.mk false) (hashSet_getD result jwk)
        | some use =>
            dsimp only
            by_cases signing : use = "sig"
            · rw [if_neg (not_not.mpr signing), hashSet_getD, Option.filter_some,
                if_pos (by simpa using signing)]
              rfl
            · rw [if_pos signing, Option.filter_some, if_neg (by simpa using signing)]
              rfl
      · rw [if_pos fits, Option.filter_some, if_neg (by simpa using fits)]
        rfl

/-- With a name in the token an element is taken if it has that name. -/
theorem keyApply_named (named : jwt.kid ≠ none ∨ jwt.x5t ≠ none) (elem : Json) :
    ∃ name, keyApply jose jwt elem [] =
      match matching jose jwt elem with
      | none => (false, [])
      | some jwk => (true, [(name, jwk)]) := by
  unfold keyApply matching fitting
  cases jose.parseJwk elem with
  | none => exact ⟨"", rfl⟩
  | some jwk =>
      dsimp only
      by_cases fits : alg2kty jwt.alg = jwk.kty
      · rw [if_neg (not_not.mpr fits), Option.filter_some, if_pos (by simpa using fits),
          Option.filter_some]
        split
        · next kid x5t =>
            rcases named with present | present
            · exact absurd kid present
            · exact absurd x5t present
        · by_cases same : jwt.kid.isSome ∧ jwt.kid = jwk.kid
          · rw [if_pos same, if_pos (decide_eq_true (.inl same))]
            exact ⟨_, rfl⟩
          · rw [if_neg same]
            by_cases print : jwt.x5t.isSome ∧
                jwt.x5t = (member elem "x5t").bind Json.stringValue
            · rw [if_pos print, if_pos (decide_eq_true (.inr print))]
              exact ⟨_, rfl⟩
            · rw [if_neg print, if_neg (by simpa using ⟨not_and.mp same, not_and.mp print⟩)]
              exact ⟨"", rfl⟩
      · rw [if_pos fits, Option.filter_some, if_neg (by simpa using fits)]
        exact ⟨"", rfl⟩

/-- The loop files what is included if the token does not name a key. -/
theorem keyLoop_any (kid : jwt.kid = none) (x5t : jwt.x5t = none) (elements : List Json)
    (result : Keys) :
    keyLoop jose jwt elements result =
      (elements.filterMap (included jose jwt)).foldl (Filing.file Jwk.kid toString) result := by
  induction elements generalizing result with
  | nil => rfl
  | cons elem elements ih =>
      rw [keyLoop, keyApply_any kid x5t]
      dsimp only
      rw [ih, List.filterMap_cons]
      cases included jose jwt elem with
      | none => rfl
      | some jwk => rfl

/-- The loop stops at the first key that the token names. -/
theorem keyLoop_named (named : jwt.kid ≠ none ∨ jwt.x5t ≠ none) (elements : List Json) :
    (keyLoop jose jwt elements []).map Prod.snd =
      (elements.findSome? (matching jose jwt)).toList := by
  induction elements with
  | nil => rfl
  | cons elem elements ih =>
      obtain ⟨name, applied⟩ := @keyApply_named jose jwt named elem
      rw [keyLoop, applied, List.findSome?_cons]
      cases matching jose jwt elem with
      | none => exact ih
      | some jwk => rfl

/-- The search goes through the elements. -/
theorem keyGet_eq (jwks : Object) :
    keyGet jose jwt jwks [] = keyLoop jose jwt (elements jwks) [] := by
  unfold keyGet elements
  cases jwks.get "keys" with
  | none => rfl
  | some value =>
      cases value <;> rfl

/-- A use does not keep a key away if it is absent, or says signatures, or is not a string. -/
theorem use_admitted_iff (use : Option Json) :
    (use.bind Json.stringValue).all (fun use => use = "sig") = true ↔
      (use = none ∨ use = some (.str "sig")) ∨
        ∃ value, use = some value ∧ value.stringValue = none := by
  cases use with
  | none => simp
  | some value => cases value <;> simp [Json.stringValue]

/-- What is included is eligible, or has a use that is not a string. -/
theorem included_iff (jwks : Object) (jwk : Jwk) :
    jwk ∈ (elements jwks).filterMap (included jose jwt) ↔
      Eligible jose jwt jwks jwk ∨ Misused jose jwt jwks jwk := by
  simp only [List.mem_filterMap, included, Option.filter_eq_some_iff, use_admitted_iff, Eligible,
    Misused, ← exists_or, ← and_or_left]

/-! ## When no key is lost -/

/-- Keys are selected as they should be if every eligible key stays and no key with a use that is
not a string does, among the keys that are filed together, and every verifier key stays among the
verifier keys. -/
theorem losesNoKey_iff (jose : Jose) (jwt : Token) (jwks : Object) (verifiers : List Jwk) :
    LosesNoKey jose jwt jwks verifiers ↔
      (jwt.kid = none → jwt.x5t = none →
        (∀ jwk, Eligible jose jwt jwks jwk →
          StaysAmong ((elements jwks).filterMap (included jose jwt)) jwk) ∧
        ∀ jwk, Misused jose jwt jwks jwk →
          StaysAmong ((elements jwks).filterMap (included jose jwt)) jwk →
            Eligible jose jwt jwks jwk) ∧
      ∀ jwk ∈ verifiers, StaysAmong verifiers jwk := by
  have candidates (kid : jwt.kid = none) (x5t : jwt.x5t = none) (jwk : Jwk) :
      (∃ name, (name, jwk) ∈ keyGet jose jwt jwks []) ↔
        StaysAmong ((elements jwks).filterMap (included jose jwt)) jwk := by
    rw [keyGet_eq, keyLoop_any kid x5t]
    exact Filing.mem_foldl_file_iff
  have verified (jwk : Jwk) :
      (∃ name, (name, jwk) ∈ verifierKeys verifiers) ↔ StaysAmong verifiers jwk := by
    rw [verifierKeys_eq]
    exact Filing.mem_foldl_file_iff
  constructor
  · rintro ⟨any, -, kept⟩
    refine ⟨fun kid x5t => ⟨fun jwk eligible => ?_, fun jwk _ stays => ?_⟩, fun jwk member => ?_⟩
    · exact (candidates kid x5t jwk).mp ((any kid x5t jwk).mpr eligible)
    · exact (any kid x5t jwk).mp ((candidates kid x5t jwk).mpr stays)
    · exact (verified jwk).mp (kept jwk member)
  · rintro ⟨any, kept⟩
    refine ⟨fun kid x5t jwk => ?_, fun named => ?_, fun jwk member => ?_⟩
    · obtain ⟨stay, proper⟩ := any kid x5t
      rw [candidates kid x5t]
      constructor
      · intro stays
        rcases (included_iff jwks jwk).mp stays.mem with eligible | misused
        · exact eligible
        · exact proper jwk misused stays
      · exact stay jwk
    · rw [keyGet_eq]
      exact keyLoop_named named _
    · exact (verified jwk).mpr (kept jwk member)

/-- Keys that differ are all candidates if and only if their identifiers and the places of those
without an identifier differ. -/
theorem losesNoKey_iff_places {jose : Jose} {jwt : Token} {jwks : Object} (kid : jwt.kid = none)
    (x5t : jwt.x5t = none) {verifiers : List Jwk} (strings : ∀ jwk, ¬Misused jose jwt jwks jwk)
    (distinct : ((elements jwks).filterMap (included jose jwt)).Nodup)
    (distinct' : verifiers.Nodup) :
    LosesNoKey jose jwt jwks verifiers ↔
      (Filing.places Jwk.kid toString 0 ((elements jwks).filterMap (included jose jwt))).Nodup ∧
        (Filing.places Jwk.kid toString 0 verifiers).Nodup := by
  rw [losesNoKey_iff, ← Filing.stays_iff_places distinct, ← Filing.stays_iff_places distinct']
  apply and_congr_left'
  constructor
  · intro any jwk member
    rcases (included_iff jwks jwk).mp member with eligible | misused
    · exact (any kid x5t).1 jwk eligible
    · exact absurd misused (strings jwk)
  · intro all _ _
    refine ⟨fun jwk eligible => ?_, fun jwk misused => absurd misused (strings jwk)⟩
    exact all jwk ((included_iff jwks jwk).mpr (.inl eligible))

/-! ## A displaced key -/

/-- Keys that are named by their members. -/
def plainJose : Jose where
  parseJwk elem :=
    match (member elem "kty").bind Json.stringValue, (member elem "n").bind Json.stringValue with
    | some "RSA", some n => some ⟨ktyRsa, (member elem "kid").bind Json.stringValue, n⟩
    | _, _ => none
  jwtVerify _ _ := false

/-- A set in which the first key is called `1` and the second one has no identifier. -/
def displacedSet : Object :=
  [("keys", .arr [
    .obj [("kty", .str "RSA"), ("kid", .str "1"), ("n", .str "first"), ("use", .str "sig")],
    .obj [("kty", .str "RSA"), ("n", .str "second")]])]

/-- The second key takes the place of the first one, which is eligible. -/
theorem first_key_displaced :
    keyGet plainJose ⟨some "RS256", none, none, ""⟩ displacedSet [] =
        [("1", ⟨ktyRsa, none, "second"⟩)] ∧
      Eligible plainJose ⟨some "RS256", none, none, ""⟩ displacedSet ⟨ktyRsa, some "1", "first"⟩ ∧
      ¬LosesNoKey plainJose ⟨some "RS256", none, none, ""⟩ displacedSet [] := by
  have found : keyGet plainJose ⟨some "RS256", none, none, ""⟩ displacedSet [] =
      [("1", ⟨ktyRsa, none, "second"⟩)] := by decide +kernel
  have eligible :
      Eligible plainJose ⟨some "RS256", none, none, ""⟩ displacedSet ⟨ktyRsa, some "1", "first"⟩ :=
    ⟨_, List.mem_cons_self, by decide +kernel, .inr rfl⟩
  refine ⟨found, eligible, fun keeps => ?_⟩
  obtain ⟨name, member⟩ := (keeps.any rfl rfl _).mpr eligible
  rw [found, List.mem_singleton] at member
  cases member

end Jwks

end ModAuthOpenidc
