import ModAuthOpenidc.Proto.IdToken

/-!
# Exact audiences

The audience of an id_token is compared with a configured list, in which `@` stands for the client.
An array must have all values of the list and no others. The code looks for the values and compares
the lengths. A list that names one value twice therefore leaves room for a value of somebody else.
An authorized party that is not a string goes unnoticed.
-/

namespace ModAuthOpenidc

namespace Proto

/-- The values of a list with the client in place of `@`. -/
def resolvedValues (provider : Provider) (values : List String) : List String :=
  values.map (idtokenAudResolve provider)

/-- The authorized party is the client, if there is one. -/
def AzpMatches (provider : Provider) (claims : Object) : Prop :=
  ∀ azp, claims.get "azp" = some azp → azp = .str provider.clientId

/-- What an accepted token should satisfy. -/
structure AudienceMatches (provider : Provider) (claims : Object) : Prop where
  azp : AzpMatches provider claims
  /-- Without a list the audience is the client, or the client is among it. -/
  client : provider.idTokenAudValues = none →
    claims.get "aud" = some (.str provider.clientId) ∨
      ∃ elements, claims.get "aud" = some (.arr elements) ∧ .str provider.clientId ∈ elements
  /-- A single audience is in the list. -/
  single : ∀ values, provider.idTokenAudValues = some values → ∀ aud,
    claims.get "aud" = some (.str aud) → aud ∈ resolvedValues provider values
  /-- Several audiences are those of the list. -/
  several : ∀ values, provider.idTokenAudValues = some values → ∀ elements,
    claims.get "aud" = some (.arr elements) → ∀ element,
      element ∈ elements ↔ element ∈ (resolvedValues provider values).map Json.str

/-- A token is accepted only if its audience matches. -/
def AudienceExact (provider : Provider) (claims : Object) : Prop :=
  idtokenValidateAudAndAzp provider claims = true → AudienceMatches provider claims

/-! ## What the code checks -/

theorem stringValue_eq_some {value : Json} {text : String} :
    value.stringValue = some text ↔ value = .str text := by
  cases value <;> simp [Json.stringValue]

theorem jsonArrayHasValue_iff {elements : List Json} {needle : String} :
    jsonArrayHasValue elements needle = true ↔ .str needle ∈ elements := by
  simp only [jsonArrayHasValue, List.any_eq_true, decide_eq_true_eq, stringValue_eq_some]
  exact exists_eq_right

/-- A single audience is accepted if it is in the list. -/
theorem idtokenValidateAudString_iff {provider : Provider} {values : List String} {aud : String} :
    idtokenValidateAudString provider (some values) aud = true ↔
      aud ∈ resolvedValues provider values := by
  simp only [idtokenValidateAudString, resolvedValues, List.any_eq_true, decide_eq_true_eq,
    List.mem_map, eq_comm (a := aud)]

/-- Several audiences are accepted if they include the list and are not more. -/
theorem idtokenValidateAudArray_iff {provider : Provider} {values : List String}
    {elements : List Json} :
    idtokenValidateAudArray provider (some values) elements = true ↔
      (resolvedValues provider values).map Json.str ⊆ elements ∧
        elements.length ≤ values.length := by
  simp only [idtokenValidateAudArray, resolvedValues, Bool.and_eq_true, List.all_eq_true,
    jsonArrayHasValue_iff, decide_eq_true_eq, List.map_map]
  apply and_congr_left'
  constructor
  · intro all element member
    obtain ⟨value, inside, rfl⟩ := List.mem_map.mp member
    exact all value inside
  · intro subset value member
    exact subset (List.mem_map_of_mem member)

/-- An authorized party that is a string is the client, or the token is refused. -/
theorem idtokenValidateAzp_iff {provider : Provider} {claims : Object} :
    idtokenValidateAzp provider (claims.getString "azp") = true ↔
      AzpMatches provider claims ∨
        ∃ azp, claims.get "azp" = some azp ∧ azp.stringValue = none := by
  unfold AzpMatches Object.getString
  cases claims.get "azp" with
  | none => simp [idtokenValidateAzp]
  | some azp => cases azp <;> simp [idtokenValidateAzp, Json.stringValue]

/-! ## Counting values -/

/-- A list that includes another one has nothing else if it does not have more values. -/
theorem subset_iff_card_le {α : Type} [DecidableEq α] {small large : List α}
    (inside : small ⊆ large) : large ⊆ small ↔ large.toFinset.card ≤ small.toFinset.card := by
  have inside' : small.toFinset ⊆ large.toFinset := by
    intro value member
    exact List.mem_toFinset.mpr (inside (List.mem_toFinset.mp member))
  constructor
  · intro back
    apply Finset.card_le_card
    intro value member
    exact List.mem_toFinset.mpr (back (List.mem_toFinset.mp member))
  · intro few value member
    rw [← List.mem_toFinset, Finset.eq_of_subset_of_card_le inside' few]
    exact List.mem_toFinset.mpr member

/-- The number of different values of a list. -/
def resolvedCount (provider : Provider) (values : List String) : Nat :=
  (resolvedValues provider values).toFinset.card

theorem card_map_str (values : List String) :
    (values.map Json.str).toFinset.card = values.toFinset.card := by
  have image : (values.map Json.str).toFinset = values.toFinset.image Json.str := by
    ext value
    simp
  rw [image]
  exact Finset.card_image_of_injective _ fun _ _ => Json.str.inj

/-- There is a text that is not among finitely many. -/
theorem exists_fresh (texts : List String) : ∃ text, text ∉ texts := by
  have injective : Function.Injective fun n : Nat => String.ofList (List.replicate n 'x') := by
    intro m n same
    simpa using congrArg String.length same
  have infinite : Infinite String := .of_injective _ injective
  obtain ⟨text, fresh⟩ := Infinite.exists_notMem_finset texts.toFinset
  exact ⟨text, fun member => fresh (List.mem_toFinset.mpr member)⟩

/-! ## When the audience is exact -/

/-- A token that is not refused has an authorized party that is a string, or none, and not more
different values in its audience than the list has. -/
structure AudienceClear (provider : Provider) (claims : Object) : Prop where
  azp : ∀ azp, claims.get "azp" = some azp → azp.stringValue = none →
    idtokenValidateAud provider claims = false
  room : AzpMatches provider claims → ∀ values, provider.idTokenAudValues = some values →
    ∀ elements, claims.get "aud" = some (.arr elements) →
      (resolvedValues provider values).map Json.str ⊆ elements →
        elements.length ≤ values.length →
          elements.toFinset.card ≤ resolvedCount provider values

/-- An accepted token matches if its audience is clear. -/
theorem AudienceClear.exact {provider : Provider} {claims : Object}
    (clear : AudienceClear provider claims) : AudienceExact provider claims := by
  intro accepted
  rw [idtokenValidateAudAndAzp, Bool.and_eq_true, idtokenValidateAzp_iff] at accepted
  obtain ⟨party, audience⟩ := accepted
  have azp : AzpMatches provider claims := by
    rcases party with azp | ⟨azp, present, other⟩
    · exact azp
    · rw [clear.azp azp present other] at audience
      cases audience
  refine ⟨azp, fun unlisted => ?_, fun values listed aud present => ?_,
    fun values listed elements present element => ?_⟩
  · unfold idtokenValidateAud at audience
    rw [unlisted] at audience
    split at audience
    · next aud present =>
        rw [present, of_decide_eq_true audience]
        exact .inl rfl
    · next elements present => exact .inr ⟨elements, present, jsonArrayHasValue_iff.mp audience⟩
    · cases audience
  · rw [idtokenValidateAud, present, listed] at audience
    exact idtokenValidateAudString_iff.mp audience
  · rw [idtokenValidateAud, present, listed] at audience
    obtain ⟨inside, short⟩ := idtokenValidateAudArray_iff.mp audience
    have few := clear.room azp values listed elements present inside short
    rw [resolvedCount, ← card_map_str] at few
    exact ⟨fun member => (subset_iff_card_le inside).mpr few member, fun member => inside member⟩

/-- The audience is clear if accepted tokens match. -/
theorem AudienceExact.clear {provider : Provider} {claims : Object}
    (exact : AudienceExact provider claims) : AudienceClear provider claims := by
  unfold AudienceExact at exact
  rw [idtokenValidateAudAndAzp, Bool.and_eq_true, idtokenValidateAzp_iff] at exact
  constructor
  · intro azp present other
    by_contra audience
    rw [Bool.not_eq_false] at audience
    have azp_eq := (exact ⟨.inr ⟨azp, present, other⟩, audience⟩).azp azp present
    rw [azp_eq] at other
    cases other
  · intro azp values listed elements present inside short
    have audience : idtokenValidateAud provider claims = true := by
      rw [idtokenValidateAud, present, listed]
      exact idtokenValidateAudArray_iff.mpr ⟨inside, short⟩
    have several := (exact ⟨.inl azp, audience⟩).several values listed elements present
    rw [resolvedCount, ← card_map_str]
    exact (subset_iff_card_le inside).mp fun element member => (several element).mp member

/-- If the values of the list differ, there is no room for others. -/
theorem audienceClear_of_nodup {provider : Provider}
    (distinct : ∀ values, provider.idTokenAudValues = some values →
      (resolvedValues provider values).Nodup)
    {claims : Object}
    (text : ∀ azp, claims.get "azp" = some azp → azp.stringValue.isSome = true) :
    AudienceClear provider claims := by
  constructor
  · intro azp present other
    have string := text azp present
    rw [other] at string
    cases string
  · intro _ values listed elements _ _ short
    calc
      elements.toFinset.card ≤ elements.length := List.toFinset_card_le elements
      _ ≤ values.length := short
      _ = (resolvedValues provider values).length := (List.length_map _).symm
      _ = resolvedCount provider values :=
        (List.toFinset_card_of_nodup (distinct values listed)).symm

/-- The claims of a token for the values of a list and somebody else. -/
def spareClaims (provider : Provider) (values : List String) (other : String) : Object :=
  [("aud", .arr (((resolvedValues provider values).dedup ++ [other]).map Json.str))]

/-- If a list names a value twice, the audience of some token is not clear. -/
theorem not_clear_of_duplicate {provider : Provider} {values : List String}
    (listed : provider.idTokenAudValues = some values)
    (duplicate : ¬(resolvedValues provider values).Nodup) {other : String}
    (fresh : other ∉ resolvedValues provider values) :
    ¬AudienceClear provider (spareClaims provider values other) := by
  intro clear
  have shorter : (resolvedValues provider values).dedup.length < values.length := by
    have sublist := List.dedup_sublist (resolvedValues provider values)
    have length : (resolvedValues provider values).length = values.length := List.length_map _
    rw [← length]
    exact lt_of_le_of_ne sublist.length_le fun same =>
      duplicate (List.dedup_eq_self.mp (sublist.eq_of_length same))
  have room := clear.room (fun azp present => by cases present) values listed _ rfl
    (by
      intro element member
      obtain ⟨value, inside, rfl⟩ := List.mem_map.mp member
      exact List.mem_map_of_mem (List.mem_append_left _ (List.mem_dedup.mpr inside)))
    (by
      rw [List.length_map, List.length_append]
      exact shorter)
  rw [card_map_str, List.toFinset_card_of_nodup, List.length_append, resolvedCount,
    List.card_toFinset] at room
  · simp at room
  · refine List.nodup_append.mpr ⟨List.nodup_dedup _, List.nodup_singleton _, ?_⟩
    rintro value member _ here rfl
    rw [List.mem_singleton.mp here] at member
    exact fresh (List.mem_dedup.mp member)

/-- A token is accepted only if its audience matches exactly when its audience is clear. A list is
safe for all tokens without an authorized party of another type exactly when its values differ. -/
theorem audienceExact_iff (provider : Provider) :
    (∀ claims, AudienceExact provider claims ↔ AudienceClear provider claims) ∧
      ((∀ claims, (∀ azp, Object.get claims "azp" = some azp → azp.stringValue.isSome = true) →
          AudienceExact provider claims) ↔
        ∀ values, provider.idTokenAudValues = some values →
          (resolvedValues provider values).Nodup) := by
  refine ⟨fun claims => ⟨AudienceExact.clear, AudienceClear.exact⟩, ?_⟩
  constructor
  · intro safe values listed
    by_contra duplicate
    obtain ⟨other, fresh⟩ := exists_fresh (resolvedValues provider values)
    refine not_clear_of_duplicate listed duplicate fresh (AudienceExact.clear (safe _ ?_))
    intro azp present
    cases present
  · intro distinct claims text
    exact (audienceClear_of_nodup distinct text).exact

/-- A provider whose list names the client by `@` and by its identifier. -/
def twiceListed : Provider where
  issuer := "https://op.example.com"
  clientId := "client"
  idtokenIatSlack_nonneg := defaultIatSlack_nonneg
  idTokenAudValues := some ["@", "client"]

/-- A token for the client and somebody else is accepted. -/
theorem unlisted_audience_accepted :
    idtokenValidateAudAndAzp twiceListed [("aud", .arr [.str "client", .str "other"])] = true ∧
      ¬AudienceExact twiceListed [("aud", .arr [.str "client", .str "other"])] := by
  have accepted : idtokenValidateAudAndAzp twiceListed
      [("aud", .arr [.str "client", .str "other"])] = true := by decide
  refine ⟨accepted, fun exact => ?_⟩
  have member := ((exact accepted).several _ rfl _ rfl (.str "other")).mp (by decide)
  exact absurd member (by decide)

end Proto

end ModAuthOpenidc
