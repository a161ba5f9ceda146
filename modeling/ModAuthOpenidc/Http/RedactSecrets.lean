import ModAuthOpenidc.Http.RedactJson

/-!
# Secrets in JSON responses

The value of a sensitive member is masked wherever the quotes of its name are its own: then each
pass masks the values of its member and leaves the other members to the other passes, so that
nothing of the values is logged.
-/

namespace ModAuthOpenidc

namespace Http

/-! ## Members and secrets -/

/-- Whether a piece in quotes is the name of a member with a string value. -/
def memberAt (names : List String) (pieces : List (List Char)) (i : Nat) : Bool :=
  0 < i && pieces[i]?.any
      (fun piece => names.any (·.toList = piece)) && pieces[i + 1]?.any isColon &&
    pieces[i + 2]?.isSome

/-- Whether a piece is the value of a member. -/
def secretAt (names : List String) (pieces : List (List Char)) (i : Nat) : Bool :=
  2 ≤ i && memberAt names pieces (i - 2)

/-- The values of members replaced by the mask. -/
def maskValues (names : List String) (pieces : List (List Char)) : List (List Char) :=
  pieces.mapIdx fun i piece => if secretAt names pieces i then logMask else piece

/-- The name of a member is not itself the value of a member, and it does not begin with the quote
at the end of the same name. -/
def Regular (names : List String) (pieces : List (List Char)) : Prop :=
  ∀ i < pieces.length, memberAt names pieces i = true →
    secretAt names pieces i = false ∧ (1 < i → pieces[i - 1]? ≠ pieces[i]?)

instance (names : List String) (pieces : List (List Char)) : Decidable (Regular names pieces) :=
  inferInstanceAs (Decidable (∀ i < pieces.length, _))

/-- Texts are the same except for the values of their members. -/
def SameButValues (names : List String) (first second : List (List Char)) : Prop :=
  first.length = second.length ∧ ∀ i < first.length,
    first[i]? = second[i]? ∨ (secretAt names first i = true ∧ secretAt names second i = true)

instance (names : List String) (first second : List (List Char)) :
    Decidable (SameButValues names first second) :=
  inferInstanceAs (Decidable (_ ∧ ∀ i < first.length, _))

theorem sensitive_ordinary {name : String} (listed : name ∈ sensitiveJsonMembers) :
    '"' ∉ name.toList ∧ isColon name.toList = false ∧ name.toList ≠ logMask := by
  have every : ∀ name ∈ sensitiveJsonMembers,
      '"' ∉ name.toList ∧ isColon name.toList = false ∧ name.toList ≠ logMask := by
    decide
  exact every name listed

section Members

variable {names masked more : List String} {pieces : List (List Char)} {i : Nat}

theorem memberAt_iff : memberAt names pieces i = true ↔
    0 < i ∧ (∃ name ∈ names, pieces[i]? = some name.toList) ∧
      (∃ gap, pieces[i + 1]? = some gap ∧ isColon gap = true) ∧
          ∃ value, pieces[i + 2]? = some value := by
  have named : (∃ piece, pieces[i]? = some piece ∧ names.any (·.toList = piece) = true) ↔
      ∃ name ∈ names, pieces[i]? = some name.toList := by
    simp only [List.any_eq_true, decide_eq_true_eq]
    constructor
    · rintro ⟨piece, found, name, listed, rfl⟩
      exact ⟨name, listed, found⟩
    · rintro ⟨name, listed, found⟩
      exact ⟨_, found, name, listed, rfl⟩
  rw [memberAt, Bool.and_eq_true, Bool.and_eq_true, Bool.and_eq_true, decide_eq_true_iff,
    Option.any_eq_true, Option.any_eq_true, Option.isSome_iff_exists, named, and_assoc, and_assoc]

theorem secretAt_iff : secretAt names pieces i = true ↔ ∃ j, i = j + 2 ∧
    memberAt names pieces j = true := by
  rw [secretAt, Bool.and_eq_true, decide_eq_true_iff]
  constructor
  · rintro ⟨late, member⟩
    exact ⟨i - 2, by omega, member⟩
  · rintro ⟨j, rfl, member⟩
    exact ⟨by omega, member⟩

theorem getElem?_maskValues (names : List String) (pieces : List (List Char)) (i : Nat) :
    (maskValues names pieces)[i]? =
      pieces[i]?.map fun piece => if secretAt names pieces i then logMask else piece := by
  rw [maskValues, List.getElem?_mapIdx]

theorem length_maskValues (names : List String) (pieces : List (List Char)) :
    (maskValues names pieces).length = pieces.length := List.length_mapIdx

theorem memberAt_mono (included : names ⊆ more) (member : memberAt names pieces i = true) :
    memberAt more pieces i = true := by
  rw [memberAt_iff] at member ⊢
  obtain ⟨positive, ⟨name, listed, found⟩, rest⟩ := member
  exact ⟨positive, ⟨name, included listed, found⟩, rest⟩

theorem secretAt_mono (included : names ⊆ more) (secret : secretAt names pieces i = true) :
    secretAt more pieces i = true := by
  rw [secretAt_iff] at secret ⊢
  obtain ⟨j, rfl, member⟩ := secret
  exact ⟨j, rfl, memberAt_mono included member⟩

theorem memberAt_lt (member : memberAt names pieces i = true) : i + 2 < pieces.length := by
  obtain ⟨-, -, -, value, found⟩ := memberAt_iff.mp member
  exact (List.getElem?_eq_some_iff.mp found).1

/-- The piece behind the name of a member is not a value. -/
theorem secretAt_succ_of_memberAt (known : names ⊆ sensitiveJsonMembers)
    (member : memberAt names pieces i = true) (more : List String) :
    secretAt more pieces (i + 1) = false := by
  rw [Bool.eq_false_iff]
  intro secret
  obtain ⟨j, next, other⟩ := secretAt_iff.mp secret
  obtain ⟨-, -, ⟨gap, found, colon⟩, -⟩ := memberAt_iff.mp other
  obtain ⟨-, ⟨name, listed, same⟩, -⟩ := memberAt_iff.mp member
  obtain rfl : i = j + 1 := by omega
  rw [same] at found
  cases found
  rw [(sensitive_ordinary (known listed)).2.1] at colon
  exact Bool.false_ne_true colon

/-- A piece that is not the mask has not been masked. -/
theorem getElem?_of_maskValues {piece : List Char}
    (found : (maskValues masked pieces)[i]? = some piece) (ordinary : piece ≠ logMask) :
    pieces[i]? = some piece := by
  rw [getElem?_maskValues, Option.map_eq_some_iff] at found
  obtain ⟨original, there, same⟩ := found
  split at same
  · exact absurd same.symm ordinary
  · rw [there, same]

theorem getElem?_maskValues_of_not (unmasked : secretAt masked pieces i = false) :
    (maskValues masked pieces)[i]? = pieces[i]? := by
  rw [getElem?_maskValues, unmasked]
  exact Option.map_id_apply

theorem Regular.unmasked (regular : Regular names pieces) (member : memberAt names pieces i = true)
    (included : masked ⊆ names) : secretAt masked pieces i = false := by
  have inside := memberAt_lt member
  have unmasked := (regular i (by omega) member).1
  rw [Bool.eq_false_iff] at unmasked ⊢
  exact fun secret => unmasked (secretAt_mono included secret)

/-- Masking values adds no member and removes none. -/
theorem memberAt_maskValues (known : names ⊆ sensitiveJsonMembers) (regular : Regular names pieces)
    (includedMasked : masked ⊆ names) (includedMore : more ⊆ names) :
    memberAt more (maskValues masked pieces) i = memberAt more pieces i := by
  rw [Bool.eq_iff_iff]
  constructor
  · intro member
    obtain ⟨positive, ⟨name, listed, found⟩, ⟨gap, behind, colon⟩, value, last⟩ :=
      memberAt_iff.mp member
    refine memberAt_iff.mpr ⟨positive, ⟨name, listed, ?_⟩, ⟨gap, ?_, colon⟩, ?_⟩
    · exact getElem?_of_maskValues found (sensitive_ordinary (known (includedMore listed))).2.2
    · refine getElem?_of_maskValues behind ?_
      rintro rfl
      exact absurd colon (by decide)
    · rw [getElem?_maskValues, Option.map_eq_some_iff] at last
      obtain ⟨original, there, -⟩ := last
      exact ⟨original, there⟩
  · intro member
    have whole := memberAt_mono includedMore member
    have behind := secretAt_succ_of_memberAt known whole masked
    obtain ⟨positive, ⟨name, listed, found⟩, ⟨gap, next, colon⟩, value, last⟩ :=
      memberAt_iff.mp member
    refine memberAt_iff.mpr ⟨positive, ⟨name, listed, ?_⟩, ⟨gap, ?_, colon⟩, ?_⟩
    · rw [getElem?_maskValues_of_not (regular.unmasked whole includedMasked), found]
    · rw [getElem?_maskValues_of_not behind, next]
    · rw [getElem?_maskValues, last]
      exact ⟨_, rfl⟩

theorem secretAt_maskValues (known : names ⊆ sensitiveJsonMembers) (regular : Regular names pieces)
    (includedMasked : masked ⊆ names) (includedMore : more ⊆ names) :
    secretAt more (maskValues masked pieces) i = secretAt more pieces i := by
  rw [secretAt, memberAt_maskValues known regular includedMasked includedMore, secretAt]

theorem maskValues_congr {other : List (List Char)} (same : pieces.length = other.length)
    (alike : ∀ i < pieces.length, pieces[i]? = other[i]? ∧
        secretAt names pieces i = secretAt names other i ∨
      secretAt names pieces i = true ∧ secretAt names other i = true) :
    maskValues names pieces = maskValues names other := by
  apply List.ext_getElem?
  intro i
  rw [getElem?_maskValues, getElem?_maskValues]
  by_cases inside : i < pieces.length
  · rcases alike i inside with ⟨piece, secret⟩ | ⟨one, two⟩
    · rw [piece, secret]
    · rw [one, two, List.getElem?_eq_getElem inside, List.getElem?_eq_getElem (same ▸ inside)]
      rfl
  · rw [List.getElem?_eq_none (by omega), List.getElem?_eq_none (by omega)]
    rfl

/-- Masking some values after others masks them all. -/
theorem maskValues_maskValues (known : names ⊆ sensitiveJsonMembers)
    (regular : Regular names pieces)
    (includedMasked : masked ⊆ names) (includedMore : more ⊆ names) :
    maskValues more (maskValues masked pieces) = maskValues (masked ++ more) pieces := by
  have either : ∀ i, secretAt (masked ++ more) pieces i =
      (secretAt masked pieces i || secretAt more pieces i) := by
    intro i
    rw [Bool.eq_iff_iff, Bool.or_eq_true]
    constructor
    · intro secret
      obtain ⟨j, rfl, member⟩ := secretAt_iff.mp secret
      obtain ⟨positive, ⟨name, listed, found⟩, rest⟩ := memberAt_iff.mp member
      rcases List.mem_append.mp listed with one | two
      · exact .inl (secretAt_iff.mpr
          ⟨j, rfl, memberAt_iff.mpr ⟨positive, ⟨name, one, found⟩, rest⟩⟩)
      · exact .inr (secretAt_iff.mpr
          ⟨j, rfl, memberAt_iff.mpr ⟨positive, ⟨name, two, found⟩, rest⟩⟩)
    · rintro (one | two)
      · exact secretAt_mono (List.subset_append_left _ _) one
      · exact secretAt_mono (List.subset_append_right _ _) two
  apply List.ext_getElem?
  intro i
  rw [getElem?_maskValues, getElem?_maskValues, getElem?_maskValues,
    secretAt_maskValues known regular includedMasked includedMore, either, Option.map_map]
  congr 1
  funext piece
  rw [Function.comp_apply]
  cases secretAt masked pieces i <;> cases secretAt more pieces i <;> rfl

theorem Regular.mono (regular : Regular names pieces) (included : more ⊆ names) :
    Regular more pieces := by
  intro i inside member
  obtain ⟨unmasked, apart⟩ := regular i inside (memberAt_mono included member)
  refine ⟨?_, apart⟩
  rw [Bool.eq_false_iff] at unmasked ⊢
  exact fun secret => unmasked (secretAt_mono included secret)

/-- A regular text remains regular. -/
theorem Regular.maskValues (known : names ⊆ sensitiveJsonMembers) (regular : Regular names pieces)
    (includedMasked : masked ⊆ names) : Regular names (maskValues masked pieces) := by
  intro i inside member
  rw [length_maskValues] at inside
  rw [memberAt_maskValues known regular includedMasked (List.Subset.refl names)] at member
  obtain ⟨unmasked, apart⟩ := regular i inside member
  obtain ⟨-, ⟨name, listed, found⟩, -⟩ := memberAt_iff.mp member
  constructor
  · rw [secretAt_maskValues known regular includedMasked (List.Subset.refl names), unmasked]
  · intro late same
    rw [getElem?_maskValues_of_not (regular.unmasked member includedMasked), found] at same
    rw [found] at apart
    exact apart late (getElem?_of_maskValues same (sensitive_ordinary (known listed)).2.2)

/-! ## A pass masks the values of its member -/

/-- The pieces from a place on, masked. -/
theorem drop_maskValues {piece : List Char} {rest : List (List Char)}
    (from_i : pieces.drop i = piece :: rest) :
    (maskValues names pieces).drop i =
      (if secretAt names pieces i then logMask else piece) ::
      (maskValues names pieces).drop (i + 1) := by
  have inside : i < pieces.length := by
    by_contra outside
    rw [List.drop_eq_nil_of_le (by omega)] at from_i
    cases from_i
  have found : pieces[i]? = some piece := by
    rw [← List.head?_drop, from_i, List.head?_cons]
  have masked : (maskValues names pieces)[i]? =
      some (if secretAt names pieces i then logMask else piece) := by
    rw [getElem?_maskValues, found, Option.map_some]
  obtain ⟨bound, value⟩ := List.getElem?_eq_some_iff.mp masked
  rw [List.drop_eq_getElem_cons bound, value]

theorem secretAt_add_two : secretAt names pieces (i + 2) = memberAt names pieces i := by
  rw [secretAt, decide_eq_true (Nat.le_add_left 2 i), Bool.true_and, Nat.add_sub_cancel_right]

theorem drop_cons_iff {piece : List Char} {rest : List (List Char)} :
    pieces.drop i = piece :: rest ↔ pieces[i]? = some piece ∧ pieces.drop (i + 1) = rest := by
  rw [← List.head?_drop, ← List.tail_drop]
  cases pieces.drop i with
  | nil => simp
  | cons first after => simp

theorem maskMember_drop {name : String} (listed : name ∈ sensitiveJsonMembers)
    (regular : Regular [name] pieces) {rest : List (List Char)}
    (from_i : pieces.drop (i + 1) = rest)
    (unnamed : memberAt [name] pieces i = false)
    (unmasked : secretAt [name] pieces (i + 1) = false) :
    maskMember name.toList rest = (maskValues [name] pieces).drop (i + 1) := by
  have second : secretAt [name] pieces (i + 2) = false := secretAt_add_two.trans unnamed
  induction rest using maskMember.induct name.toList generalizing i with
  | case1 gap value rest colon ih =>
      obtain ⟨atName, from_gap⟩ := drop_cons_iff.mp from_i
      obtain ⟨atGap, from_value⟩ := drop_cons_iff.mp from_gap
      obtain ⟨atValue, from_rest⟩ := drop_cons_iff.mp from_value
      have member : memberAt [name] pieces (i + 1) = true :=
        memberAt_iff.mpr ⟨Nat.succ_pos i, ⟨name, List.mem_cons_self, atName⟩, ⟨gap, atGap, colon⟩,
          value, atValue⟩
      have secret : secretAt [name] pieces (i + 3) = true := secretAt_add_two.trans member
      have valueUnnamed : memberAt [name] pieces (i + 3) = false := by
        rw [Bool.eq_false_iff]
        intro again
        exact Bool.false_ne_true ((regular.unmasked again (List.Subset.refl _)).symm.trans secret)
      have gapUnnamed : memberAt [name] pieces (i + 2) = false := by
        rw [Bool.eq_false_iff]
        intro again
        obtain ⟨-, named, -⟩ := memberAt_iff.mp again
        obtain ⟨known, only, same⟩ := named
        obtain rfl := List.mem_singleton.mp only
        rw [atGap, Option.some_inj] at same
        rw [same, (sensitive_ordinary listed).2.1] at colon
        exact Bool.false_ne_true colon
      rw [maskMember, if_pos rfl, if_pos colon, drop_maskValues from_i, drop_maskValues from_gap,
        drop_maskValues from_value, unmasked, second, secret,
        ih from_rest valueUnnamed (secretAt_add_two.trans gapUnnamed)
            (secretAt_add_two.trans valueUnnamed)]
      rfl
  | case2 gap value rest colon ih =>
      obtain ⟨atName, from_gap⟩ := drop_cons_iff.mp from_i
      obtain ⟨atGap, from_value⟩ := drop_cons_iff.mp from_gap
      have gapUnnamed : memberAt [name] pieces (i + 2) = false := by
        rw [Bool.eq_false_iff]
        intro again
        have inside := memberAt_lt again
        obtain ⟨-, named, -⟩ := memberAt_iff.mp again
        obtain ⟨known, only, same⟩ := named
        obtain rfl := List.mem_singleton.mp only
        exact (regular (i + 2) (by omega) again).2 (by omega) (atName.trans same.symm)
      have nameUnnamed : memberAt [name] pieces (i + 1) = false := by
        rw [Bool.eq_false_iff]
        intro member
        obtain ⟨-, -, ⟨found, there, is_colon⟩, -⟩ := memberAt_iff.mp member
        rw [atGap, Option.some_inj] at there
        rw [there] at colon
        exact colon is_colon
      rw [maskMember, if_pos rfl, if_neg colon, drop_maskValues from_i, drop_maskValues from_gap,
        unmasked, second,
        ih from_value gapUnnamed (secretAt_add_two.trans nameUnnamed)
            (secretAt_add_two.trans gapUnnamed)]
      rfl
  | case3 first gap value rest other ih =>
      obtain ⟨atFirst, from_gap⟩ := drop_cons_iff.mp from_i
      have firstUnnamed : memberAt [name] pieces (i + 1) = false := by
        rw [Bool.eq_false_iff]
        intro member
        obtain ⟨-, named, -⟩ := memberAt_iff.mp member
        obtain ⟨known, only, same⟩ := named
        obtain rfl := List.mem_singleton.mp only
        rw [atFirst, Option.some_inj] at same
        exact other same
      rw [maskMember, if_neg other, drop_maskValues from_i, unmasked,
        ih from_gap firstUnnamed second (secretAt_add_two.trans firstUnnamed)]
      rfl
  | case4 rest short =>
      rw [maskMember]
      · rcases rest with _ | ⟨first, _ | ⟨gap, _ | ⟨value, rest⟩⟩⟩
        · rw [List.drop_eq_nil_iff] at from_i
          rw [List.drop_eq_nil_of_le (by rwa [length_maskValues])]
        · obtain ⟨-, from_rest⟩ := drop_cons_iff.mp from_i
          rw [List.drop_eq_nil_iff] at from_rest
          rw [drop_maskValues from_i, unmasked, List.drop_eq_nil_of_le (by rwa [length_maskValues])]
          rfl
        · obtain ⟨-, from_gap⟩ := drop_cons_iff.mp from_i
          obtain ⟨-, from_rest⟩ := drop_cons_iff.mp from_gap
          rw [List.drop_eq_nil_iff] at from_rest
          rw [drop_maskValues from_i, drop_maskValues from_gap, unmasked, second,
            List.drop_eq_nil_of_le (by rwa [length_maskValues])]
          rfl
        · exact absurd rfl (short first gap value rest)
      · exact short

/-- A pass masks the values of its member. -/
theorem maskPieces_eq {name : String} (listed : name ∈ sensitiveJsonMembers)
    (regular : Regular [name] pieces) :
    maskPieces name.toList pieces = maskValues [name] pieces := by
  cases pieces with
  | nil => rfl
  | cons first rest =>
      have whole : (first :: rest).drop 0 = first :: rest := rfl
      have masked : (maskValues [name] (first :: rest)).drop 0 = _ := drop_maskValues whole
      rw [List.drop_zero] at masked
      have passed : maskMember name.toList rest = (maskValues [name] (first :: rest)).drop 1 :=
        maskMember_drop (i := 0) listed regular rfl rfl rfl
      rw [maskPieces, passed, masked]
      rfl

/-- The passes mask the values of their members one after the other. -/
theorem foldl_redactJsonMember {todo : List String} (includedTodo : todo ⊆ sensitiveJsonMembers)
    (includedMasked : masked ⊆ sensitiveJsonMembers) (regular : Regular sensitiveJsonMembers pieces)
    {data : List Char} (split : data.splitOn '"' = maskValues masked pieces) :
    (todo.foldl (fun result member => redactJsonMember result (quoted member.toList)) data).splitOn
        '"' =
      maskValues (masked ++ todo) pieces := by
  induction todo generalizing masked data with
  | nil => rw [List.foldl_nil, List.append_nil, split]
  | cons name todo ih =>
      have listed : name ∈ sensitiveJsonMembers := includedTodo List.mem_cons_self
      have single : [name] ⊆ sensitiveJsonMembers :=
        List.cons_subset.mpr ⟨listed, List.nil_subset _⟩
      have known := List.Subset.refl sensitiveJsonMembers
      have once : (redactJsonMember data (quoted name.toList)).splitOn '"' =
          maskValues (masked ++ [name]) pieces := by
        rw [redactJsonMember_pieces (sensitive_ordinary listed).1, split,
          maskPieces_eq listed ((regular.maskValues known includedMasked).mono single),
          maskValues_maskValues known regular includedMasked single]
      rw [List.foldl_cons, ih (fun _ member => includedTodo (List.mem_cons_of_mem _ member))
        (List.append_subset.mpr ⟨includedMasked, single⟩) once, List.append_assoc,
        List.singleton_append]

/-- The values of the same members differ, if texts are the same except for them. -/
theorem SameButValues.secretAt {second : List (List Char)} (known : names ⊆ sensitiveJsonMembers)
    (same : SameButValues names pieces second) (regular : Regular names pieces)
    (secret : secretAt names pieces i = true) : Http.secretAt names second i = true := by
  obtain ⟨j, rfl, member⟩ := secretAt_iff.mp secret
  have inside := memberAt_lt member
  have behind := secretAt_succ_of_memberAt known member names
  have unmasked := regular.unmasked member (List.Subset.refl names)
  have sameName : pieces[j]? = second[j]? := by
    refine (same.2 j (by omega)).resolve_right ?_
    rintro ⟨one, -⟩
    exact Bool.false_ne_true (unmasked.symm.trans one)
  have sameGap : pieces[j + 1]? = second[j + 1]? := by
    refine (same.2 (j + 1) (by omega)).resolve_right ?_
    rintro ⟨one, -⟩
    exact Bool.false_ne_true (behind.symm.trans one)
  obtain ⟨positive, named, colon, -⟩ := memberAt_iff.mp member
  rw [sameName] at named
  rw [sameGap] at colon
  rw [same.1] at inside
  exact secretAt_iff.mpr ⟨j, rfl,
    memberAt_iff.mpr ⟨positive, named, colon, _, List.getElem?_eq_getElem inside⟩⟩

theorem SameButValues.symm {second : List (List Char)} (same : SameButValues names pieces second) :
    SameButValues names second pieces := by
  refine ⟨same.1.symm, fun i inside => ?_⟩
  rcases same.2 i (same.1 ▸ inside) with equal | ⟨one, two⟩
  · exact .inl equal.symm
  · exact .inr ⟨two, one⟩

/-- Masking leaves nothing of what texts differ in. -/
theorem SameButValues.maskValues_eq {second : List (List Char)}
    (known : names ⊆ sensitiveJsonMembers)
    (same : SameButValues names pieces second) (regularFirst : Regular names pieces)
    (regularSecond : Regular names second) : maskValues names pieces = maskValues names second := by
  apply maskValues_congr same.1
  intro i inside
  rcases same.2 i inside with equal | both
  · refine .inl ⟨equal, ?_⟩
    rw [Bool.eq_iff_iff]
    exact ⟨same.secretAt known regularFirst, same.symm.secretAt known regularSecond⟩
  · exact .inr both

end Members

/-! ## What is logged -/

/-- What stands between the quotes of a text. -/
def quotePieces (data : String) : List (List Char) := data.toList.splitOn '"'

/-- A regular text is logged with the values of its sensitive members masked. -/
theorem redactJsonForLog_regular {data : String}
    (regular : Regular sensitiveJsonMembers (quotePieces data)) :
    ∃ result, redactJsonForLog true (some data) = some result ∧
      quotePieces result = maskValues sensitiveJsonMembers (quotePieces data) := by
  have unmasked : data.toList.splitOn '"' = maskValues [] (quotePieces data) := by
    apply List.ext_getElem?
    intro i
    rw [getElem?_maskValues_of_not, quotePieces]
    rw [Bool.eq_false_iff]
    intro secret
    obtain ⟨j, -, member⟩ := secretAt_iff.mp secret
    obtain ⟨-, ⟨name, listed, -⟩, -⟩ := memberAt_iff.mp member
    cases listed
  refine ⟨_, rfl, ?_⟩
  rw [quotePieces, String.toList_ofList,
    foldl_redactJsonMember (List.Subset.refl _) (List.nil_subset _) regular unmasked,
        List.nil_append]

theorem quotePieces_injective : Function.Injective quotePieces := by
  intro first second same
  have joined := congrArg (['"'].intercalate ·) same
  rw [quotePieces, quotePieces, List.intercalate_splitOn, List.intercalate_splitOn] at joined
  exact String.toList_inj.mp joined

/-- With masking on, regular texts that differ in the values of sensitive members only are logged
alike, a text without such members is logged as it is, a value without a closing quote is masked to
the end, and no pass overruns its buffer. -/
theorem redactJsonForLog_hides :
    (∀ first second : String, Regular sensitiveJsonMembers (quotePieces first) →
      Regular sensitiveJsonMembers (quotePieces second) →
      SameButValues sensitiveJsonMembers (quotePieces first) (quotePieces second) →
        redactJsonForLog true (some first) = redactJsonForLog true (some second)) ∧
      (∀ data : String,
        (∀ i < (quotePieces data).length,
            memberAt sensitiveJsonMembers (quotePieces data) i = false) →
        redactJsonForLog true (some data) = some data) ∧
      (∀ data : String, Regular sensitiveJsonMembers (quotePieces data) →
        ∃ result, redactJsonForLog true (some data) = some result ∧
          quotePieces result = maskValues sensitiveJsonMembers (quotePieces data) ∧
          ∀ last, (quotePieces data).length = last + 1 →
            secretAt sensitiveJsonMembers (quotePieces data) last = true →
              (quotePieces result).getLast? = some logMask) ∧
      ∀ data needle : List Char,
          (redactJsonMember data needle).length + 1 ≤ redactJsonSize data needle := by
  refine ⟨?_, ?_, ?_, redactJsonMember_length⟩
  · intro first second regularFirst regularSecond same
    obtain ⟨one, loggedFirst, piecesFirst⟩ := redactJsonForLog_regular regularFirst
    obtain ⟨two, loggedSecond, piecesSecond⟩ := redactJsonForLog_regular regularSecond
    have masked := same.maskValues_eq (List.Subset.refl _) regularFirst regularSecond
    rw [loggedFirst, loggedSecond,
      quotePieces_injective (piecesFirst.trans (masked.trans piecesSecond.symm))]
  · intro data bare
    have regular : Regular sensitiveJsonMembers (quotePieces data) := by
      intro i inside member
      rw [bare i inside] at member
      cases member
    obtain ⟨result, logged, pieces⟩ := redactJsonForLog_regular regular
    have unmasked : maskValues sensitiveJsonMembers (quotePieces data) = quotePieces data := by
      apply List.ext_getElem?
      intro i
      rw [getElem?_maskValues_of_not]
      rw [Bool.eq_false_iff]
      intro secret
      obtain ⟨j, -, member⟩ := secretAt_iff.mp secret
      have inside := memberAt_lt member
      rw [bare j (by omega)] at member
      cases member
    rw [logged, quotePieces_injective (pieces.trans unmasked)]
  · intro data regular
    obtain ⟨result, logged, pieces⟩ := redactJsonForLog_regular regular
    refine ⟨result, logged, pieces, ?_⟩
    intro last whole secret
    rw [pieces, List.getLast?_eq_getElem?, length_maskValues, whole, Nat.add_sub_cancel_right,
      getElem?_maskValues, secret, List.getElem?_eq_getElem (by omega)]
    rfl

/-- Two responses with different tokens, the last of which is not complete. -/
theorem redactJsonForLog_hides_token :
    redactJsonForLog true (some "\x7b\"access_token\" : \"a\", \"scope\":\"b\", \"id_token\":\"c") =
        redactJsonForLog true
          (some "\x7b\"access_token\" : \"\", \"scope\":\"b\", \"id_token\":\"id_token") ∧
      redactJsonForLog true (some "\x7b\"scope\":\"access_token\"\x7d") =
        some "\x7b\"scope\":\"access_token\"\x7d" := by
  refine ⟨redactJsonForLog_hides.1 _ _ ?_ ?_ ?_, redactJsonForLog_hides.2.1 _ ?_⟩ <;> decide +kernel

/-- In a text that is not JSON, a token behind the name of a member is logged if the name is itself
taken for the value of a member, or if it begins with the quote at the end of the same name. -/
theorem redactJsonForLog_leaks :
    SameButValues sensitiveJsonMembers (quotePieces "\"access_token\":\"id_token\":\"1\"")
        (quotePieces "\"access_token\":\"id_token\":\"2\"") ∧
      redactJsonForLog true (some "\"access_token\":\"id_token\":\"1\"") ≠
        redactJsonForLog true (some "\"access_token\":\"id_token\":\"2\"") ∧
      SameButValues sensitiveJsonMembers (quotePieces "\"id_token\"id_token\":\"1\"")
        (quotePieces "\"id_token\"id_token\":\"2\"") ∧
      redactJsonForLog true (some "\"id_token\"id_token\":\"1\"") ≠
        redactJsonForLog true (some "\"id_token\"id_token\":\"2\"") := by
  decide +kernel

end Http

end ModAuthOpenidc
