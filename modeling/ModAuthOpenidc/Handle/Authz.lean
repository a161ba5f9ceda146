import ModAuthOpenidc.Text
import ModAuthOpenidc.TextSearch

/-!
# Matching a required claim

A `Require claim` directive names a path through the claims of a user and a value or a pattern for
what is found there. The handlers for the signs on the path are tried one after the other while a
pointer runs along the directive. What they accept is described here as a relation, and is shown to
be independent of the order of the members and to grow with them.
-/

namespace ModAuthOpenidc

namespace Authz

/-! ## Values -/

/-- `sscanf` with `%lld`: the number at the front of a text, saturated. -/
def scanInteger (text : List Char) : Option Int :=
  let (sign, rest) := takeSign (text.dropWhile isSpace)
  match rest.takeWhile Char.isDigit with
  | [] => none
  | digits => some (max (-2 ^ 63) (min (2 ^ 63 - 1) (sign * digitsValue digits)))

/-- The functions of the C and the PCRE library that the handlers use. -/
structure Library where
  /-- `sscanf` with `%lf`: the number at the front of a text. -/
  scanReal : List Char → Option Rat
  /-- `oidc_pcre_compile` and `oidc_pcre_exec`: whether a text matches a pattern, if that is valid. -/
  pcre : List Char → Option (String → Bool)

/-- `oidc_authz_match_json_string`. -/
def matchJsonString (spec : List Char) (value : String) : Bool := value.toList = spec

/-- `oidc_authz_match_json_integer`. -/
def matchJsonInteger (spec : List Char) (value : Int) : Bool := scanInteger spec = some value

/-- `oidc_authz_match_json_real`. -/
def matchJsonReal (library : Library) (spec : List Char) (value : Rat) : Bool :=
  library.scanReal spec = some value

/-- `oidc_authz_match_json_true`. -/
def matchJsonTrue (spec : List Char) : Bool := spec = "true".toList

/-- `oidc_authz_match_json_false`. -/
def matchJsonFalse (spec : List Char) : Bool := spec = "false".toList

/-- `oidc_authz_match_json_null`. -/
def matchJsonNull (spec : List Char) : Bool := spec = "null".toList

/-- `oidc_authz_match_json_array_elem`: no handler for a nested array or an object. -/
def matchJsonArrayElem (library : Library) (spec : List Char) : Json → Bool
  | .arr _ => false
  | .obj _ => false
  | .str value => matchJsonString spec value
  | .int value => matchJsonInteger spec value
  | .real value => matchJsonReal library spec value
  | .bool true => matchJsonTrue spec
  | .bool false => matchJsonFalse spec
  | .null => matchJsonNull spec

/-- `oidc_authz_match_json_array`. -/
def matchJsonArray (library : Library) (spec : List Char) (elements : List Json) : Bool :=
  elements.any (matchJsonArrayElem library spec)

/-- `oidc_authz_match_value`. -/
def matchValue (library : Library) (spec : List Char) : Json → Bool
  | .arr elements => matchJsonArray library spec elements
  | .obj _ => false
  | .str value => matchJsonString spec value
  | .int value => matchJsonInteger spec value
  | .real value => matchJsonReal library spec value
  | .bool true => matchJsonTrue spec
  | .bool false => matchJsonFalse spec
  | .null => matchJsonNull spec

/-! ## Patterns -/

/-- The loop of `oidc_authz_match_pcre_array`: other elements than strings are passed over. -/
def matchPcreArray (preg : String → Bool) (elements : List Json) : Bool :=
  elements.any fun element =>
    match element with
    | .str value => preg value
    | _ => false

/-- `oidc_authz_match_pcre`. -/
def matchPcre (library : Library) (spec : List Char) (val : Json) : Bool :=
  match library.pcre spec with
  | none => false
  | some preg =>
      match val with
      | .arr elements => matchPcreArray preg elements
      | .str value => preg value
      | _ => false

/-! ## Paths -/

/-- The loop of `oidc_auth_handle_separator` over the handlers: the text advances behind each sign.
-/
def handleSeparator : List (Char × (List Char → Bool)) → List Char → Bool
  | [], _ => false
  | _, [] => false
  | (sep, handler) :: handlers, c :: spec =>
      if sep = c then handler spec || handleSeparator handlers spec
      else handleSeparator handlers (c :: spec)

/-- The walk along the name of a member and the directive: what is left of both. -/
def walk : List Char → List Char → List Char × List Char
  | a :: attr, s :: spec => if a = s then walk attr spec else (a :: attr, s :: spec)
  | attr, spec => (attr, spec)

mutual

/-- `oidc_authz_match_claim` and `oidc_authz_separator_dot`: nothing matches in what is not an
object. -/
def matchClaim (library : Library) : Json → List Char → Bool
  | .obj members, spec => matchMembers library members spec
  | _, _ => false

/-- The loop of `oidc_authz_match_claim` over the members. -/
def matchMembers (library : Library) : List (String × Json) → List Char → Bool
  | [], _ => false
  | member :: members, spec => matchMember library member spec || matchMembers library members spec

/-- The signs behind the name of a member and their handlers. -/
def matchMember (library : Library) : String × Json → List Char → Bool
  | (key, val), spec =>
      (walk key.toList spec).1 = [] &&
        handleSeparator
          [(':', fun spec => matchValue library spec val),
          ('~', fun spec => matchPcre library spec val),
            ('.', fun spec => matchClaim library val spec)]
          (walk key.toList spec).2

end

/-! ## What matches -/

section Relations

variable (library : Library)

/-- A text matches a scalar by its type. -/
inductive ScalarMatches (v : List Char) : Json → Prop
  | str {value : String} (same : value.toList = v) : ScalarMatches v (.str value)
  | int {value : Int} (read : scanInteger v = some value) : ScalarMatches v (.int value)
  | real {value : Rat} (read : library.scanReal v = some value) : ScalarMatches v (.real value)
  | isTrue (same : v = "true".toList) : ScalarMatches v (.bool true)
  | isFalse (same : v = "false".toList) : ScalarMatches v (.bool false)
  | null (same : v = "null".toList) : ScalarMatches v .null

/-- A text matches a scalar or an element of an array that is one. -/
inductive ValueMatches (v : List Char) : Json → Prop
  | scalar {val : Json} (same : ScalarMatches library v val) : ValueMatches v val
  | element {elements : List Json} {element : Json} (listed : element ∈ elements)
      (same : ScalarMatches library v element) : ValueMatches v (.arr elements)

/-- A pattern matches a string or an element of an array that is one. -/
inductive PatternMatches (re : List Char) : Json → Prop
  | string {preg : String → Bool} {value : String} (valid : library.pcre re = some preg)
      (accepts : preg value = true) : PatternMatches re (.str value)
  | element {preg : String → Bool} {elements : List Json} {value : String}
      (valid : library.pcre re = some preg) (listed : .str value ∈ elements)
      (accepts : preg value = true) : PatternMatches re (.arr elements)

mutual

/-- A path leads through a member of an object. -/
inductive PathMatches : List Char → List (String × Json) → Prop
  | member {key : String} {val : Json} {rest : List Char} {claims : List (String × Json)}
      (listed : (key, val) ∈ claims) (behind : RestMatches rest val) :
      PathMatches (key.toList ++ rest) claims

/-- What stands behind the name of a member matches its value. After a value or a pattern that does
not match, the rest may still be read as a pattern or a path. -/
inductive RestMatches : List Char → Json → Prop
  | value {v : List Char} {val : Json} (same : ValueMatches library v val) :
      RestMatches (':' :: v) val
  | pattern {re : List Char} {val : Json} (same : PatternMatches library re val) :
      RestMatches ('~' :: re) val
  | child {path : List Char} {members : List (String × Json)} (below : PathMatches path members) :
      RestMatches ('.' :: path) (.obj members)
  | afterValue {sign : Char} {rest : List Char} {val : Json} (listed : sign = '~' ∨ sign = '.')
      (unsuccessful : ¬ValueMatches library (sign :: rest) val)
      (again : RestMatches (sign :: rest) val) :
      RestMatches (':' :: sign :: rest) val
  | afterPattern {path : List Char} {val : Json}
      (unsuccessful : ¬PatternMatches library ('.' :: path) val)
      (again : RestMatches ('.' :: path) val) :
      RestMatches ('~' :: '.' :: path) val

end

end Relations

/-! ## The handlers -/

section Handlers

variable {library : Library} {v : List Char} {val : Json}

theorem matchJsonArrayElem_iff :
    matchJsonArrayElem library v val = true ↔ ScalarMatches library v val := by
  constructor
  · intro found
    cases val with
    | null => exact .null (of_decide_eq_true found)
    | bool value =>
        cases value with
        | true => exact .isTrue (of_decide_eq_true found)
        | false => exact .isFalse (of_decide_eq_true found)
    | int value => exact .int (of_decide_eq_true found)
    | real value => exact .real (of_decide_eq_true found)
    | str value => exact .str (of_decide_eq_true found)
    | arr elements => cases found
    | obj members => cases found
  · intro same
    cases same with
    | str same => exact decide_eq_true same
    | int read => exact decide_eq_true read
    | real read => exact decide_eq_true read
    | isTrue same => exact decide_eq_true same
    | isFalse same => exact decide_eq_true same
    | null same => exact decide_eq_true same

theorem matchValue_iff : matchValue library v val = true ↔ ValueMatches library v val := by
  constructor
  · intro found
    cases val with
    | arr elements =>
        obtain ⟨element, listed, same⟩ := List.any_eq_true.mp found
        exact .element listed (matchJsonArrayElem_iff.mp same)
    | obj members => cases found
    | null => exact .scalar (matchJsonArrayElem_iff.mp found)
    | bool value =>
        cases value with
        | true => exact .scalar (matchJsonArrayElem_iff.mp found)
        | false => exact .scalar (matchJsonArrayElem_iff.mp found)
    | int value => exact .scalar (matchJsonArrayElem_iff.mp found)
    | real value => exact .scalar (matchJsonArrayElem_iff.mp found)
    | str value => exact .scalar (matchJsonArrayElem_iff.mp found)
  · intro same
    cases same with
    | scalar same =>
        cases same with
        | str same => exact decide_eq_true same
        | int read => exact decide_eq_true read
        | real read => exact decide_eq_true read
        | isTrue same => exact decide_eq_true same
        | isFalse same => exact decide_eq_true same
        | null same => exact decide_eq_true same
    | element listed same => exact List.any_eq_true.mpr ⟨_, listed, matchJsonArrayElem_iff.mpr same⟩

theorem matchPcreArray_iff {preg : String → Bool} {elements : List Json} :
    matchPcreArray preg elements = true ↔ ∃ value, Json.str value ∈ elements ∧
        preg value = true := by
  rw [matchPcreArray, List.any_eq_true]
  constructor
  · rintro ⟨element, listed, accepts⟩
    cases element with
    | str value => exact ⟨value, listed, accepts⟩
    | null => cases accepts
    | bool value => cases accepts
    | int value => cases accepts
    | real value => cases accepts
    | arr elements => cases accepts
    | obj members => cases accepts
  · rintro ⟨value, listed, accepts⟩
    exact ⟨.str value, listed, accepts⟩

theorem matchPcre_iff : matchPcre library v val = true ↔ PatternMatches library v val := by
  rw [matchPcre]
  cases valid : library.pcre v with
  | none =>
      apply iff_of_false Bool.false_ne_true
      intro same
      cases same with
      | string compiled _ => rw [valid] at compiled; cases compiled
      | element compiled _ _ => rw [valid] at compiled; cases compiled
  | some preg =>
      dsimp only
      constructor
      · intro found
        cases val with
        | arr elements =>
            obtain ⟨value, listed, accepts⟩ := matchPcreArray_iff.mp found
            exact .element valid listed accepts
        | str value => exact .string valid found
        | null => cases found
        | bool value => cases found
        | int value => cases found
        | real value => cases found
        | obj members => cases found
      · intro same
        cases same with
        | string compiled accepts =>
            rw [valid] at compiled
            cases compiled
            exact accepts
        | element compiled listed accepts =>
            rw [valid] at compiled
            cases compiled
            exact matchPcreArray_iff.mpr ⟨_, listed, accepts⟩

end Handlers

/-! ## The walk -/

theorem walk_append (attr rest : List Char) : walk attr (attr ++ rest) = ([], rest) := by
  induction attr with
  | nil => cases rest <;> rfl
  | cons a attr ih => rw [List.cons_append, walk, if_pos rfl, ih]

/-- The name of a member is walked to its end if the directive begins with it. -/
theorem eq_append_of_walk {attr spec : List Char} (ended : (walk attr spec).1 = []) :
    spec = attr ++ (walk attr spec).2 := by
  induction attr generalizing spec with
  | nil => cases spec <;> rfl
  | cons a attr ih =>
      cases spec with
      | nil => cases ended
      | cons s spec =>
          rw [walk] at ended ⊢
          split at ended
          · rename_i same
            rw [if_pos same, same, List.cons_append, ← ih ended]
          · cases ended

/-! ## The signs -/

section Signs

variable {library : Library} {val : Json}

theorem handleSeparator_same (sep : Char) (handler : List Char → Bool)
    (handlers : List (Char × (List Char → Bool))) (spec : List Char) :
    handleSeparator ((sep, handler) :: handlers) (sep :: spec) =
      (handler spec || handleSeparator handlers spec) := by
  rw [handleSeparator, if_pos rfl]

theorem handleSeparator_other {sep c : Char} (different : sep ≠ c) (handler : List Char → Bool)
    (handlers : List (Char × (List Char → Bool))) (spec : List Char) :
    handleSeparator ((sep, handler) :: handlers) (c :: spec) = handleSeparator handlers
        (c :: spec) := by
  rw [handleSeparator, if_neg different]

theorem handleSeparator_nil (handlers : List (Char × (List Char → Bool))) :
    handleSeparator handlers [] = false := by
  cases handlers <;> rfl

/-- The handlers of `_oidc_authz_separator_handlers` from the last one on. -/
def dotHandlers (library : Library) (val : Json) : List (Char × (List Char → Bool)) :=
  [('.', fun spec => matchClaim library val spec)]

/-- The handlers from the pattern on. -/
def tildeHandlers (library : Library) (val : Json) : List (Char × (List Char → Bool)) :=
  ('~', fun spec => matchPcre library spec val) :: dotHandlers library val

/-- All handlers. -/
def colonHandlers (library : Library) (val : Json) : List (Char × (List Char → Bool)) :=
  (':', fun spec => matchValue library spec val) :: tildeHandlers library val

theorem restMatches_value_iff {v : List Char} : RestMatches library (':' :: v) val ↔
    ValueMatches library v val ∨
      ∃ sign rest, (sign = '~' ∨ sign = '.') ∧ v = sign :: rest ∧ RestMatches library v val := by
  constructor
  · intro same
    cases same with
    | value same => exact .inl same
    | afterValue listed _ again => exact .inr ⟨_, _, listed, rfl, again⟩
  · rintro (same | ⟨sign, rest, listed, rfl, again⟩)
    · exact .value same
    · by_cases same : ValueMatches library (sign :: rest) val
      · exact .value same
      · exact .afterValue listed same again

theorem restMatches_pattern_iff {re : List Char} : RestMatches library ('~' :: re) val ↔
    PatternMatches library re val ∨ ∃ path, re = '.' :: path ∧ RestMatches library re val := by
  constructor
  · intro same
    cases same with
    | pattern same => exact .inl same
    | afterPattern _ again => exact .inr ⟨_, rfl, again⟩
  · rintro (same | ⟨path, rfl, again⟩)
    · exact .pattern same
    · by_cases same : PatternMatches library ('.' :: path) val
      · exact .pattern same
      · exact .afterPattern same again

theorem restMatches_child_iff {path : List Char} : RestMatches library ('.' :: path) val ↔
    ∃ members, val = .obj members ∧ PathMatches library path members := by
  constructor
  · intro same
    cases same with
    | child below => exact ⟨_, rfl, below⟩
  · rintro ⟨members, rfl, below⟩
    exact .child below

/-- A sign leads from the name of a member to what matches. -/
theorem RestMatches.sign {rest : List Char} (same : RestMatches library rest val) :
    ∃ sign behind, rest = sign :: behind ∧ (sign = ':' ∨ sign = '~' ∨ sign = '.') := by
  cases same with
  | value _ => exact ⟨_, _, rfl, .inl rfl⟩
  | pattern _ => exact ⟨_, _, rfl, .inr (.inl rfl)⟩
  | child _ => exact ⟨_, _, rfl, .inr (.inr rfl)⟩
  | afterValue _ _ _ => exact ⟨_, _, rfl, .inl rfl⟩
  | afterPattern _ _ => exact ⟨_, _, rfl, .inr (.inl rfl)⟩

/-- Paths of less than a certain length match as the loop over the members says. -/
def MatchedBelow (library : Library) (bound : Nat) : Prop :=
  ∀ path, path.length < bound → ∀ members,
    matchMembers library members path = true ↔ PathMatches library path members

variable {rest : List Char}

theorem dotHandlers_iff (below : MatchedBelow library rest.length) :
    handleSeparator (dotHandlers library val) rest = true ↔
      ∃ path, rest = '.' :: path ∧ RestMatches library rest val := by
  cases rest with
  | nil =>
      rw [handleSeparator_nil]
      exact iff_of_false Bool.false_ne_true (by simp)
  | cons sign path =>
      by_cases dot : sign = '.'
      · subst dot
        rw [dotHandlers, handleSeparator_same, Bool.or_eq_true, handleSeparator,
          or_iff_left Bool.false_ne_true, restMatches_child_iff]
        cases val with
        | obj members =>
            rw [matchClaim, below path (Nat.lt_succ_self _) members]
            simp
        | null => simp [matchClaim]
        | bool value => simp [matchClaim]
        | int value => simp [matchClaim]
        | real value => simp [matchClaim]
        | str value => simp [matchClaim]
        | arr elements => simp [matchClaim]
      · rw [dotHandlers, handleSeparator_other (Ne.symm dot)]
        apply iff_of_false Bool.false_ne_true
        rintro ⟨other, same, -⟩
        exact dot (List.cons.inj same).1

theorem tildeHandlers_iff (below : MatchedBelow library rest.length) :
    handleSeparator (tildeHandlers library val) rest = true ↔
      ∃ sign path, (sign = '~' ∨ sign = '.') ∧ rest = sign :: path ∧
          RestMatches library rest val := by
  cases rest with
  | nil =>
      rw [handleSeparator_nil]
      exact iff_of_false Bool.false_ne_true (by simp)
  | cons sign path =>
      by_cases tilde : sign = '~'
      · subst tilde
        have shorter : MatchedBelow library path.length :=
          fun other short => below other (Nat.lt_succ_of_lt short)
        rw [tildeHandlers, handleSeparator_same, Bool.or_eq_true, matchPcre_iff,
          dotHandlers_iff shorter,
          ← restMatches_pattern_iff]
        constructor
        · intro same
          exact ⟨_, _, .inl rfl, rfl, same⟩
        · rintro ⟨_, _, _, _, same⟩
          exact same
      · rw [tildeHandlers, handleSeparator_other (Ne.symm tilde), dotHandlers_iff below]
        constructor
        · rintro ⟨other, same, behind⟩
          exact ⟨_, _, .inr rfl, same, behind⟩
        · rintro ⟨_, other, rfl | rfl, same, behind⟩
          · exact absurd (List.cons.inj same).1 tilde
          · exact ⟨other, same, behind⟩

/-- The handlers together accept what matches behind the name of a member. -/
theorem colonHandlers_iff (below : MatchedBelow library rest.length) :
    handleSeparator (colonHandlers library val) rest = true ↔ RestMatches library rest val := by
  cases rest with
  | nil =>
      rw [handleSeparator_nil]
      apply iff_of_false Bool.false_ne_true
      intro same
      obtain ⟨sign, behind, empty, -⟩ := same.sign
      cases empty
  | cons sign path =>
      by_cases colon : sign = ':'
      · subst colon
        have shorter : MatchedBelow library path.length :=
          fun other short => below other (Nat.lt_succ_of_lt short)
        rw [colonHandlers, handleSeparator_same, Bool.or_eq_true, matchValue_iff,
          tildeHandlers_iff shorter,
          ← restMatches_value_iff]
      · rw [colonHandlers, handleSeparator_other (Ne.symm colon), tildeHandlers_iff below]
        constructor
        · rintro ⟨_, _, _, _, same⟩
          exact same
        · intro same
          obtain ⟨other, behind, equal, signs⟩ := same.sign
          obtain ⟨rfl, rfl⟩ := List.cons.inj equal
          exact ⟨_, _, signs.resolve_left colon, rfl, same⟩

end Signs

/-! ## Paths -/

section Paths

variable (library : Library) (spec : List Char)

/-- The loop finds a member whose name the directive begins with and whose value matches the rest.
-/
theorem matchMembers_iff (members : List (String × Json)) :
    matchMembers library members spec = true ↔
      ∃ key val rest, (key, val) ∈ members ∧ spec = key.toList ++ rest ∧
        handleSeparator (colonHandlers library val) rest = true := by
  have single : ∀ key val, matchMember library (key, val) spec = true ↔
      ∃ rest, spec = key.toList ++ rest ∧
          handleSeparator (colonHandlers library val) rest = true := by
    intro key val
    rw [matchMember, Bool.and_eq_true, decide_eq_true_iff]
    constructor
    · rintro ⟨ended, accepted⟩
      exact ⟨_, eq_append_of_walk ended, accepted⟩
    · rintro ⟨rest, rfl, accepted⟩
      rw [walk_append]
      exact ⟨rfl, accepted⟩
  induction members with
  | nil =>
      rw [matchMembers]
      exact iff_of_false Bool.false_ne_true (by simp)
  | cons member members ih =>
      obtain ⟨name, value⟩ := member
      rw [matchMembers, Bool.or_eq_true]
      refine (or_congr (single name value) ih).trans ?_
      constructor
      · rintro (⟨rest, same, accepted⟩ | ⟨key, val, rest, listed, same, accepted⟩)
        · exact ⟨name, value, rest, List.mem_cons_self, same, accepted⟩
        · exact ⟨key, val, rest, List.mem_cons_of_mem _ listed, same, accepted⟩
      · rintro ⟨key, val, rest, listed, same, accepted⟩
        rcases List.mem_cons.mp listed with equal | later
        · cases equal
          exact .inl ⟨rest, same, accepted⟩
        · exact .inr ⟨key, val, rest, later, same, accepted⟩

/-- What the loop over the members accepts is what matches. -/
theorem matchMembers_path (members : List (String × Json)) :
    matchMembers library members spec = true ↔ PathMatches library spec members := by
  induction size : spec.length using Nat.strong_induction_on generalizing spec members with
  | _ size ih =>
      have handlers : ∀ {rest : List Char} {val : Json}, rest.length ≤ spec.length →
          (handleSeparator (colonHandlers library val) rest = true ↔
          RestMatches library rest val) := by
        intro rest val short
        apply colonHandlers_iff
        intro path shorter other
        exact ih path.length (by omega) path other rfl
      rw [matchMembers_iff]
      constructor
      · rintro ⟨key, val, rest, listed, rfl, accepted⟩
        refine .member listed ((handlers ?_).mp accepted)
        rw [List.length_append]
        omega
      · intro same
        cases same with
        | member listed behind =>
            refine ⟨_, _, _, listed, rfl, (handlers ?_).mpr behind⟩
            rw [List.length_append]
            omega

/-- More members match at least as much. -/
theorem matchClaim_mono {claims more : List (String × Json)} (included : claims ⊆ more)
    (matched : matchClaim library (.obj claims) spec = true) :
    matchClaim library (.obj more) spec = true := by
  rw [matchClaim, matchMembers_iff] at matched ⊢
  obtain ⟨key, val, rest, listed, same, accepted⟩ := matched
  exact ⟨key, val, rest, included listed, same, accepted⟩

end Paths

/-- A directive is met if it is a path to a value, a pattern or a member that matches, whatever the
order of the members, and it remains met when members are added. -/
theorem matchClaim_path (library : Library) (spec : String) (claims : Object) :
    (matchClaim library (.obj claims) spec.toList = true ↔
        PathMatches library spec.toList claims) ∧
      (∀ reordered : Object, claims.Perm reordered →
        matchClaim library (.obj reordered) spec.toList =
          matchClaim library (.obj claims) spec.toList) ∧
      ∀ more : Object, claims ⊆ more →
        matchClaim library (.obj claims) spec.toList = true →
          matchClaim library (.obj more) spec.toList = true := by
  refine ⟨?_, ?_, fun more included => matchClaim_mono library spec.toList included⟩
  · rw [matchClaim]
    exact matchMembers_path library spec.toList claims
  · intro reordered same
    rw [Bool.eq_iff_iff]
    exact ⟨matchClaim_mono library spec.toList same.symm.subset,
      matchClaim_mono library spec.toList same.subset⟩

/-- The library on texts that are no numbers and on patterns without special characters. -/
def plainLibrary : Library where
  scanReal := fun _ => none
  pcre := fun re => some fun value => (strstr re value.toList).isSome

/-- A path whose names begin alike, to a pattern behind a value that does not match. -/
theorem matchClaim_path_nested :
    PathMatches plainLibrary "a.b:~x".toList
        [("a", .obj [("b", .arr [.null, .str "wxy"])]), ("a.b", .str "~y")] ∧
      matchClaim plainLibrary
          (.obj [("a.b", .str "~y"), ("a", .obj [("b", .arr [.null, .str "wxy"])])])
          "a.b:~x".toList = true ∧
      matchClaim plainLibrary
          (.obj [("c", .null), ("a", .obj [("b", .arr [.null, .str "wxy"])]), ("a.b", .str "~y")])
          "a.b:~x".toList = true := by
  have path := matchClaim_path plainLibrary "a.b:~x"
    [("a", .obj [("b", .arr [.null, .str "wxy"])]), ("a.b", .str "~y")]
  have matched : matchClaim plainLibrary
      (.obj [("a", .obj [("b", .arr [.null, .str "wxy"])]), ("a.b", .str "~y")])
          "a.b:~x".toList = true := by
    decide +kernel
  refine ⟨path.1.mp matched, ?_, path.2.2 _ (List.subset_cons_self _ _) matched⟩
  rw [path.2.1 _ (List.Perm.swap _ _ _)]
  exact matched

/-- A number is read at the front of a text, and it is saturated. -/
theorem matchClaim_front :
    strtol "12abc".toList = none ∧
      matchClaim plainLibrary (.obj [("level", .int 12)]) "level:12abc".toList = true ∧
      strtol "9223372036854775808".toList = some 9223372036854775808 ∧
      matchClaim plainLibrary (.obj [("level", .int 9223372036854775807)])
        "level:9223372036854775808".toList = true := by
  decide +kernel

end Authz

end ModAuthOpenidc
