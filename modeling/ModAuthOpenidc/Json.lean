import ModAuthOpenidc.KeyedList

/-!
# JSON values

The values that the module exchanges with providers and keeps in sessions, with the accessors of
`src/json.c`.  An object is the list of its members in insertion order, searched by name.
-/

namespace ModAuthOpenidc

/-- A JSON value.  Reals are kept as exact fractions. -/
inductive Json
  | null
  | bool (value : Bool)
  | int (value : Int)
  | real (value : Rat)
  | str (value : String)
  | arr (elements : List Json)
  | obj (members : List (String × Json))
  deriving Inhabited, Repr

/-- The members of a JSON object. -/
abbrev Object := List (String × Json)

/-- The largest C `int`. -/
def intMax : Int := 2 ^ 31 - 1

/-- The smallest C `int`. -/
def intMin : Int := -2 ^ 31

namespace Json

/-- `oidc_json_is_object`. -/
def isObject : Json → Bool
  | obj _ => true
  | _ => false

/-- `json_string_value`, `none` for any other type. -/
def stringValue : Json → Option String
  | str value => some value
  | _ => none

/-- `json_number_value` for the two kinds of numbers, `none` for any other type. -/
def numberValue : Json → Option Rat
  | int value => some value
  | real value => some value
  | _ => none

mutual

/-- Whether two values are the same. -/
def same : Json → Json → Bool
  | null, null => true
  | bool first, bool second => first = second
  | int first, int second => first = second
  | real first, real second => first = second
  | str first, str second => first = second
  | arr first, arr second => sameElements first second
  | obj first, obj second => sameMembers first second
  | _, _ => false

/-- Whether two arrays have the same elements. -/
def sameElements : List Json → List Json → Bool
  | [], [] => true
  | first :: rest, second :: others => same first second && sameElements rest others
  | _, _ => false

/-- Whether two objects have the same members. -/
def sameMembers : List (String × Json) → List (String × Json) → Bool
  | [], [] => true
  | (name, first) :: rest, (other, second) :: others =>
      name = other && same first second && sameMembers rest others
  | _, _ => false

end

mutual

theorem same_refl : ∀ value : Json, same value value = true
  | null => rfl
  | bool _ => by simp [same]
  | int _ => by simp [same]
  | real _ => by simp [same]
  | str _ => by simp [same]
  | arr elements => by simp [same, sameElements_refl elements]
  | obj members => by simp [same, sameMembers_refl members]

theorem sameElements_refl : ∀ elements : List Json, sameElements elements elements = true
  | [] => rfl
  | value :: rest => by simp [sameElements, same_refl value, sameElements_refl rest]

theorem sameMembers_refl : ∀ members : List (String × Json), sameMembers members members = true
  | [] => rfl
  | (name, value) :: rest => by simp [sameMembers, same_refl value, sameMembers_refl rest]

end

mutual

theorem eq_of_same : ∀ first second : Json, same first second = true → first = second
  | null, second, agree => by cases second <;> simp_all [same]
  | bool first, second, agree => by cases second <;> simp_all [same]
  | int _, second, agree => by cases second <;> simp_all [same]
  | real _, second, agree => by cases second <;> simp_all [same]
  | str _, second, agree => by cases second <;> simp_all [same]
  | arr elements, second, agree => by
      cases second with
      | arr others => rw [eq_of_sameElements elements others (by simpa [same] using agree)]
      | _ => simp [same] at agree
  | obj members, second, agree => by
      cases second with
      | obj others => rw [eq_of_sameMembers members others (by simpa [same] using agree)]
      | _ => simp [same] at agree

theorem eq_of_sameElements : ∀ elements others : List Json,
    sameElements elements others = true → elements = others
  | [], [], _ => rfl
  | [], _ :: _, agree => by simp [sameElements] at agree
  | _ :: _, [], agree => by simp [sameElements] at agree
  | first :: rest, second :: others, agree => by
      rw [sameElements, Bool.and_eq_true] at agree
      rw [eq_of_same first second agree.1, eq_of_sameElements rest others agree.2]

theorem eq_of_sameMembers : ∀ members others : List (String × Json),
    sameMembers members others = true → members = others
  | [], [], _ => rfl
  | [], _ :: _, agree => by simp [sameMembers] at agree
  | _ :: _, [], agree => by simp [sameMembers] at agree
  | (name, first) :: rest, (other, second) :: others, agree => by
      rw [sameMembers, Bool.and_eq_true, Bool.and_eq_true, decide_eq_true_eq] at agree
      rw [agree.1.1, eq_of_same first second agree.1.2, eq_of_sameMembers rest others agree.2]

end

instance : DecidableEq Json := fun first second =>
  decidable_of_iff (same first second = true)
    ⟨eq_of_same first second, fun equal => equal ▸ same_refl first⟩

end Json

namespace Object

/-- `oidc_json_object_get`. -/
def get (object : Object) (name : String) : Option Json :=
  (KeyedList.lookup Prod.fst object name).map Prod.snd

/-- `oidc_json_object_set_new`. -/
def set (object : Object) (name : String) (value : Json) : Object :=
  KeyedList.upsert Prod.fst object (name, value)

/-- `oidc_json_object_del`. -/
def del (object : Object) (name : String) : Object := KeyedList.erase Prod.fst object name

/-- `oidc_json_object_get_string` without a default: only a string counts. -/
def getString (object : Object) (name : String) : Option String :=
  (object.get name).bind Json.stringValue

/-- `oidc_json_object_get_int`: an integer clamped to the range of `int`, else the default. -/
def getInt (object : Object) (name : String) (default : Int) : Int :=
  match object.get name with
  | some (.int value) =>
      if intMax < value then intMax else if value < intMin then intMin else value
  | _ => default

/-- `oidc_json_object_get_int64`. -/
def getInt64 (object : Object) (name : String) (default : Int) : Int :=
  match object.get name with
  | some (.int value) => value
  | _ => default

/-- `oidc_json_merge`. -/
def merge (source target : Object) : Object :=
  source.foldl (fun object member => set object member.1 member.2) target

@[simp] theorem get_nil (name : String) : get [] name = none := rfl

/-- Setting a member makes it readable and leaves the other members alone. -/
theorem get_set (object : Object) (name other : String) (value : Json) :
    get (set object name value) other = if other = name then some value else get object other := by
  rw [get, set, KeyedList.lookup_upsert, get]
  split <;> rfl

@[simp] theorem get_set_self (object : Object) (name : String) (value : Json) :
    get (set object name value) name = some value := by
  rw [get_set, if_pos rfl]

theorem get_set_of_ne (object : Object) {name other : String} (value : Json)
    (different : other ≠ name) : get (set object name value) other = get object other := by
  rw [get_set, if_neg different]

/-- Deleting a member hides it and leaves the other members alone. -/
theorem get_del (object : Object) (name other : String) :
    get (del object name) other = if other = name then none else get object other := by
  rw [get, del, KeyedList.lookup_erase, get]
  split <;> rfl

end Object

end ModAuthOpenidc
