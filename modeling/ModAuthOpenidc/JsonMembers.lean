import ModAuthOpenidc.Json

/-!
# Objects whose members have different names

In an object without repeated names every member is what its name stands for, and merging such an
object into another one overrides exactly its own members.
-/

namespace ModAuthOpenidc

namespace Object

/-- The members of an object have different names. -/
def Distinct (object : Object) : Prop := (object.map Prod.fst).Nodup

instance (object : Object) : Decidable (Distinct object) :=
  inferInstanceAs (Decidable (object.map Prod.fst).Nodup)

theorem get_cons (name : String) (value : Json) (rest : Object) (other : String) :
    get ((name, value) :: rest) other = if name = other then some value else get rest other := by
  rw [get, KeyedList.lookup_cons, get]
  split <;> rfl

/-- Without a member of a name there is nothing to get. -/
theorem get_of_notMem {object : Object} {name : String} (absent : name ∉ object.map Prod.fst) :
    get object name = none := by
  rw [get, KeyedList.lookup_of_notMem Prod.fst absent]
  rfl

/-- A member is found under its name. -/
theorem get_of_mem {object : Object} (distinct : Distinct object) {name : String} {value : Json}
    (inside : (name, value) ∈ object) : get object name = some value := by
  have found := KeyedList.lookup_of_mem Prod.fst distinct inside
  rw [get, found]
  rfl

/-- What is got is a member. -/
theorem get_eq_some_iff {object : Object} (distinct : Distinct object) {name : String}
    {value : Json} : get object name = some value ↔ (name, value) ∈ object := by
  constructor
  · intro found
    obtain ⟨member, listed, rfl⟩ := Option.map_eq_some_iff.mp found
    obtain rfl := KeyedList.key_of_lookup Prod.fst listed
    exact KeyedList.mem_of_lookup Prod.fst listed
  · exact get_of_mem distinct

/-- Merging overrides the members of the target. -/
theorem get_merge {source : Object} (distinct : Distinct source) (target : Object) (name : String) :
    get (merge source target) name = (get source name).or (get target name) := by
  unfold merge
  induction source generalizing target with
  | nil => rfl
  | cons member source ih =>
      obtain ⟨key, value⟩ := member
      obtain ⟨absent, distinct⟩ := List.nodup_cons.mp distinct
      rw [List.foldl_cons, ih distinct, get_set, get_cons]
      by_cases same : key = name
      · subst same
        rw [get_of_notMem absent, if_pos rfl, if_pos rfl]
        rfl
      · rw [if_neg (Ne.symm same), if_neg same]

/-- Different names stay different when a member is set. -/
theorem Distinct.set {object : Object} (distinct : Distinct object) (name : String) (value : Json) :
    Distinct (Object.set object name value) :=
  KeyedList.nodup_upsert Prod.fst distinct (name, value)

theorem Distinct.merge (source : Object) {target : Object} (distinct : Distinct target) :
    Distinct (Object.merge source target) := by
  unfold Object.merge
  induction source generalizing target with
  | nil => exact distinct
  | cons member source ih => exact ih (distinct.set member.1 member.2)

end Object

end ModAuthOpenidc
