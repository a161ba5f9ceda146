import Mathlib

/-!
# Tables with case-insensitive keys

An ordered table of pairs whose keys are compared without regard to the case of ASCII letters. A key
may occur several times; reading finds the first occurrence, setting replaces the first occurrence
and drops the others.
-/

namespace CaseTable

variable {α : Type}

/-- A key with its letters in lower case. -/
def fold (key : String) : List Char := key.toList.map Char.toLower

/-- The value of the first entry with a key. -/
def get (table : List (String × α)) (key : String) : Option α :=
  (table.find? fun entry => fold entry.1 = fold key).map Prod.snd

/-- Drop all entries with a key. -/
def unset (table : List (String × α)) (key : String) : List (String × α) :=
  table.filter fun entry => fold entry.1 ≠ fold key

/-- Give a key a single value. -/
def set : List (String × α) → String → α → List (String × α)
  | [], key, value => [(key, value)]
  | entry :: table, key, value =>
      if fold entry.1 = fold key then (entry.1, value) :: unset table key
      else entry :: set table key value

/-- All values of a key, in order. -/
def values (table : List (String × α)) (key : String) : List α :=
  (table.filter fun entry => fold entry.1 = fold key).map Prod.snd

@[simp] theorem get_nil (key : String) : get ([] : List (String × α)) key = none := rfl

theorem get_cons (entry : String × α) (table : List (String × α)) (key : String) :
    get (entry :: table) key = if fold entry.1 = fold key then some entry.2 else get table key := by
  rw [get, List.find?_cons]
  by_cases same : fold entry.1 = fold key
  · simp [same]
  · simp [same, get]

theorem mem_of_get {table : List (String × α)} {key : String} {value : α}
    (found : get table key = some value) : ∃ entry ∈ table, entry.2 = value := by
  obtain ⟨entry, first, rfl⟩ := Option.map_eq_some_iff.mp found
  exact ⟨entry, List.mem_of_find?_eq_some first, rfl⟩

/-- Unsetting a key hides it and leaves the other keys alone. -/
theorem get_unset (table : List (String × α)) (key other : String) :
    get (unset table key) other = if fold other = fold key then none else get table other := by
  induction table with
  | nil => simp [unset]
  | cons entry table ih =>
      rw [get_cons]
      by_cases dropped : fold entry.1 = fold key
      · have rest : unset (entry :: table) key = unset table key := by simp [unset, dropped]
        rw [rest, ih]
        split
        · rfl
        · next different =>
            rw [if_neg fun same => different (same.symm.trans dropped)]
      · have rest : unset (entry :: table) key = entry :: unset table key := by
          simp [unset, dropped]
        rw [rest, get_cons, ih]
        by_cases same : fold other = fold key
        · rw [if_pos same, if_pos same, if_neg fun equal => dropped (equal.trans same)]
        · rw [if_neg same, if_neg same]

/-- Setting a key makes its value readable and leaves the other keys alone. -/
theorem get_set (table : List (String × α)) (key other : String) (value : α) :
    get (set table key value) other = if fold other = fold key then some value
        else get table other := by
  induction table with
  | nil =>
      rw [set, get_cons, get_nil]
      exact if_congr eq_comm rfl rfl
  | cons entry table ih =>
      rw [set]
      split
      · next same =>
          rw [get_cons, get_cons, get_unset, same]
          by_cases equal : fold other = fold key
          · rw [if_pos equal.symm, if_pos equal]
          · rw [if_neg fun reverse => equal reverse.symm, if_neg equal, if_neg equal,
              if_neg fun reverse => equal reverse.symm]
      · next different =>
          rw [get_cons, get_cons, ih]
          by_cases equal : fold other = fold key
          · rw [if_neg fun same => different (same.trans equal), if_pos equal, if_pos equal]
          · rw [if_neg equal, if_neg equal]

/-- Setting adds nothing but the new value. -/
theorem mem_set {table : List (String × α)} {key : String} {value : α}
    {entry : String × α} (member : entry ∈ set table key value) :
    entry.2 = value ∨ entry ∈ table := by
  induction table with
  | nil =>
      rw [set, List.mem_singleton] at member
      exact .inl (congrArg Prod.snd member)
  | cons first table ih =>
      rw [set] at member
      split at member
      · rcases List.mem_cons.mp member with rfl | rest
        · exact .inl rfl
        · exact .inr (List.mem_cons_of_mem _ (List.mem_filter.mp rest).1)
      · rcases List.mem_cons.mp member with rfl | rest
        · exact .inr List.mem_cons_self
        · exact (ih rest).imp_right (List.mem_cons_of_mem _)

/-- Unsetting a key forgets what it was set to. -/
theorem unset_set (table : List (String × α)) (key : String) (value : α) :
    unset (set table key value) key = unset table key := by
  induction table with
  | nil => simp [set, unset]
  | cons entry table ih =>
      rw [set]
      split
      · next same =>
          simp [unset, same]
      · next different =>
          rw [unset, List.filter_cons_of_pos (by simpa using different), ← unset, ih, unset, unset,
            List.filter_cons_of_pos (by simpa using different)]

/-- Every key of the table after setting one is that key or was there before. -/
theorem key_of_mem_set {table : List (String × α)} {key : String} {value : α}
    {entry : String × α} (member : entry ∈ set table key value) :
    entry.1 = key ∨ ∃ old ∈ table, old.1 = entry.1 := by
  induction table with
  | nil =>
      rw [set, List.mem_singleton] at member
      exact .inl (congrArg Prod.fst member)
  | cons first table ih =>
      rw [set] at member
      split at member
      · rcases List.mem_cons.mp member with rfl | rest
        · exact .inr ⟨first, List.mem_cons_self, rfl⟩
        · exact .inr ⟨entry, List.mem_cons_of_mem _ (List.mem_filter.mp rest).1, rfl⟩
      · rcases List.mem_cons.mp member with rfl | rest
        · exact .inr ⟨entry, List.mem_cons_self, rfl⟩
        · rcases ih rest with same | ⟨old, older, same⟩
          · exact .inl same
          · exact .inr ⟨old, List.mem_cons_of_mem _ older, same⟩

theorem isSome_get_iff {table : List (String × α)} {key : String} :
    (get table key).isSome = true ↔ ∃ entry ∈ table, fold entry.1 = fold key := by
  rw [get, Option.isSome_map, List.find?_isSome]
  simp

/-! ## All values of a key -/

@[simp] theorem values_nil (key : String) : values ([] : List (String × α)) key = [] := rfl

theorem values_cons (entry : String × α) (table : List (String × α)) (key : String) :
    values (entry :: table) key =
      if fold entry.1 = fold key then entry.2 :: values table key else values table key := by
  rw [values, List.filter_cons]
  by_cases same : fold entry.1 = fold key
  · rw [if_pos (decide_eq_true same), if_pos same, List.map_cons, values]
  · rw [if_neg (by simpa using same), if_neg same, values]

theorem values_append (table more : List (String × α)) (key : String) :
    values (table ++ more) key = values table key ++ values more key := by
  rw [values, List.filter_append, List.map_append, values, values]

/-- Reading finds the first value. -/
theorem get_eq_head? (table : List (String × α)) (key : String) :
    get table key = (values table key).head? := by
  induction table with
  | nil => rfl
  | cons entry table ih =>
      rw [get_cons, values_cons]
      split
      · rfl
      · exact ih

theorem values_unset (table : List (String × α)) (key other : String) :
    values (unset table key) other = if fold other = fold key then [] else values table other := by
  induction table with
  | nil => simp [unset]
  | cons entry table ih =>
      by_cases dropped : fold entry.1 = fold key
      · have rest : unset (entry :: table) key = unset table key := by simp [unset, dropped]
        rw [rest, ih, values_cons]
        split
        · rfl
        · next different =>
            rw [if_neg fun same => different (same.symm.trans dropped)]
      · have rest : unset (entry :: table) key = entry :: unset table key := by
          simp [unset, dropped]
        rw [rest, values_cons, ih, values_cons]
        by_cases same : fold other = fold key
        · rw [if_pos same, if_pos same, if_neg fun equal => dropped (equal.trans same)]
        · rw [if_neg same, if_neg same]

/-- Setting a key leaves it a single value and the other keys alone. -/
theorem values_set (table : List (String × α)) (key other : String) (value : α) :
    values (set table key value) other =
      if fold other = fold key then [value] else values table other := by
  induction table with
  | nil =>
      rw [set, values_cons, values_nil]
      exact if_congr eq_comm rfl rfl
  | cons entry table ih =>
      rw [set]
      split
      · next same =>
          rw [values_cons, values_cons, values_unset, same]
          by_cases equal : fold other = fold key
          · rw [if_pos equal.symm, if_pos equal, if_pos equal]
          · rw [if_neg fun reverse => equal reverse.symm, if_neg equal, if_neg equal,
              if_neg fun reverse => equal reverse.symm]
      · next different =>
          rw [values_cons, values_cons, ih]
          by_cases equal : fold other = fold key
          · rw [if_neg fun same => different (same.trans equal), if_pos equal, if_pos equal]
          · rw [if_neg equal, if_neg equal]

/-! ## Many values at a time -/

/-- Give a key a value, or take its value away. -/
def assign (table : List (String × α)) (key : String) : Option α → List (String × α)
  | none => unset table key
  | some value => set table key value

/-- Keep the last entry of each key. -/
def keepLast : List (String × α) → List (String × α)
  | [] => []
  | entry :: table =>
      if (get table entry.1).isSome then keepLast table else entry :: keepLast table

/-- Append a table to another and keep the last entry of each key. -/
def overlapSet (table more : List (String × α)) : List (String × α) := keepLast (table ++ more)

/-- No key occurs twice. -/
def Unique (table : List (String × α)) : Prop := (table.map fun entry => fold entry.1).Nodup

instance (table : List (String × α)) : Decidable (Unique table) :=
  inferInstanceAs (Decidable (List.Nodup _))

theorem values_eq_of_fold {key other : String} (same : fold key = fold other)
    (table : List (String × α)) : values table key = values table other := by
  rw [values, values, same]

theorem values_eq_nil_iff {table : List (String × α)} {key : String} :
    values table key = [] ↔ get table key = none := by
  rw [get_eq_head?, List.head?_eq_none_iff]

/-- The last value of a key is the one that is kept. -/
theorem get_keepLast (table : List (String × α)) (key : String) :
    get (keepLast table) key = (values table key).getLast? := by
  induction table with
  | nil => rfl
  | cons entry table ih =>
      rw [keepLast, values_cons]
      by_cases same : fold entry.1 = fold key
      · rw [if_pos same]
        split
        · next again =>
            have more : values table key ≠ [] := by
              rw [← values_eq_of_fold same, ne_eq, values_eq_nil_iff]
              exact Option.isSome_iff_ne_none.mp again
            rw [ih, List.getLast?_cons_of_ne_nil more]
        · next last =>
            have nothing : values table key = [] := by
              rw [← values_eq_of_fold same, values_eq_nil_iff]
              exact Option.not_isSome_iff_eq_none.mp last
            rw [get_cons, if_pos same, nothing]
            rfl
      · rw [if_neg same]
        split
        · exact ih
        · rw [get_cons, if_neg same, ih]

theorem get_overlapSet (table more : List (String × α)) (key : String) :
    get (overlapSet table more) key =
      (values more key).getLast?.or (values table key).getLast? := by
  rw [overlapSet, get_keepLast, values_append, List.getLast?_append]

/-- After assigning values one by one, the last one of a key is found. -/
theorem get_foldl_assign (pairs : List (String × Option α)) (table : List (String × α))
    (key : String) :
    get (pairs.foldl (fun table pair => assign table pair.1 pair.2) table) key =
      (values pairs key).getLast?.getD (get table key) := by
  induction pairs generalizing table with
  | nil => rfl
  | cons pair pairs ih =>
      have here : get (assign table pair.1 pair.2) key =
          if fold pair.1 = fold key then pair.2 else get table key := by
        rcases pair with ⟨name, value⟩
        cases value with
        | none =>
            rw [assign, get_unset]
            exact if_congr eq_comm rfl rfl
        | some value =>
            rw [assign, get_set]
            exact if_congr eq_comm rfl rfl
      rw [List.foldl_cons, ih, here, values_cons]
      split
      · rw [List.getLast?_cons, Option.getD_some]
      · rfl

/-- After setting values one by one, the last one of a key is found. -/
theorem get_foldl_set (pairs table : List (String × α)) (key : String) :
    get (pairs.foldl (fun table pair => set table pair.1 pair.2) table) key =
      (values pairs key).getLast?.or (get table key) := by
  induction pairs generalizing table with
  | nil => rfl
  | cons pair pairs ih =>
      rw [List.foldl_cons, ih, get_set, values_cons]
      by_cases same : fold pair.1 = fold key
      · rw [if_pos same, if_pos same.symm, List.getLast?_cons]
        cases (values pairs key).getLast? <;> rfl
      · rw [if_neg same, if_neg fun reverse => same reverse.symm]

/-- Keys that are set to the same value have this value, and the others keep their own. -/
theorem values_foldl_set_const (keys : List String) (table : List (String × α)) (value : α)
    (key : String) :
    values (keys.foldl (fun table key => set table key value) table) key =
      if ∃ other ∈ keys, fold other = fold key then [value] else values table key := by
  induction keys generalizing table with
  | nil => simp
  | cons other keys ih =>
      rw [List.foldl_cons, ih, values_set]
      simp only [List.mem_cons, exists_eq_or_imp]
      by_cases later : ∃ other ∈ keys, fold other = fold key
      · rw [if_pos later, if_pos (.inr later)]
      · rw [if_neg later]
        exact if_congr ⟨fun same => .inl same.symm,
          fun either => (either.resolve_right later).symm⟩ rfl rfl

/-- Keys that are unset have no values, and the others keep their own. -/
theorem values_foldl_unset (keys : List String) (table : List (String × α)) (key : String) :
    values (keys.foldl unset table) key =
      if ∃ other ∈ keys, fold other = fold key then [] else values table key := by
  induction keys generalizing table with
  | nil => simp
  | cons other keys ih =>
      rw [List.foldl_cons, ih, values_unset]
      simp only [List.mem_cons, exists_eq_or_imp]
      by_cases later : ∃ other ∈ keys, fold other = fold key
      · rw [if_pos later, if_pos (.inr later)]
      · rw [if_neg later]
        exact if_congr ⟨fun same => .inl same.symm,
          fun either => (either.resolve_right later).symm⟩ rfl rfl

/-- If no key occurs twice, the value of a key is its last one. -/
theorem Unique.getLast?_values {table : List (String × α)} (unique : Unique table)
    (key : String) : (values table key).getLast? = get table key := by
  induction table with
  | nil => rfl
  | cons entry table ih =>
      obtain ⟨fresh, rest⟩ := List.nodup_cons.mp unique
      rw [values_cons, get_cons]
      split
      · next same =>
          have nothing : values table key = [] := by
            rw [values_eq_nil_iff, ← Option.not_isSome_iff_eq_none, isSome_get_iff]
            rintro ⟨other, member, again⟩
            exact fresh (List.mem_map.mpr ⟨other, member, again.trans same.symm⟩)
          rw [nothing]
          rfl
      · exact ih rest

/-! ## Batches -/

/-- The pairs that have a value. -/
def present (pairs : List (String × Option α)) : List (String × α) :=
  pairs.filterMap fun pair => pair.2.map fun value => (pair.1, value)

/-- The keys of the pairs that have none. -/
def absent (pairs : List (String × Option α)) : List String :=
  pairs.filterMap fun pair => if pair.2.isNone then some pair.1 else none

theorem values_map {β : Type} (f : α → β) (table : List (String × α)) (key : String) :
    values (table.map fun entry => (entry.1, f entry.2)) key = (values table key).map f := by
  induction table with
  | nil => rfl
  | cons entry table ih =>
      rw [List.map_cons, values_cons, values_cons, ih]
      split
      · rfl
      · rfl

theorem values_present (pairs : List (String × Option α)) (key : String) :
    values (present pairs) key = (values pairs key).reduceOption := by
  induction pairs with
  | nil => rfl
  | cons pair pairs ih =>
      rcases pair with ⟨name, value⟩
      rw [values_cons]
      cases value with
      | none =>
          have rest : present ((name, none) :: pairs) = present pairs := rfl
          rw [rest, ih]
          split
          · rw [List.reduceOption_cons_of_none]
          · rfl
      | some value =>
          have rest : present ((name, some value) :: pairs) = (name, value) :: present pairs := rfl
          rw [rest, values_cons, ih]
          split
          · rw [List.reduceOption_cons_of_some]
          · rfl

theorem exists_absent_iff (pairs : List (String × Option α)) (key : String) :
    (∃ other ∈ absent pairs, fold other = fold key) ↔
      (values pairs key).any Option.isNone = true := by
  induction pairs with
  | nil => simp [absent]
  | cons pair pairs ih =>
      rcases pair with ⟨name, value⟩
      rw [values_cons]
      cases value with
      | none =>
          have rest : absent ((name, none) :: pairs) = name :: absent pairs := rfl
          rw [rest]
          simp only [List.mem_cons, exists_eq_or_imp, ih]
          split
          · next same => simp [same]
          · next different => simp [different]
      | some value =>
          have rest : absent ((name, some value) :: pairs) = absent pairs := rfl
          rw [rest, ih]
          split
          · simp
          · rfl

/-- Keys without a value are unset at once, and the values are merged at the end. -/
theorem get_overlapSet_unset {table : List (String × α)} (unique : Unique table)
    (pairs : List (String × Option α)) (key : String) :
    get (overlapSet ((absent pairs).foldl unset table) (present pairs)) key =
      (values pairs key).reduceOption.getLast?.or
        (if (values pairs key).any Option.isNone then none else get table key) := by
  rw [get_overlapSet, values_present, values_foldl_unset, ← unique.getLast?_values]
  congr 1
  rw [apply_ite List.getLast?]
  exact if_congr (exists_absent_iff pairs key) rfl rfl

/-- Keys without a value are set to a null value at once, and the values are merged at the end. -/
theorem get_overlapSet_set {table : List (String × Option α)} (unique : Unique table)
    (pairs : List (String × Option α)) (key : String) :
    (get (overlapSet ((absent pairs).foldl (fun table key => set table key none) table)
        ((present pairs).map fun entry => (entry.1, some entry.2))) key).join =
      (values pairs key).reduceOption.getLast?.or
        (if (values pairs key).any Option.isNone then none else (get table key).join) := by
  rw [get_overlapSet, values_map, values_present, values_foldl_set_const, List.getLast?_map,
    ← unique.getLast?_values]
  cases (values pairs key).reduceOption.getLast? with
  | some value => rfl
  | none =>
      rw [Option.map_none, Option.none_or, Option.none_or, apply_ite List.getLast?,
        apply_ite Option.join]
      exact if_congr (exists_absent_iff pairs key) rfl rfl

/-- A batch has the effect of its pairs one by one if and only if a key whose last pair has no value
has no other pair with one. -/
theorem batch_eq_iff (values : List (Option α)) (old : Option α) :
    values.reduceOption.getLast?.or (if values.any Option.isNone then none else old) =
        values.getLast?.getD old ↔
      (values.getLast? = some none → ∀ value ∈ values, value = none) := by
  rcases values.eq_nil_or_concat with rfl | ⟨front, last, rfl⟩
  · simp
  · rw [List.concat_eq_append, List.getLast?_concat, Option.getD_some, List.reduceOption_append]
    cases last with
    | none =>
        have gone : (front ++ [none]).any Option.isNone = true := by simp
        rw [if_pos gone, Option.or_none, List.reduceOption_singleton, Option.toList_none,
          List.append_nil, List.getLast?_eq_none_iff, List.reduceOption,
          List.filterMap_eq_nil_iff]
        constructor
        · rintro all - value member
          rcases List.mem_append.mp member with inside | ends
          · exact all value inside
          · exact List.mem_singleton.mp ends
        · exact fun all value inside => all rfl value (List.mem_append_left _ inside)
    | some value =>
        rw [List.reduceOption_singleton, Option.toList_some, List.getLast?_concat]
        simp

end CaseTable
