import Mathlib

/-!
# Lists searched by key

An association list keeps its items in order and is searched from the front.  Storing an item
replaces the items of the same key where they stand and appends it if there is none; erasing a key
drops all of its items.  Keys that are distinct stay distinct.
-/

namespace KeyedList

variable {α κ : Type} [DecidableEq κ] (key : α → κ)

/-- The first item with a key. -/
def lookup (items : List α) (k : κ) : Option α := items.find? fun item => key item = k

/-- Drop the items with a key. -/
def erase (items : List α) (k : κ) : List α := items.filter fun item => key item ≠ k

/-- Store an item under its own key. -/
def upsert (items : List α) (item : α) : List α :=
  if items.any fun old => key old = key item then
    items.map fun old => if key old = key item then item else old
  else
    items ++ [item]

@[simp] theorem lookup_nil (k : κ) : lookup key [] k = none := rfl

theorem lookup_cons (item : α) (items : List α) (k : κ) :
    lookup key (item :: items) k = if key item = k then some item else lookup key items k := by
  by_cases same : key item = k <;> simp [lookup, same]

theorem key_of_lookup {items : List α} {k : κ} {item : α} (found : lookup key items k = some item) :
    key item = k := by
  simpa using List.find?_some found

theorem mem_of_lookup {items : List α} {k : κ} {item : α} (found : lookup key items k = some item) :
    item ∈ items :=
  List.mem_of_find?_eq_some found

theorem lookup_eq_none_iff {items : List α} {k : κ} :
    lookup key items k = none ↔ ∀ item ∈ items, key item ≠ k := by
  simp [lookup]

theorem lookup_of_notMem {items : List α} {k : κ} (absent : k ∉ items.map key) :
    lookup key items k = none := by
  rw [lookup_eq_none_iff]
  intro item member same
  exact absent (List.mem_map.mpr ⟨item, member, same⟩)

/-- If the keys differ, an item is found under its key. -/
theorem lookup_of_mem {items : List α} (distinct : (items.map key).Nodup) {item : α}
    (member : item ∈ items) : lookup key items (key item) = some item := by
  induction items with
  | nil => cases member
  | cons first items ih =>
      obtain ⟨absent, distinct⟩ := List.nodup_cons.mp distinct
      rw [lookup_cons]
      rcases List.mem_cons.mp member with rfl | later
      · exact if_pos rfl
      · rw [if_neg, ih distinct later]
        intro same
        exact absent (List.mem_map.mpr ⟨item, later, same.symm⟩)

theorem lookup_erase (items : List α) (k other : κ) :
    lookup key (erase key items k) other = if other = k then none else lookup key items other := by
  induction items with
  | nil => simp [erase]
  | cons item items ih =>
      rw [lookup_cons]
      by_cases erased : key item = k
      · have dropped : erase key (item :: items) k = erase key items k := by simp [erase, erased]
        rw [dropped, ih]
        by_cases same : other = k
        · simp [same]
        · have different : ¬k = other := fun equal => same equal.symm
          simp [erased, same, different]
      · have kept : erase key (item :: items) k = item :: erase key items k := by
          simp [erase, erased]
        rw [kept, lookup_cons, ih]
        by_cases same : other = k
        · simp [same, erased]
        · simp [same]

private theorem lookup_replace (items : List α) (item : α) (other : κ) :
    lookup key (items.map fun old => if key old = key item then item else old) other =
      if other = key item then (lookup key items other).map fun _ => item
      else lookup key items other := by
  induction items with
  | nil => simp
  | cons old items ih =>
      rw [List.map_cons, lookup_cons, lookup_cons, ih]
      by_cases replaced : key old = key item
      · by_cases same : other = key item
        · simp [replaced, same]
        · have different : ¬key item = other := fun equal => same equal.symm
          simp [replaced, same, different]
      · by_cases same : other = key item
        · simp [replaced, same]
        · simp [replaced, same]

private theorem lookup_append (items more : List α) (k : κ) :
    lookup key (items ++ more) k = (lookup key items k).or (lookup key more k) := by
  simp [lookup]

/-- Storing an item changes the answer for its own key only. -/
theorem lookup_upsert (items : List α) (item : α) (other : κ) :
    lookup key (upsert key items item) other =
      if other = key item then some item else lookup key items other := by
  unfold upsert
  cases present : items.any fun old => key old = key item with
  | true =>
      rw [if_pos rfl, lookup_replace]
      by_cases same : other = key item
      · subst same
        have found : lookup key items (key item) ≠ none := by
          rw [ne_eq, lookup_eq_none_iff]
          simpa using present
        obtain ⟨old, found⟩ := Option.ne_none_iff_exists'.mp found
        simp [found]
      · simp [same]
  | false =>
      have absent : lookup key items (key item) = none := by
        rw [lookup_eq_none_iff]
        simpa using present
      rw [if_neg (by simp), lookup_append, lookup_cons]
      by_cases same : other = key item
      · simp [same, absent]
      · have different : ¬key item = other := fun equal => same equal.symm
        simp [same, different]

theorem lookup_upsert_of_ne (items : List α) (item : α) {other : κ} (different : other ≠ key item) :
    lookup key (upsert key items item) other = lookup key items other := by
  rw [lookup_upsert, if_neg different]

theorem mem_of_mem_upsert {items : List α} {item other : α}
    (member : other ∈ upsert key items item) :
    other = item ∨ other ∈ items := by
  unfold upsert at member
  split at member
  · obtain ⟨old, old_mem, rfl⟩ := List.mem_map.mp member
    split
    · exact .inl rfl
    · exact .inr old_mem
  · rcases List.mem_append.mp member with older | newer
    · exact .inr older
    · exact .inl (List.mem_singleton.mp newer)

theorem nodup_erase {items : List α} (nodup : (items.map key).Nodup) (k : κ) :
    ((erase key items k).map key).Nodup :=
  (List.filter_sublist.map key).nodup nodup

theorem nodup_upsert {items : List α} (nodup : (items.map key).Nodup) (item : α) :
    ((upsert key items item).map key).Nodup := by
  unfold upsert
  split
  · have keys : (items.map fun old => if key old = key item then item else old).map key =
        items.map key := by
      rw [List.map_map]
      apply List.map_congr_left
      intro old _
      by_cases same : key old = key item <;> simp [same]
    rwa [keys]
  · next absent =>
      rw [List.map_append, List.map_singleton]
      refine List.nodup_append.mpr ⟨nodup, List.nodup_singleton _, ?_⟩
      rintro _ older _ newer rfl
      obtain ⟨old, member, same⟩ := List.mem_map.mp older
      rw [List.mem_singleton.mp newer] at same
      exact absent (List.any_eq_true.mpr ⟨old, member, decide_eq_true same⟩)

end KeyedList
