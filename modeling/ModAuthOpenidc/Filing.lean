import ModAuthOpenidc.KeyedList

/-!
# Filing items under labels and numbers

Items are stored one after the other in a list that is searched by key. An item with a label is
stored under it, and one without a label under the number of items in the list. An item stays until
another one is stored under the same key. If the labels and the numbers differ, all items stay, and
if the items differ, they stay only then.
-/

namespace KeyedList

variable {α κ : Type}

/-- An item is the last one of its key in a list. -/
def Last (key : α → κ) (items : List α) (item : α) : Prop :=
  ∃ before after, items = before ++ item :: after ∧ ∀ later ∈ after, key later ≠ key item

variable {key : α → κ}

theorem Last.mem {items : List α} {item : α} (last : Last key items item) : item ∈ items := by
  obtain ⟨before, after, rfl, -⟩ := last
  exact List.mem_append_right _ List.mem_cons_self

theorem last_cons_iff {first item : α} {items : List α} :
    Last key (first :: items) item ↔
      (first = item ∧ ∀ later ∈ items, key later ≠ key item) ∨ Last key items item := by
  constructor
  · rintro ⟨before, after, split, unused⟩
    cases before with
    | nil =>
        obtain ⟨rfl, rfl⟩ := List.cons.inj split
        exact .inl ⟨rfl, unused⟩
    | cons other before =>
        obtain ⟨rfl, rfl⟩ := List.cons.inj split
        exact .inr ⟨before, after, rfl, unused⟩
  · rintro (⟨rfl, unused⟩ | ⟨before, after, rfl, unused⟩)
    · exact ⟨[], items, rfl, unused⟩
    · exact ⟨first :: before, after, rfl, unused⟩

/-- With different keys all items are last ones. -/
theorem last_of_nodup {items : List α} (nodup : (items.map key).Nodup) {item : α}
    (member : item ∈ items) : Last key items item := by
  obtain ⟨before, after, rfl⟩ := List.append_of_mem member
  refine ⟨before, after, rfl, fun later inside same => ?_⟩
  rw [List.map_append, List.map_cons] at nodup
  have tail := (List.nodup_cons.mp (List.nodup_append.mp nodup).2.1).1
  exact tail (List.mem_map.mpr ⟨later, inside, same⟩)

/-- Different items are all last ones only if their keys differ. -/
theorem nodup_of_last {items : List α} (distinct : items.Nodup)
    (all : ∀ item ∈ items, Last key items item) : (items.map key).Nodup := by
  induction items with
  | nil => exact .nil
  | cons first items ih =>
      obtain ⟨absent, distinct⟩ := List.nodup_cons.mp distinct
      rw [List.map_cons, List.nodup_cons]
      constructor
      · intro known
        obtain ⟨later, inside, same⟩ := List.mem_map.mp known
        rcases last_cons_iff.mp (all first List.mem_cons_self) with ⟨-, unused⟩ | last
        · exact unused later inside same
        · exact absent last.mem
      · refine ih distinct fun item member => ?_
        rcases last_cons_iff.mp (all item (List.mem_cons_of_mem _ member)) with ⟨rfl, -⟩ | last
        · exact absurd member absent
        · exact last

variable [DecidableEq κ]

/-- Storing an item adds it and drops the items of the same key. -/
theorem mem_upsert_iff {items : List α} {item other : α} :
    other ∈ upsert key items item ↔ other = item ∨ (other ∈ items ∧ key other ≠ key item) := by
  unfold upsert
  split
  · next present =>
      obtain ⟨old, member, same⟩ := List.any_eq_true.mp present
      rw [List.mem_map]
      constructor
      · rintro ⟨old', member', rfl⟩
        split
        · exact .inl rfl
        · next different => exact .inr ⟨member', different⟩
      · rintro (rfl | ⟨stays, different⟩)
        · exact ⟨old, member, if_pos (by simpa using same)⟩
        · exact ⟨other, stays, if_neg different⟩
  · next absent =>
      rw [List.mem_append, List.mem_singleton]
      constructor
      · rintro (stays | rfl)
        · refine .inr ⟨stays, fun same => absent ?_⟩
          exact List.any_eq_true.mpr ⟨other, stays, by simpa using same⟩
        · exact .inl rfl
      · rintro (rfl | ⟨stays, -⟩)
        · exact .inr rfl
        · exact .inl stays

/-- The keys of a list after an item has been stored. -/
theorem map_key_upsert (items : List α) (item : α) :
    (upsert key items item).map key =
      if key item ∈ items.map key then items.map key else items.map key ++ [key item] := by
  have present : (items.any fun old => key old = key item) = decide (key item ∈ items.map key) := by
    rw [Bool.eq_iff_iff]
    simp
  rw [upsert, present]
  by_cases known : key item ∈ items.map key
  · rw [if_pos (by simpa using known), if_pos known, List.map_map]
    apply List.map_congr_left
    intro old _
    dsimp only [Function.comp_apply]
    split
    · next same => exact same.symm
    · rfl
  · rw [if_neg (by simpa using known), if_neg known, List.map_append, List.map_singleton]

/-- After storing some items the list holds the last one of each key, and the old ones of other
keys. -/
theorem mem_foldl_upsert_iff {items : List α} {table : List α} {item : α} :
    item ∈ items.foldl (upsert key) table ↔
      (item ∈ table ∧ ∀ later ∈ items, key later ≠ key item) ∨ Last key items item := by
  induction items generalizing table with
  | nil => simp [Last]
  | cons first items ih =>
      rw [List.foldl_cons, ih, mem_upsert_iff, last_cons_iff, List.forall_mem_cons]
      constructor
      · rintro (⟨rfl | ⟨stays, different⟩, unused⟩ | last)
        · exact .inr (.inl ⟨rfl, unused⟩)
        · exact .inl ⟨stays, Ne.symm different, unused⟩
        · exact .inr (.inr last)
      · rintro (⟨stays, different, unused⟩ | ⟨rfl, unused⟩ | last)
        · exact .inl ⟨.inr ⟨stays, Ne.symm different⟩, unused⟩
        · exact .inl ⟨.inl rfl, unused⟩
        · exact .inr last

end KeyedList

namespace Filing

variable {α κ : Type} [DecidableEq κ] (label : α → Option κ) (number : Nat → κ)

/-- The key under which an item is stored next to some keys. -/
def name (used : List κ) (item : α) : κ := (label item).getD (number used.length)

/-- Store an item. -/
def file (table : List (κ × α)) (item : α) : List (κ × α) :=
  KeyedList.upsert Prod.fst table (name label number (table.map Prod.fst) item, item)

/-- The items with the keys under which they are stored. -/
def named (used : List κ) : List α → List (κ × α)
  | [] => []
  | item :: items =>
      (name label number used item, item) ::
        named (if name label number used item ∈ used then used
          else used ++ [name label number used item]) items

/-- An item is still there after all have been stored. -/
def Stays (items : List α) (item : α) : Prop :=
  ∃ key, KeyedList.Last Prod.fst (named label number [] items) (key, item)

/-- Labels, and numbers for the places of the items without a label. -/
def places (start : Nat) : List α → List κ
  | [] => []
  | item :: items => (label item).getD (number start) :: places (start + 1) items

variable {label number}

/-- Filing items is storing them under their keys. -/
theorem foldl_file (table : List (κ × α)) (items : List α) :
    items.foldl (file label number) table =
      (named label number (table.map Prod.fst) items).foldl (KeyedList.upsert Prod.fst) table := by
  induction items generalizing table with
  | nil => rfl
  | cons item items ih =>
      rw [List.foldl_cons, ih, named, List.foldl_cons, file, KeyedList.map_key_upsert]

/-- What is found after filing some items. -/
theorem mem_foldl_file_iff {items : List α} {item : α} :
    (∃ key, (key, item) ∈ items.foldl (file label number) []) ↔ Stays label number items item := by
  apply exists_congr
  intro key
  rw [foldl_file, KeyedList.mem_foldl_upsert_iff]
  simp

theorem map_snd_named (used : List κ) (items : List α) :
    (named label number used items).map Prod.snd = items := by
  induction items generalizing used with
  | nil => rfl
  | cons item items ih => rw [named, List.map_cons, ih]

/-- Only items that are filed are found. -/
theorem Stays.mem {items : List α} {item : α} (stays : Stays label number items item) :
    item ∈ items := by
  obtain ⟨key, last⟩ := stays
  rw [← @map_snd_named _ _ _ label number [] items]
  exact List.mem_map_of_mem last.mem

/-- If the keys, or the labels and places, are new and different from each other, they are the
same. -/
theorem map_fst_named {used : List κ} {items : List α}
    (different : (used ++ (named label number used items).map Prod.fst).Nodup ∨
      (used ++ places label number used.length items).Nodup) :
    (named label number used items).map Prod.fst = places label number used.length items := by
  induction items generalizing used with
  | nil => rfl
  | cons item items ih =>
      rw [named, places, List.map_cons] at different
      have fresh : name label number used item ∉ used := by
        intro known
        rcases different with keys | labels
        · exact (List.nodup_append.mp keys).2.2 _ known _ List.mem_cons_self rfl
        · exact (List.nodup_append.mp labels).2.2 _ known _ List.mem_cons_self rfl
      have length : (used ++ [name label number used item]).length = used.length + 1 := by simp
      have rest := @ih (used ++ [name label number used item])
      rw [length, List.append_assoc, List.append_assoc] at rest
      rw [if_neg fresh] at different
      rw [named, places, List.map_cons, if_neg fresh, rest different]
      rfl

/-- If the labels and places differ, all items stay. -/
theorem stays_of_places {items : List α} (different : (places label number 0 items).Nodup)
    {item : α} (member : item ∈ items) : Stays label number items item := by
  rw [← @map_snd_named _ _ _ label number [] items] at member
  obtain ⟨⟨key, item⟩, inside, rfl⟩ := List.mem_map.mp member
  refine ⟨key, KeyedList.last_of_nodup ?_ inside⟩
  rw [@map_fst_named _ _ _ label number [] _ (.inr different)]
  exact different

/-- Different items stay only if the labels and places differ. -/
theorem stays_iff_places {items : List α} (distinct : items.Nodup) :
    (∀ item ∈ items, Stays label number items item) ↔ (places label number 0 items).Nodup := by
  constructor
  · intro all
    have items_eq := @map_snd_named _ _ _ label number [] items
    have distinct' : ((named label number [] items).map Prod.snd).Nodup := by rwa [items_eq]
    have keys : ((named label number [] items).map Prod.fst).Nodup := by
      apply KeyedList.nodup_of_last distinct'.of_map
      rintro ⟨key, item⟩ inside
      obtain ⟨key', last⟩ := all item (items_eq ▸ List.mem_map_of_mem inside)
      obtain rfl : key' = key :=
        congrArg Prod.fst (List.inj_on_of_nodup_map distinct' last.mem inside rfl)
      exact last
    rw [@map_fst_named _ _ _ label number [] _ (.inl keys)] at keys
    exact keys
  · intro different item member
    exact stays_of_places different member

end Filing
