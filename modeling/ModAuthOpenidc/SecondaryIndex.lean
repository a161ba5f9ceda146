import ModAuthOpenidc.ExpiringMap

/-!
# Secondary indexes

Values are stored under identifiers until they expire, and an index maps further keys to
identifiers. A save writes the value and points all keys of its identifier to it; several
identifiers may use the same key, and then the last one to be saved has it. The index is consistent
if every key leads to the last identifier saved under it, for as long as that identifier has a
value.
-/

namespace ModAuthOpenidc

namespace SecondaryIndex

variable {κ ι ν τ : Type} [LinearOrder τ]

/-- A store and an index at a certain time, with the keys that each identifier uses and the last
identifier that was saved under each key. -/
structure Consistent (uses : ι → κ → Prop) (clock : τ) (entries : ι → Option (ν × τ))
    (index : κ → Option (ι × τ)) (last : κ → Option ι) : Prop where
  /-- An identifier is saved under its own keys. -/
  owned : ∀ key id, last key = some id → uses id key
  /-- The index points to the last one. -/
  pointing : ∀ key id expires, index key = some (id, expires) → last key = some id
  /-- The index lasts as long as the value. -/
  mapped : ∀ key id value expires, last key = some id → entries id = some (value, expires) →
    clock < expires → index key = some (id, expires)

/-- The last identifier under a key has no value any more, or is a certain one. -/
def Free (clock : τ) (entries : ι → Option (ν × τ)) (last : κ → Option ι) (id : ι) (key : κ) :
    Prop :=
  ∀ other, last key = some other → other = id ∨ ExpiringMap.live clock (entries other) = none

/-- With its value gone, an identifier needs no key that is free but for it. -/
theorem Free.unused [DecidableEq ι] {clock : τ} {entries : ι → Option (ν × τ)}
    {last : κ → Option ι} {id : ι} {key : κ} (free : Free clock entries last id key) :
    ∀ other, last key = some other →
      ExpiringMap.live clock (Function.update entries id none other) = none := by
  intro other saved
  by_cases same : other = id
  · rw [same, Function.update_self]
    rfl
  · rw [Function.update_of_ne same]
    exact (free other saved).resolve_left same

namespace Consistent

variable {uses uses' : ι → κ → Prop} {clock clock' : τ} {entries : ι → Option (ν × τ)}
  {index : κ → Option (ι × τ)} {last : κ → Option ι}

/-- An empty store is consistent. -/
theorem empty (uses : ι → κ → Prop) (clock : τ) :
    Consistent uses clock (fun _ => none : ι → Option (ν × τ)) (fun _ => none) (fun _ => none) :=
  ⟨nofun, nofun, nofun⟩

/-- Time passes. -/
theorem later (consistent : Consistent uses clock entries index last) (passes : clock ≤ clock') :
    Consistent uses clock' entries index last where
  owned := consistent.owned
  pointing := consistent.pointing
  mapped key id value expires saved stored early :=
    consistent.mapped key id value expires saved stored (passes.trans_lt early)

/-- Identifiers get keys before they are saved. -/
theorem assign (consistent : Consistent uses clock entries index last)
    (keeps : ∀ key id, last key = some id → uses id key → uses' id key) :
    Consistent uses' clock entries index last where
  owned key id saved := keeps key id saved (consistent.owned key id saved)
  pointing := consistent.pointing
  mapped := consistent.mapped

/-- A value is deleted. -/
theorem erase [DecidableEq ι] (consistent : Consistent uses clock entries index last) (id : ι) :
    Consistent uses clock (Function.update entries id none) index last where
  owned := consistent.owned
  pointing := consistent.pointing
  mapped key other value expires saved stored early := by
    by_cases same : other = id
    · rw [same, Function.update_self] at stored
      cases stored
    · rw [Function.update_of_ne same] at stored
      exact consistent.mapped key other value expires saved stored early

/-- A key is deleted that no value needs. -/
theorem unindex [DecidableEq κ] (consistent : Consistent uses clock entries index last) {key : κ}
    (unused : ∀ id, last key = some id → ExpiringMap.live clock (entries id) = none) :
    Consistent uses clock entries (Function.update index key none) last where
  owned := consistent.owned
  pointing other id expires points := by
    by_cases same : other = key
    · rw [same, Function.update_self] at points
      cases points
    · rw [Function.update_of_ne same] at points
      exact consistent.pointing other id expires points
  mapped other id value expires saved stored early := by
    by_cases same : other = key
    · subst same
      exact absurd early (ExpiringMap.live_eq_none (unused id saved) stored)
    · rw [Function.update_of_ne same]
      exact consistent.mapped other id value expires saved stored early

/-- A key that the index does not know at the time is not needed. -/
theorem unused_of_unknown (consistent : Consistent uses clock entries index last) {key : κ}
    (unknown : ExpiringMap.live clock (index key) = none) :
    ∀ id, last key = some id → ExpiringMap.live clock (entries id) = none := by
  intro id saved
  by_contra present
  obtain ⟨value, found⟩ := Option.ne_none_iff_exists'.mp present
  obtain ⟨expires, stored, early⟩ := ExpiringMap.live_eq_some found
  exact ExpiringMap.live_eq_none unknown
    (consistent.mapped key id value expires saved stored early) early

/-- A value is saved together with the keys of its identifier. -/
theorem save [DecidableEq ι] (consistent : Consistent uses clock entries index last) {id : ι}
    {value : ν} {expires : τ} {index' : κ → Option (ι × τ)} {last' : κ → Option ι}
    (used : ∀ key, uses id key → index' key = some (id, expires) ∧ last' key = some id)
    (unused : ∀ key, ¬uses id key → index' key = index key ∧ last' key = last key) :
    Consistent uses clock (Function.update entries id (some (value, expires))) index' last' where
  owned key other saved := by
    by_cases own : uses id key
    · rw [(used key own).2] at saved
      cases saved
      exact own
    · rw [(unused key own).2] at saved
      exact consistent.owned key other saved
  pointing key other until' points := by
    by_cases own : uses id key
    · rw [(used key own).1] at points
      cases points
      exact (used key own).2
    · rw [(unused key own).1] at points
      rw [(unused key own).2]
      exact consistent.pointing key other until' points
  mapped key other value' until' saved stored early := by
    by_cases own : uses id key
    · rw [(used key own).2] at saved
      cases saved
      rw [Function.update_self] at stored
      cases stored
      exact (used key own).1
    · rw [(unused key own).2] at saved
      have different : other ≠ id := by
        intro same
        exact own (same ▸ consistent.owned key other saved)
      rw [Function.update_of_ne different] at stored
      rw [(unused key own).1]
      exact consistent.mapped key other value' until' saved stored early

/-- While the last identifier under a key has a value, the key leads to it. -/
theorem live (consistent : Consistent uses clock entries index last) {key : κ} {id : ι} {value : ν}
    (saved : last key = some id) (present : ExpiringMap.live clock (entries id) = some value) :
    ExpiringMap.live clock (index key) = some id := by
  obtain ⟨expires, stored, early⟩ := ExpiringMap.live_eq_some present
  rw [consistent.mapped key id value expires saved stored early]
  simp [ExpiringMap.live, early]

end Consistent

end SecondaryIndex

end ModAuthOpenidc
