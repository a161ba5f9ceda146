import Mathlib

/-!
# Finite maps with expiring entries

The history of a map is the list of things that happened to its keys.  A key maps to whatever the
most recent event about it left behind, so the map is a function of its history.  An entry whose
expiry has passed is dead; removing it early can only be noticed by a reader whose clock has gone
backwards.
-/

namespace ExpiringMap

variable {κ ν τ : Type}

/-- Something that happens to one key. -/
inductive Event (κ ν τ : Type)
  /-- A value is stored, to expire at the given time. -/
  | stored (key : κ) (value : ν) (expires : τ)
  /-- The key is deleted on request. -/
  | deleted (key : κ)
  /-- The key gives way to another one. -/
  | evicted (key : κ)
  /-- The key is deleted by a reader who found it expired. -/
  | purged (key : κ)
  deriving DecidableEq, Repr

namespace Event

/-- The key an event is about. -/
def key : Event κ ν τ → κ
  | stored key _ _ => key
  | deleted key => key
  | evicted key => key
  | purged key => key

/-- The value and expiry left behind. -/
def entry : Event κ ν τ → Option (ν × τ)
  | stored _ value expires => some (value, expires)
  | deleted _ => none
  | evicted _ => none
  | purged _ => none

/-- Whether a reader purged an expired entry. -/
def isPurge : Event κ ν τ → Bool
  | purged _ => true
  | _ => false

end Event

variable [DecidableEq κ]

/-- The entry left by the most recent event about a key. -/
def latest (history : List (Event κ ν τ)) (key : κ) : Option (ν × τ) :=
  (history.reverse.find? fun event => event.key = key).bind Event.entry

@[simp] theorem latest_nil : latest ([] : List (Event κ ν τ)) = fun _ => none := rfl

/-- One more event changes its own key only. -/
theorem latest_concat (history : List (Event κ ν τ)) (event : Event κ ν τ) :
    latest (history ++ [event]) = Function.update (latest history) event.key event.entry := by
  funext key
  by_cases same : key = event.key
  · subst same
    simp [latest]
  · have different : ¬event.key = key := fun equal => same equal.symm
    simp [latest, same, different]

/-- If later events are about a key, they decide. -/
theorem latest_append_of_mem (first : List (Event κ ν τ)) {second : List (Event κ ν τ)} {key : κ}
    (recent : ∃ event ∈ second, event.key = key) :
    latest (first ++ second) key = latest second key := by
  obtain ⟨event, member, about⟩ := recent
  have found : (second.reverse.find? fun event => event.key = key).isSome = true := by
    rw [List.find?_isSome]
    exact ⟨event, List.mem_reverse.mpr member, by simpa using about⟩
  obtain ⟨last, found⟩ := Option.isSome_iff_exists.mp found
  rw [latest, List.reverse_append, List.find?_append, found, latest, found]
  rfl

/-- If no later events are about a key, they leave it alone. -/
theorem latest_append_of_notMem (first : List (Event κ ν τ)) {second : List (Event κ ν τ)} {key : κ}
    (old : ¬∃ event ∈ second, event.key = key) :
    latest (first ++ second) key = latest first key ∧ latest second key = none := by
  have missing : (second.reverse.find? fun event => event.key = key) = none := by
    rw [List.find?_eq_none]
    intro event member about
    exact old ⟨event, List.mem_reverse.mp member, by simpa using about⟩
  rw [latest, List.reverse_append, List.find?_append, missing, latest, latest, missing]
  exact ⟨rfl, rfl⟩

/-- The value a reader sees at the time `now`. -/
def live [LinearOrder τ] (now : τ) (entry : Option (ν × τ)) : Option ν :=
  entry.bind fun (value, expires) => if now < expires then some value else none

/-- The history as it would be without the purges. -/
def unpurged (history : List (Event κ ν τ)) : List (Event κ ν τ) :=
  history.filter fun event => !event.isPurge

section Clock

variable [LinearOrder τ]

/-- What a reader sees has not expired. -/
theorem live_eq_some {now : τ} {entry : Option (ν × τ)} {value : ν}
    (found : live now entry = some value) :
    ∃ expires, entry = some (value, expires) ∧ now < expires := by
  obtain ⟨⟨value', expires⟩, stored, current⟩ := Option.bind_eq_some_iff.mp found
  dsimp only at current
  split at current
  · next early =>
      cases current
      exact ⟨expires, stored, early⟩
  · cases current

/-- An entry that a reader does not see has expired. -/
theorem live_eq_none {now : τ} {entry : Option (ν × τ)} (unseen : live now entry = none) {value : ν}
    {expires : τ} (stored : entry = some (value, expires)) : ¬now < expires := by
  intro early
  subst stored
  simp [live, early] at unseen

/-- Readers from the time `clock` on cannot tell whether expired entries have been purged. -/
def PurgesUnseen (history : List (Event κ ν τ)) (clock : τ) : Prop :=
  ∀ key, ∀ now, clock ≤ now →
    live now (latest history key) = live now (latest (unpurged history) key)

theorem PurgesUnseen.later {history : List (Event κ ν τ)} {clock clock' : τ}
    (unseen : PurgesUnseen history clock) (later : clock ≤ clock') :
    PurgesUnseen history clock' := fun key now reached =>
  unseen key now (le_trans later reached)

/-- An event which is not a purge stays unnoticed, and so does the purge of an expired entry. -/
theorem PurgesUnseen.concat {history : List (Event κ ν τ)} {clock : τ} {event : Event κ ν τ}
    (unseen : PurgesUnseen history clock)
    (expired : event.isPurge = true → live clock (latest history event.key) = none) :
    PurgesUnseen (history ++ [event]) clock := by
  intro key now reached
  have before := unseen key now reached
  cases purge : event.isPurge with
  | false =>
      have kept : unpurged (history ++ [event]) = unpurged history ++ [event] := by
        simp [unpurged, purge]
      rw [kept, latest_concat, latest_concat]
      by_cases same : key = event.key
      · simp [same]
      · simpa [same] using before
  | true =>
      have dropped : unpurged (history ++ [event]) = unpurged history := by
        simp [unpurged, purge]
      rw [dropped, latest_concat]
      by_cases same : key = event.key
      · subst same
        have dead : live now (latest history event.key) = none := by
          have atClock := expired purge
          cases found : latest history event.key with
          | none => rfl
          | some entry =>
              have stale : ¬clock < entry.2 := by
                simpa [live, found] using atClock
              have staler : ¬now < entry.2 := fun fresh => stale (lt_of_le_of_lt reached fresh)
              simp [live, staler]
        have nothing : event.entry = none := by
          cases event <;> simp_all [Event.isPurge, Event.entry]
        rw [Function.update_self, nothing, ← before, dead]
        rfl
      · rw [Function.update_of_ne same]
        exact before

end Clock

end ExpiringMap
