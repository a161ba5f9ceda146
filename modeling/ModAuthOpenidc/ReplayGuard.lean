import ModAuthOpenidc.ExpiringMap

/-!
# Tables that remember what was used

A table of entries with an expiry guards against a second use of a key as long as no step touches an
entry which has not expired yet.
-/

namespace ReplayGuard

open ExpiringMap

variable {κ ν σ ε : Type}

/-- Values with their expiry, by key. -/
abbrev Table (κ ν : Type) := κ → Option (ν × Int)

/-- No entry changes that has not expired at the time `now`. -/
def KeepsLive (now : Int) (table table' : Table κ ν) : Prop :=
  ∀ key value expires, table key = some (value, expires) → now < expires →
    table' key = some (value, expires)

theorem KeepsLive.refl (now : Int) (table : Table κ ν) : KeepsLive now table table :=
  fun _ _ _ stored _ => stored

/-- A key that is not seen may be noted. -/
theorem KeepsLive.update [DecidableEq κ] {now : Int} {table : Table κ ν} {key : κ}
    (unseen : live now (table key) = none) (entry : Option (ν × Int)) :
    KeepsLive now table (Function.update table key entry) := by
  intro key' value expires stored early
  by_cases same : key' = key
  · subst same
    exact absurd early (live_eq_none unseen stored)
  · rw [Function.update_of_ne same]
    exact stored

section Runs

variable {step : σ → ε → σ} {time : ε → Int} {view : σ → Table κ ν}

/-- An entry outlasts the steps before its expiry. -/
theorem entry_lasts (keeps :
    ∀ state event, KeepsLive (time event) (view state) (view (step state event)))
    {key : κ} {value : ν} {expires : Int} (events : List ε) {state : σ}
    (stored : view state key = some (value, expires))
    (early : ∀ event ∈ events, time event < expires) :
    view (events.foldl step state) key = some (value, expires) := by
  induction events generalizing state with
  | nil => exact stored
  | cons event events ih =>
      have next := keeps state event key value expires stored (early event List.mem_cons_self)
      exact ih next fun later member => early later (List.mem_cons_of_mem event member)

/-- An entry that is not seen any more has expired. -/
theorem expired_of_unseen
    (keeps : ∀ state event, KeepsLive (time event) (view state) (view (step state event)))
    {key : κ} {value : ν} {expires now : Int} {events : List ε} {state : σ}
    (stored : view state key = some (value, expires)) (ordered : ∀ event ∈ events, time event ≤ now)
    (unseen : live now (view (events.foldl step state) key) = none) : expires ≤ now := by
  by_contra early
  have fresh : now < expires := Int.not_le.mp early
  have kept := entry_lasts keeps events stored fun event member =>
    lt_of_le_of_lt (ordered event member) fresh
  exact live_eq_none unseen kept fresh

end Runs

end ReplayGuard
