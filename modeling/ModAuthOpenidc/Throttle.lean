import Mathlib

/-!
# Attempts that keep a distance

Something is attempted from time to time. Each attempt leaves behind the time at which the next one
may follow, and an attempt is made only when that time has come. Then any two attempts are an
interval apart, whatever the clock does in between.
-/

namespace Throttle

variable {τ : Type} [AddCommGroup τ] [LinearOrder τ]

/-- Attempts an interval apart, and the time that the next one waits for. -/
structure Spaced (interval : τ) (attempts : List τ) (wait : Option τ) : Prop where
  apart : attempts.Pairwise fun first second => first + interval ≤ second
  waits : ∀ time ∈ attempts, ∃ opening ∈ wait, time + interval ≤ opening

variable {interval now : τ} {attempts : List τ} {wait : Option τ}

theorem Spaced.nil (wait : Option τ) : Spaced interval [] wait := ⟨.nil, by simp⟩

variable [IsOrderedAddMonoid τ]

/-- An attempt that waited is an interval behind all others. -/
theorem Spaced.attempt (spaced : Spaced interval attempts wait) (positive : 0 ≤ interval)
    (free : ∀ opening ∈ wait, opening ≤ now) :
    Spaced interval (attempts ++ [now]) (some (now + interval)) where
  apart := by
    refine List.pairwise_append.mpr ⟨spaced.apart, List.pairwise_singleton _ _, ?_⟩
    intro earlier member time here
    obtain rfl := List.mem_singleton.mp here
    obtain ⟨opening, waited, before⟩ := spaced.waits earlier member
    exact before.trans (free opening waited)
  waits := by
    intro time member
    refine ⟨now + interval, rfl, ?_⟩
    rcases List.mem_append.mp member with earlier | here
    · obtain ⟨opening, waited, before⟩ := spaced.waits time earlier
      exact (before.trans (free opening waited)).trans (le_add_of_nonneg_right positive)
    · rw [List.mem_singleton.mp here]

end Throttle
