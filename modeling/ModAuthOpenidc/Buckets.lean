import Mathlib

/-!
# Cumulative buckets

A histogram counts in each bucket the samples that the bucket covers. If every bucket covers what
the earlier ones do, the counts never decrease along the table, and a sample is recorded by adding
one to the first bucket that covers it and to all later ones.
-/

namespace Buckets

variable {β σ : Type} (covers : β → σ → Bool)

/-- How many samples a bucket covers. -/
def tally (samples : List σ) (bucket : β) : Int := samples.countP (covers bucket)

/-- The counts of all buckets. -/
def counts (table : List β) (samples : List σ) : List Int := table.map (tally covers samples)

/-- Every bucket covers what the earlier ones do. -/
def Nested (table : List β) : Prop :=
  table.Pairwise fun inner outer =>
    ∀ sample, covers inner sample = true → covers outer sample = true

/-- Add one from the first bucket on that covers a sample. -/
def bump (sample : σ) : List β → List Int → List Int
  | bucket :: table, count :: counts =>
      if covers bucket sample then (count :: counts).map (· + 1)
      else count :: bump sample table counts
  | _, counts => counts

variable {covers}

@[simp] theorem tally_nil (bucket : β) : tally covers [] bucket = 0 := rfl

theorem tally_append (samples more : List σ) (bucket : β) :
    tally covers (samples ++ more) bucket =
      tally covers samples bucket + tally covers more bucket := by
  rw [tally, List.countP_append, Nat.cast_add]
  rfl

theorem tally_singleton (sample : σ) (bucket : β) :
    tally covers [sample] bucket = if covers bucket sample then 1 else 0 := by
  rw [tally, List.countP_singleton]
  split <;> rfl

/-- A bucket that covers everything counts all samples. -/
theorem tally_of_all {bucket : β} (all : ∀ sample, covers bucket sample = true)
    (samples : List σ) : tally covers samples bucket = samples.length := by
  rw [tally, List.countP_eq_length.mpr fun sample _ => all sample]

/-- A bucket that covers more counts more. -/
theorem tally_mono {inner outer : β}
    (more : ∀ sample, covers inner sample = true → covers outer sample = true)
    (samples : List σ) : tally covers samples inner ≤ tally covers samples outer :=
  Int.ofNat_le.mpr (List.countP_mono_left fun sample _ => more sample)

/-- The counts never decrease. -/
theorem counts_pairwise {table : List β} (nested : Nested covers table) (samples : List σ) :
    (counts covers table samples).Pairwise (· ≤ ·) :=
  List.pairwise_map.mpr (nested.imp fun more => tally_mono more samples)

/-- If all buckets cover a sample, it counts in all of them. -/
theorem counts_of_all {table : List β} {sample : σ}
    (all : ∀ bucket ∈ table, covers bucket sample = true) (samples : List σ) :
    counts covers table (samples ++ [sample]) = (counts covers table samples).map (· + 1) := by
  rw [counts, counts, List.map_map]
  apply List.map_congr_left
  intro bucket member
  rw [tally_append, tally_singleton, if_pos (all bucket member)]
  rfl

/-- Recording a sample counts it. -/
theorem bump_counts {table : List β} (nested : Nested covers table) (samples : List σ)
    (sample : σ) :
    bump covers sample table (counts covers table samples) =
      counts covers table (samples ++ [sample]) := by
  induction table with
  | nil => rfl
  | cons bucket table ih =>
      obtain ⟨inner, nested⟩ := List.pairwise_cons.mp nested
      have head : counts covers (bucket :: table) samples =
          tally covers samples bucket :: counts covers table samples := rfl
      rw [head, bump]
      split
      · next covered =>
          rw [← head]
          refine (counts_of_all (fun other member => ?_) samples).symm
          rcases List.mem_cons.mp member with rfl | later
          · exact covered
          · exact inner other later sample covered
      · next missed =>
          rw [ih nested, counts, counts, List.map_cons, tally_append, tally_singleton,
            if_neg missed, add_zero]

end Buckets
