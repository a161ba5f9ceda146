import ModAuthOpenidc.Metrics.Timings

/-!
# Histograms

In an entry that has counted some samples the buckets never decrease and the last one agrees with
the count. The label of a bucket promises the samples up to its threshold, but a sample that equals
the threshold is not counted.
-/

namespace ModAuthOpenidc

namespace Metrics

/-! ## What an entry should say -/

/-- The buckets and the count of an entry, for the samples that the entry has recorded. -/
structure Cumulative (buckets : List Int) (count : Int) : Prop where
  length : buckets.length = metricBuckets.length
  ordered : buckets.Pairwise (· ≤ ·)
  inf : ∀ row ∈ metricBuckets.zip buckets, row.1.1 = "inf" → row.2 = count

/-- The bucket with a threshold counts the samples up to the threshold. -/
def Labelled (buckets : List Int) (samples : List Int) : Prop :=
  ∀ row ∈ metricBuckets.zip buckets, row.1.2 ≠ 0 →
    row.2 = samples.countP fun elapsed => elapsed ≤ row.1.2

/-- The thresholds of the buckets. -/
def thresholds : List Int := (metricBuckets.map Prod.snd).filter (· ≠ 0)

/-- The buckets of an entry of the document. -/
def sharedBuckets (entry : Json) : List Int :=
  metricBuckets.map fun bucket => (entry.member bucket.1).elim 0 Json.integerValue

/-- The count of an entry of the document. -/
def sharedCount (entry : Json) : Int := (entry.member "count").elim 0 Json.integerValue

theorem zip_bucketCounts (samples : List Int) :
    metricBuckets.zip (bucketCounts samples) =
      metricBuckets.map fun bucket => (bucket, Buckets.tally covered samples bucket) := by
  rw [bucketCounts, Buckets.counts, List.zip_map_right, List.zip_eq_zipWith, List.zipWith_self,
    List.map_map]
  rfl

/-- Counts of samples never decrease and end with the number of samples. -/
theorem cumulative_bucketCounts (samples : List Int) :
    Cumulative (bucketCounts samples) samples.length := by
  refine ⟨List.length_map _, Buckets.counts_pairwise metricBuckets_nested samples, ?_⟩
  rw [zip_bucketCounts, List.forall_mem_map]
  intro bucket member named
  have last : ∀ bucket ∈ metricBuckets, bucket.1 = "inf" → bucket.2 = 0 := by decide
  exact Buckets.tally_of_all (fun _ => covered_iff.mpr (.inr (last bucket member named))) samples

/-- Below and up to a threshold there are equally many samples if none equals it. -/
theorem countP_le_iff (samples : List Int) (threshold : Int) :
    samples.countP (fun elapsed => decide (elapsed < threshold)) =
        samples.countP (fun elapsed => decide (elapsed ≤ threshold)) ↔
      threshold ∉ samples := by
  have fewer : ∀ samples : List Int,
      samples.countP (fun elapsed => decide (elapsed < threshold)) ≤
        samples.countP fun elapsed => decide (elapsed ≤ threshold) := fun samples =>
    List.countP_mono_left fun elapsed _ below => by
      rw [decide_eq_true_eq] at below ⊢
      exact below.le
  induction samples with
  | nil => simp
  | cons sample samples ih =>
      have rest := fewer samples
      rw [List.countP_cons, List.countP_cons, List.mem_cons, not_or]
      rcases lt_trichotomy sample threshold with below | rfl | above
      · simp [below, below.le, below.ne', ih]
      · simp
        omega
      · simp [above.not_gt, above.not_ge, above.ne, ih]

/-- The labels of the buckets are right if no sample equals a threshold. -/
theorem labelled_iff (samples : List Int) :
    Labelled (bucketCounts samples) samples ↔ ∀ elapsed ∈ samples, elapsed ∉ thresholds := by
  have bucket_iff (bucket : String × Int) (finite : bucket.2 ≠ 0) :
      Buckets.tally covered samples bucket =
          samples.countP (fun elapsed => decide (elapsed ≤ bucket.2)) ↔ bucket.2 ∉ samples := by
    have below : covered bucket = fun elapsed => decide (elapsed < bucket.2) := by
      funext elapsed
      simp [covered, finite]
    rw [Buckets.tally, below, Int.ofNat_inj, countP_le_iff]
  unfold Labelled thresholds
  rw [zip_bucketCounts, List.forall_mem_map]
  constructor
  · intro labelled elapsed member threshold
    obtain ⟨among, nonzero⟩ := List.mem_filter.mp threshold
    obtain ⟨bucket, inside, rfl⟩ := List.mem_map.mp among
    have finite : bucket.2 ≠ 0 := by simpa using nonzero
    exact (bucket_iff bucket finite).mp (labelled bucket inside finite) member
  · intro clear bucket inside finite
    refine (bucket_iff bucket finite).mpr fun member => clear _ member ?_
    exact List.mem_filter.mpr ⟨List.mem_map_of_mem inside, by simpa using finite⟩

/-- An entry of a process has counted its samples; so it is cumulative, and its labels are right if
no sample equals a threshold. -/
theorem LocalEntry.spec {timing : Timing} {samples : List Int} (entry : LocalEntry timing samples) :
    Cumulative timing.buckets timing.count ∧
      (Labelled timing.buckets samples ↔ ∀ elapsed ∈ samples, elapsed ∉ thresholds) := by
  rw [entry.buckets, entry.count]
  exact ⟨cumulative_bucketCounts samples, labelled_iff samples⟩

/-- The same for an entry of the document. -/
theorem SharedEntry.spec {entry : Json} {samples : List Int} (shared : SharedEntry entry samples) :
    Cumulative (sharedBuckets entry) (sharedCount entry) ∧
      (Labelled (sharedBuckets entry) samples ↔ ∀ elapsed ∈ samples, elapsed ∉ thresholds) := by
  have buckets : sharedBuckets entry = bucketCounts samples := by
    apply List.map_congr_left
    intro bucket member
    rw [shared.buckets bucket member]
    rfl
  have count : sharedCount entry = samples.length := by
    rw [sharedCount, shared.count]
    rfl
  rw [buckets, count]
  exact ⟨cumulative_bucketCounts samples, labelled_iff samples⟩

end Metrics

end ModAuthOpenidc
