import ModAuthOpenidc.Buckets
import ModAuthOpenidc.JsonMembers
import ModAuthOpenidc.Metrics.Counters

/-!
# Timings entries

A timings entry, in the table of a process or in the document, counts the samples in cumulative
buckets. Recording a sample, merging an entry of a process into the document and resetting an entry
keep the counts in step with the samples. A bucket counts the samples below its threshold.
-/

namespace ModAuthOpenidc

namespace Metrics

/-- Whether a bucket counts a sample. -/
def covered (bucket : String × Int) (elapsed : Int) : Bool := elapsed < bucket.2 ∨ bucket.2 = 0

/-- The buckets of a timings entry that has counted some samples. -/
abbrev bucketCounts (samples : List Int) : List Int := Buckets.counts covered metricBuckets samples

/-- An entry in the table of a process has counted some samples. -/
structure LocalEntry (timing : Timing) (samples : List Int) : Prop where
  buckets : timing.buckets = bucketCounts samples
  count : timing.count = samples.length

/-- An entry of the document has counted some samples. -/
structure SharedEntry (entry : Json) (samples : List Int) : Prop where
  object : ∃ members, entry = .obj members
  buckets : ∀ bucket ∈ metricBuckets,
    entry.member bucket.1 = some (.int (Buckets.tally covered samples bucket))
  sum : ∃ sum, entry.member "sum" = some (.int sum)
  count : entry.member "count" = some (.int samples.length)

/-! ## Buckets -/

theorem covered_iff {bucket : String × Int} {elapsed : Int} :
    covered bucket elapsed = true ↔ elapsed < bucket.2 ∨ bucket.2 = 0 := by
  rw [covered, decide_eq_true_eq]

/-- The thresholds increase, and the last bucket covers everything. -/
theorem metricBuckets_nested : Buckets.Nested covered metricBuckets := by
  have increasing : metricBuckets.Pairwise fun inner outer =>
      inner.2 ≠ 0 ∧ (inner.2 ≤ outer.2 ∨ outer.2 = 0) := by decide
  refine increasing.imp fun order sample below => ?_
  rw [covered_iff] at below ⊢
  omega

/-- The names of the buckets differ from each other and from the names of the other members. -/
theorem metricBuckets_names : (metricBuckets.map Prod.fst ++ ["sum", "count"]).Nodup := by decide

theorem timingBucketsInc_eq (elapsed : Int) (table : List (String × Int)) (counts : List Int) :
    timingBucketsInc elapsed table counts = Buckets.bump covered elapsed table counts := by
  induction table generalizing counts with
  | nil => rfl
  | cons bucket table ih =>
      obtain ⟨name, threshold⟩ := bucket
      cases counts with
      | nil => rfl
      | cons count counts =>
          rw [timingBucketsInc, Buckets.bump, ih]
          simp only [covered_iff]

/-! ## Entries of a process -/

theorem localEntry_clear : LocalEntry .clear [] := ⟨by decide, rfl⟩

/-- A sample is counted. -/
theorem LocalEntry.add {timing : Timing} {samples : List Int} (entry : LocalEntry timing samples)
    (elapsed : Int) :
    LocalEntry
      { buckets := timingBucketsInc elapsed metricBuckets timing.buckets
        sum := timing.sum + elapsed
        count := timing.count + 1 } (samples ++ [elapsed]) where
  buckets := by
    rw [timingBucketsInc_eq, entry.buckets, Buckets.bump_counts metricBuckets_nested]
  count := by
    rw [entry.count, List.length_append]
    rfl

/-! ## Entries of the document -/

theorem addMember_obj {members : Object} {name : String} {value : Int}
    (present : Object.get members name = some (.int value)) (n : Int) :
    addMember (.obj members) name n = .obj (Object.set members name (.int (value + n))) := by
  rw [addMember, Json.member_obj, present]
  exact Json.updateMember_obj present _

/-- Members are increased one after the other; a row has a name, the old value and the increase. -/
theorem foldl_addMember {rows : List (String × Int × Int)} (distinct : (rows.map Prod.fst).Nodup)
    {members : Object}
    (present : ∀ row ∈ rows, Object.get members row.1 = some (.int row.2.1)) :
    ∃ after, rows.foldl (fun entry row => addMember entry row.1 row.2.2) (.obj members) =
        .obj after ∧
      (∀ row ∈ rows, Object.get after row.1 = some (.int (row.2.1 + row.2.2))) ∧
      ∀ other, other ∉ rows.map Prod.fst → Object.get after other = Object.get members other := by
  induction rows generalizing members with
  | nil => exact ⟨members, rfl, List.forall_mem_nil _, fun _ _ => rfl⟩
  | cons row rows ih =>
      obtain ⟨absent, distinct⟩ := List.nodup_cons.mp distinct
      obtain ⟨first, rest⟩ := List.forall_mem_cons.mp present
      rw [List.foldl_cons, addMember_obj first]
      have differs : ∀ other ∈ rows, other.1 ≠ row.1 := by
        intro other member same
        exact absent (List.mem_map.mpr ⟨other, member, same⟩)
      obtain ⟨after, folded, increased, frame⟩ := @ih distinct
        (Object.set members row.1 (.int (row.2.1 + row.2.2))) fun other member => by
          rw [Object.get_set_of_ne _ _ (differs other member)]
          exact rest other member
      refine ⟨after, folded, List.forall_mem_cons.mpr ⟨?_, increased⟩, fun other outside => ?_⟩
      · rw [frame row.1 absent, Object.get_set_self]
      · rw [List.map_cons, List.mem_cons, not_or] at outside
        rw [frame other outside.2, Object.get_set_of_ne _ _ outside.1]

/-- The name of a bucket is not one of the other two. -/
theorem bucket_name_ne {bucket : String × Int} (member : bucket ∈ metricBuckets) :
    bucket.1 ≠ "sum" ∧ bucket.1 ≠ "count" := by
  revert bucket
  decide

/-- A new entry has counted the samples of the process. -/
theorem timingsNew_shared {timing : Timing} {samples : List Int}
    (entry : LocalEntry timing samples) : SharedEntry (timingsNew timing) samples := by
  have rows : List.zipWith (fun bucket n => (bucket.1, Json.int n)) metricBuckets
      timing.buckets = metricBuckets.map fun bucket =>
        (bucket.1, .int (Buckets.tally covered samples bucket)) := by
    rw [entry.buckets, bucketCounts, Buckets.counts, List.zipWith_map_right, List.zipWith_self]
  have distinct : Object.Distinct ((metricBuckets.map fun bucket =>
      (bucket.1, Json.int (Buckets.tally covered samples bucket))) ++
        [("sum", .int (timing.sum / 1000)), ("count", .int timing.count)]) := by
    rw [Object.Distinct, List.map_append, List.map_map]
    exact metricBuckets_names
  rw [timingsNew, rows]
  refine ⟨⟨_, rfl⟩, fun bucket member => ?_,
    ⟨timing.sum / 1000, Object.get_of_mem distinct ?_⟩, Object.get_of_mem distinct ?_⟩
  · exact Object.get_of_mem distinct (List.mem_append_left _ (List.mem_map_of_mem member))
  · exact List.mem_append_right _ List.mem_cons_self
  · rw [entry.count]
    exact List.mem_append_right _ (List.mem_cons_of_mem _ List.mem_cons_self)

/-- A merged entry has counted the samples of both. -/
theorem SharedEntry.update {entry : Json} {pooled : List Int} (shared : SharedEntry entry pooled)
    {timing : Timing} {samples : List Int} (local_entry : LocalEntry timing samples) :
    SharedEntry (timingsUpdate entry timing) (pooled ++ samples) := by
  obtain ⟨⟨members, rfl⟩, buckets, ⟨sum, summed⟩, count⟩ := shared
  have rows : (List.zip metricBuckets timing.buckets).foldl
      (fun entry bucket => addMember entry bucket.1.1 bucket.2) (.obj members) =
      (metricBuckets.map fun bucket => (bucket.1, Buckets.tally covered pooled bucket,
        Buckets.tally covered samples bucket)).foldl
          (fun entry row => addMember entry row.1 row.2.2) (.obj members) := by
    have zip : List.zip metricBuckets (bucketCounts samples) =
        metricBuckets.map fun bucket => (bucket, Buckets.tally covered samples bucket) := by
      rw [bucketCounts, Buckets.counts, List.zip_map_right, List.zip_eq_zipWith, List.zipWith_self,
        List.map_map]
      rfl
    rw [local_entry.buckets, zip, List.foldl_map, List.foldl_map]
  have names : (metricBuckets.map fun bucket => (bucket.1, Buckets.tally covered pooled bucket,
      Buckets.tally covered samples bucket)).map Prod.fst = metricBuckets.map Prod.fst := by
    rw [List.map_map]
    rfl
  have present : ∀ row ∈ metricBuckets.map fun bucket => (bucket.1,
      Buckets.tally covered pooled bucket, Buckets.tally covered samples bucket),
      Object.get members row.1 = some (.int row.2.1) := by
    intro row member
    obtain ⟨bucket, inside, rfl⟩ := List.mem_map.mp member
    exact buckets bucket inside
  have distinct := (List.nodup_append.mp metricBuckets_names).1
  rw [← names] at distinct
  obtain ⟨after, folded, increased, frame⟩ := foldl_addMember distinct present
  rw [List.forall_mem_map] at increased
  rw [names] at frame
  have sum_after : Object.get after "sum" = some (.int sum) :=
    (frame "sum" (by decide)).trans summed
  have count_after : Object.get after "count" = some (.int pooled.length) :=
    (frame "count" (by decide)).trans count
  have updated : timingsUpdate (.obj members) timing =
      .obj (Object.set (Object.set after "sum" (addCount (.int sum) (timing.sum / 1000))) "count"
        (.int (pooled.length + timing.count))) := by
    have kept : Object.get (Object.set after "sum" (addCount (.int sum) (timing.sum / 1000)))
        "count" = some (.int pooled.length) := by
      rw [Object.get_set_of_ne _ _ (by decide), count_after]
    unfold timingsUpdate
    dsimp only
    rw [rows, folded, Json.member_obj, sum_after]
    dsimp only
    rw [Json.updateMember_obj sum_after, addMember_obj kept]
  rw [updated]
  refine ⟨⟨_, rfl⟩, fun bucket member => ?_,
    ⟨(addCount (.int sum) (timing.sum / 1000)).integerValue, ?_⟩, ?_⟩
  · obtain ⟨not_sum, not_count⟩ := bucket_name_ne member
    rw [Json.member_obj, Object.get_set_of_ne _ _ not_count, Object.get_set_of_ne _ _ not_sum,
      increased bucket member, Buckets.tally_append]
  · rw [Json.member_obj, Object.get_set_of_ne _ _ (by decide), Object.get_set_self]
    rfl
  · rw [Json.member_obj, Object.get_set_self, local_entry.count, List.length_append,
      Nat.cast_add]

/-- Members are set to zero one after the other. -/
theorem foldl_setNew {utf8 : String → Bool} {names : List String}
    (valid : ∀ name ∈ names, utf8 name = true) (members : Object) :
    ∃ after, names.foldl (fun entry name => Json.setNew utf8 entry name (.int 0)) (.obj members) =
        .obj after ∧
      ∀ name, Object.get after name =
        if name ∈ names then some (.int 0) else Object.get members name := by
  induction names generalizing members with
  | nil => exact ⟨members, rfl, fun _ => rfl⟩
  | cons first names ih =>
      obtain ⟨utf8_first, valid⟩ := List.forall_mem_cons.mp valid
      rw [List.foldl_cons, Json.setNew_obj utf8_first]
      obtain ⟨after, folded, zero⟩ := ih valid (Object.set members first (.int 0))
      refine ⟨after, folded, fun name => ?_⟩
      rw [zero, Object.get_set]
      by_cases same : name = first
      · simp [same]
      · simp [same]

/-- A reset entry has counted nothing. -/
theorem SharedEntry.reset {jansson : Jansson} (documented : jansson.Documented) {entry : Json}
    {pooled : List Int} (shared : SharedEntry entry pooled) :
    SharedEntry (resetTimer jansson entry) [] := by
  obtain ⟨⟨members, rfl⟩, -, -, -⟩ := shared
  have valid : ∀ name ∈ metricBuckets.map Prod.fst ++ ["sum", "count"],
      jansson.utf8 name = true := by
    have ascii : (metricBuckets.map Prod.fst ++ ["sum", "count"]).all
        (fun name => name.toList.all fun c => c.toNat < 128) = true := by decide +kernel
    intro name member
    refine documented.ascii name fun c inside => ?_
    exact of_decide_eq_true (List.all_eq_true.mp (List.all_eq_true.mp ascii name member) c inside)
  obtain ⟨after, folded, zero⟩ := foldl_setNew valid members
  rw [resetTimer, folded]
  refine ⟨⟨after, rfl⟩, fun bucket member => ?_, ⟨0, ?_⟩, ?_⟩
  · rw [Json.member_obj, zero, if_pos (List.mem_append_left _ (List.mem_map_of_mem member))]
    rfl
  · rw [Json.member_obj, zero, if_pos (by decide)]
  · rw [Json.member_obj, zero, if_pos (by decide)]
    rfl

end Metrics

end ModAuthOpenidc
