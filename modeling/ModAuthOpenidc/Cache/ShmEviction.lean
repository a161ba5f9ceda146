import ModAuthOpenidc.Cache.ShmReachable

/-!
# The eviction policy of the shared-memory backend

The scan of `oidc_cache_shm_evict` follows two candidates at once. Over the occupied slots in
ascending order one of them is the first expired slot and the other one the first slot with the
least access time, so the choice between them can be stated without the loop. The slot is then
searched again in the chain of its bucket and unlinked there.
-/

namespace ModAuthOpenidc

namespace Shm

open IndexChain

variable {hash : String → UInt64} {cfg : Config} {shm shm' : Header} {chain : Nat → List Nat}

/-! ## The two candidates -/

/-- The slots among `seen` that hold an entry. -/
def named (shm : Header) (seen : List Nat) : List Nat :=
  seen.filter fun idx => (shm.slots idx).sectionKey ≠ ""

/-- The first expired slot. -/
def firstExpired (shm : Header) (now : Int) (seen : List Nat) : Option Nat :=
  (named shm seen).find? fun idx => (shm.slots idx).expires ≤ now

/-- The first of the slots with the least access time. -/
noncomputable def leastRecent (shm : Header) (seen : List Nat) : Option Nat :=
  (named shm seen).argmin fun idx => (shm.slots idx).access

/-- The loop variables after the slots of `seen`. -/
structure Tracks (shm : Header) (now : Int) (seen : List Nat) (scan : Scan) : Prop where
  expired : scan.expiredVictim = (firstExpired shm now seen).getD 0
  lru : scan.lruVictim = (leastRecent shm seen).getD 0
  oldest : ∀ idx ∈ leastRecent shm seen, scan.oldest = (shm.slots idx).access

theorem getD_eq_zero_iff {candidate : Option Nat} (nonzero : 0 ∉ candidate) :
    candidate.getD 0 = 0 ↔ candidate = none := by
  cases candidate with
  | none => simp
  | some idx =>
      have positive : idx ≠ 0 := by
        rintro rfl
        exact nonzero rfl
      simp [positive]

theorem mem_of_firstExpired {now : Int} {seen : List Nat} {idx : Nat}
    (found : idx ∈ firstExpired shm now seen) : idx ∈ seen :=
  List.mem_of_mem_filter (List.mem_of_find?_eq_some found)

theorem mem_of_leastRecent {seen : List Nat} {idx : Nat} (found : idx ∈ leastRecent shm seen) :
    idx ∈ seen :=
  List.mem_of_mem_filter (List.argmin_mem found)

theorem firstExpired_concat (shm : Header) (now : Int) (seen : List Nat) (idx : Nat) :
    firstExpired shm now (seen ++ [idx]) = (firstExpired shm now seen).or
      (if (shm.slots idx).sectionKey ≠ "" ∧ (shm.slots idx).expires ≤ now then some idx
      else none) := by
  by_cases blank : (shm.slots idx).sectionKey = ""
  · simp [firstExpired, named, blank]
  · by_cases late : (shm.slots idx).expires ≤ now <;> simp [firstExpired, named, blank, late]

theorem leastRecent_concat (shm : Header) (seen : List Nat) {idx : Nat}
    (occupied : (shm.slots idx).sectionKey ≠ "") :
    leastRecent shm (seen ++ [idx]) = some (match leastRecent shm seen with
      | none => idx
      | some other => if (shm.slots idx).access < (shm.slots other).access then idx
          else other) := by
  have split : named shm (seen ++ [idx]) = named shm seen ++ [idx] := by simp [named, occupied]
  rw [leastRecent, split, List.argmin_concat, leastRecent]
  cases List.argmin (fun idx => (shm.slots idx).access) (named shm seen) with
  | none => rfl
  | some other => exact (apply_ite some _ _ _).symm

theorem leastRecent_concat_blank (shm : Header) (seen : List Nat) {idx : Nat}
    (blank : (shm.slots idx).sectionKey = "") :
    leastRecent shm (seen ++ [idx]) = leastRecent shm seen := by
  simp [leastRecent, named, blank]

/-- One turn of the scan. -/
theorem Tracks.step {now : Int} {seen : List Nat} {scan : Scan} (tracks : Tracks shm now seen scan)
    (nonzero : 0 ∉ seen) (idx : Nat) :
    Tracks shm now (seen ++ [idx]) (scanSlot shm now scan idx) := by
  have unexpired : (firstExpired shm now seen).getD 0 = 0 ↔ firstExpired shm now seen = none :=
    getD_eq_zero_iff fun found => nonzero (mem_of_firstExpired found)
  have unseen : (leastRecent shm seen).getD 0 = 0 ↔ leastRecent shm seen = none :=
    getD_eq_zero_iff fun found => nonzero (mem_of_leastRecent found)
  by_cases blank : (shm.slots idx).sectionKey = ""
  · have same : scanSlot shm now scan idx = scan := by simp [scanSlot, blank]
    rw [same]
    refine ⟨?_, ?_, ?_⟩
    · simpa [firstExpired_concat, blank] using tracks.expired
    · rw [leastRecent_concat_blank shm seen blank]
      exact tracks.lru
    · rw [leastRecent_concat_blank shm seen blank]
      exact tracks.oldest
  · refine ⟨?_, ?_, ?_⟩
    · simp only [scanSlot, blank, if_false, firstExpired_concat, ne_eq, not_false_eq_true, true_and]
      rw [tracks.expired]
      cases found : firstExpired shm now seen with
      | none => by_cases late : (shm.slots idx).expires ≤ now <;> simp [late]
      | some other =>
          have positive : other ≠ 0 := by simpa [found] using unexpired
          simp [positive]
    · simp only [scanSlot, blank, if_false, leastRecent_concat shm seen blank]
      rw [tracks.lru]
      cases found : leastRecent shm seen with
      | none => simp
      | some other =>
          have positive : other ≠ 0 := by simpa [found] using unseen
          simp [positive, tracks.oldest other found]
    · simp only [scanSlot, blank, if_false, leastRecent_concat shm seen blank]
      rw [tracks.lru]
      cases found : leastRecent shm seen with
      | none => simp
      | some other =>
          have positive : other ≠ 0 := by simpa [found] using unseen
          simp only [Option.getD_some, positive, false_or, tracks.oldest other found,
            Option.mem_def,
            Option.some.injEq, forall_eq']
          split
          · rfl
          · rfl

/-- The whole scan. -/
theorem Tracks.foldl {now : Int} {seen : List Nat} {scan : Scan} (tracks : Tracks shm now seen scan)
    (rest : List Nat) (nonzero : 0 ∉ seen ++ rest) :
    Tracks shm now (seen ++ rest) (rest.foldl (scanSlot shm now) scan) := by
  induction rest generalizing seen scan with
  | nil => simpa using tracks
  | cons idx rest ih =>
      have earlier : 0 ∉ seen := fun member => nonzero (List.mem_append_left _ member)
      have finished := ih (tracks.step earlier idx) (by simpa using nonzero)
      simpa [List.append_assoc] using finished

theorem scanSlots_tracks (shm : Header) (now : Int) :
    Tracks shm now (List.range' 1 shm.nslots) (scanSlots shm now) := by
  have start : Tracks shm now [] ⟨0, 0, 0⟩ := ⟨rfl, rfl, by simp [leastRecent, named]⟩
  exact start.foldl _ (by simp)

/-! ## The choice -/

theorem named_sorted (shm : Header) (count : Nat) :
    (named shm (List.range' 1 count)).Pairwise (· < ·) :=
  List.Pairwise.filter _ List.pairwise_lt_range'

theorem mem_named {count idx : Nat} :
    idx ∈ named shm (List.range' 1 count) ↔
      (1 ≤ idx ∧ idx ≤ count) ∧ (shm.slots idx).sectionKey ≠ "" := by
  rw [named, List.mem_filter, List.mem_range'_1, decide_eq_true_eq]
  constructor
  · rintro ⟨inside, occupied⟩
    exact ⟨by omega, occupied⟩
  · rintro ⟨inside, occupied⟩
    exact ⟨by omega, occupied⟩

/-- The first hit in an ascending list is the least one. -/
theorem find?_le {nodes : List Nat} (sorted : nodes.Pairwise (· < ·))
    {hit : Nat → Bool} {first : Nat}
    (found : nodes.find? hit = some first) {other : Nat} (member : other ∈ nodes)
    (also : hit other = true) : first ≤ other := by
  obtain ⟨-, front, back, rfl, misses⟩ := List.find?_eq_some_iff_append.mp found
  rcases List.mem_append.mp member with early | late
  · have missed := misses other early
    simp [also] at missed
  · rcases List.mem_cons.mp late with rfl | behind
    · exact le_rfl
    · have tail := (List.pairwise_append.mp sorted).2.1
      exact ((List.pairwise_cons.mp tail).1 other behind).le

/-- Positions in an ascending list are ordered like its members. -/
theorem le_of_idxOf_le {nodes : List Nat} (sorted : nodes.Pairwise (· < ·)) {first other : Nat}
    (member : first ∈ nodes) (member' : other ∈ nodes)
    (earlier : nodes.idxOf first ≤ nodes.idxOf other) : first ≤ other := by
  rcases earlier.lt_or_eq with strict | same
  · have bound := List.idxOf_lt_length_of_mem member'
    have ordered := List.pairwise_iff_getElem.mp sorted _ _ (strict.trans bound) bound strict
    rw [List.getElem_idxOf, List.getElem_idxOf] at ordered
    exact ordered.le
  · exact ((List.idxOf_inj member).mp same).le

/-- The entry to drop among all entries: the lowest-numbered expired one, or if none has expired the
lowest-numbered of those with the least access time. -/
def Evictable (shm : Header) (now : Int) (idx : Nat) : Prop :=
  ((shm.slots idx).expires ≤ now ∧
    ∀ other, InRange shm other → (shm.slots other).sectionKey ≠ "" →
      (shm.slots other).expires ≤ now → idx ≤ other) ∨
  ∀ other, InRange shm other → (shm.slots other).sectionKey ≠ "" →
    now < (shm.slots other).expires ∧ (shm.slots idx).access ≤ (shm.slots other).access ∧
      ((shm.slots other).access = (shm.slots idx).access → idx ≤ other)

/-- What the scan chooses. -/
theorem victim_evictable {now : Int} (chosen : victim shm now ≠ 0) :
    Evictable shm now (victim shm now) := by
  have tracks := scanSlots_tracks shm now
  have sorted := named_sorted shm shm.nslots
  cases expired : firstExpired shm now (List.range' 1 shm.nslots) with
  | some first =>
      have inside := (mem_named.mp (List.mem_of_find?_eq_some expired)).1
      have positive : first ≠ 0 := by omega
      have taken : victim shm now = first := by simp [victim, tracks.expired, expired, positive]
      left
      rw [taken]
      refine ⟨by simpa using List.find?_some expired, ?_⟩
      intro other within occupied late
      exact find?_le sorted expired (mem_named.mpr ⟨within, occupied⟩) (by simpa using late)
  | none =>
      have fresh : (scanSlots shm now).expiredVictim = 0 := by rw [tracks.expired, expired]; rfl
      have taken : victim shm now = (leastRecent shm (List.range' 1 shm.nslots)).getD 0 := by
        simp [victim, fresh, tracks.lru]
      cases recent : leastRecent shm (List.range' 1 shm.nslots) with
      | none => simp [taken, recent] at chosen
      | some least =>
          rw [recent, Option.getD_some] at taken
          right
          rw [taken]
          intro other within occupied
          have member := mem_named.mpr ⟨within, occupied⟩
          have least_le : (shm.slots least).access ≤ (shm.slots other).access :=
            @List.le_of_mem_argmin _ _ _ (fun idx => (shm.slots idx).access) _ _ _ member recent
          refine ⟨?_, least_le, ?_⟩
          · simpa using List.find?_eq_none.mp expired other member
          · intro same
            exact le_of_idxOf_le sorted (List.argmin_mem recent) member
              (List.index_of_argmin recent member same.le)

/-! ## Eviction from a full segment -/

/-- In every well-formed segment without a vacant slot, so in every full segment that calls can
reach, the lowest-numbered expired entry is evicted, or if there is none the lowest-numbered one
with the least access time. An unexpired entry is only dropped when no entry has expired and none is
older. The victim leaves the chain of its own bucket; the other entries of that chain and all other
chains keep their order. -/
theorem evict_policy (wellFormed : WellFormed hash shm)
    (full : ∀ idx, InRange shm idx → (shm.slots idx).sectionKey ≠ "") (now : Int) :
    ∃ shm' idx age, evict hash shm now = some (shm', idx, age) ∧ InRange shm idx ∧
      (((shm.slots idx).expires ≤ now ∧
          ∀ other, InRange shm other → (shm.slots other).expires ≤ now → idx ≤ other) ∨
        (∀ other, InRange shm other → now < (shm.slots other).expires ∧
          (shm.slots idx).access ≤ (shm.slots other).access ∧
          ((shm.slots other).access = (shm.slots idx).access → idx ≤ other))) ∧
      (now < (shm.slots idx).expires → ∀ other, InRange shm other →
        now < (shm.slots other).expires ∧ ¬(shm.slots other).access < (shm.slots idx).access) ∧
      SameEntries shm shm' ∧
      ∃ own < shm.nbuckets, own = bucketOf hash shm (shm.slots idx).sectionKey ∧
        ∀ bucket < shm.nbuckets, ∀ nodes, Chain shm.next (shm.buckets bucket) nodes →
          (idx ∈ nodes ↔ bucket = own) ∧
          Chain shm'.next (shm'.buckets bucket) (nodes.erase idx) := by
  obtain ⟨chain, free, owned⟩ := wellFormed.owned
  have noneFree : free = [] := by
    rw [List.eq_nil_iff_forall_not_mem]
    intro idx isFree
    exact full idx ⟨owned.free_pos isFree, owned.freeBound idx isFree⟩ (owned.blank idx isFree)
  subst noneFree
  obtain ⟨noted, age, front, back, evicted, notedOwned, entries, split, inside, -⟩ :=
    owned.evict_eq wellFormed.slots_pos now
  have nonzero : victim shm now ≠ 0 := by
    have positive := inside.1
    omega
  have choice := victim_evictable nonzero
  generalize victim shm now = idx at *
  generalize place : bucketOf hash shm (shm.slots idx).sectionKey = own at *
  have member : idx ∈ chain own := by simp [split]
  have apart {bucket : Nat} (different : bucket ≠ own) : idx ∉ chain bucket :=
    fun member' => different (owned.bucket_unique member' member)
  have spliced := notedOwned.spliceOut split
  refine ⟨_, idx, age, evicted, inside, ?_, ?_, entries.after_same (Edit.spliceOut ..), own, ?_,
    place.symm, ?_⟩
  · rcases choice with ⟨late, first⟩ | recent
    · exact .inl ⟨late, fun other within => first other within (full other within)⟩
    · exact .inr fun other within => recent other within (full other within)
  · intro early other within
    rcases choice with ⟨late, -⟩ | recent
    · omega
    · obtain ⟨fresh, least, -⟩ := recent other within (full other within)
      exact ⟨fresh, by omega⟩
  · rw [← place]
    exact bucketOf_lt hash wellFormed.buckets_pos _
  · intro bucket _ nodes listed
    obtain rfl := (owned.chains bucket).unique listed
    have kept := spliced.chains bucket
    by_cases here : bucket = own
    · subst here
      have absent : idx ∉ front := by
        have nodup := (owned.chains bucket).nodup
        rw [split] at nodup
        exact fun early => (List.nodup_append.mp nodup).2.2 idx early idx List.mem_cons_self rfl
      rw [Function.update_self] at kept
      rw [split, List.erase_append_right _ absent, List.erase_cons_head]
      exact ⟨by simp, kept⟩
    · rw [Function.update_of_ne here] at kept
      rw [List.erase_of_not_mem (apart here)]
      exact ⟨⟨fun held => absurd held (apart here), fun same => absurd same here⟩, kept⟩

/-- Two slots that calls have filled. -/
def filledSegment : Header :=
  ((run (fun _ => 0) twoSlots (configuredSegment twoSlots fun _ => default)
    [.set {} "s" "a" (some "1") 100 1, .set {} "s" "b" (some "2") 100 2]).map Prod.fst).getD
      (configuredSegment twoSlots fun _ => default)

theorem filledSegment_wellFormed : WellFormed (fun _ => 0) filledSegment := by
  obtain ⟨final, replies, ran, wellFormed, -⟩ := (postConfig_wellFormed (fun _ => 0)
    (rfl : postConfig twoSlots (fun _ => default) = some _)).run twoSlots
      [.set {} "s" "a" (some "1") 100 1, .set {} "s" "b" (some "2") 100 2]
  simpa [filledSegment, ran] using wellFormed

/-- A third entry takes the place of one of them. -/
theorem evict_policy_two_slots :
    ∃ shm' idx age, evict (fun _ => 0) filledSegment 50 = some (shm', idx, age) ∧
      InRange filledSegment idx ∧
      (((filledSegment.slots idx).expires ≤ 50 ∧ ∀ other, InRange filledSegment other →
          (filledSegment.slots other).expires ≤ 50 → idx ≤ other) ∨
        (∀ other, InRange filledSegment other → 50 < (filledSegment.slots other).expires ∧
          (filledSegment.slots idx).access ≤ (filledSegment.slots other).access ∧
          ((filledSegment.slots other).access = (filledSegment.slots idx).access → idx ≤ other))) ∧
      (50 < (filledSegment.slots idx).expires → ∀ other, InRange filledSegment other →
        50 < (filledSegment.slots other).expires ∧
          ¬(filledSegment.slots other).access < (filledSegment.slots idx).access) ∧
      SameEntries filledSegment shm' ∧
      ∃ own < filledSegment.nbuckets,
        own = bucketOf (fun _ => 0) filledSegment (filledSegment.slots idx).sectionKey ∧
        ∀ bucket < filledSegment.nbuckets, ∀ nodes,
          Chain filledSegment.next (filledSegment.buckets bucket) nodes →
          (idx ∈ nodes ↔ bucket = own) ∧
          Chain shm'.next (shm'.buckets bucket) (nodes.erase idx) := by
  refine evict_policy filledSegment_wellFormed ?_ 50
  rintro idx ⟨low, high⟩
  have two : filledSegment.nslots = 2 := by decide +kernel
  obtain rfl | rfl : idx = 1 ∨ idx = 2 := by omega
  · decide +kernel
  · decide +kernel

end Shm

end ModAuthOpenidc
