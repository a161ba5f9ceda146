import ModAuthOpenidc.Cache.ShmCalls

/-!
# Reachable segments

The segment built at startup is well formed and every call keeps it so.  A well-formed segment is
partitioned into its bucket chains and its free list, and `oidc_cache_shm_validate` accepts it.
-/

namespace ModAuthOpenidc

namespace Shm

open IndexChain

variable {hash : String → UInt64} {cfg : Config} {shm shm' : Header} {chain : Nat → List Nat}
  {free : List Nat}

/-! ## Startup -/

theorem growBuckets_pos (wanted fuel : Nat) {nbuckets : Nat} (positive : 1 ≤ nbuckets) :
    1 ≤ growBuckets wanted fuel nbuckets := by
  induction fuel generalizing nbuckets with
  | zero => exact positive
  | succ fuel ih =>
      unfold growBuckets
      split
      · exact ih (by omega)
      · exact positive

/-- The free list of the initial segment from any slot on. -/
theorem initialSegment_free (nslots nbuckets entrySize : Nat) (raw : Nat → Entry) (count : Nat)
    {first : Nat} (positive : 1 ≤ first) (ends : first + count = nslots) :
    Chain (initialSegment nslots nbuckets entrySize raw).next first
      (List.range' first (count + 1)) := by
  have link : (initialSegment nslots nbuckets entrySize raw).next first =
      if first < nslots then first + 1 else 0 := by
    have inside : 1 ≤ first ∧ first ≤ nslots := by omega
    simp [Header.next, initialSegment, inside]
  induction count generalizing first with
  | zero =>
      refine .cons (by omega) ?_
      rw [link, if_neg (by omega)]
      exact .nil
  | succ count ih =>
      rw [List.range'_succ]
      refine .cons (by omega) ?_
      rw [link, if_pos (by omega)]
      refine ih (by omega) (by omega) ?_
      have inside : 1 ≤ first + 1 ∧ first + 1 ≤ nslots := by omega
      simp [Header.next, initialSegment, inside]

theorem initialSegment_owned (hash : String → UInt64) {nslots : Nat} (nbuckets entrySize : Nat)
    (raw : Nat → Entry) (slots_pos : 1 ≤ nslots) :
    Owned hash (initialSegment nslots nbuckets entrySize raw) (fun _ => []) (List.range' 1 nslots)
      none where
  chains _ := .nil
  freeChain := by
    have listed := initialSegment_free nslots nbuckets entrySize raw (nslots - 1) le_rfl (by omega)
    rwa [Nat.sub_add_cancel slots_pos] at listed
  keyed _ _ member := by simp at member
  blank idx member := by
    have inside : 1 ≤ idx ∧ idx ≤ nslots := by
      rw [List.mem_range'_1] at member
      omega
    simp [initialSegment, inside]
  chainBound _ _ member := by simp at member
  freeBound idx member := by
    rw [List.mem_range'_1] at member
    change idx ≤ nslots
    omega
  covered idx low high := by
    have bounded : idx ≤ nslots := high
    exact .inr (.inl (List.mem_range'_1.mpr (by omega)))
  distinct _ _ member := by simp at member
  looseOutside := by simp

/-- A successful start builds the initial segment, with at least one slot and one bucket. -/
theorem postConfig_eq_initialSegment {raw : Nat → Entry} {start : Header}
    (started : postConfig cfg raw = some start) :
    ∃ nslots nbuckets entrySize, 1 ≤ nslots ∧ 1 ≤ nbuckets ∧
      start = initialSegment nslots nbuckets entrySize raw := by
  unfold postConfig at started
  split at started
  · simp at started
  split at started
  · simp at started
  · next total sized =>
      have positive : 0 < cfg.shmSizeMax := by
        unfold segmentSize at sized
        dsimp only at sized
        split at sized
        · simp at sized
        · next legal => exact Int.not_le.mp fun nonpositive => legal (.inl nonpositive)
      have slots_pos : 1 ≤ castUnsigned 32 cfg.shmSizeMax := by
        have small := cfg.shmSizeMax_int.2
        unfold castUnsigned
        omega
      exact ⟨_, _, _, slots_pos, growBuckets_pos _ _ le_rfl, (Option.some.inj started).symm⟩

theorem postConfig_wellFormed (hash : String → UInt64) {raw : Nat → Entry} {start : Header}
    (started : postConfig cfg raw = some start) : WellFormed hash start := by
  obtain ⟨nslots, nbuckets, entrySize, slots_pos, buckets_pos, rfl⟩ :=
    postConfig_eq_initialSegment started
  exact ⟨slots_pos, buckets_pos, _, _, initialSegment_owned hash _ _ raw slots_pos⟩

/-! ## Steps and runs -/

/-- The section key of a call that passes the size checks and obtains the mutex. -/
def admitted (cfg : Config) : Call → Option String
  | .get mutex sectionName key _ => if mutex.lock then getKey sectionName key else none
  | .set mutex sectionName key value _ _ =>
      if mutex.lock && valueAccepted cfg value then getKey sectionName key else none

/-- Whether the mutex is released successfully at the end of a call. -/
def Call.unlocks : Call → Bool
  | .get mutex .. => mutex.unlock
  | .set mutex .. => mutex.unlock

/-- The effect of an admitted call on the entries, and the value it returns. -/
def Effect (shm shm' : Header) (sectionKey : String) : Call → Option String → Prop
  | .get _ _ _ now, answer => GetEffect shm shm' sectionKey now answer
  | .set _ _ _ value expiry now, answer =>
      answer = none ∧ SetEffect shm shm' sectionKey now expiry value

theorem Effect.nslots {sectionKey : String} {call : Call} {answer : Option String}
    (effect : Effect shm shm' sectionKey call answer) : shm'.nslots = shm.nslots := by
  cases call with
  | get mutex sectionName key now =>
      cases effect with
      | miss _ edit => exact edit.nslots
      | hit _ _ _ edit => exact edit.nslots
      | expired _ _ _ edit _ => exact edit.nslots
  | set mutex sectionName key value expiry now =>
      cases effect.2 with
      | deleteAbsent _ edit => exact edit.nslots
      | delete _ _ edit _ => exact edit.nslots
      | overwrite _ _ _ edit => exact edit.nslots
      | insert _ _ _ _ _ edit => exact edit.nslots

/-- A call that is not admitted fails and leaves the segment alone. -/
theorem step_refused {call : Call} (refused : admitted cfg call = none) :
    step hash cfg shm call = some (shm, { ok := false }) := by
  cases call with
  | get mutex sectionName key now =>
      simp only [step, get]
      cases accepted : getKey sectionName key with
      | none => rfl
      | some sectionKey =>
          have unlocked : mutex.lock = false := by
            simpa [admitted, accepted] using refused
          simp [unlocked]
  | set mutex sectionName key value expiry now =>
      simp only [step, set]
      cases accepted : getKey sectionName key with
      | none => rfl
      | some sectionKey =>
          have stopped : mutex.lock = true → valueAccepted cfg value = false := by
            simpa [admitted, accepted] using refused
          cases locked : mutex.lock with
          | false => simp
          | true =>
              have oversized : value.any (fun v => !valueFits cfg v) = true := by
                simpa only [valueAccepted, Bool.not_eq_false'] using stopped locked
              simp only [oversized, if_true]

/-- An admitted call returns, keeps the segment well formed and has the described effect. -/
theorem WellFormed.step_admitted (wellFormed : WellFormed hash shm) {call : Call}
    {sectionKey : String} (accepted : admitted cfg call = some sectionKey) :
    ∃ shm' reply, step hash cfg shm call = some (shm', reply) ∧ WellFormed hash shm' ∧
      reply.ok = call.unlocks ∧ Effect shm shm' sectionKey call reply.value := by
  cases call with
  | get mutex sectionName key now =>
      have checks : mutex.lock = true ∧ getKey sectionName key = some sectionKey := by
        simpa [admitted] using accepted
      exact wellFormed.get checks.1 checks.2 now
  | set mutex sectionName key value expiry now =>
      have checks : (mutex.lock = true ∧ valueAccepted cfg value = true) ∧
          getKey sectionName key = some sectionKey := by
        simpa [admitted] using accepted
      exact wellFormed.set checks.1.1 checks.2 checks.1.2 expiry now

/-- Every call returns and keeps the segment well formed, whatever the mutex does. -/
theorem WellFormed.step (cfg : Config) (wellFormed : WellFormed hash shm) (call : Call) :
    ∃ shm' reply, step hash cfg shm call = some (shm', reply) ∧ WellFormed hash shm' ∧
      shm'.nslots = shm.nslots := by
  cases accepted : admitted cfg call with
  | none => exact ⟨shm, _, step_refused accepted, wellFormed, rfl⟩
  | some sectionKey =>
      obtain ⟨shm', reply, stepped, preserved, -, effect⟩ := wellFormed.step_admitted accepted
      exact ⟨shm', reply, stepped, preserved, effect.nslots⟩

theorem WellFormed.run (cfg : Config) (wellFormed : WellFormed hash shm) (calls : List Call) :
    ∃ final replies, run hash cfg shm calls = some (final, replies) ∧ WellFormed hash final ∧
      final.nslots = shm.nslots := by
  induction calls generalizing shm with
  | nil => exact ⟨shm, [], rfl, wellFormed, rfl⟩
  | cons call calls ih =>
      obtain ⟨shm', reply, stepped, preserved, same⟩ := wellFormed.step cfg call
      obtain ⟨final, replies, ran, finished, same'⟩ := ih preserved
      exact ⟨final, reply :: replies, by simp [Shm.run, stepped, ran], finished, same'.trans same⟩

/-! ## The partition -/

/-- The slots are split into finite chains: one for each bucket and the free list. -/
structure Partitioned (hash : String → UInt64) (shm : Header) (chain : Nat → List Nat)
    (free : List Nat) : Prop where
  /-- Following the links of a bucket visits `chain bucket` and ends. -/
  chains : ∀ bucket < shm.nbuckets, Chain shm.next (shm.buckets bucket) (chain bucket)
  /-- Following the links of the free list visits `free` and ends. -/
  freeChain : Chain shm.next shm.freeHead free
  /-- Together they list each slot exactly once. -/
  partition : (free ++ (List.range shm.nbuckets).flatMap chain).Perm (List.range' 1 shm.nslots)
  /-- A chained slot is named and linked from the bucket its name hashes to. -/
  keyed : ∀ bucket < shm.nbuckets, ∀ idx ∈ chain bucket,
    (shm.slots idx).sectionKey ≠ "" ∧ bucketOf hash shm (shm.slots idx).sectionKey = bucket
  /-- A free slot has no name. -/
  blank : ∀ idx ∈ free, (shm.slots idx).sectionKey = ""
  /-- No two chained slots have the same name. -/
  distinct : ∀ bucket < shm.nbuckets, ∀ idx ∈ chain bucket, ∀ bucket' < shm.nbuckets,
    ∀ idx' ∈ chain bucket',
    (shm.slots idx).sectionKey = (shm.slots idx').sectionKey → idx = idx'

theorem bucketOf_lt (hash : String → UInt64) (buckets_pos : 1 ≤ shm.nbuckets)
    (sectionKey : String) : bucketOf hash shm sectionKey < shm.nbuckets := by
  have masked : bucketOf hash shm sectionKey ≤ shm.nbuckets - 1 := Nat.and_le_right
  omega

theorem Owned.nodup_flatMap (owned : Owned hash shm chain free none) (buckets : List Nat)
    (nodup : buckets.Nodup) : (buckets.flatMap chain).Nodup := by
  rw [List.nodup_flatMap]
  refine ⟨fun bucket _ => (owned.chains bucket).nodup, ?_⟩
  apply nodup.imp
  intro bucket bucket' different idx member member'
  exact different (owned.bucket_unique member member')

theorem Owned.partitioned (owned : Owned hash shm chain free none)
    (buckets_pos : 1 ≤ shm.nbuckets) : Partitioned hash shm chain free where
  chains bucket _ := owned.chains bucket
  freeChain := owned.freeChain
  partition := by
    rw [List.perm_ext_iff_of_nodup]
    · intro idx
      simp only [List.mem_append, List.mem_flatMap, List.mem_range, List.mem_range'_1]
      constructor
      · rintro (isFree | ⟨bucket, -, member⟩)
        · have bounded := owned.freeBound idx isFree
          exact ⟨owned.free_pos isFree, by omega⟩
        · have bounded := owned.chainBound bucket idx member
          exact ⟨owned.chain_pos member, by omega⟩
      · rintro ⟨low, high⟩
        rcases owned.covered idx low (by omega) with isLoose | isFree | ⟨bucket, member⟩
        · simp at isLoose
        · exact .inl isFree
        · refine .inr ⟨bucket, ?_, member⟩
          rw [← (owned.keyed bucket idx member).2]
          exact bucketOf_lt hash buckets_pos _
    · refine List.nodup_append.mpr
        ⟨owned.freeChain.nodup, owned.nodup_flatMap _ List.nodup_range, ?_⟩
      rintro idx isFree idx' member rfl
      obtain ⟨bucket, -, chained⟩ := List.mem_flatMap.mp member
      exact owned.notMem_free_of_chain chained isFree
    · exact List.nodup_range'
  keyed bucket _ := owned.keyed bucket
  blank := owned.blank
  distinct bucket _ idx member bucket' _ := owned.distinct bucket idx member bucket'

/-! ## The diagnostic walk -/

/-- A walk along unvisited, acceptable nodes succeeds and marks exactly these nodes. -/
theorem validateWalk_ok {reject : (Nat → Bool) → Nat → Option String} {next : Nat → Nat}
    {head : Nat} {nodes : List Nat} (chain : Chain next head nodes)
    (acceptable : ∀ node ∈ nodes, ∀ visited : Nat → Bool, visited node = false →
      reject visited node = none)
    (fuel : Nat) (enough : nodes.length < fuel) (visited : Nat → Bool)
    (fresh : ∀ node ∈ nodes, visited node = false) :
    ∃ visited', validateWalk reject next fuel visited head = some (.ok visited') ∧
      ∀ idx, visited' idx = true ↔ visited idx = true ∨ idx ∈ nodes := by
  have nodup := chain.nodup
  induction chain generalizing fuel visited with
  | nil =>
      obtain ⟨fuel, rfl⟩ := Nat.exists_eq_succ_of_ne_zero (Nat.ne_of_gt enough)
      exact ⟨visited, by simp [validateWalk], by simp⟩
  | @cons node rest nonzero _ ih =>
      obtain ⟨fuel, rfl⟩ := Nat.exists_eq_succ_of_ne_zero (Nat.ne_of_gt (Nat.zero_lt_of_lt enough))
      obtain ⟨first, nodup⟩ := List.nodup_cons.mp nodup
      have accepted := acceptable node List.mem_cons_self visited (fresh node List.mem_cons_self)
      have fresh' : ∀ other ∈ rest, Function.update visited node true other = false := by
        intro other member
        rw [Function.update_of_ne (ne_of_mem_of_not_mem member first)]
        exact fresh other (List.mem_cons_of_mem _ member)
      obtain ⟨visited', walked, marked⟩ :=
        ih (fun other member => acceptable other (List.mem_cons_of_mem _ member)) fuel
          (by simpa using enough) _ fresh' nodup
      refine ⟨visited', by simp [validateWalk, nonzero, accepted, walked], ?_⟩
      intro idx
      rw [marked, List.mem_cons]
      by_cases here : idx = node
      · simp [here]
      · simp [here]

theorem Owned.validateBuckets (owned : Owned hash shm chain free none) (buckets : List Nat)
    (nodup : buckets.Nodup) (visited : Nat → Bool)
    (fresh : ∀ bucket ∈ buckets, ∀ idx ∈ chain bucket, visited idx = false) :
    ∃ visited', validateBuckets hash shm buckets visited = some (.ok visited') ∧
      ∀ idx, visited' idx = true ↔ visited idx = true ∨ ∃ bucket ∈ buckets, idx ∈ chain bucket := by
  induction buckets generalizing visited with
  | nil => exact ⟨visited, rfl, by simp⟩
  | cons bucket buckets ih =>
      obtain ⟨first, nodup⟩ := List.nodup_cons.mp nodup
      have acceptable : ∀ idx ∈ chain bucket, ∀ seen : Nat → Bool, seen idx = false →
          rejectOccupied hash shm bucket seen idx = none := by
        intro idx member seen unseen
        obtain ⟨named, hashed⟩ := owned.keyed bucket idx member
        have bounded := owned.chainBound bucket idx member
        simp [rejectOccupied, unseen, named, hashed, bounded]
      obtain ⟨visited₁, walked, marked₁⟩ := validateWalk_ok (owned.chains bucket) acceptable _
        (owned.chain_length bucket) visited (fresh bucket List.mem_cons_self)
      have fresh₁ : ∀ other ∈ buckets, ∀ idx ∈ chain other, visited₁ idx = false := by
        intro other listed idx member
        rw [Bool.eq_false_iff, ne_eq, marked₁]
        rintro (seen | member')
        · simp [fresh other (List.mem_cons_of_mem _ listed) idx member] at seen
        · rw [owned.bucket_unique member' member] at first
          exact first listed
      obtain ⟨visited₂, finished, marked₂⟩ := ih nodup visited₁ fresh₁
      refine ⟨visited₂, by simp [Shm.validateBuckets, walked, finished], ?_⟩
      intro idx
      simp only [marked₂, marked₁, List.mem_cons, exists_eq_or_imp, or_assoc]

/-- The diagnostic walk accepts every well-formed segment. -/
theorem WellFormed.validate (wellFormed : WellFormed hash shm) :
    validate hash shm = some (.ok ()) := by
  obtain ⟨chain, free, owned⟩ := wellFormed.owned
  obtain ⟨visited, walked, marked⟩ := owned.validateBuckets (List.range shm.nbuckets)
    List.nodup_range (fun _ => false) (by simp)
  have fresh : ∀ idx ∈ free, visited idx = false := by
    intro idx isFree
    rw [Bool.eq_false_iff, ne_eq, marked]
    rintro (seen | ⟨bucket, -, member⟩)
    · simp at seen
    · exact owned.notMem_free_of_chain member isFree
  have acceptable : ∀ idx ∈ free, ∀ seen : Nat → Bool, seen idx = false →
      rejectFree shm seen idx = none := by
    intro idx isFree seen unseen
    simp [rejectFree, unseen, owned.blank idx isFree, owned.freeBound idx isFree]
  have enough : free.length < shm.nslots + 1 :=
    Nat.lt_succ_of_le (owned.freeChain.length_le owned.freeBound)
  obtain ⟨visited', listed, marked'⟩ :=
    validateWalk_ok owned.freeChain acceptable _ enough visited fresh
  have complete : (List.range' 1 shm.nslots).find? (fun idx => visited' idx = false) = none := by
    rw [List.find?_eq_none]
    intro idx inside
    rw [List.mem_range'_1] at inside
    rw [decide_eq_true_eq, Bool.not_eq_false, marked', marked]
    rcases owned.covered idx inside.1 (by omega) with isLoose | isFree | ⟨bucket, member⟩
    · simp at isLoose
    · exact .inr isFree
    · refine .inl (.inr ⟨bucket, ?_, member⟩)
      rw [List.mem_range, ← (owned.keyed bucket idx member).2]
      exact bucketOf_lt hash wellFormed.buckets_pos _
  simp only [Shm.validate, walked, validateFreeList, listed, validateOwnership, complete]

/-- A configuration with two slots. -/
def twoSlots : Config where
  shmSizeMax := 2
  shmEntrySizeMax := 1024

end Shm

end ModAuthOpenidc
