import ModAuthOpenidc.Cache.Shm

/-!
# Ownership of the shared-memory slots

Every slot belongs to exactly one place: the chain of the bucket its key hashes to, or the free
list.  Between two link updates of one call a single slot may belong to neither; such a slot is
called loose here.  The four link operations of the backend move one slot in or out of the loose
position, and each is proved once.  The calls of the backend are sequences of these operations.
-/

namespace ModAuthOpenidc

namespace Shm

open IndexChain

/-- `chain` and `free` describe who owns each slot, up to one loose slot. -/
structure Owned (hash : String → UInt64) (shm : Header) (chain : Nat → List Nat) (free : List Nat)
    (loose : Option Nat) : Prop where
  /-- Every bucket head starts its chain. -/
  chains : ∀ bucket, Chain shm.next (shm.buckets bucket) (chain bucket)
  /-- The free list starts at `freeHead`. -/
  freeChain : Chain shm.next shm.freeHead free
  /-- A chained slot is named and hashes to its bucket. -/
  keyed : ∀ bucket, ∀ idx ∈ chain bucket,
    (shm.slots idx).sectionKey ≠ "" ∧ bucketOf hash shm (shm.slots idx).sectionKey = bucket
  /-- A free slot has no name. -/
  blank : ∀ idx ∈ free, (shm.slots idx).sectionKey = ""
  /-- Chained slots exist. -/
  chainBound : ∀ bucket, ∀ idx ∈ chain bucket, idx ≤ shm.nslots
  /-- Free slots exist. -/
  freeBound : ∀ idx ∈ free, idx ≤ shm.nslots
  /-- No slot is lost. -/
  covered : ∀ idx, 1 ≤ idx → idx ≤ shm.nslots →
    loose = some idx ∨ idx ∈ free ∨ ∃ bucket, idx ∈ chain bucket
  /-- No two chained slots carry the same name. -/
  distinct : ∀ bucket, ∀ idx ∈ chain bucket, ∀ bucket', ∀ idx' ∈ chain bucket',
    (shm.slots idx).sectionKey = (shm.slots idx').sectionKey → idx = idx'
  /-- The loose slot is owned by nobody. -/
  looseOutside : ∀ idx, loose = some idx →
    1 ≤ idx ∧ idx ≤ shm.nslots ∧ idx ∉ free ∧ ∀ bucket, idx ∉ chain bucket

variable {hash : String → UInt64} {cfg : Config} {shm shm' : Header} {chain : Nat → List Nat}
  {free : List Nat} {loose : Option Nat}

/-- Two segments with the same names and links; payloads and warnings may differ. -/
structure SameLinks (shm shm' : Header) : Prop where
  nslots : shm'.nslots = shm.nslots
  nbuckets : shm'.nbuckets = shm.nbuckets
  freeHead : shm'.freeHead = shm.freeHead
  buckets : shm'.buckets = shm.buckets
  next : shm'.next = shm.next
  sectionKey : ∀ idx, (shm'.slots idx).sectionKey = (shm.slots idx).sectionKey

theorem bucketOf_congr (same : shm'.nbuckets = shm.nbuckets) (sectionKey : String) :
    bucketOf hash shm' sectionKey = bucketOf hash shm sectionKey := by
  simp [bucketOf, same]

/-- Ownership only reads names and links. -/
theorem Owned.sameLinks (owned : Owned hash shm chain free loose) (same : SameLinks shm shm') :
    Owned hash shm' chain free loose where
  chains bucket := by
    rw [same.next, same.buckets]
    exact owned.chains bucket
  freeChain := by
    rw [same.next, same.freeHead]
    exact owned.freeChain
  keyed bucket idx member := by
    rw [same.sectionKey, bucketOf_congr same.nbuckets]
    exact owned.keyed bucket idx member
  blank idx member := by
    rw [same.sectionKey]
    exact owned.blank idx member
  chainBound bucket idx member := same.nslots ▸ owned.chainBound bucket idx member
  freeBound idx member := same.nslots ▸ owned.freeBound idx member
  covered idx positive bounded := owned.covered idx positive (same.nslots ▸ bounded)
  distinct bucket idx member bucket' idx' member' equal := by
    rw [same.sectionKey, same.sectionKey] at equal
    exact owned.distinct bucket idx member bucket' idx' member' equal
  looseOutside idx isLoose := same.nslots ▸ owned.looseOutside idx isLoose

/-! ## Projections of the elementary updates -/

@[simp] theorem setSlot_nslots (idx : Nat) (entry : Entry) :
    (shm.setSlot idx entry).nslots = shm.nslots := rfl

@[simp] theorem setSlot_nbuckets (idx : Nat) (entry : Entry) :
    (shm.setSlot idx entry).nbuckets = shm.nbuckets := rfl

@[simp] theorem setSlot_freeHead (idx : Nat) (entry : Entry) :
    (shm.setSlot idx entry).freeHead = shm.freeHead := rfl

@[simp] theorem setSlot_buckets (idx : Nat) (entry : Entry) :
    (shm.setSlot idx entry).buckets = shm.buckets := rfl

@[simp] theorem setSlot_slots (idx : Nat) (entry : Entry) :
    (shm.setSlot idx entry).slots = Function.update shm.slots idx entry := rfl

theorem setSlot_next (idx : Nat) (entry : Entry) :
    (shm.setSlot idx entry).next = Function.update shm.next idx entry.next := by
  funext other
  by_cases same : other = idx
  · subst same
    simp [Header.next]
  · simp [Header.next, same]

@[simp] theorem setBucket_next (bucket target : Nat) :
    (shm.setBucket bucket target).next = shm.next := rfl

@[simp] theorem setBucket_buckets (bucket target : Nat) :
    (shm.setBucket bucket target).buckets = Function.update shm.buckets bucket target := rfl

/-- Overwriting a slot with an entry of the same name and link keeps names and links. -/
theorem sameLinks_setSlot {idx : Nat} {entry : Entry}
    (name : entry.sectionKey = (shm.slots idx).sectionKey) (link : entry.next = shm.next idx) :
    SameLinks shm (shm.setSlot idx entry) where
  nslots := rfl
  nbuckets := rfl
  freeHead := rfl
  buckets := rfl
  next := by rw [setSlot_next, link, Function.update_eq_self]
  sectionKey other := by
    by_cases same : other = idx
    · subst same
      simp [name]
    · simp [same]

theorem sameLinks_entryUpdate (idx : Nat) (value : String) (expiry access : Int) :
    SameLinks shm (entryUpdate shm idx value expiry access) :=
  sameLinks_setSlot rfl rfl

theorem sameLinks_touch (idx : Nat) (now : Int) :
    SameLinks shm (shm.setSlot idx { shm.slots idx with access := now }) :=
  sameLinks_setSlot rfl rfl

theorem sameLinks_notePressure (now : Int) (idx : Nat) :
    SameLinks shm (notePressure shm now idx).1 := by
  have unchanged : SameLinks shm shm := ⟨rfl, rfl, rfl, rfl, rfl, fun _ => rfl⟩
  have warned : SameLinks shm { shm with lastPressureWarning := now } :=
    ⟨rfl, rfl, rfl, rfl, rfl, fun _ => rfl⟩
  rw [notePressure, apply_ite Prod.fst]
  split_ifs <;> assumption

/-! ## Consequences of ownership -/

namespace Owned

theorem chain_pos (owned : Owned hash shm chain free loose) {bucket idx : Nat}
    (member : idx ∈ chain bucket) : 1 ≤ idx :=
  Nat.one_le_iff_ne_zero.mpr ((owned.chains bucket).ne_zero member)

theorem free_pos (owned : Owned hash shm chain free loose) {idx : Nat} (member : idx ∈ free) :
    1 ≤ idx :=
  Nat.one_le_iff_ne_zero.mpr (owned.freeChain.ne_zero member)

theorem notMem_free_of_chain (owned : Owned hash shm chain free loose) {bucket idx : Nat}
    (member : idx ∈ chain bucket) : idx ∉ free := fun isFree =>
  (owned.keyed bucket idx member).1 (owned.blank idx isFree)

/-- A slot is chained in one bucket only, because its name has one hash. -/
theorem bucket_unique (owned : Owned hash shm chain free loose) {bucket bucket' idx : Nat}
    (member : idx ∈ chain bucket) (member' : idx ∈ chain bucket') : bucket = bucket' :=
  (owned.keyed bucket idx member).2.symm.trans (owned.keyed bucket' idx member').2

theorem chain_length (owned : Owned hash shm chain free loose) (bucket : Nat) :
    (chain bucket).length < shm.nslots + 1 :=
  Nat.lt_succ_of_le ((owned.chains bucket).length_le (owned.chainBound bucket))

/-- With nothing loose, the named slots are exactly the chained ones. -/
theorem mem_chain_of_named (owned : Owned hash shm chain free none) {idx : Nat}
    (positive : 1 ≤ idx) (bounded : idx ≤ shm.nslots) (named : (shm.slots idx).sectionKey ≠ "") :
    idx ∈ chain (bucketOf hash shm (shm.slots idx).sectionKey) := by
  rcases owned.covered idx positive bounded with isLoose | isFree | ⟨bucket, member⟩
  · simp at isLoose
  · exact absurd (owned.blank idx isFree) named
  · rw [(owned.keyed bucket idx member).2]
    exact member

end Owned

/-! ## Moving one slot -/

theorem spliceOut_eq (shm : Header) (bucket prev idx : Nat) :
    (shm.spliceOut bucket prev idx).nslots = shm.nslots ∧
      (shm.spliceOut bucket prev idx).nbuckets = shm.nbuckets ∧
      (shm.spliceOut bucket prev idx).freeHead = shm.freeHead ∧
      ∀ other, ((shm.spliceOut bucket prev idx).slots other).sectionKey =
        (shm.slots other).sectionKey := by
  unfold Header.spliceOut
  split
  · refine ⟨rfl, rfl, rfl, ?_⟩
    intro other
    by_cases same : other = prev
    · subst same
      simp [Header.setNext]
    · simp [Header.setNext, same]
  · exact ⟨rfl, rfl, rfl, fun _ => rfl⟩

theorem spliceOut_nslots (shm : Header) (bucket prev idx : Nat) :
    (shm.spliceOut bucket prev idx).nslots = shm.nslots := (spliceOut_eq shm bucket prev idx).1

theorem spliceOut_nbuckets (shm : Header) (bucket prev idx : Nat) :
    (shm.spliceOut bucket prev idx).nbuckets = shm.nbuckets :=
    (spliceOut_eq shm bucket prev idx).2.1

theorem spliceOut_freeHead (shm : Header) (bucket prev idx : Nat) :
    (shm.spliceOut bucket prev idx).freeHead = shm.freeHead :=
  (spliceOut_eq shm bucket prev idx).2.2.1

theorem spliceOut_sectionKey (shm : Header) (bucket prev idx other : Nat) :
    ((shm.spliceOut bucket prev idx).slots other).sectionKey = (shm.slots other).sectionKey :=
  (spliceOut_eq shm bucket prev idx).2.2.2 other

/-- Redirecting the predecessor found by the search removes exactly the hit from its chain. -/
theorem spliceOut_chain {bucket idx : Nat} {front back : List Nat}
    (listed : Chain shm.next (shm.buckets bucket) (front ++ idx :: back)) :
    let removed := shm.spliceOut bucket (front.getLast?.getD 0) idx
    Chain removed.next (removed.buckets bucket) (front ++ back) := by
  rcases List.eq_nil_or_concat front with rfl | ⟨earlier, before, rfl⟩
  · obtain ⟨-, rest⟩ := listed.pop
    simpa [Header.spliceOut] using rest
  · have nonzero : before ≠ 0 := listed.ne_zero (by simp)
    have bypassed : Chain (Function.update shm.next before (shm.next idx)) (shm.buckets bucket)
        (earlier ++ before :: back) := by
      apply Chain.bypass
      simpa [List.append_assoc] using listed
    simpa [Header.spliceOut, nonzero, Header.setNext, setSlot_next,
      List.append_assoc] using bypassed

/-- Any chain that avoids the removed slot's chain survives the removal. -/
theorem spliceOut_frame {bucket prev idx head : Nat} {nodes : List Nat}
    (listed : Chain shm.next head nodes) (avoids : prev = 0 ∨ prev ∉ nodes) :
    Chain (shm.spliceOut bucket prev idx).next head nodes := by
  unfold Header.spliceOut
  split
  · next nonzero =>
      rw [Header.setNext, setSlot_next]
      exact listed.update_of_notMem (avoids.resolve_left nonzero)
  · exact listed

theorem spliceOut_buckets {bucket prev idx other : Nat} (different : other ≠ bucket) :
    (shm.spliceOut bucket prev idx).buckets other = shm.buckets other := by
  unfold Header.spliceOut
  split
  · rfl
  · simp [Header.setBucket, different]

theorem mem_of_getLast?_getD {front : List Nat} (nonzero : front.getLast?.getD 0 ≠ 0) :
    front.getLast?.getD 0 ∈ front := by
  cases last : front.getLast? with
  | none => simp [last] at nonzero
  | some before => exact List.mem_of_getLast? last

/-- Unlinking a chained slot makes it loose. -/
theorem Owned.spliceOut {bucket idx : Nat} {front back : List Nat}
    (owned : Owned hash shm chain free none) (split : chain bucket = front ++ idx :: back) :
    Owned hash (shm.spliceOut bucket (front.getLast?.getD 0) idx)
      (Function.update chain bucket (front ++ back)) free (some idx) := by
  have listed := owned.chains bucket
  rw [split] at listed
  have distinctNodes := listed.nodup
  have before_mem : front.getLast?.getD 0 ≠ 0 → front.getLast?.getD 0 ∈ chain bucket := by
    intro nonzero
    rw [split]
    exact List.mem_append_left _ (mem_of_getLast?_getD nonzero)
  have avoids {nodes : List Nat} (apart : ∀ node ∈ chain bucket, node ∉ nodes) :
      front.getLast?.getD 0 = 0 ∨ front.getLast?.getD 0 ∉ nodes := by
    by_cases zero : front.getLast?.getD 0 = 0
    · exact .inl zero
    · exact .inr (apart _ (before_mem zero))
  have idx_mem : idx ∈ chain bucket := by simp [split]
  have updated_subset : ∀ other, ∀ node ∈ Function.update chain bucket (front ++ back) other,
      node ∈ chain other := by
    intro other node member
    by_cases same : other = bucket
    · subst same
      rw [Function.update_self] at member
      rw [split]
      simp only [List.mem_append, List.mem_cons] at member ⊢
      tauto
    · rwa [Function.update_of_ne same] at member
  refine
    { chains := ?_, freeChain := ?_, keyed := ?_, blank := ?_, chainBound := ?_, freeBound := ?_,
      covered := ?_, distinct := ?_, looseOutside := ?_ }
  · intro other
    by_cases same : other = bucket
    · subst same
      rw [Function.update_self]
      exact spliceOut_chain listed
    · rw [Function.update_of_ne same, spliceOut_buckets same]
      apply spliceOut_frame (owned.chains other)
      apply avoids
      intro node member member'
      exact same (owned.bucket_unique member' member)
  · rw [spliceOut_freeHead]
    apply spliceOut_frame owned.freeChain
    exact avoids fun node member => owned.notMem_free_of_chain member
  · intro other node member
    rw [spliceOut_sectionKey, bucketOf_congr (spliceOut_nbuckets ..)]
    exact owned.keyed other node (updated_subset other node member)
  · intro node member
    rw [spliceOut_sectionKey]
    exact owned.blank node member
  · intro other node member
    rw [spliceOut_nslots]
    exact owned.chainBound other node (updated_subset other node member)
  · intro node member
    rw [spliceOut_nslots]
    exact owned.freeBound node member
  · intro node positive bounded
    rw [spliceOut_nslots] at bounded
    by_cases same : node = idx
    · exact .inl (by rw [same])
    rcases owned.covered node positive bounded with isLoose | isFree | ⟨other, member⟩
    · simp at isLoose
    · exact .inr (.inl isFree)
    · refine .inr (.inr ⟨other, ?_⟩)
      by_cases here : other = bucket
      · subst here
        rw [split] at member
        rw [Function.update_self]
        simp only [List.mem_append, List.mem_cons] at member ⊢
        tauto
      · rwa [Function.update_of_ne here]
  · intro other node member other' node' member' equal
    rw [spliceOut_sectionKey, spliceOut_sectionKey] at equal
    exact owned.distinct other node (updated_subset other node member) other' node'
      (updated_subset other' node' member') equal
  · rintro node ⟨rfl⟩
    rw [spliceOut_nslots]
    refine ⟨owned.chain_pos idx_mem, owned.chainBound bucket idx idx_mem,
      owned.notMem_free_of_chain idx_mem, ?_⟩
    intro other member
    by_cases same : other = bucket
    · subst same
      rw [Function.update_self] at member
      have twice := List.nodup_append.mp distinctNodes
      rcases List.mem_append.mp member with early | late
      · exact twice.2.2 idx early idx List.mem_cons_self rfl
      · exact (List.nodup_cons.mp twice.2.1).1 late
    · rw [Function.update_of_ne same] at member
      exact same (owned.bucket_unique member idx_mem)

/-- The contents of a loose slot do not matter. -/
theorem Owned.setLoose {idx : Nat} (owned : Owned hash shm chain free (some idx)) (entry : Entry) :
    Owned hash (shm.setSlot idx entry) chain free (some idx) := by
  obtain ⟨-, -, notFree, notChained⟩ := owned.looseOutside idx rfl
  have chained_ne {bucket node : Nat} (member : node ∈ chain bucket) : node ≠ idx := by
    rintro rfl
    exact notChained bucket member
  have free_ne {node : Nat} (member : node ∈ free) : node ≠ idx := by
    rintro rfl
    exact notFree member
  refine
    { owned with chains := ?_, freeChain := ?_, keyed := ?_, blank := ?_, distinct := ?_ }
  · intro bucket
    rw [setSlot_next]
    exact (owned.chains bucket).update_of_notMem (notChained bucket)
  · rw [setSlot_next]
    exact owned.freeChain.update_of_notMem notFree
  · intro bucket node member
    rw [setSlot_slots, Function.update_of_ne (chained_ne member)]
    exact owned.keyed bucket node member
  · intro node member
    rw [setSlot_slots, Function.update_of_ne (free_ne member)]
    exact owned.blank node member
  · intro bucket node member bucket' node' member' equal
    rw [setSlot_slots, Function.update_of_ne (chained_ne member),
      Function.update_of_ne (chained_ne member')] at equal
    exact owned.distinct bucket node member bucket' node' member' equal

/-- A nameless loose slot which points at the free list can become its head. -/
theorem Owned.pushFree {idx : Nat} (owned : Owned hash shm chain free (some idx))
    (nameless : (shm.slots idx).sectionKey = "") (linked : shm.next idx = shm.freeHead) :
    Owned hash { shm with freeHead := idx } chain (idx :: free) none := by
  obtain ⟨positive, bounded, -, -⟩ := owned.looseOutside idx rfl
  refine
    { owned with freeChain := ?_, blank := ?_, freeBound := ?_, covered := ?_, looseOutside := ?_ }
  · refine .cons (Nat.one_le_iff_ne_zero.mp positive) ?_
    change Chain shm.next (shm.next idx) free
    rw [linked]
    exact owned.freeChain
  · intro node member
    rcases List.mem_cons.mp member with rfl | later
    · exact nameless
    · exact owned.blank node later
  · intro node member
    rcases List.mem_cons.mp member with rfl | later
    · exact bounded
    · exact owned.freeBound node later
  · intro node low high
    rcases owned.covered node low high with isLoose | isFree | chained
    · obtain rfl := Option.some.inj isLoose
      exact .inr (.inl List.mem_cons_self)
    · exact .inr (.inl (List.mem_cons_of_mem _ isFree))
    · exact .inr (.inr chained)
  · simp

/-- Moving the free head makes the former head loose. -/
theorem Owned.popFree {idx : Nat} (owned : Owned hash shm chain (idx :: free) none) :
    Owned hash { shm with freeHead := shm.next idx } chain free (some idx) := by
  obtain ⟨-, rest⟩ := owned.freeChain.pop
  have fresh : idx ∉ free := (List.nodup_cons.mp owned.freeChain.nodup).1
  refine
    { owned with freeChain := rest, blank := ?_, freeBound := ?_, covered := ?_, looseOutside := ?_ }
  · intro node member
    exact owned.blank node (List.mem_cons_of_mem _ member)
  · intro node member
    exact owned.freeBound node (List.mem_cons_of_mem _ member)
  · intro node low high
    rcases owned.covered node low high with isLoose | isFree | chained
    · simp at isLoose
    · rcases List.mem_cons.mp isFree with rfl | later
      · exact .inl rfl
      · exact .inr (.inl later)
    · exact .inr (.inr chained)
  · rintro node ⟨rfl⟩
    refine ⟨owned.free_pos List.mem_cons_self, owned.freeBound idx List.mem_cons_self, fresh, ?_⟩
    intro bucket member
    exact owned.notMem_free_of_chain member List.mem_cons_self

/-- A named loose slot which points at the head of its bucket can become the new head. -/
theorem Owned.pushChain {bucket idx : Nat} (owned : Owned hash shm chain free (some idx))
    (named : (shm.slots idx).sectionKey ≠ "")
    (hashed : bucketOf hash shm (shm.slots idx).sectionKey = bucket)
    (linked : shm.next idx = shm.buckets bucket)
    (absent : ∀ node ∈ chain bucket, (shm.slots node).sectionKey ≠ (shm.slots idx).sectionKey) :
    Owned hash (shm.setBucket bucket idx) (Function.update chain bucket (idx :: chain bucket)) free
      none := by
  obtain ⟨positive, bounded, notFree, notChained⟩ := owned.looseOutside idx rfl
  have updated {other node : Nat}
      (member : node ∈ Function.update chain bucket (idx :: chain bucket) other) :
      (other = bucket ∧ node = idx) ∨ node ∈ chain other := by
    by_cases same : other = bucket
    · subst same
      rw [Function.update_self] at member
      rcases List.mem_cons.mp member with rfl | later
      · exact .inl ⟨rfl, rfl⟩
      · exact .inr later
    · rw [Function.update_of_ne same] at member
      exact .inr member
  have absent_everywhere {other node : Nat} (member : node ∈ chain other) :
      (shm.slots node).sectionKey ≠ (shm.slots idx).sectionKey := by
    intro equal
    obtain rfl : other = bucket := by
      rw [← (owned.keyed other node member).2, equal, hashed]
    exact absent node member equal
  refine
    { owned with
      chains := ?_, keyed := ?_, chainBound := ?_, covered := ?_, distinct := ?_,
      looseOutside := ?_ }
  · intro other
    rw [setBucket_next, setBucket_buckets]
    by_cases same : other = bucket
    · subst same
      rw [Function.update_self, Function.update_self]
      refine .cons (Nat.one_le_iff_ne_zero.mp positive) ?_
      rw [linked]
      exact owned.chains other
    · rw [Function.update_of_ne same, Function.update_of_ne same]
      exact owned.chains other
  · intro other node member
    rcases updated member with ⟨rfl, rfl⟩ | member
    · exact ⟨named, hashed⟩
    · exact owned.keyed other node member
  · intro other node member
    rcases updated member with ⟨-, rfl⟩ | member
    · exact bounded
    · exact owned.chainBound other node member
  · intro node low high
    rcases owned.covered node low high with isLoose | isFree | ⟨other, member⟩
    · obtain rfl := Option.some.inj isLoose
      exact .inr (.inr ⟨bucket, by simp⟩)
    · exact .inr (.inl isFree)
    · refine .inr (.inr ⟨other, ?_⟩)
      by_cases same : other = bucket
      · subst same
        rw [Function.update_self]
        exact List.mem_cons_of_mem _ member
      · rwa [Function.update_of_ne same]
  · intro other node member other' node' member' equal
    rcases updated member with ⟨-, rfl⟩ | old <;> rcases updated member' with ⟨-, rfl⟩ | old'
    · rfl
    · exact absurd equal.symm (absent_everywhere old')
    · exact absurd equal (absent_everywhere old)
    · exact owned.distinct other node old other' node' old' equal
  · simp

end Shm

end ModAuthOpenidc
