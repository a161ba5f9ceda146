import ModAuthOpenidc.Cache.ShmInvariant

/-!
# Calls of the shared-memory backend

Each call of the backend is a search followed by link operations. This file states what the search
finds, what eviction releases, and what a whole call does to the segment: which slot it edits, who
owns the slots afterwards and what it answers. From these descriptions the ownership invariant holds
in every reachable segment, and the diagnostic walk over the segment accepts it.
-/

namespace ModAuthOpenidc

namespace Shm

open IndexChain

variable {hash : String → UInt64} {cfg : Config} {shm shm' : Header} {chain : Nat → List Nat}
  {free : List Nat} {loose : Option Nat}

/-- A usable segment: at least one slot and one bucket, every slot owned exactly once. -/
structure WellFormed (hash : String → UInt64) (shm : Header) : Prop where
  slots_pos : 1 ≤ shm.nslots
  buckets_pos : 1 ≤ shm.nbuckets
  owned : ∃ chain free, Owned hash shm chain free none

/-- `idx` is a slot of the segment. -/
def InRange (shm : Header) (idx : Nat) : Prop := 1 ≤ idx ∧ idx ≤ shm.nslots

/-- The slot `idx` stores an entry under `sectionKey`. -/
def Holds (shm : Header) (idx : Nat) (sectionKey : String) : Prop :=
  InRange shm idx ∧ (shm.slots idx).sectionKey = sectionKey

/-- Names, values and expiries of all slots but those satisfying `changed` agree. -/
structure Edit (changed : Nat → Prop) (shm shm' : Header) : Prop where
  nslots : shm'.nslots = shm.nslots
  nbuckets : shm'.nbuckets = shm.nbuckets
  sectionKey : ∀ idx, ¬changed idx → (shm'.slots idx).sectionKey = (shm.slots idx).sectionKey
  value : ∀ idx, ¬changed idx → (shm'.slots idx).value = (shm.slots idx).value
  expires : ∀ idx, ¬changed idx → (shm'.slots idx).expires = (shm.slots idx).expires

/-- No name, value or expiry differs. -/
abbrev SameEntries (shm shm' : Header) : Prop := Edit (fun _ => False) shm shm'

namespace Edit

variable {changed changed' : Nat → Prop} {shm'' : Header}

theorem refl (shm : Header) : Edit changed shm shm :=
  ⟨rfl, rfl, fun _ _ => rfl, fun _ _ => rfl, fun _ _ => rfl⟩

theorem trans (first : Edit changed shm shm') (second : Edit changed' shm' shm'') :
    Edit (fun idx => changed idx ∨ changed' idx) shm shm'' where
  nslots := second.nslots.trans first.nslots
  nbuckets := second.nbuckets.trans first.nbuckets
  sectionKey idx same := by
    rw [second.sectionKey idx (same ∘ .inr), first.sectionKey idx (same ∘ .inl)]
  value idx same := by
    rw [second.value idx (same ∘ .inr), first.value idx (same ∘ .inl)]
  expires idx same := by
    rw [second.expires idx (same ∘ .inr), first.expires idx (same ∘ .inl)]

/-- Entries that stay the same may be composed with any edit. -/
theorem after_same (same : SameEntries shm shm') (edit : Edit changed shm' shm'') :
    Edit changed shm shm'' := by
  simpa using same.trans edit

theorem setSlot (idx : Nat) (entry : Entry) : Edit (· = idx) shm (shm.setSlot idx entry) where
  nslots := rfl
  nbuckets := rfl
  sectionKey other different := by simp [different]
  value other different := by simp [different]
  expires other different := by simp [different]

theorem setBucket (edit : Edit changed shm shm') (bucket target : Nat) :
    Edit changed shm (shm'.setBucket bucket target) :=
  ⟨edit.nslots, edit.nbuckets, edit.sectionKey, edit.value, edit.expires⟩

theorem setNext (idx target : Nat) : SameEntries shm (shm.setNext idx target) where
  nslots := rfl
  nbuckets := rfl
  sectionKey other _ := by
    by_cases same : other = idx <;> simp [Header.setNext, same]
  value other _ := by
    by_cases same : other = idx <;> simp [Header.setNext, same]
  expires other _ := by
    by_cases same : other = idx <;> simp [Header.setNext, same]

theorem spliceOut (bucket prev idx : Nat) : SameEntries shm (shm.spliceOut bucket prev idx) := by
  unfold Header.spliceOut
  split
  · exact setNext prev (shm.next idx)
  · exact ⟨rfl, rfl, fun _ _ => rfl, fun _ _ => rfl, fun _ _ => rfl⟩

theorem slotFree (idx : Nat) : Edit (· = idx) shm (slotFree shm idx) where
  nslots := rfl
  nbuckets := rfl
  sectionKey other different := by simp [Shm.slotFree, different]
  value other different := by simp [Shm.slotFree, different]
  expires other different := by simp [Shm.slotFree, different]

theorem remove (shm : Header) (bucket prev idx : Nat) :
    Edit (· = idx) shm (Shm.slotFree (shm.spliceOut bucket prev idx) idx) :=
  (spliceOut bucket prev idx).after_same (slotFree idx)

/-- Reading an entry only changes its access time. -/
theorem touch (shm : Header) (idx : Nat) (now : Int) :
    SameEntries shm (shm.setSlot idx { shm.slots idx with access := now }) := by
  refine ⟨rfl, rfl, fun other _ => ?_, fun other _ => ?_, fun other _ => ?_⟩ <;>
    by_cases here : other = idx <;> simp [here]

theorem notePressure (now : Int) (idx : Nat) : SameEntries shm (notePressure shm now idx).1 := by
  have unchanged : SameEntries shm shm := refl shm
  have warned : SameEntries shm { shm with lastPressureWarning := now } :=
    ⟨rfl, rfl, fun _ _ => rfl, fun _ _ => rfl, fun _ _ => rfl⟩
  rw [Shm.notePressure, apply_ite Prod.fst]
  split_ifs <;> assumption

end Edit

/-- Editing entries keeps the dimensions of the segment. -/
theorem WellFormed.edit {changed : Nat → Prop} (wellFormed : WellFormed hash shm)
    (edit : Edit changed shm shm') (owned : Owned hash shm' chain free none) :
    WellFormed hash shm' where
  slots_pos := edit.nslots ▸ wellFormed.slots_pos
  buckets_pos := edit.nbuckets ▸ wellFormed.buckets_pos
  owned := ⟨chain, free, owned⟩

/-! ## Searching -/

/-- The prefix without a hit, in front of the first hit. -/
theorem split_at_first (nodes : List Nat) (stop : Nat → Bool) :
    (∀ node ∈ nodes, stop node = false) ∨
      ∃ front node back, nodes = front ++ node :: back ∧ (∀ other ∈ front, stop other = false) ∧
        stop node = true := by
  cases found : nodes.find? stop with
  | none =>
      left
      simpa using found
  | some node =>
      obtain ⟨hit, front, back, split, misses⟩ := List.find?_eq_some_iff_append.mp found
      exact .inr ⟨front, node, back, split, by simpa using misses, hit⟩

/-- The search for a key either proves it absent from its chain or returns its slot together with
the predecessor in the chain. -/
theorem Owned.find (owned : Owned hash shm chain free none) (bucket : Nat) (sectionKey : String) :
    (∃ last, find shm bucket sectionKey = some (0, last) ∧
      ∀ idx ∈ chain bucket, (shm.slots idx).sectionKey ≠ sectionKey) ∨
    ∃ front idx back, chain bucket = front ++ idx :: back ∧
      find shm bucket sectionKey = some (idx, front.getLast?.getD 0) ∧
      (shm.slots idx).sectionKey = sectionKey := by
  have listed := owned.chains bucket
  have enough := owned.chain_length bucket
  rcases split_at_first (chain bucket) (fun idx => (shm.slots idx).sectionKey = sectionKey) with
    misses | ⟨front, idx, back, split, misses, hit⟩
  · obtain ⟨last, found⟩ := seek_miss listed misses _ enough 0
    exact .inl ⟨last, found, by simpa using misses⟩
  · rw [split] at listed enough
    exact .inr ⟨front, idx, back, split, seek_hit listed misses hit _ enough 0, by simpa using hit⟩

/-- The second traversal of eviction finds the slot it is looking for. -/
theorem Owned.unlink (owned : Owned hash shm chain free none) {bucket idx : Nat}
    (member : idx ∈ chain bucket) :
    ∃ front back, chain bucket = front ++ idx :: back ∧
      unlink hash shm idx = some (shm.spliceOut bucket (front.getLast?.getD 0) idx, true) := by
  have hashed := (owned.keyed bucket idx member).2
  have nonzero := (owned.chains bucket).ne_zero member
  have listed := owned.chains bucket
  have enough := owned.chain_length bucket
  rcases split_at_first (chain bucket) (fun node => node = idx) with
    misses | ⟨front, node, back, split, misses, hit⟩
  · simpa using misses idx member
  · obtain rfl : node = idx := by simpa using hit
    rw [split] at listed enough
    refine ⟨front, back, split, ?_⟩
    simp only [Shm.unlink, hashed, seek_hit listed misses hit _ enough 0, nonzero, if_false]

/-! ## Choosing a victim -/

/-- What the scan has established after the slots of `seen`. -/
structure Scanned (shm : Header) (seen : List Nat) (scan : Scan) : Prop where
  /-- An expired victim is an occupied slot. -/
  expired : scan.expiredVictim ≠ 0 →
    scan.expiredVictim ∈ seen ∧ (shm.slots scan.expiredVictim).sectionKey ≠ ""
  /-- A least-recently-used victim is an occupied slot. -/
  lru : scan.lruVictim ≠ 0 →
    scan.lruVictim ∈ seen ∧ (shm.slots scan.lruVictim).sectionKey ≠ ""
  /-- Without a victim every slot is vacant. -/
  vacant : scan.lruVictim = 0 → ∀ idx ∈ seen, (shm.slots idx).sectionKey = ""

theorem Scanned.step {seen : List Nat} {scan : Scan} {idx : Nat}
    (scanned : Scanned shm seen scan) (now : Int) (nonzero : idx ≠ 0) :
    Scanned shm (seen ++ [idx]) (scanSlot shm now scan idx) := by
  unfold scanSlot
  dsimp only
  split
  · next blank =>
      refine ⟨fun found => ?_, fun found => ?_, fun missing other member => ?_⟩
      · exact ⟨List.mem_append_left _ (scanned.expired found).1, (scanned.expired found).2⟩
      · exact ⟨List.mem_append_left _ (scanned.lru found).1, (scanned.lru found).2⟩
      · rcases List.mem_append.mp member with earlier | here
        · exact scanned.vacant missing other earlier
        · rwa [List.mem_singleton.mp here]
  · next named =>
      refine ⟨?_, ?_, ?_⟩ <;> dsimp only
      · split
        · exact fun _ => ⟨by simp, named⟩
        · exact fun found =>
            ⟨List.mem_append_left _ (scanned.expired found).1, (scanned.expired found).2⟩
      · split
        · exact fun _ => ⟨by simp, named⟩
        · exact fun found => ⟨List.mem_append_left _ (scanned.lru found).1, (scanned.lru found).2⟩
      · split
        · exact fun missing => absurd missing nonzero
        · next kept => exact fun missing => absurd (.inl missing) kept

theorem Scanned.foldl {seen : List Nat} {scan : Scan} (now : Int) (rest : List Nat)
    (scanned : Scanned shm seen scan) (nonzero : ∀ idx ∈ rest, idx ≠ 0) :
    Scanned shm (seen ++ rest) (rest.foldl (scanSlot shm now) scan) := by
  induction rest generalizing seen scan with
  | nil => simpa using scanned
  | cons idx rest ih =>
      have stepped := scanned.step now (nonzero idx List.mem_cons_self)
      have finished := ih stepped fun other member => nonzero other (List.mem_cons_of_mem _ member)
      simpa [List.append_assoc] using finished

theorem scanSlots_scanned (shm : Header) (now : Int) :
    Scanned shm (List.range' 1 shm.nslots) (scanSlots shm now) := by
  have start : Scanned shm [] ⟨0, 0, 0⟩ := ⟨by simp, by simp, by simp⟩
  apply start.foldl now _
  intro idx member
  rw [List.mem_range'_1] at member
  omega

/-- The chosen slot is occupied. -/
theorem victim_occupied {now : Int} (chosen : victim shm now ≠ 0) :
    InRange shm (victim shm now) ∧ (shm.slots (victim shm now)).sectionKey ≠ "" := by
  have scanned := scanSlots_scanned shm now
  have found : victim shm now ∈ List.range' 1 shm.nslots ∧
      (shm.slots (victim shm now)).sectionKey ≠ "" := by
    unfold victim at chosen ⊢
    split at chosen
    · next expired =>
        rw [if_pos expired]
        exact scanned.expired chosen
    · next fresh =>
        rw [if_neg fresh]
        exact scanned.lru chosen
  refine ⟨?_, found.2⟩
  have inside := List.mem_range'_1.mp found.1
  exact ⟨inside.1, by omega⟩

/-- If any slot is occupied then one is chosen. -/
theorem victim_ne_zero (now : Int) {idx : Nat} (inside : InRange shm idx)
    (occupied : (shm.slots idx).sectionKey ≠ "") : victim shm now ≠ 0 := by
  unfold victim
  split
  · assumption
  · intro missing
    refine occupied ((scanSlots_scanned shm now).vacant missing idx ?_)
    rw [List.mem_range'_1]
    obtain ⟨low, high⟩ := inside
    omega

/-! ## Obtaining a slot -/

/-- How `oidc_cache_shm_set` comes by a slot for a new entry. -/
structure Obtained (hash : String → UInt64) (shm : Header) (now : Int) (shm' : Header)
    (idx : Nat) : Prop where
  nonzero : idx ≠ 0
  /-- The slot is unlinked and everything else is still owned. -/
  owned : ∃ chain free, Owned hash shm' chain free (some idx)
  entries : SameEntries shm shm'
  /-- The slot was free, or else no slot was free and it is the victim. -/
  source : (shm.slots idx).sectionKey = "" ∨
    idx = victim shm now ∧ ∀ other, InRange shm other → (shm.slots other).sectionKey ≠ ""

/-- Eviction notes the pressure and then unlinks the victim from the chain of its bucket. -/
theorem Owned.evict_eq (owned : Owned hash shm chain [] none) (slots_pos : 1 ≤ shm.nslots)
    (now : Int) :
    ∃ noted age front back, evict hash shm now =
        some (noted.spliceOut (bucketOf hash shm (shm.slots (victim shm now)).sectionKey)
          (front.getLast?.getD 0) (victim shm now), victim shm now, age) ∧
      Owned hash noted chain [] none ∧ SameEntries shm noted ∧
      chain (bucketOf hash shm (shm.slots (victim shm now)).sectionKey) =
        front ++ victim shm now :: back ∧
      InRange shm (victim shm now) ∧
      ∀ other, InRange shm other → (shm.slots other).sectionKey ≠ "" := by
  have occupied : ∀ other, InRange shm other → (shm.slots other).sectionKey ≠ "" := by
    intro other inside
    rcases owned.covered other inside.1 inside.2 with isLoose | isFree | ⟨bucket, member⟩
    · simp at isLoose
    · simp at isFree
    · exact (owned.keyed bucket other member).1
  have first : InRange shm 1 := ⟨le_rfl, slots_pos⟩
  have nonzero := victim_ne_zero now first (occupied 1 first)
  obtain ⟨inside, named⟩ := victim_occupied nonzero
  have member := owned.mem_chain_of_named inside.1 inside.2 named
  generalize noted_eq : (if (scanSlots shm now).expiredVictim = 0 then
    notePressure shm now (victim shm now) else (shm, -1)) = noted
  have links : SameLinks shm noted.1 ∧ SameEntries shm noted.1 := by
    subst noted_eq
    split
    · exact ⟨sameLinks_notePressure now _, Edit.notePressure now _⟩
    · exact ⟨⟨rfl, rfl, rfl, rfl, rfl, fun _ => rfl⟩, Edit.refl shm⟩
  have notedOwned := owned.sameLinks links.1
  obtain ⟨front, back, split, unlinked⟩ := notedOwned.unlink member
  refine ⟨noted.1, noted.2, front, back, ?_, notedOwned, links.2, split, inside, occupied⟩
  simp only [Shm.evict, nonzero, if_false, noted_eq, unlinked, if_true]

theorem Owned.evict (owned : Owned hash shm chain [] none)
    (slots_pos : 1 ≤ shm.nslots) (now : Int) :
    ∃ shm' age, evict hash shm now = some (shm', victim shm now, age) ∧
      Obtained hash shm now shm' (victim shm now) := by
  obtain ⟨noted, age, front, back, evicted, notedOwned, entries, split, inside, occupied⟩ :=
    owned.evict_eq slots_pos now
  have positive := inside.1
  exact ⟨_, age, evicted, by omega, ⟨_, _, notedOwned.spliceOut split⟩,
    entries.after_same (Edit.spliceOut ..), .inr ⟨rfl, occupied⟩⟩

/-- A slot is always available. -/
theorem Owned.obtainSlot (owned : Owned hash shm chain free none) (slots_pos : 1 ≤ shm.nslots)
    (now : Int) :
    ∃ shm' idx age, obtainSlot hash shm now = some (shm', idx, age) ∧
      Obtained hash shm now shm' idx := by
  cases free with
  | nil =>
      have empty : shm.freeHead = 0 := owned.freeChain.zero_iff.mpr rfl
      obtain ⟨shm', age, evicted, obtained⟩ := owned.evict slots_pos now
      exact ⟨shm', _, age, by simp [Shm.obtainSlot, empty, evicted], obtained⟩
  | cons idx free =>
      obtain ⟨head, -⟩ := owned.freeChain.pop
      have nonzero : idx ≠ 0 := owned.freeChain.ne_zero List.mem_cons_self
      refine ⟨_, idx, -1, by simp [Shm.obtainSlot, head, nonzero], nonzero,
        ⟨chain, free, owned.popFree⟩, ?_, .inl (owned.blank idx List.mem_cons_self)⟩
      exact ⟨rfl, rfl, fun _ _ => rfl, fun _ _ => rfl, fun _ _ => rfl⟩

/-! ## Whole calls -/

theorem getKey_eq_some {sectionName key sectionKey : String}
    (accepted : getKey sectionName key = some sectionKey) :
    sectionKey = cacheSectionKey sectionName key ∧ sectionKey.length < keyMax := by
  unfold getKey at accepted
  dsimp only at accepted
  split at accepted
  · simp at accepted
  · next fits =>
      obtain rfl := Option.some.inj accepted
      exact ⟨rfl, by omega⟩

theorem cacheSectionKey_ne_empty (sectionName key : String) :
    cacheSectionKey sectionName key ≠ "" := by
  intro empty
  have lengths := congrArg String.length empty
  have colon : ":".length = 1 := by decide
  simp only [cacheSectionKey, String.length_append, String.length_empty, colon] at lengths
  omega

theorem getKey_ne_empty {sectionName key sectionKey : String}
    (accepted : getKey sectionName key = some sectionKey) : sectionKey ≠ "" := by
  rw [(getKey_eq_some accepted).1]
  exact cacheSectionKey_ne_empty sectionName key

/-- An accepted key fits in the key field of a slot. -/
theorem copyKey_of_fits {sectionKey : String} (fits : sectionKey.length < keyMax) :
    copyKey sectionKey = sectionKey := by
  have short : sectionKey.toList.length ≤ keyMax - 1 := by
    rw [String.length_toList]
    omega
  rw [copyKey, List.take_of_length_le short, String.ofList_toList]

/-- Nobody holds a key which its own bucket does not list. -/
theorem Owned.not_holds (owned : Owned hash shm chain free none) {sectionKey : String}
    (nonempty : sectionKey ≠ "")
    (absent : ∀ idx ∈ chain (bucketOf hash shm sectionKey), (shm.slots idx).sectionKey ≠ sectionKey)
    (idx : Nat) : ¬Holds shm idx sectionKey := by
  rintro ⟨inside, rfl⟩
  exact absent idx (owned.mem_chain_of_named inside.1 inside.2 nonempty) rfl

theorem Owned.holds (owned : Owned hash shm chain free none) {bucket idx : Nat}
    (member : idx ∈ chain bucket) : Holds shm idx (shm.slots idx).sectionKey :=
  ⟨⟨owned.chain_pos member, owned.chainBound bucket idx member⟩, rfl⟩

/-- Unlinking and freeing a chained slot. -/
theorem Owned.remove {bucket idx : Nat} {front back : List Nat}
    (owned : Owned hash shm chain free none) (split : chain bucket = front ++ idx :: back) :
    Owned hash (slotFree (shm.spliceOut bucket (front.getLast?.getD 0) idx) idx)
      (Function.update chain bucket (front ++ back)) (idx :: free) none := by
  have cleared := (owned.spliceOut split).setLoose
    { (shm.spliceOut bucket (front.getLast?.getD 0) idx).slots idx with
      sectionKey := ""
      access := 0
      next := (shm.spliceOut bucket (front.getLast?.getD 0) idx).freeHead }
  exact cleared.pushFree (by simp) (by simp [Header.next])

theorem slotFree_sectionKey (shm : Header) (idx : Nat) :
    ((slotFree shm idx).slots idx).sectionKey = "" := by
  simp [slotFree]

/-- What `oidc_cache_shm_get` does with an accepted key, and the value it returns. -/
inductive GetEffect (shm shm' : Header) (sectionKey : String) (now : Int) : Option String → Prop
  | miss : (∀ idx, ¬Holds shm idx sectionKey) → SameEntries shm shm' →
      GetEffect shm shm' sectionKey now none
  | hit (idx : Nat) : Holds shm idx sectionKey → now < (shm.slots idx).expires →
      SameEntries shm shm' → GetEffect shm shm' sectionKey now (some (shm.slots idx).value)
  | expired (idx : Nat) : Holds shm idx sectionKey → (shm.slots idx).expires ≤ now →
      Edit (· = idx) shm shm' → (shm'.slots idx).sectionKey = "" →
      GetEffect shm shm' sectionKey now none

theorem WellFormed.get (wellFormed : WellFormed hash shm) {mutex : Mutex}
    (locked : mutex.lock = true) {sectionName key sectionKey : String}
    (accepted : getKey sectionName key = some sectionKey) (now : Int) :
    ∃ shm' reply, get hash shm mutex sectionName key now = some (shm', reply) ∧
      WellFormed hash shm' ∧ reply.ok = mutex.unlock ∧
      GetEffect shm shm' sectionKey now reply.value := by
  obtain ⟨chain, free, owned⟩ := wellFormed.owned
  unfold Shm.get
  simp only [accepted, locked, Bool.true_eq_false, if_false]
  rcases owned.find (bucketOf hash shm sectionKey) sectionKey with
    ⟨last, found, absent⟩ | ⟨front, idx, back, split, found, same⟩
  · simp only [found, if_true]
    exact ⟨shm, _, rfl, wellFormed, rfl,
      .miss (owned.not_holds (getKey_ne_empty accepted) absent) (Edit.refl shm)⟩
  · have member : idx ∈ chain (bucketOf hash shm sectionKey) := by simp [split]
    have holds : Holds shm idx sectionKey := same ▸ owned.holds member
    have nonzero := (owned.chains _).ne_zero member
    simp only [found, nonzero, if_false]
    split
    · next live =>
        have touched := Edit.touch shm idx now
        have relinked := owned.sameLinks (sameLinks_touch idx now)
        exact ⟨_, _, rfl, wellFormed.edit touched relinked, rfl, .hit idx holds live touched⟩
    · next stale =>
        have removed := Edit.remove shm (bucketOf hash shm sectionKey) (front.getLast?.getD 0) idx
        exact ⟨_, _, rfl, wellFormed.edit removed (owned.remove split), rfl,
          .expired idx holds (Int.not_lt.mp stale) removed (slotFree_sectionKey _ _)⟩

/-- What `oidc_cache_shm_set` does with an accepted key and value. -/
inductive SetEffect (shm shm' : Header) (sectionKey : String) (now expiry : Int) :
    Option String → Prop
  | deleteAbsent : (∀ idx, ¬Holds shm idx sectionKey) → SameEntries shm shm' →
      SetEffect shm shm' sectionKey now expiry none
  | delete (idx : Nat) : Holds shm idx sectionKey → Edit (· = idx) shm shm' →
      (shm'.slots idx).sectionKey = "" → SetEffect shm shm' sectionKey now expiry none
  | overwrite (idx : Nat) (value : String) : Holds shm idx sectionKey → Edit (· = idx) shm shm' →
      (shm'.slots idx).sectionKey = sectionKey → (shm'.slots idx).value = value →
      (shm'.slots idx).expires = expiry → SetEffect shm shm' sectionKey now expiry (some value)
  | insert (idx : Nat) (value : String) : (∀ idx, ¬Holds shm idx sectionKey) → InRange shm idx →
      ((shm.slots idx).sectionKey = "" ∨
        idx = victim shm now ∧ ∀ other, InRange shm other → (shm.slots other).sectionKey ≠ "") →
      Edit (· = idx) shm shm' → (shm'.slots idx).sectionKey = sectionKey →
      (shm'.slots idx).value = value → (shm'.slots idx).expires = expiry →
      SetEffect shm shm' sectionKey now expiry (some value)

/-- The entry written into an obtained slot. -/
theorem entryInsert_eq (shm : Header) (bucket idx : Nat) {sectionKey : String} (value : String)
    (expiry access : Int) (fits : sectionKey.length < keyMax) :
    entryInsert shm bucket idx sectionKey value expiry access =
      (shm.setSlot idx ⟨sectionKey, access, expiry, shm.buckets bucket, value⟩).setBucket bucket
        idx := by
  simp [entryInsert, entryUpdate, Header.setNext, Header.setBucket, Header.setSlot,
    copyKey_of_fits fits]

/-- Linking a new entry through an obtained slot. -/
theorem Obtained.insert {now : Int} {idx : Nat} {sectionKey : String}
    (obtained : Obtained hash shm now shm' idx) (nonempty : sectionKey ≠ "")
    (absent : ∀ idx, ¬Holds shm idx sectionKey) (value : String) (expiry access : Int) :
    ∃ chain free, Owned hash
      ((shm'.setSlot idx ⟨sectionKey, access, expiry, shm'.buckets (bucketOf hash shm sectionKey),
        value⟩).setBucket (bucketOf hash shm sectionKey) idx) chain free none := by
  obtain ⟨chain, free, owned⟩ := obtained.owned
  have filled := owned.setLoose
    ⟨sectionKey, access, expiry, shm'.buckets (bucketOf hash shm sectionKey), value⟩
  refine ⟨_, free, filled.pushChain ?_ ?_ ?_ ?_⟩
  · simpa using nonempty
  · rw [setSlot_slots, Function.update_self]
    exact bucketOf_congr obtained.entries.nbuckets sectionKey
  · simp [Header.next]
  · intro node member same
    have outside := (owned.looseOutside idx rfl).2.2.2
    have different : node ≠ idx := by
      rintro rfl
      exact outside _ member
    have inside : InRange shm node := by
      refine ⟨Nat.one_le_iff_ne_zero.mpr ((owned.chains _).ne_zero member), ?_⟩
      rw [← obtained.entries.nslots]
      exact owned.chainBound _ node member
    refine absent node ⟨inside, ?_⟩
    rw [← obtained.entries.sectionKey node not_false]
    simpa [different] using same

/-- The size checks of `oidc_cache_shm_set`: a deletion carries no value to check. -/
def valueAccepted (cfg : Config) (value : Option String) : Bool :=
  !value.any fun v => !valueFits cfg v

theorem WellFormed.set (wellFormed : WellFormed hash shm) {mutex : Mutex}
    (locked : mutex.lock = true) {sectionName key sectionKey : String}
    (accepted : getKey sectionName key = some sectionKey) {value : Option String}
    (sized : valueAccepted cfg value = true) (expiry now : Int) :
    ∃ shm' reply, set hash cfg shm mutex sectionName key value expiry now = some (shm', reply) ∧
      WellFormed hash shm' ∧ reply.ok = mutex.unlock ∧ reply.value = none ∧
      SetEffect shm shm' sectionKey now expiry value := by
  obtain ⟨chain, free, owned⟩ := wellFormed.owned
  have nonempty := getKey_ne_empty accepted
  have fits := (getKey_eq_some accepted).2
  have small : value.any (fun v => !valueFits cfg v) = false := by
    simpa [valueAccepted] using sized
  unfold Shm.set
  simp only [accepted, small, locked, Bool.false_eq_true, Bool.true_eq_false, if_false]
  rcases owned.find (bucketOf hash shm sectionKey) sectionKey with
    ⟨last, found, absent⟩ | ⟨front, idx, back, split, found, same⟩
  · have missing := owned.not_holds nonempty absent
    cases value with
    | none =>
        simp only [found, ne_eq, not_true_eq_false, if_false]
        exact ⟨shm, _, rfl, wellFormed, rfl, rfl, .deleteAbsent missing (Edit.refl shm)⟩
    | some v =>
        obtain ⟨shm', idx, age, got, obtained⟩ := owned.obtainSlot wellFormed.slots_pos now
        obtain ⟨chain', free', owned'⟩ := obtained.insert nonempty missing v expiry now
        have inside : InRange shm idx := by
          obtain ⟨_, _, looseOwned⟩ := obtained.owned
          have bounds := looseOwned.looseOutside idx rfl
          exact ⟨bounds.1, obtained.entries.nslots ▸ bounds.2.1⟩
        have edit := obtained.entries.after_same ((Edit.setSlot idx
          ⟨sectionKey, now, expiry, shm'.buckets (bucketOf hash shm sectionKey), v⟩).setBucket
            (bucketOf hash shm sectionKey) idx)
        simp only [found, ne_eq, not_true_eq_false, if_false, got, obtained.nonzero,
          entryInsert_eq _ _ _ _ _ _ fits]
        refine ⟨_, _, rfl, wellFormed.edit edit owned', rfl, rfl,
          .insert idx v missing inside obtained.source edit ?_ ?_ ?_⟩ <;>
        simp [Header.setBucket]
  · have member : idx ∈ chain (bucketOf hash shm sectionKey) := by simp [split]
    have holds : Holds shm idx sectionKey := same ▸ owned.holds member
    have nonzero := (owned.chains _).ne_zero member
    cases value with
    | none =>
        have removed := Edit.remove shm (bucketOf hash shm sectionKey) (front.getLast?.getD 0) idx
        simp only [found, ne_eq, nonzero, not_false_eq_true, if_true]
        exact ⟨_, _, rfl, wellFormed.edit removed (owned.remove split), rfl, rfl,
          .delete idx holds removed (slotFree_sectionKey _ _)⟩
    | some v =>
        have updated : Edit (· = idx) shm (entryUpdate shm idx v expiry now) := Edit.setSlot idx _
        have relinked := owned.sameLinks (sameLinks_entryUpdate idx v expiry now)
        simp only [found, ne_eq, nonzero, not_false_eq_true, if_true]
        refine ⟨_, _, rfl, wellFormed.edit updated relinked, rfl, rfl,
          .overwrite idx v holds updated ?_ ?_ ?_⟩
        · simpa [entryUpdate] using same
        · simp [entryUpdate]
        · simp [entryUpdate]

end Shm

end ModAuthOpenidc
