import ModAuthOpenidc.IndexChain

/-!
# The shared-memory cache backend

This file follows `src/cache/shm.c`.  The segment is a header, an array of bucket heads and an array
of fixed-size slots; all links are 1-based slot indexes with `0` as the end marker.  Memory is a
function from indexes to cells, a C string is the `String` whose characters are its bytes, and
`apr_time_t` is an integer number of microseconds.  The chain walks of the source carry fuel
`nslots + 1`: an answer `none` says that the walk has not ended after that many steps.

The hash is a parameter: every result holds for an arbitrary function of the key.
-/

namespace ModAuthOpenidc

namespace Shm

open IndexChain

/-! ## Segment layout -/

/-- `OIDC_CACHE_SHM_KEY_MAX`. -/
def keyMax : Nat := 512

/-- `OIDC_CACHE_SHM_PRESSURE_WARN_INTERVAL`, sixty seconds. -/
def pressureWarnInterval : Int := 60 * 1000000

/-- `OIDC_CACHE_SHM_SEGMENT_SIZE_MAX`. -/
def segmentSizeMax : Nat := 16 * 1024 * 1024 * 1024

/-- `sizeof(oidc_cache_shm_header_t)` on the 64-bit ABI. -/
def headerSize : Nat := 48

/-- `sizeof(oidc_cache_shm_entry_t)`: key, two timestamps and a link, rounded up to 64 bytes. -/
def entryStructSize : Nat := 576

/-- One `oidc_cache_shm_entry_t`. -/
structure Entry where
  /-- Name of the entry; empty for a slot on the free list. -/
  sectionKey : String
  /-- Last read or write access. -/
  access : Int
  /-- Expiry timestamp. -/
  expires : Int
  /-- Next entry of the bucket chain or of the free list. -/
  next : Nat
  /-- Stored value. -/
  value : String
  deriving DecidableEq, Repr, Inhabited

/-- The segment: `oidc_cache_shm_header_t` with the buckets and the slots behind it. -/
structure Header where
  nslots : Nat
  nbuckets : Nat
  entrySize : Nat
  freeHead : Nat
  lastPressureWarning : Int
  buckets : Nat → Nat
  slots : Nat → Entry

/-- The range of a C `int`. -/
def IsInt (n : Int) : Prop := -2 ^ 31 ≤ n ∧ n < 2 ^ 31

instance (n : Int) : Decidable (IsInt n) := inferInstanceAs (Decidable (_ ∧ _))

/-- The two configuration values read by the backend. -/
structure Config where
  /-- `OIDCCacheShmMax`. -/
  shmSizeMax : Int
  /-- `OIDCCacheShmEntrySizeMax`. -/
  shmEntrySizeMax : Int
  shmSizeMax_int : IsInt shmSizeMax := by decide
  shmEntrySizeMax_int : IsInt shmEntrySizeMax := by decide

namespace Header

/-- The link stored in a slot. -/
def next (shm : Header) (idx : Nat) : Nat := (shm.slots idx).next

/-- Overwrite one slot. -/
def setSlot (shm : Header) (idx : Nat) (entry : Entry) : Header :=
  { shm with slots := Function.update shm.slots idx entry }

/-- Overwrite the link of one slot. -/
def setNext (shm : Header) (idx target : Nat) : Header :=
  shm.setSlot idx { shm.slots idx with next := target }

/-- Overwrite one bucket head. -/
def setBucket (shm : Header) (bucket target : Nat) : Header :=
  { shm with buckets := Function.update shm.buckets bucket target }

/-- `if (prev != 0) slot(prev)->next = t->next; else *bucket = t->next;` -/
def spliceOut (shm : Header) (bucket prev idx : Nat) : Header :=
  if prev ≠ 0 then shm.setNext prev (shm.next idx) else shm.setBucket bucket (shm.next idx)

end Header

/-- Arithmetic in `apr_uint64_t`. -/
def u64 (n : Nat) : Nat := n % 2 ^ 64

/-- `(n + 63) & ~63` in 64 bits. -/
def align64 (n : Nat) : Nat := u64 (n + 63) / 64 * 64

/-- A C `int` cast to an unsigned type of the given width. -/
def castUnsigned (bits : Nat) (n : Int) : Nat := (n % (2 : Int) ^ bits).toNat

/-- `oidc_cache_shm_segment_size`. -/
def segmentSize (shmSizeMax shmEntrySizeMax : Int) (nbuckets : Nat) : Option Nat :=
  let bucketSize := align64 (u64 (nbuckets * 4))
  let slotSize := align64 (castUnsigned 64 shmEntrySizeMax)
  let slotsSize := u64 (slotSize * castUnsigned 64 shmSizeMax)
  let total := u64 (64 + align64 headerSize + bucketSize + slotsSize)
  if shmSizeMax ≤ 0 ∨ shmEntrySizeMax ≤ 0 ∨ nbuckets = 0 ∨
      slotsSize / slotSize ≠ castUnsigned 64 shmSizeMax ∨ total < slotsSize ∨
      2 ^ 64 - 1 < total ∨ segmentSizeMax < total then
    none
  else
    some total

/-- The doubling loop of `oidc_cache_shm_post_config`; `UINT32_MAX / 2` stops it within 32 turns. -/
def growBuckets (wanted : Nat) : Nat → Nat → Nat
  | 0, nbuckets => nbuckets
  | fuel + 1, nbuckets =>
      if nbuckets < wanted ∧ nbuckets ≤ (2 ^ 32 - 1) / 2 then
        growBuckets wanted fuel (nbuckets * 2)
      else
        nbuckets

/-- The number of hash buckets chosen for `shmSizeMax` slots. -/
def nbucketsFor (shmSizeMax : Int) : Nat := growBuckets (castUnsigned 32 shmSizeMax) 32 1

/-- The segment as `oidc_cache_shm_post_config` leaves it: empty buckets, every slot on the free
list.  `raw` is whatever the memory held before. -/
def initialSegment (nslots nbuckets entrySize : Nat) (raw : Nat → Entry) : Header where
  nslots := nslots
  nbuckets := nbuckets
  entrySize := entrySize
  freeHead := 1
  lastPressureWarning := 0
  buckets := fun _ => 0
  slots := fun idx =>
    if 1 ≤ idx ∧ idx ≤ nslots then
      { raw idx with
        sectionKey := ""
        access := 0
        next := if idx < nslots then idx + 1 else 0 }
    else
      raw idx

/-- The segment built for a configuration. -/
def configuredSegment (cfg : Config) (raw : Nat → Entry) : Header :=
  initialSegment (castUnsigned 32 cfg.shmSizeMax) (nbucketsFor cfg.shmSizeMax)
    (align64 (castUnsigned 64 cfg.shmEntrySizeMax) % 2 ^ 32) raw

/-- `oidc_cache_shm_post_config`, with the segment and the mutex obtained from the system. -/
def postConfig (cfg : Config) (raw : Nat → Entry) : Option Header :=
  if nbucketsFor cfg.shmSizeMax < castUnsigned 32 cfg.shmSizeMax then
    none
  else
    match segmentSize cfg.shmSizeMax cfg.shmEntrySizeMax (nbucketsFor cfg.shmSizeMax) with
    | none => none
    | some _ => some (configuredSegment cfg raw)

/-! ## Lookup -/

/-- `oidc_cache_section_key`. -/
def cacheSectionKey (sectionName key : String) : String := sectionName ++ ":" ++ key

/-- `oidc_cache_shm_get_key`: the combined key, refused when it does not fit in a slot. -/
def getKey (sectionName key : String) : Option String :=
  let sectionKey := cacheSectionKey sectionName key
  if keyMax ≤ sectionKey.length then none else some sectionKey

/-- `oidc_cache_shm_value_size_max`. -/
def valueSizeMax (cfg : Config) : Int := cfg.shmEntrySizeMax - entryStructSize

/-- `(apr_uint32_t)hash & (hdr->nbuckets - 1)`. -/
def bucketOf (hash : String → UInt64) (shm : Header) (sectionKey : String) : Nat :=
  (hash sectionKey).toNat % 2 ^ 32 &&& (shm.nbuckets - 1)

/-- `oidc_cache_shm_find`: the slot holding a key and its predecessor, or slot `0`. -/
def find (shm : Header) (bucket : Nat) (sectionKey : String) : Option (Nat × Nat) :=
  seek (fun idx => (shm.slots idx).sectionKey = sectionKey) shm.next (shm.nslots + 1) 0
    (shm.buckets bucket)

/-- `oidc_cache_shm_slot_free`. -/
def slotFree (shm : Header) (idx : Nat) : Header :=
  { shm.setSlot idx
      { shm.slots idx with
        sectionKey := ""
        access := 0
        next := shm.freeHead } with
    freeHead := idx }

/-- Whether locking and unlocking the cache mutex succeed for one call. -/
structure Mutex where
  lock : Bool := true
  unlock : Bool := true
  deriving DecidableEq, Repr

/-- What a call hands back to its caller. -/
structure Reply where
  /-- The `apr_byte_t` result. -/
  ok : Bool
  /-- The value written through the output parameter of a get. -/
  value : Option String := none
  /-- The age logged by `oidc_cache_shm_warn_pressure`, negative for no warning. -/
  pressureAge : Int := -1
  deriving DecidableEq, Repr

/-- `oidc_cache_shm_get`. -/
def get (hash : String → UInt64) (shm : Header) (mutex : Mutex) (sectionName key : String)
    (now : Int) : Option (Header × Reply) :=
  match getKey sectionName key with
  | none => some (shm, { ok := false })
  | some sectionKey =>
      let bucket := bucketOf hash shm sectionKey
      if mutex.lock = false then
        some (shm, { ok := false })
      else
        match find shm bucket sectionKey with
        | none => none
        | some (idx, prev) =>
            if idx = 0 then
              some (shm, { ok := mutex.unlock })
            else if now < (shm.slots idx).expires then
              some (shm.setSlot idx { shm.slots idx with access := now },
                { ok := mutex.unlock, value := some (shm.slots idx).value })
            else
              some (slotFree (shm.spliceOut bucket prev idx) idx, { ok := mutex.unlock })

/-! ## Eviction -/

/-- `oidc_cache_shm_unlink`: remove a slot from the chain its key hashes to. -/
def unlink (hash : String → UInt64) (shm : Header) (idx : Nat) : Option (Header × Bool) :=
  let bucket := bucketOf hash shm (shm.slots idx).sectionKey
  match seek (fun i => i = idx) shm.next (shm.nslots + 1) 0 (shm.buckets bucket) with
  | none => none
  | some (found, prev) =>
      if found = 0 then some (shm, false) else some (shm.spliceOut bucket prev found, true)

/-- The loop variables of `oidc_cache_shm_evict`. -/
structure Scan where
  expiredVictim : Nat
  lruVictim : Nat
  oldest : Int
  deriving DecidableEq, Repr

/-- One turn of the scan over the slots. -/
def scanSlot (shm : Header) (now : Int) (scan : Scan) (idx : Nat) : Scan :=
  let t := shm.slots idx
  if t.sectionKey = "" then
    scan
  else
    { expiredVictim :=
        if scan.expiredVictim = 0 ∧ t.expires ≤ now then idx else scan.expiredVictim
      lruVictim := if scan.lruVictim = 0 ∨ t.access < scan.oldest then idx else scan.lruVictim
      oldest := if scan.lruVictim = 0 ∨ t.access < scan.oldest then t.access else scan.oldest }

/-- The scan over all slots in ascending order. -/
def scanSlots (shm : Header) (now : Int) : Scan :=
  (List.range' 1 shm.nslots).foldl (scanSlot shm now) ⟨0, 0, 0⟩

/-- The slot chosen for eviction, `0` when no slot is occupied. -/
def victim (shm : Header) (now : Int) : Nat :=
  if (scanSlots shm now).expiredVictim ≠ 0 then (scanSlots shm now).expiredVictim
  else (scanSlots shm now).lruVictim

/-- Rate-limit the pressure warning: the updated header and the age to report. -/
def notePressure (shm : Header) (now : Int) (idx : Nat) : Header × Int :=
  let access := (shm.slots idx).access
  let age := if access ≤ now then (now - access) / 1000000 else 0
  if age < 3600 ∧ (shm.lastPressureWarning = 0 ∨ now < shm.lastPressureWarning ∨
      pressureWarnInterval ≤ now - shm.lastPressureWarning) then
    ({ shm with lastPressureWarning := now }, age)
  else
    (shm, -1)

/-- `oidc_cache_shm_evict`: the segment, the freed slot (`0` for none) and the pressure age. -/
def evict (hash : String → UInt64) (shm : Header) (now : Int) : Option (Header × Nat × Int) :=
  let idx := victim shm now
  if idx = 0 then
    some (shm, 0, -1)
  else
    let noted := if (scanSlots shm now).expiredVictim = 0 then notePressure shm now idx
      else (shm, -1)
    match unlink hash noted.1 idx with
    | none => none
    | some (shm', unlinked) => some (shm', if unlinked then idx else 0, noted.2)

/-! ## Storing -/

/-- `oidc_cache_shm_entry_update`. -/
def entryUpdate (shm : Header) (idx : Nat) (value : String) (expiry access : Int) : Header :=
  shm.setSlot idx { shm.slots idx with value := value, expires := expiry, access := access }

/-- `strncpy` into the key field of a slot, at most `OIDC_CACHE_SHM_KEY_MAX - 1` characters. -/
def copyKey (sectionKey : String) : String := String.ofList (sectionKey.toList.take (keyMax - 1))

/-- `oidc_cache_shm_entry_insert`. -/
def entryInsert (shm : Header) (bucket idx : Nat) (sectionKey value : String)
    (expiry access : Int) : Header :=
  let linked := (shm.setNext idx (shm.buckets bucket)).setBucket bucket idx
  let named := linked.setSlot idx { linked.slots idx with sectionKey := copyKey sectionKey }
  entryUpdate named idx value expiry access

/-- Take a slot for a new entry: the head of the free list, else an evicted one. -/
def obtainSlot (hash : String → UInt64) (shm : Header) (now : Int) :
    Option (Header × Nat × Int) :=
  if shm.freeHead ≠ 0 then
    some ({ shm with freeHead := shm.next shm.freeHead }, shm.freeHead, -1)
  else
    evict hash shm now

/-- The value size check of `oidc_cache_shm_set`. -/
def valueFits (cfg : Config) (value : String) : Bool :=
  0 < valueSizeMax cfg ∧ (value.length : Int) < valueSizeMax cfg

/-- `oidc_cache_shm_set`; a `value` of `none` deletes. -/
def set (hash : String → UInt64) (cfg : Config) (shm : Header) (mutex : Mutex)
    (sectionName key : String) (value : Option String) (expiry now : Int) :
    Option (Header × Reply) :=
  match getKey sectionName key with
  | none => some (shm, { ok := false })
  | some sectionKey =>
      if value.any (fun v => !valueFits cfg v) then
        some (shm, { ok := false })
      else
        let bucket := bucketOf hash shm sectionKey
        if mutex.lock = false then
          some (shm, { ok := false })
        else
          match find shm bucket sectionKey with
          | none => none
          | some (idx, prev) =>
              match value with
              | none =>
                  if idx ≠ 0 then
                    some (slotFree (shm.spliceOut bucket prev idx) idx, { ok := mutex.unlock })
                  else
                    some (shm, { ok := mutex.unlock })
              | some v =>
                  if idx ≠ 0 then
                    some (entryUpdate shm idx v expiry now, { ok := mutex.unlock })
                  else
                    match obtainSlot hash shm now with
                    | none => none
                    | some (shm', slot, pressureAge) =>
                        if slot = 0 then
                          -- "could not obtain a cache slot"
                          some (shm', { ok := false })
                        else
                          some (entryInsert shm' bucket slot sectionKey v expiry now,
                            { ok := mutex.unlock,
                              pressureAge := if mutex.unlock then pressureAge else -1 })

/-! ## Diagnostics -/

/-- Walk one chain, marking slots as visited, until `reject` reports an error. -/
def validateWalk (reject : (Nat → Bool) → Nat → Option String) (next : Nat → Nat) :
    Nat → (Nat → Bool) → Nat → Option (Except String (Nat → Bool))
  | 0, _, _ => none
  | fuel + 1, visited, idx =>
      if idx = 0 then
        some (.ok visited)
      else
        match reject visited idx with
        | some error => some (.error error)
        | none => validateWalk reject next fuel (Function.update visited idx true) (next idx)

/-- The checks on one slot of a bucket chain. -/
def rejectOccupied (hash : String → UInt64) (shm : Header) (bucket : Nat) (visited : Nat → Bool)
    (idx : Nat) : Option String :=
  if shm.nslots < idx ∨ visited idx then
    some s!"invalid or repeated occupied slot {idx}"
  else if (shm.slots idx).sectionKey = "" ∨
      bucketOf hash shm (shm.slots idx).sectionKey ≠ bucket then
    some s!"slot {idx} is linked from the wrong bucket"
  else
    none

/-- `oidc_cache_shm_validate_buckets`. -/
def validateBuckets (hash : String → UInt64) (shm : Header) :
    List Nat → (Nat → Bool) → Option (Except String (Nat → Bool))
  | [], visited => some (.ok visited)
  | bucket :: buckets, visited =>
      match validateWalk (rejectOccupied hash shm bucket) shm.next (shm.nslots + 1) visited
          (shm.buckets bucket) with
      | some (.ok visited') => validateBuckets hash shm buckets visited'
      | stopped => stopped

/-- The checks on one slot of the free list. -/
def rejectFree (shm : Header) (visited : Nat → Bool) (idx : Nat) : Option String :=
  if shm.nslots < idx ∨ visited idx ∨ (shm.slots idx).sectionKey ≠ "" then
    some s!"invalid or repeated free slot {idx}"
  else
    none

/-- `oidc_cache_shm_validate_free_list`. -/
def validateFreeList (shm : Header) (visited : Nat → Bool) : Option (Except String (Nat → Bool)) :=
  validateWalk (rejectFree shm) shm.next (shm.nslots + 1) visited shm.freeHead

/-- `oidc_cache_shm_validate_ownership`. -/
def validateOwnership (shm : Header) (visited : Nat → Bool) : Except String Unit :=
  match (List.range' 1 shm.nslots).find? (fun idx => visited idx = false) with
  | some idx => .error s!"orphaned slot {idx}"
  | none => .ok ()

/-- `oidc_cache_shm_validate` with the mutex held and a non-`NULL` error pointer. -/
def validate (hash : String → UInt64) (shm : Header) : Option (Except String Unit) :=
  match validateBuckets hash shm (List.range shm.nbuckets) (fun _ => false) with
  | none => none
  | some (.error error) => some (.error error)
  | some (.ok visited) =>
      match validateFreeList shm visited with
      | none => none
      | some (.error error) => some (.error error)
      | some (.ok visited') => some (validateOwnership shm visited')

/-! ## Runs -/

/-- One call of the backend, with the clock reading it makes. -/
inductive Call
  | get (mutex : Mutex) (sectionName key : String) (now : Int)
  | set (mutex : Mutex) (sectionName key : String) (value : Option String) (expiry now : Int)
  deriving DecidableEq, Repr

/-- Execute one call. -/
def step (hash : String → UInt64) (cfg : Config) (shm : Header) : Call → Option (Header × Reply)
  | .get mutex sectionName key now => get hash shm mutex sectionName key now
  | .set mutex sectionName key value expiry now =>
      set hash cfg shm mutex sectionName key value expiry now

/-- Execute a sequence of calls, collecting the replies. -/
def run (hash : String → UInt64) (cfg : Config) (shm : Header) :
    List Call → Option (Header × List Reply)
  | [] => some (shm, [])
  | call :: calls =>
      match step hash cfg shm call with
      | none => none
      | some (shm', reply) => (run hash cfg shm' calls).map fun (final, replies) =>
          (final, reply :: replies)

end Shm

end ModAuthOpenidc
