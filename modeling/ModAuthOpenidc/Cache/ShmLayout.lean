import ModAuthOpenidc.Cache.Shm
import ModAuthOpenidc.WordExpr

/-!
# The layout of the shared-memory segment

The sizes in the segment are computed in three places: when the segment is requested, when a slot is
addressed and when the size of a value is checked. Here each of these computations is an expression
over machine words, with the types and conversions of the source on the 64-bit ABI. None of them
wraps for a segment that is not refused, and the header, the buckets and the slots lie apart from
each other in it.
-/

namespace ModAuthOpenidc

namespace Shm

open WordExpr

variable {cfg : Config}

/-- `apr_uint32_t`. -/
abbrev uint32 : IntType := .unsigned 32

/-- `apr_uint64_t`, `apr_size_t` and `uintptr_t`. -/
abbrev uint64 : IntType := .unsigned 64

/-- `apr_ssize_t`. -/
abbrev ssize : IntType := .signed 64

/-- `offsetof(oidc_cache_shm_entry_t, value)`: a key, two timestamps and a link. -/
def valueOffset : Nat := keyMax + 8 + 8 + 4

/-! ## The computations -/

/-- `APR_ALIGN(expr, 64)`, and `(expr + 63) & ~63`. -/
def alignExpr (expr : WordExpr) : WordExpr := .clearLow 6 (.binary .add uint64 expr (.value 63))

/-- The size of the bucket array: `nbuckets * sizeof(apr_uint32_t)`, aligned. -/
def bucketSizeExpr (nbuckets : Nat) : WordExpr :=
  alignExpr (.binary .mul uint64 (.cast uint64 (.value nbuckets)) (.value 4))

/-- `slots_size` of `oidc_cache_shm_segment_size`. -/
def slotsSizeExpr (shmSizeMax shmEntrySizeMax : Int) : WordExpr :=
  .binary .mul uint64 (alignExpr (.cast uint64 (.value shmEntrySizeMax)))
    (.cast uint64 (.value shmSizeMax))

/-- `total` of `oidc_cache_shm_segment_size`. -/
def totalExpr (shmSizeMax shmEntrySizeMax : Int) (nbuckets : Nat) : WordExpr :=
  .binary .add uint64
    (.binary .add uint64 (.binary .add uint64 (.value 64) (alignExpr (.value headerSize)))
      (bucketSizeExpr nbuckets))
    (slotsSizeExpr shmSizeMax shmEntrySizeMax)

/-- `hdr->nslots` in `oidc_cache_shm_post_config`. -/
def nslotsExpr (shmSizeMax : Int) : WordExpr := .cast uint32 (.value shmSizeMax)

/-- `hdr->entry_size` in `oidc_cache_shm_post_config`. -/
def strideExpr (shmEntrySizeMax : Int) : WordExpr :=
  .cast uint32 (alignExpr (.cast uint64 (.value shmEntrySizeMax)))

/-- `oidc_cache_shm_base`. -/
def baseExpr (base : Int) : WordExpr := alignExpr (.cast uint64 (.value base))

/-- `oidc_cache_shm_buckets`. -/
def bucketsExpr (base : Int) : WordExpr :=
  .binary .add uint64 (baseExpr base) (alignExpr (.value headerSize))

/-- `&oidc_cache_shm_buckets(hdr)[bucket]`. -/
def bucketExpr (base : Int) (bucket : Nat) : WordExpr :=
  .binary .add uint64 (bucketsExpr base)
      (.binary .mul uint64 (.cast uint64 (.value bucket)) (.value 4))

/-- `oidc_cache_shm_slot`. -/
def slotExpr (shm : Header) (base : Int) (idx : Nat) : WordExpr :=
  .binary .add uint64 (.binary .add uint64 (bucketsExpr base) (bucketSizeExpr shm.nbuckets))
    (.binary .mul uint64 (.cast uint64 (.binary .sub uint32 (.value idx) (.value 1)))
      (.cast uint64 (.value shm.entrySize)))

/-- `oidc_cache_shm_value_size_max`. -/
def valueLimitExpr (shmEntrySizeMax : Int) : WordExpr :=
  .binary .sub ssize (.cast ssize (.value shmEntrySizeMax)) (.cast ssize (.value entryStructSize))

/-- No computation on a segment leaves the range of its type. -/
structure NoWraps (cfg : Config) (shm : Header) (base : Int) : Prop where
  total : (totalExpr cfg.shmSizeMax cfg.shmEntrySizeMax shm.nbuckets).NoWrap
  nslots : (nslotsExpr cfg.shmSizeMax).NoWrap
  stride : (strideExpr cfg.shmEntrySizeMax).NoWrap
  /-- The doubling of `nbuckets`, after any number of turns. -/
  growth : ∀ turns, uint32.InRange (growBuckets (castUnsigned 32 cfg.shmSizeMax) turns 1)
  bucket : ∀ bucket < shm.nbuckets, (bucketExpr base bucket).NoWrap
  slot : ∀ idx, 1 ≤ idx → idx ≤ shm.nslots → (slotExpr shm base idx).NoWrap
  limit : (valueLimitExpr cfg.shmEntrySizeMax).NoWrap

/-- The slot with an index. -/
def slotRegion (shm : Header) (base : Int) (idx : Nat) : Region :=
  ⟨(slotExpr shm base idx).machine, shm.entrySize⟩

/-- The header, the bucket array and the slots. -/
def regions (shm : Header) (base : Int) : List Region :=
  ⟨(baseExpr base).machine, headerSize⟩ :: ⟨(bucketsExpr base).machine, 4 * shm.nbuckets⟩ ::
    (List.range' 1 shm.nslots).map (slotRegion shm base)

/-! ## The number of buckets -/

/-- Doubling keeps a power of two, and stops before it could wrap. -/
theorem growBuckets_pow (wanted turns : Nat) {exponent : Nat} (small : exponent ≤ 31) :
    ∃ larger ≤ 31, growBuckets wanted turns (2 ^ exponent) = 2 ^ larger := by
  induction turns generalizing exponent with
  | zero => exact ⟨exponent, small, rfl⟩
  | succ turns ih =>
      rw [growBuckets]
      split
      · next more =>
          have strict : exponent < 31 := by
            by_contra large
            have all : exponent = 31 := by omega
            rw [all] at more
            omega
          rw [← pow_succ]
          exact ih strict
      · exact ⟨exponent, small, rfl⟩

/-- Enough turns reach every number up to `2 ^ 31`. -/
theorem growBuckets_ge {wanted : Nat} (small : wanted ≤ 2 ^ 31) (turns : Nat) {nbuckets : Nat}
    (enough : wanted ≤ nbuckets * 2 ^ turns) : wanted ≤ growBuckets wanted turns nbuckets := by
  induction turns generalizing nbuckets with
  | zero => simpa [growBuckets] using enough
  | succ turns ih =>
      rw [growBuckets]
      split
      · apply ih
        rw [pow_succ'] at enough
        rwa [mul_assoc]
      · omega

/-! ## Exact values -/

theorem castUnsigned_of_lt {bits : Nat} {n : Int} (positive : 0 ≤ n) (bound : n < 2 ^ bits) :
    (castUnsigned bits n : Int) = n := by
  rw [castUnsigned, Int.emod_eq_of_lt positive bound, Int.toNat_of_nonneg positive]

theorem align64_of_lt {n : Nat} (bound : n + 63 < 2 ^ 64) : align64 n = (n + 63) / 64 * 64 := by
  rw [align64, u64, Nat.mod_eq_of_lt bound]

@[simp] theorem alignExpr_exact (expr : WordExpr) :
    (alignExpr expr).exact = (expr.exact + 63) / 64 * 64 := rfl

@[simp] theorem alignExpr_noWrap (expr : WordExpr) :
    (alignExpr expr).NoWrap ↔ expr.NoWrap ∧ 0 ≤ expr.exact + 63 ∧ expr.exact + 63 < 2 ^ 64 := by
  simp [alignExpr]

/-- A size that is not refused is the one over the integers. -/
theorem segmentSize_eq_some {nbuckets size : Nat} (small : nbuckets ≤ 2 ^ 31)
    (sized : segmentSize cfg.shmSizeMax cfg.shmEntrySizeMax nbuckets = some size) :
    0 < cfg.shmSizeMax ∧ 0 < cfg.shmEntrySizeMax ∧ size ≤ segmentSizeMax ∧
      (size : Int) = (totalExpr cfg.shmSizeMax cfg.shmEntrySizeMax nbuckets).exact := by
  have slots_lt := cfg.shmSizeMax_int.2
  have entry_lt := cfg.shmEntrySizeMax_int.2
  unfold segmentSize at sized
  dsimp only at sized
  split at sized
  · simp at sized
  · next accepted =>
      simp only [not_or, not_le, not_lt, not_not] at accepted
      obtain ⟨slots_pos, entry_pos, -, -, -, -, bounded⟩ := accepted
      rw [Option.some.injEq] at sized
      refine ⟨slots_pos, entry_pos, sized ▸ bounded, ?_⟩
      have slots_eq := @castUnsigned_of_lt 64 cfg.shmSizeMax slots_pos.le (by omega)
      have entry_eq := @castUnsigned_of_lt 64 cfg.shmEntrySizeMax entry_pos.le (by omega)
      have total : (totalExpr cfg.shmSizeMax cfg.shmEntrySizeMax nbuckets).exact =
          64 + (48 + 63) / 64 * 64 + ((nbuckets : Int) * 4 + 63) / 64 * 64 +
            (cfg.shmEntrySizeMax + 63) / 64 * 64 * cfg.shmSizeMax := rfl
      rw [total, ← slots_eq, ← entry_eq, ← sized]
      generalize castUnsigned 64 cfg.shmSizeMax = slots at *
      generalize castUnsigned 64 cfg.shmEntrySizeMax = entry at *
      have product : (entry + 63) / 64 * 64 * slots ≤ 2 ^ 31 * 2 ^ 31 :=
        Nat.mul_le_mul (by omega) (by omega)
      have stride_cast : ((entry : Int) + 63) / 64 * 64 = ((entry + 63) / 64 * 64 : Nat) := by omega
      rw [stride_cast]
      have header : align64 headerSize = 64 := by decide
      rw [header, align64_of_lt (n := entry) (by omega), u64, u64, u64,
        Nat.mod_eq_of_lt (a := nbuckets * 4) (by omega), align64_of_lt (by omega)]
      generalize (entry + 63) / 64 * 64 = stride at *
      rw [Nat.mod_eq_of_lt (a := stride * slots) (by omega), Nat.mod_eq_of_lt (by omega)]
      push_cast
      omega

/-! ## No computation wraps -/

/-- What is known about the numbers in a segment that was not refused. -/
structure Sized (cfg : Config) (shm : Header) (size : Nat) : Prop where
  slots_pos : 0 < cfg.shmSizeMax
  entry_pos : 0 < cfg.shmEntrySizeMax
  nslots : (shm.nslots : Int) = cfg.shmSizeMax
  entrySize : (shm.entrySize : Int) = (cfg.shmEntrySizeMax + 63) / 64 * 64
  nbuckets_pos : 1 ≤ shm.nbuckets
  nbuckets_le : shm.nbuckets ≤ 2 ^ 31
  bounded : size ≤ segmentSizeMax
  total : (size : Int) =
      128 + ((shm.nbuckets : Int) * 4 + 63) / 64 * 64 + shm.nslots * shm.entrySize

theorem nbucketsFor_pow (shmSizeMax : Int) :
    ∃ exponent ≤ 31, nbucketsFor shmSizeMax = 2 ^ exponent :=
  @growBuckets_pow (castUnsigned 32 shmSizeMax) 32 0 (by decide)

theorem nbucketsFor_le (shmSizeMax : Int) :
    1 ≤ nbucketsFor shmSizeMax ∧ nbucketsFor shmSizeMax ≤ 2 ^ 31 := by
  obtain ⟨exponent, small, power⟩ := nbucketsFor_pow shmSizeMax
  rw [power]
  exact ⟨Nat.one_le_two_pow, Nat.pow_le_pow_right (by decide) small⟩

/-- The segment built for a configuration has the size that was requested. -/
theorem configuredSegment_sized {size : Nat} (raw : Nat → Entry)
    (sized : segmentSize cfg.shmSizeMax cfg.shmEntrySizeMax
    (nbucketsFor cfg.shmSizeMax) = some size) :
    Sized cfg (configuredSegment cfg raw) size := by
  obtain ⟨nbuckets_pos, nbuckets_le⟩ := nbucketsFor_le cfg.shmSizeMax
  obtain ⟨slots_pos, entry_pos, bounded, total⟩ := segmentSize_eq_some nbuckets_le sized
  have slots_lt := cfg.shmSizeMax_int.2
  have entry_lt := cfg.shmEntrySizeMax_int.2
  have slots_eq := @castUnsigned_of_lt 32 cfg.shmSizeMax slots_pos.le (by omega)
  have entry_eq := @castUnsigned_of_lt 64 cfg.shmEntrySizeMax entry_pos.le (by omega)
  have stride : ((configuredSegment cfg raw).entrySize : Int) =
      (cfg.shmEntrySizeMax + 63) / 64 * 64 := by
    rw [configuredSegment, initialSegment]
    dsimp only
    rw [align64_of_lt (by omega), Nat.mod_eq_of_lt (by omega)]
    omega
  refine ⟨slots_pos, entry_pos, slots_eq, stride, nbuckets_pos, nbuckets_le, bounded, ?_⟩
  have nslots : ((configuredSegment cfg raw).nslots : Int) = cfg.shmSizeMax := slots_eq
  have nbuckets : (configuredSegment cfg raw).nbuckets = nbucketsFor cfg.shmSizeMax := rfl
  rw [total, nslots, stride, nbuckets, mul_comm cfg.shmSizeMax]
  have exact_eq : (totalExpr cfg.shmSizeMax cfg.shmEntrySizeMax
    (nbucketsFor cfg.shmSizeMax)).exact =
      64 + (48 + 63) / 64 * 64 + ((nbucketsFor cfg.shmSizeMax : Int) * 4 + 63) / 64 * 64 +
        (cfg.shmEntrySizeMax + 63) / 64 * 64 * cfg.shmSizeMax := rfl
  rw [exact_eq]
  omega

section Addresses

variable {shm : Header} {size : Nat} {base : Int}

theorem bucketSizeExpr_noWrap (known : Sized cfg shm size) :
    (bucketSizeExpr shm.nbuckets).NoWrap := by
  have bound := known.nbuckets_le
  simp only [bucketSizeExpr, alignExpr_noWrap, noWrap_mul, noWrap_cast, noWrap_value, exact_mul,
    exact_cast, exact_value, IntType.inRange_unsigned, true_and]
  omega

/-- The base of the layout is the first aligned address of the segment. -/
theorem baseExpr_noWrap (known : Sized cfg shm size) (low : 0 ≤ base)
    (mapped : base + size ≤ 2 ^ 64) :
    (baseExpr base).NoWrap := by
  have total := known.total
  have product : 0 ≤ (shm.nslots : Int) * shm.entrySize := Int.mul_nonneg (by omega) (by omega)
  simp only [baseExpr, alignExpr_noWrap, noWrap_cast, noWrap_value, exact_cast, exact_value,
    IntType.inRange_unsigned, true_and]
  omega

@[simp] theorem bucketsExpr_exact (base : Int) :
    (bucketsExpr base).exact = (base + 63) / 64 * 64 + 64 := rfl

theorem bucketsExpr_noWrap (known : Sized cfg shm size) (low : 0 ≤ base)
    (mapped : base + size ≤ 2 ^ 64) : (bucketsExpr base).NoWrap := by
  have total := known.total
  have product : 0 ≤ (shm.nslots : Int) * shm.entrySize := Int.mul_nonneg (by omega) (by omega)
  refine ⟨baseExpr_noWrap known low mapped, by simp [headerSize], ?_⟩
  rw [IntType.inRange_unsigned]
  change 0 ≤ (base + 63) / 64 * 64 + 64 ∧ (base + 63) / 64 * 64 + 64 < 2 ^ 64
  omega

theorem bucketExpr_noWrap (known : Sized cfg shm size) (low : 0 ≤ base)
    (mapped : base + size ≤ 2 ^ 64) {bucket : Nat} (inside : bucket < shm.nbuckets) :
    (bucketExpr base bucket).NoWrap := by
  have total := known.total
  have bound := known.nbuckets_le
  have product : 0 ≤ (shm.nslots : Int) * shm.entrySize := Int.mul_nonneg (by omega) (by omega)
  simp only [bucketExpr, noWrap_add, noWrap_mul, noWrap_cast, noWrap_value, exact_mul, exact_cast,
    exact_value, bucketsExpr_exact, IntType.inRange_unsigned, true_and]
  refine ⟨bucketsExpr_noWrap known low mapped, ?_⟩
  omega

/-- Where the slots begin. -/
def slotsStart (shm : Header) (base : Int) : Int :=
  (base + 63) / 64 * 64 + 64 + ((shm.nbuckets : Int) * 4 + 63) / 64 * 64

@[simp] theorem slotExpr_exact (shm : Header) (base : Int) (idx : Nat) :
    (slotExpr shm base idx).exact = slotsStart shm base + ((idx : Int) - 1) * shm.entrySize := rfl

/-- The slots end inside the segment. -/
theorem slotsStart_le (known : Sized cfg shm size) (base : Int) :
    slotsStart shm base + shm.nslots * shm.entrySize ≤ base + size := by
  have total := known.total
  rw [slotsStart]
  omega

theorem slotExpr_noWrap (known : Sized cfg shm size) (low : 0 ≤ base)
    (mapped : base + size ≤ 2 ^ 64)
    {idx : Nat} (positive : 1 ≤ idx) (inside : idx ≤ shm.nslots) :
    (slotExpr shm base idx).NoWrap := by
  have finish := slotsStart_le known base
  have entry := known.entrySize
  have entry_lt := cfg.shmEntrySizeMax_int.2
  have entry_pos := known.entry_pos
  have slots_lt := cfg.shmSizeMax_int.2
  have nslots := known.nslots
  have before : 0 ≤ ((idx : Int) - 1) * shm.entrySize := Int.mul_nonneg (by omega) (by omega)
  have room : ((idx : Int) - 1 + 1) * shm.entrySize ≤ shm.nslots * shm.entrySize :=
    Int.mul_le_mul_of_nonneg_right (by omega) (by omega)
  rw [Int.add_mul, one_mul] at room
  have start : 0 ≤ slotsStart shm base := by
    rw [slotsStart]
    omega
  have bucketSize : (bucketSizeExpr shm.nbuckets).exact =
    ((shm.nbuckets : Int) * 4 + 63) / 64 * 64 := rfl
  simp only [slotExpr, noWrap_add, noWrap_mul, noWrap_sub, noWrap_cast, noWrap_value, exact_add,
    exact_mul, exact_sub, exact_cast, exact_value, bucketsExpr_exact, bucketSize,
    IntType.inRange_unsigned, true_and]
  rw [slotsStart] at finish start
  refine ⟨⟨bucketsExpr_noWrap known low mapped, bucketSizeExpr_noWrap known, ?_⟩, ?_⟩
  · omega
  · omega

theorem totalExpr_noWrap (known : Sized cfg shm size) :
    (totalExpr cfg.shmSizeMax cfg.shmEntrySizeMax shm.nbuckets).NoWrap := by
  have slots_lt := cfg.shmSizeMax_int.2
  have slots_pos := known.slots_pos
  have entry_lt := cfg.shmEntrySizeMax_int.2
  have entry_pos := known.entry_pos
  have total := known.total
  have bounded : size ≤ 17179869184 := known.bounded
  have product : 0 ≤ (shm.nslots : Int) * shm.entrySize := Int.mul_nonneg (by omega) (by omega)
  rw [known.nslots, known.entrySize, mul_comm cfg.shmSizeMax] at total product
  have bucketSize : (bucketSizeExpr shm.nbuckets).exact =
    ((shm.nbuckets : Int) * 4 + 63) / 64 * 64 := rfl
  simp only [totalExpr, slotsSizeExpr, noWrap_add, noWrap_mul, noWrap_cast, noWrap_value,
    alignExpr_noWrap, alignExpr_exact, exact_add, exact_mul, exact_cast, exact_value, bucketSize,
    IntType.inRange_unsigned, true_and, headerSize]
  refine ⟨⟨⟨?_, ?_⟩, bucketSizeExpr_noWrap known, ?_⟩, ?_⟩
  all_goals omega

/-- No computation on a segment that was not refused leaves the range of its type. -/
theorem Sized.noWraps (known : Sized cfg shm size) (low : 0 ≤ base)
    (mapped : base + size ≤ 2 ^ 64) :
    NoWraps cfg shm base where
  total := totalExpr_noWrap known
  nslots := by
    have slots_lt := cfg.shmSizeMax_int.2
    have slots_pos := known.slots_pos
    simp only [nslotsExpr, noWrap_cast, noWrap_value, exact_value,
      IntType.inRange_unsigned, true_and]
    omega
  stride := by
    have entry_lt := cfg.shmEntrySizeMax_int.2
    have entry_pos := known.entry_pos
    simp only [strideExpr, noWrap_cast, noWrap_value, alignExpr_noWrap, alignExpr_exact, exact_cast,
      exact_value, IntType.inRange_unsigned, true_and]
    omega
  growth turns := by
    obtain ⟨exponent, small, power⟩ :=
      @growBuckets_pow (castUnsigned 32 cfg.shmSizeMax) turns 0 (by decide)
    have bound : 2 ^ exponent ≤ 2 ^ 31 := Nat.pow_le_pow_right (by decide) small
    rw [pow_zero] at power
    rw [power, IntType.inRange_unsigned]
    omega
  bucket _ inside := bucketExpr_noWrap known low mapped inside
  slot _ positive inside := slotExpr_noWrap known low mapped positive inside
  limit := by
    have entry_lt := cfg.shmEntrySizeMax_int.2
    have entry_pos := known.entry_pos
    simp only [valueLimitExpr, noWrap_sub, noWrap_cast, noWrap_value, exact_cast, exact_value,
      IntType.inRange_signed, true_and, entryStructSize]
    omega

end Addresses

/-! ## The layout -/

section Layout

variable {shm : Header} {size : Nat} {base : Int}

/-- The slots are consecutive. -/
theorem slotRegions_eq (known : Sized cfg shm size) (low : 0 ≤ base)
    (mapped : base + size ≤ 2 ^ 64) :
    (List.range' 1 shm.nslots).map (slotRegion shm base) =
      Region.array (slotsStart shm base) shm.entrySize shm.nslots := by
  rw [Region.array, List.range'_eq_map_range, List.map_map]
  apply List.map_congr_left
  intro i inside
  rw [List.mem_range] at inside
  have fits : (slotExpr shm base (1 + i)).NoWrap :=
    slotExpr_noWrap known low mapped (by omega) (by omega)
  rw [Function.comp_apply, slotRegion, machine_eq_exact fits, slotExpr_exact]
  congr 3
  omega

/-- The header, the buckets and the slots lie behind each other. -/
theorem regions_eq (known : Sized cfg shm size) (low : 0 ≤ base) (mapped : base + size ≤ 2 ^ 64) :
    regions shm base = ⟨(base + 63) / 64 * 64, 48⟩ ::
        ⟨(base + 63) / 64 * 64 + 64, 4 * shm.nbuckets⟩ ::
      Region.array (slotsStart shm base) shm.entrySize shm.nslots := by
  rw [regions, slotRegions_eq known low mapped, machine_eq_exact (baseExpr_noWrap known low mapped),
    machine_eq_exact (bucketsExpr_noWrap known low mapped)]
  rfl

/-- The slots lie behind the buckets and inside the segment. -/
theorem slots_inside {region : Region}
    (member : region ∈ Region.array (slotsStart shm base) shm.entrySize shm.nslots) :
    region.Inside ⟨slotsStart shm base, shm.nslots * shm.entrySize⟩ :=
  Region.array_inside (by omega) member

theorem regions_pairwise (known : Sized cfg shm size) (low : 0 ≤ base)
    (mapped : base + size ≤ 2 ^ 64) : (regions shm base).Pairwise Region.Disjoint := by
  rw [regions_eq known low mapped]
  refine .cons ?_ (.cons ?_ (Region.array_pairwise _ (by omega) _))
  · intro region member
    rcases List.mem_cons.mp member with rfl | slot
    · exact .inl (by rw [Region.stop]; dsimp only; omega)
    · have behind := (slots_inside slot).1
      rw [slotsStart] at behind
      exact .inl (by rw [Region.stop]; dsimp only at behind ⊢; omega)
  · intro region slot
    have behind := (slots_inside slot).1
    rw [slotsStart] at behind
    exact .inl (by rw [Region.stop]; dsimp only at behind ⊢; omega)

theorem regions_inside (known : Sized cfg shm size) (low : 0 ≤ base) (mapped : base + size ≤ 2 ^ 64)
    {region : Region} (member : region ∈ regions shm base) :
    64 ∣ region.start ∧ region.Inside ⟨base, size⟩ := by
  have total := known.total
  have product : 0 ≤ (shm.nslots : Int) * shm.entrySize := Int.mul_nonneg (by omega) (by omega)
  rw [regions_eq known low mapped] at member
  rcases List.mem_cons.mp member with rfl | member
  · refine ⟨Dvd.intro_left _ rfl, ?_, ?_⟩
    · dsimp only
      omega
    · simp only [Region.stop]
      omega
  rcases List.mem_cons.mp member with rfl | slot
  · refine ⟨by dsimp only; omega, ?_, ?_⟩
    · dsimp only
      omega
    · simp only [Region.stop]
      omega
  · refine ⟨Region.array_aligned ?_ ?_ slot, ?_⟩
    · rw [slotsStart]
      omega
    · rw [known.entrySize]
      exact Dvd.intro_left _ rfl
    · refine (slots_inside slot).trans ⟨?_, ?_⟩
      · rw [slotsStart]
        dsimp only
        omega
      · exact slotsStart_le known base

end Layout

/-- A segment of seven slots that are smaller than an entry without its value. -/
def tinySegment : Config where
  shmSizeMax := 7
  shmEntrySizeMax := 65

end Shm

end ModAuthOpenidc
