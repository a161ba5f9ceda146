import ModAuthOpenidc.Cache.Shm
import ModAuthOpenidc.SipHash

/-!
# The hash of the shared memory cache

The buckets of the shared memory cache are chosen by a hash with a secret key. It reads a key of the
cache in words, sets the bytes behind the last word into a word of their own with the length, and so
needs no copy of the key with padding.
-/

namespace ModAuthOpenidc

namespace Shm

open SipHash (State littleEndian words padTo compress)

/-- `oidc_cache_shm_rotate_left`. -/
def rotateLeft (v n : UInt64) : UInt64 := v <<< n ||| v >>> (64 - n)

/-- `oidc_cache_shm_load64_le`. -/
def load64Le (p0 p1 p2 p3 p4 p5 p6 p7 : UInt8) : UInt64 :=
  p0.toUInt64 ||| p1.toUInt64 <<< 8 ||| p2.toUInt64 <<< 16 |||
    p3.toUInt64 <<< 24 ||| p4.toUInt64 <<< 32 ||| p5.toUInt64 <<< 40 |||
    p6.toUInt64 <<< 48 ||| p7.toUInt64 <<< 56

/-- `OIDC_CACHE_SHM_SIPROUND`. -/
def sipRound (v : State) : State :=
  let v0 := v.v0 + v.v1
  let v1 := rotateLeft v.v1 13
  let v1 := v1 ^^^ v0
  let v0 := rotateLeft v0 32
  let v2 := v.v2 + v.v3
  let v3 := rotateLeft v.v3 16
  let v3 := v3 ^^^ v2
  let v0 := v0 + v3
  let v3 := rotateLeft v3 21
  let v3 := v3 ^^^ v0
  let v2 := v2 + v1
  let v1 := rotateLeft v1 17
  let v1 := v1 ^^^ v2
  let v2 := rotateLeft v2 32
  { v0, v1, v2, v3 }

/-- What `oidc_cache_shm_siphash` does with a word. -/
def sipWord (v : State) (m : UInt64) : State :=
  let v := { v with v3 := v.v3 ^^^ m }
  let v := sipRound v
  let v := sipRound v
  { v with v0 := v.v0 ^^^ m }

/-- The loop of `oidc_cache_shm_siphash`, with the offsets of `end` and `p` and the bytes from `p`
on. There is no result if it reads behind the data. -/
def siphashLoop (stop : Nat) : Nat → List UInt8 → State → Option (State × List UInt8)
  | offset, p0 :: p1 :: p2 :: p3 :: p4 :: p5 :: p6 :: p7 :: p, v =>
      if offset ≠ stop then
        siphashLoop stop (offset + 8) p (sipWord v (load64Le p0 p1 p2 p3 p4 p5 p6 p7))
      else some (v, p0 :: p1 :: p2 :: p3 :: p4 :: p5 :: p6 :: p7 :: p)
  | offset, p, v => if offset ≠ stop then none else some (v, p)

/-- The bytes behind the last word. -/
def siphashTail (p : List UInt8) (count : Nat) (tail : UInt64) : Option UInt64 :=
  (List.range count).foldlM
    (fun tail i => p[i]?.map fun byte => tail ||| byte.toUInt64 <<< UInt64.ofNat (8 * i)) tail

/-- `oidc_cache_shm_siphash`, with `len & ~7` as `len ^^^ (len &&& 7)`. -/
def siphash (data : List UInt8) (key0 key1 : UInt64) : Option UInt64 :=
  let len := data.length
  let v : State :=
    { v0 := 0x736f6d6570736575 ^^^ key0
      v1 := 0x646f72616e646f6d ^^^ key1
      v2 := 0x6c7967656e657261 ^^^ key0
      v3 := 0x7465646279746573 ^^^ key1 }
  match siphashLoop (len ^^^ (len &&& 7)) 0 data v with
  | none => none
  | some (v, p) =>
      match siphashTail p (len &&& 7) (UInt64.ofNat len <<< 56) with
      | none => none
      | some tail =>
          let v := sipWord v tail
          let v := { v with v2 := v.v2 ^^^ 0xff }
          let v := sipRound^[4] v
          some (v.v0 ^^^ v.v1 ^^^ v.v2 ^^^ v.v3)

/-- `oidc_cache_shm_hash`. -/
def shmHash (s : String) (key0 key1 : UInt64) : Option UInt64 :=
  siphash (s.toList.map fun c => UInt8.ofNat c.toNat) key0 key1

/-! ## Rounds -/

theorem rotateLeft_eq (v : UInt64) {n : Nat} (positive : 0 < n) (small : n < 64) :
    rotateLeft v (UInt64.ofNat n) = SipHash.rotate v n := by
  have count : (UInt64.ofNat n).toNat = n := by
    rw [UInt64.toNat_ofNat', Nat.mod_eq_of_lt (by omega)]
  have rest : (64 - UInt64.ofNat n).toNat = 64 - n := by
    rw [UInt64.toNat_sub, count]
    change (2 ^ 64 - n + 64) % 2 ^ 64 = 64 - n
    omega
  apply UInt64.toBitVec_inj.mp
  apply BitVec.eq_of_toNat_eq
  rw [SipHash.rotate, BitVec.rotateLeft_def, Nat.mod_eq_of_lt small, BitVec.toNat_or,
    BitVec.toNat_shiftLeft, BitVec.toNat_ushiftRight]
  change (rotateLeft v (UInt64.ofNat n)).toNat = _
  rw [rotateLeft, UInt64.toNat_or, UInt64.toNat_shiftLeft, UInt64.toNat_shiftRight, count, rest,
    Nat.mod_eq_of_lt small, Nat.mod_eq_of_lt (show 64 - n < 64 by omega)]
  rfl

theorem sipRound_eq (v : State) : sipRound v = SipHash.sipRound v := by
  have rotate13 (w : UInt64) : rotateLeft w 13 = SipHash.rotate w 13 :=
    rotateLeft_eq w (by decide) (by decide)
  have rotate16 (w : UInt64) : rotateLeft w 16 = SipHash.rotate w 16 :=
    rotateLeft_eq w (by decide) (by decide)
  have rotate17 (w : UInt64) : rotateLeft w 17 = SipHash.rotate w 17 :=
    rotateLeft_eq w (by decide) (by decide)
  have rotate21 (w : UInt64) : rotateLeft w 21 = SipHash.rotate w 21 :=
    rotateLeft_eq w (by decide) (by decide)
  have rotate32 (w : UInt64) : rotateLeft w 32 = SipHash.rotate w 32 :=
    rotateLeft_eq w (by decide) (by decide)
  simp only [sipRound, rotate13, rotate16, rotate17, rotate21, rotate32]
  rfl

theorem sipWord_eq (v : State) (m : UInt64) : sipWord v m = compress 2 v m := by
  rw [sipWord, sipRound_eq, sipRound_eq]
  rfl

/-! ## Bytes of a word -/

/-- A byte set above the bytes of a word. -/
theorem or_byte {word : UInt64} {low : List UInt8}
    (holds : word = UInt64.ofNat (littleEndian low)) (index : Nat) (length : low.length = index)
    (short : index < 8) (byte : UInt8) :
    word ||| byte.toUInt64 <<< UInt64.ofNat (8 * index) =
      UInt64.ofNat (littleEndian (low ++ [byte])) := by
  subst index holds
  have bound (bytes : List UInt8) (few : bytes.length ≤ 8) : littleEndian bytes < 2 ^ 64 :=
    (SipHash.littleEndian_lt bytes).trans_le (Nat.pow_le_pow_right (by decide : 0 < 256) few)
  have count : (UInt64.ofNat (8 * low.length)).toNat % 64 = 8 * low.length := by
    rw [UInt64.toNat_ofNat']
    omega
  have fits : byte.toNat <<< (8 * low.length) < 2 ^ 64 := by
    rw [Nat.shiftLeft_eq]
    calc byte.toNat * 2 ^ (8 * low.length) < 2 ^ 8 * 2 ^ (8 * low.length) :=
          Nat.mul_lt_mul_of_pos_right byte.toNat_lt (Nat.two_pow_pos _)
      _ = 2 ^ (8 + 8 * low.length) := (Nat.pow_add 2 8 (8 * low.length)).symm
      _ ≤ 2 ^ 64 := Nat.pow_le_pow_right (by decide) (by omega)
  apply UInt64.toNat_inj.mp
  rw [UInt64.toNat_or, UInt64.toNat_shiftLeft, count, UInt8.toNat_toUInt64, Nat.mod_eq_of_lt fits,
    UInt64.toNat_ofNat', UInt64.toNat_ofNat', Nat.mod_eq_of_lt (bound low (by omega)),
    SipHash.or_littleEndian, Nat.mod_eq_of_lt]
  apply bound
  rw [List.length_append, List.length_singleton]
  omega

theorem toUInt64_eq (byte : UInt8) : byte.toUInt64 = UInt64.ofNat (littleEndian [byte]) := by
  apply UInt64.toNat_inj.mp
  rw [UInt64.toNat_ofNat', SipHash.littleEndian_singleton, UInt8.toNat_toUInt64]
  have small := byte.toNat_lt
  omega

theorem load64Le_eq (p0 p1 p2 p3 p4 p5 p6 p7 : UInt8) :
    load64Le p0 p1 p2 p3 p4 p5 p6 p7 =
      UInt64.ofNat (littleEndian [p0, p1, p2, p3, p4, p5, p6, p7]) := by
  have bytes1 := toUInt64_eq p0
  have bytes2 := or_byte bytes1 1 rfl (by decide) p1
  have bytes3 := or_byte bytes2 2 rfl (by decide) p2
  have bytes4 := or_byte bytes3 3 rfl (by decide) p3
  have bytes5 := or_byte bytes4 4 rfl (by decide) p4
  have bytes6 := or_byte bytes5 5 rfl (by decide) p5
  have bytes7 := or_byte bytes6 6 rfl (by decide) p6
  exact or_byte bytes7 7 rfl (by decide) p7

/-- The bytes behind the last word are set one after the other. -/
theorem siphashTail_eq (p : List UInt8) {count : Nat} (inside : count ≤ p.length)
    (short : count < 8) (tail : UInt64) :
    siphashTail p count tail = some (tail ||| UInt64.ofNat (littleEndian (p.take count))) := by
  induction count with
  | zero =>
      rw [List.take_zero]
      exact congrArg some UInt64.or_zero.symm
  | succ count ih =>
      have byte : p[count]? = some p[count] := List.getElem?_eq_getElem inside
      have length : (p.take count).length = count := List.length_take_of_le (by omega)
      have next := or_byte rfl count length (by omega) p[count]
      have before := ih (by omega) (by omega)
      rw [siphashTail] at before ⊢
      rw [List.range_succ, List.foldlM_append, before, List.take_succ_eq_append_getElem inside,
        ← next, ← UInt64.or_assoc]
      simp [byte]

/-! ## The loop -/

theorem siphashLoop_stop (stop : Nat) (data : List UInt8) (v : State) :
    siphashLoop stop stop data v = some (v, data) := by
  unfold siphashLoop
  split
  · rw [if_neg (not_not.mpr rfl)]
  · rw [if_neg (not_not.mpr rfl)]

/-- The loop reads the words of the data and leaves what is behind them. -/
theorem siphashLoop_eq (total : Nat) {stop : Nat} (data : List UInt8) (offset : Nat) (v : State)
    (masked : stop = offset + (data.length - data.length % 8)) :
    ∃ v' p, siphashLoop stop offset data v = some (v', p) ∧ p.length = data.length % 8 ∧
      (words (padTo total data)).foldl (compress 2) v =
        (words (padTo total p)).foldl (compress 2) v' := by
  induction data using SipHash.block_induction generalizing offset v with
  | short data few =>
      obtain rfl : stop = offset := by omega
      exact ⟨v, data, siphashLoop_stop stop data v, by omega, rfl⟩
  | block first rest whole ih =>
      obtain ⟨b0, b1, b2, b3, b4, b5, b6, b7, rfl⟩ := SipHash.exists_bytes whole
      rw [List.length_append, whole] at masked
      have more : offset ≠ stop := by omega
      have length : ([b0, b1, b2, b3, b4, b5, b6, b7] ++ rest).length % 8 = rest.length % 8 := by
        rw [List.length_append, whole, Nat.add_mod_left]
      obtain ⟨v', p, run, left, same⟩ :=
        ih (offset + 8) (sipWord v (load64Le b0 b1 b2 b3 b4 b5 b6 b7)) (by omega)
      refine ⟨v', p, ?_, left.trans length.symm, ?_⟩
      · change siphashLoop stop offset (b0 :: b1 :: b2 :: b3 :: b4 :: b5 :: b6 :: b7 :: rest) v =
          some (v', p)
        rw [siphashLoop, if_pos more]
        exact run
      · rw [SipHash.padTo_append total whole, SipHash.words_append whole, List.foldl_cons,
          ← load64Le_eq, ← sipWord_eq, same]

/-- The length byte and the bytes behind the last word share a word. -/
theorem tail_eq (len : Nat) {low : Nat} (small : low < 2 ^ 56) :
    UInt64.ofNat len <<< 56 ||| UInt64.ofNat low = UInt64.ofNat (low + 2 ^ 56 * (len % 256)) := by
  have high : (UInt64.ofNat len <<< 56).toNat = 2 ^ 56 * (len % 256) := by
    rw [UInt64.toNat_shiftLeft, UInt64.toNat_ofNat', Nat.shiftLeft_eq]
    change len % 2 ^ 64 * 2 ^ 56 % 2 ^ 64 = _
    omega
  apply UInt64.toNat_inj.mp
  rw [UInt64.toNat_or, high, UInt64.toNat_ofNat', UInt64.toNat_ofNat',
    Nat.mod_eq_of_lt (by omega : low < 2 ^ 64), ← Nat.two_pow_add_eq_or_of_lt small]
  omega

theorem and_seven (len : Nat) : len &&& 7 = len % 8 := Nat.and_two_pow_sub_one_eq_mod len 3

/-- A length without its three low bits. -/
theorem xor_and_seven (len : Nat) : len ^^^ (len &&& 7) = len - len % 8 := by
  have whole : len - len % 8 = 2 ^ 3 * (len / 2 ^ 3) := by omega
  rw [whole, and_seven]
  apply Nat.eq_of_testBit_eq
  intro bit
  have seven : (len % 8).testBit bit = (decide (bit < 3) && len.testBit bit) :=
    Nat.testBit_mod_two_pow len 3 bit
  rw [Nat.testBit_xor, seven, Nat.testBit_two_pow_mul, Nat.testBit_div_two_pow]
  by_cases low : bit < 3
  · simp [low]
  · have high : 3 ≤ bit := by omega
    simp [low, high]

/-- The loop and the tail end, and mix the words of the padded data into the state. -/
theorem siphash_run (data : List UInt8) (start : State) :
    ∃ v p tail, siphashLoop (data.length ^^^ (data.length &&& 7)) 0 data start = some (v, p) ∧
      siphashTail p (data.length &&& 7) (UInt64.ofNat data.length <<< 56) = some tail ∧
      (words (padTo data.length data)).foldl (compress 2) start = sipWord v tail := by
  obtain ⟨v, p, run, left, same⟩ :=
    siphashLoop_eq data.length data 0 start (Nat.zero_add _).symm
  have short : p.length < 8 := by omega
  have low : littleEndian p < 2 ^ 56 :=
    (SipHash.littleEndian_lt p).trans_le (Nat.pow_le_pow_right (by decide : 0 < 256)
      (by omega : p.length ≤ 7))
  refine ⟨v, p, _, ?_, siphashTail_eq p ?_ ?_ _, ?_⟩
  · rw [xor_and_seven, run]
  · rw [and_seven, left]
  · rw [and_seven]
    omega
  · rw [same, SipHash.words_padTo_short data.length short, List.foldl_cons, List.foldl_nil,
      and_seven, List.take_of_length_le left.le, tail_eq data.length low, sipWord_eq]

/-- The hash is a function of the key of the cache, so every result about an arbitrary hash applies
to it. -/
theorem shmHash_total (key0 key1 : UInt64) :
    ∃ hash : String → UInt64, ∀ s, shmHash s key0 key1 = some (hash s) := by
  refine ⟨fun s => (shmHash s key0 key1).getD 0, ?_⟩
  intro s
  obtain ⟨v, p, tail, run, last, -⟩ := siphash_run (s.toList.map fun c => UInt8.ofNat c.toNat)
    { v0 := 0x736f6d6570736575 ^^^ key0
      v1 := 0x646f72616e646f6d ^^^ key1
      v2 := 0x6c7967656e657261 ^^^ key0
      v3 := 0x7465646279746573 ^^^ key1 }
  have total : (shmHash s key0 key1).isSome = true := by
    rw [shmHash, siphash, run]
    simp only [last, Option.isSome_some]
  obtain ⟨hash, equation⟩ := Option.isSome_iff_exists.mp total
  dsimp only
  rw [equation, Option.getD_some]

/-- The hash of the shared memory cache is SipHash-2-4, for data of every length. It reads nothing
behind the data. -/
theorem siphash_eq (data : List UInt8) (key0 key1 : UInt64) :
    siphash data key0 key1 = some (SipHash.hash 2 4 key0 key1 data) := by
  have rounds : sipRound = SipHash.sipRound := funext sipRound_eq
  have start : SipHash.start key0 key1 =
      { v0 := 0x736f6d6570736575 ^^^ key0
        v1 := 0x646f72616e646f6d ^^^ key1
        v2 := 0x6c7967656e657261 ^^^ key0
        v3 := 0x7465646279746573 ^^^ key1 } := by
    simp only [SipHash.start, UInt64.xor_comm]
  obtain ⟨v, p, tail, run, last, same⟩ := siphash_run data (SipHash.start key0 key1)
  rw [siphash, ← start, run]
  simp only [last]
  rw [SipHash.hash, same, rounds]
  rfl

end Shm

end ModAuthOpenidc
