import Mathlib.Data.Nat.Digits.Lemmas

/-!
# SipHash

A keyed hash of bytes. The message is padded with zeros and a byte for its length, cut into words of
64 bits with the lowest byte first, and every word is mixed into four words of state.
-/

namespace SipHash

/-- The four words of state. -/
structure State where
  v0 : UInt64
  v1 : UInt64
  v2 : UInt64
  v3 : UInt64
  deriving DecidableEq

/-- A rotation towards the high bits. -/
def rotate (word : UInt64) (count : Nat) : UInt64 := ⟨word.toBitVec.rotateLeft count⟩

/-- The first half of a round: two additions, two rotations, two exclusive ors and a rotation. -/
def halfRound (left right : Nat) (v : State) : State :=
  let v0 := v.v0 + v.v1
  let v2 := v.v2 + v.v3
  { v0 := rotate v0 32
    v1 := rotate v.v1 left ^^^ v0
    v2 := v2
    v3 := rotate v.v3 right ^^^ v2 }

/-- The state with the words `v0` and `v2` exchanged. -/
def cross (v : State) : State := { v with v0 := v.v2, v2 := v.v0 }

/-- A round: the second half adds the words the other way round. -/
def sipRound (v : State) : State := cross (halfRound 17 21 (cross (halfRound 13 16 v)))

/-- The mixing of one word, with so many rounds. -/
def compress (rounds : Nat) (v : State) (word : UInt64) : State :=
  let mixed := sipRound^[rounds] { v with v3 := v.v3 ^^^ word }
  { mixed with v0 := mixed.v0 ^^^ word }

/-- The last rounds and the result. -/
def finish (rounds : Nat) (v : State) : UInt64 :=
  let last := sipRound^[rounds] { v with v2 := v.v2 ^^^ 0xff }
  last.v0 ^^^ last.v1 ^^^ last.v2 ^^^ last.v3

/-- The state of a key. -/
def start (k0 k1 : UInt64) : State where
  v0 := k0 ^^^ 0x736f6d6570736575
  v1 := k1 ^^^ 0x646f72616e646f6d
  v2 := k0 ^^^ 0x6c7967656e657261
  v3 := k1 ^^^ 0x7465646279746573

/-! ## Words -/

/-- Bytes as a number, the lowest first. -/
def littleEndian (bytes : List UInt8) : Nat := Nat.ofDigits 256 (bytes.map UInt8.toNat)

/-- The words of bytes. What is left behind the last whole word is dropped. -/
def words : List UInt8 → List UInt64
  | b0 :: b1 :: b2 :: b3 :: b4 :: b5 :: b6 :: b7 :: rest =>
      UInt64.ofNat (littleEndian [b0, b1, b2, b3, b4, b5, b6, b7]) :: words rest
  | _ => []

/-- Bytes with zeros up to the last byte of a word, and there a length modulo 256. -/
def padTo (length : Nat) (bytes : List UInt8) : List UInt8 :=
  bytes ++ List.replicate (7 - bytes.length % 8) 0 ++ [UInt8.ofNat (length % 256)]

/-- SipHash with `c` rounds for every word and `d` rounds at the end. -/
def hash (c d : Nat) (k0 k1 : UInt64) (message : List UInt8) : UInt64 :=
  finish d ((words (padTo message.length message)).foldl (compress c) (start k0 k1))

/-! ## Bytes -/

theorem littleEndian_lt (bytes : List UInt8) : littleEndian bytes < 256 ^ bytes.length := by
  have digits : ∀ digit ∈ bytes.map UInt8.toNat, digit < 256 := by
    intro digit inside
    obtain ⟨byte, -, rfl⟩ := List.mem_map.mp inside
    exact byte.toNat_lt
  simpa [littleEndian] using Nat.ofDigits_lt_base_pow_length (by decide : 1 < 256) digits

theorem littleEndian_append (low high : List UInt8) :
    littleEndian (low ++ high) = littleEndian low + 256 ^ low.length * littleEndian high := by
  rw [littleEndian, List.map_append, Nat.ofDigits_append, List.length_map]
  rfl

theorem littleEndian_singleton (byte : UInt8) : littleEndian [byte] = byte.toNat :=
  Nat.ofDigits_singleton

theorem littleEndian_zeros (count : Nat) : littleEndian (List.replicate count 0) = 0 := by
  rw [littleEndian, List.map_replicate]
  exact Nat.ofDigits_replicate_zero

/-- A byte above the bits that are set so far. -/
theorem or_byte {low : Nat} (byte : UInt8) (index : Nat) (small : low < 256 ^ index) :
    low ||| byte.toNat <<< (8 * index) = low + 256 ^ index * byte.toNat := by
  have power : 256 ^ index = 2 ^ (8 * index) := by
    rw [Nat.pow_mul]
  rw [power] at small ⊢
  rw [Nat.or_comm, ← Nat.shiftLeft_add_eq_or_of_lt small, Nat.shiftLeft_eq, Nat.mul_comm,
    Nat.add_comm]

/-- Bytes set one above the other are a number in little-endian order. -/
theorem or_littleEndian (low : List UInt8) (byte : UInt8) :
    littleEndian low ||| byte.toNat <<< (8 * low.length) = littleEndian (low ++ [byte]) := by
  rw [or_byte byte low.length (littleEndian_lt low), littleEndian_append, littleEndian_singleton]

/-! ## Padding -/

theorem exists_bytes {block : List UInt8} (whole : block.length = 8) :
    ∃ b0 b1 b2 b3 b4 b5 b6 b7, block = [b0, b1, b2, b3, b4, b5, b6, b7] := by
  rcases block with _ | ⟨b0, _ | ⟨b1, _ | ⟨b2, _ | ⟨b3, _ | ⟨b4, _ | ⟨b5, _ | ⟨b6, _ |
    ⟨b7, _ | ⟨b8, block⟩⟩⟩⟩⟩⟩⟩⟩⟩
  all_goals simp at whole
  exact ⟨b0, b1, b2, b3, b4, b5, b6, b7, rfl⟩

/-- What holds of fewer than eight bytes, and of eight more whenever it holds, holds of all. -/
theorem block_induction {motive : List UInt8 → Prop}
    (short : ∀ bytes, bytes.length < 8 → motive bytes)
    (block : ∀ first rest, first.length = 8 → motive rest → motive (first ++ rest))
    (bytes : List UInt8) : motive bytes := by
  induction size : bytes.length using Nat.strong_induction_on generalizing bytes with
  | _ count ih =>
      by_cases few : bytes.length < 8
      · exact short bytes few
      · rw [← List.take_append_drop 8 bytes]
        apply block
        · rw [List.length_take]
          omega
        · apply ih (bytes.drop 8).length _ _ rfl
          rw [List.length_drop]
          omega

/-- A word at the front of bytes comes before the words of the others. -/
theorem words_append {block : List UInt8} (whole : block.length = 8) (rest : List UInt8) :
    words (block ++ rest) = UInt64.ofNat (littleEndian block) :: words rest := by
  obtain ⟨b0, b1, b2, b3, b4, b5, b6, b7, rfl⟩ := exists_bytes whole
  rfl

/-- Padding fills up what is behind the whole words. -/
theorem padTo_append (length : Nat) {block : List UInt8} (whole : block.length = 8)
    (rest : List UInt8) : padTo length (block ++ rest) = block ++ padTo length rest := by
  have remaining : (block ++ rest).length % 8 = rest.length % 8 := by
    rw [List.length_append, whole, Nat.add_mod_left]
  rw [padTo, remaining, List.append_assoc, List.append_assoc, padTo, List.append_assoc]

/-- Fewer than eight bytes are padded to one word, with the length in its highest byte. -/
theorem words_padTo_short (length : Nat) {bytes : List UInt8} (short : bytes.length < 8) :
    words (padTo length bytes) =
      [UInt64.ofNat (littleEndian bytes + 2 ^ 56 * (length % 256))] := by
  have whole : (padTo length bytes).length = 8 := by
    rw [padTo, List.length_append, List.length_append, List.length_replicate,
      List.length_singleton, Nat.mod_eq_of_lt short]
    omega
  have seven : bytes.length + (7 - bytes.length % 8) = 7 := by
    rw [Nat.mod_eq_of_lt short]
    omega
  have byte : (UInt8.ofNat (length % 256)).toNat = length % 256 := by
    rw [UInt8.toNat_ofNat', Nat.mod_mod]
  have value : littleEndian (padTo length bytes) =
      littleEndian bytes + 2 ^ 56 * (length % 256) := by
    rw [padTo, littleEndian_append, littleEndian_append, littleEndian_zeros, mul_zero, add_zero,
      List.length_append, List.length_replicate, seven, littleEndian_singleton, byte]
    rfl
  rw [← List.append_nil (padTo length bytes), words_append whole, value]
  rfl

/-- The first entry of the published table of SipHash-2-4: no message. -/
example : hash 2 4 0x0706050403020100 0x0f0e0d0c0b0a0908 [] = 0x726fdb47dd0e0e31 := by
  decide +kernel

/-- The published example of SipHash-2-4, with fifteen bytes. -/
example :
    hash 2 4 0x0706050403020100 0x0f0e0d0c0b0a0908 ((List.range 15).map UInt8.ofNat) =
      0xa129ca6149be45e5 := by
  decide +kernel

end SipHash
