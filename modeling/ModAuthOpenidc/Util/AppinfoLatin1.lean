import ModAuthOpenidc.Util.AppinfoTables
import ModAuthOpenidc.Cache.FileNames
import ModAuthOpenidc.Cache.KeySize

/-!
# Claim values in Latin-1

A conversion reads the bytes of a claim value one at a time. It gathers a code point from the bits
of each byte and writes it when the next byte does not continue it. The steps are stated with
numbers in place of bits, and a character of the value takes one to four of them.
-/

namespace ModAuthOpenidc

namespace Util

namespace AppinfoTables

open Cache (octets)

/-- The Latin-1 character for a character. -/
def latin1 (c : Char) : Char := if c.toNat ≤ 255 then c else '?'

/-- Whether a text does not start with a byte that continues a character. -/
def fresh (src : List Char) : Bool := src.head?.all fun c => c.toNat &&& 0xc0 ≠ 0x80

/-- The code point after a byte. -/
def advance (cp byte : Nat) : Nat :=
  if byte ≤ 0x7f then byte
  else if byte ≤ 0xbf then (cp * 64 + byte % 64) % 2 ^ 32
  else if byte ≤ 0xdf then byte % 32
  else if byte ≤ 0xef then byte % 16
  else byte % 8

/-! ## Bits -/

theorem continuation_iff : ∀ n < 256, n &&& 0xc0 = 0x80 ↔ 128 ≤ n ∧ n ≤ 191 := by
  decide +kernel

theorem append_bits (cp n : Nat) : cp <<< 6 ||| (n &&& 0x3f) = cp * 64 + n % 64 := by
  have low : n &&& 0x3f = n % 64 := Nat.and_two_pow_sub_one_eq_mod n 6
  rw [low, ← Nat.shiftLeft_add_eq_or_of_lt (Nat.mod_lt n (by decide : 0 < 2 ^ 6)),
    Nat.shiftLeft_eq]

theorem fresh_cons {n : Nat} (byte : n < 256) (src : List Char) :
    fresh (Char.ofNat n :: src) = true ↔ ¬(128 ≤ n ∧ n ≤ 191) := by
  rw [← continuation_iff n byte]
  simp [fresh, FileCache.toNat_ofNat_of_lt byte]

theorem loop_cons (cp : Nat) {n : Nat} (byte : n < 256) (src : List Char) :
    utf8ToLatin1Loop cp (Char.ofNat n :: src) =
      if fresh src = true ∧ advance cp n ≤ 0x10ffff then
        (if advance cp n ≤ 255 then Char.ofNat (advance cp n) else '?') ::
          utf8ToLatin1Loop (advance cp n) src
      else utf8ToLatin1Loop (advance cp n) src := by
  have five : n &&& 0x1f = n % 32 := Nat.and_two_pow_sub_one_eq_mod n 5
  have four : n &&& 0x0f = n % 16 := Nat.and_two_pow_sub_one_eq_mod n 4
  have three : n &&& 0x07 = n % 8 := Nat.and_two_pow_sub_one_eq_mod n 3
  rw [utf8ToLatin1Loop]
  simp only [FileCache.toNat_ofNat_of_lt byte, append_bits, five, four, three]
  rfl

theorem toNat_le (c : Char) : c.toNat ≤ 0x10ffff := by
  rcases c.valid with low | ⟨-, high⟩
  · exact (low.trans (by decide)).le
  · exact Nat.le_of_lt_succ high

/-! ## One byte -/

/-- A byte that the next one continues is not written. -/
theorem loop_waits (cp : Nat) {n m : Nat} (byte : n < 256) (next : 128 ≤ m ∧ m ≤ 191)
    (src : List Char) :
    utf8ToLatin1Loop cp (Char.ofNat n :: Char.ofNat m :: src) =
      utf8ToLatin1Loop (advance cp n) (Char.ofNat m :: src) := by
  have continued : ¬fresh (Char.ofNat m :: src) = true := by
    rw [fresh_cons (by omega)]
    exact not_not.mpr next
  rw [loop_cons cp byte, if_neg fun written => continued written.1]

/-- A byte that ends a character writes it. -/
theorem loop_writes (cp : Nat) {n : Nat} (byte : n < 256) {src : List Char}
    (start : fresh src = true) (c : Char) (point : advance cp n = c.toNat) :
    utf8ToLatin1Loop cp (Char.ofNat n :: src) = latin1 c :: utf8ToLatin1Loop c.toNat src := by
  rw [loop_cons cp byte, point, if_pos ⟨start, toNat_le c⟩, Char.ofNat_toNat]
  rfl

/-! ## One character -/

/-- The bytes of a character, as characters. -/
def bytes (c : Char) : List Char :=
  (String.utf8EncodeChar c).map fun byte => Char.ofNat byte.toNat

theorem ofNat_byte {n : Nat} (small : n < 256) :
    Char.ofNat (UInt8.ofNat n).toNat = Char.ofNat n := by
  rw [UInt8.toNat_ofNat', Nat.mod_eq_of_lt small]

/-- A character takes one to four bytes. -/
theorem bytes_eq (c : Char) :
    bytes c =
      if c.toNat ≤ 0x7f then [Char.ofNat c.toNat]
      else if c.toNat ≤ 0x7ff then
        [Char.ofNat (c.toNat / 64 % 0x20 + 0xc0), Char.ofNat (c.toNat % 0x40 + 0x80)]
      else if c.toNat ≤ 0xffff then
        [Char.ofNat (c.toNat / 4096 % 0x10 + 0xe0), Char.ofNat (c.toNat / 64 % 0x40 + 0x80),
          Char.ofNat (c.toNat % 0x40 + 0x80)]
      else
        [Char.ofNat (c.toNat / 262144 % 0x08 + 0xf0), Char.ofNat (c.toNat / 4096 % 0x40 + 0x80),
          Char.ofNat (c.toNat / 64 % 0x40 + 0x80), Char.ofNat (c.toNat % 0x40 + 0x80)] := by
  have value : c.val.toNat = c.toNat := rfl
  rw [bytes, String.utf8EncodeChar, value]
  split_ifs with one two three
  · rw [List.map_cons, List.map_nil, ofNat_byte (by omega)]
  · rw [List.map_cons, List.map_cons, List.map_nil, ofNat_byte (by omega), ofNat_byte (by omega)]
  · rw [List.map_cons, List.map_cons, List.map_cons, List.map_nil, ofNat_byte (by omega),
      ofNat_byte (by omega), ofNat_byte (by omega)]
  · rw [List.map_cons, List.map_cons, List.map_cons, List.map_cons, List.map_nil,
      ofNat_byte (by omega), ofNat_byte (by omega), ofNat_byte (by omega), ofNat_byte (by omega)]

theorem advance_ascii (cp : Nat) {n : Nat} (small : n ≤ 0x7f) : advance cp n = n := by
  rw [advance, if_pos small]

theorem advance_continuation (cp : Nat) {n : Nat} (small : n < 64) (fits : cp < 2 ^ 26) :
    advance cp (n + 0x80) = cp * 64 + n := by
  rw [advance, if_neg (by omega), if_pos (by omega)]
  omega

/-- A character is written once, whatever the code point before it. -/
theorem loop_bytes (cp : Nat) (c : Char) {src : List Char} (start : fresh src = true) :
    utf8ToLatin1Loop cp (bytes c ++ src) = latin1 c :: utf8ToLatin1Loop c.toNat src := by
  have scalar := toNat_le c
  rw [bytes_eq]
  split_ifs with one two three
  · exact loop_writes cp (by omega) start c (advance_ascii cp one)
  · have first : advance cp (c.toNat / 64 % 0x20 + 0xc0) = c.toNat / 64 := by
      rw [advance, if_neg (by omega), if_neg (by omega), if_pos (by omega)]
      omega
    rw [List.cons_append, List.cons_append, List.nil_append, loop_waits cp (by omega) (by omega),
      first]
    apply loop_writes _ (by omega) start
    rw [advance_continuation _ (by omega) (by omega)]
    omega
  · have first : advance cp (c.toNat / 4096 % 0x10 + 0xe0) = c.toNat / 4096 := by
      rw [advance, if_neg (by omega), if_neg (by omega), if_neg (by omega), if_pos (by omega)]
      omega
    have second : advance (c.toNat / 4096) (c.toNat / 64 % 0x40 + 0x80) = c.toNat / 64 := by
      rw [advance_continuation _ (by omega) (by omega)]
      omega
    rw [List.cons_append, List.cons_append, List.cons_append, List.nil_append,
      loop_waits cp (by omega) (by omega), first, loop_waits _ (by omega) (by omega), second]
    apply loop_writes _ (by omega) start
    rw [advance_continuation _ (by omega) (by omega)]
    omega
  · have first : advance cp (c.toNat / 262144 % 0x08 + 0xf0) = c.toNat / 262144 := by
      rw [advance, if_neg (by omega), if_neg (by omega), if_neg (by omega), if_neg (by omega)]
      omega
    have second : advance (c.toNat / 262144) (c.toNat / 4096 % 0x40 + 0x80) = c.toNat / 4096 := by
      rw [advance_continuation _ (by omega) (by omega)]
      omega
    have third : advance (c.toNat / 4096) (c.toNat / 64 % 0x40 + 0x80) = c.toNat / 64 := by
      rw [advance_continuation _ (by omega) (by omega)]
      omega
    rw [List.cons_append, List.cons_append, List.cons_append, List.cons_append, List.nil_append,
      loop_waits cp (by omega) (by omega), first, loop_waits _ (by omega) (by omega), second,
      loop_waits _ (by omega) (by omega), third]
    apply loop_writes _ (by omega) start
    rw [advance_continuation _ (by omega) (by omega)]
    omega

/-- The bytes of a character do not continue another one. -/
theorem fresh_bytes (c : Char) (src : List Char) : fresh (bytes c ++ src) = true := by
  rw [bytes_eq]
  split_ifs with one two three
  · exact (fresh_cons (by omega) _).mpr (by omega)
  · exact (fresh_cons (by omega) _).mpr (by omega)
  · exact (fresh_cons (by omega) _).mpr (by omega)
  · exact (fresh_cons (by omega) _).mpr (by omega)

/-! ## Texts -/

theorem fresh_flatMap (text : List Char) : fresh (text.flatMap bytes) = true := by
  cases text with
  | nil => rfl
  | cons c text =>
      rw [List.flatMap_cons]
      exact fresh_bytes c (text.flatMap bytes)

/-- Every character of a text is written once. -/
theorem loop_flatMap (cp : Nat) (text : List Char) :
    utf8ToLatin1Loop cp (text.flatMap bytes) = text.map latin1 := by
  induction text generalizing cp with
  | nil => rfl
  | cons c text ih =>
      rw [List.flatMap_cons, loop_bytes cp c (fresh_flatMap text), ih, List.map_cons]

theorem toList_octets (text : String) : (octets text).toList = text.toList.flatMap bytes := by
  have encoded : text.toByteArray.data.toList = text.toList.flatMap String.utf8EncodeChar := by
    rw [← String.utf8Encode_toList, List.utf8Encode, List.data_toByteArray]
  rw [octets, String.toList_ofList, encoded, List.map_flatMap]
  rfl

theorem latin1_ne_nul {c : Char} (nonzero : c ≠ '\x00') : (latin1 c).toNat ≠ 0 := by
  unfold latin1
  split
  · intro zero
    exact nonzero (Char.toNat_inj.mp zero)
  · decide

theorem length_write_le (written : Prop) [Decidable written] (byte : Char) (rest : List Char) :
    (if written then byte :: rest else rest).length ≤ rest.length + 1 := by
  split
  · exact le_rfl
  · exact Nat.le_succ rest.length

/-- At most one byte is written for every byte read. -/
theorem length_utf8ToLatin1Loop_le (cp : Nat) (src : List Char) :
    (utf8ToLatin1Loop cp src).length ≤ src.length := by
  induction src generalizing cp with
  | nil => rw [utf8ToLatin1Loop]
  | cons c src ih =>
      rw [utf8ToLatin1Loop, List.length_cons]
      exact (length_write_le _ _ _).trans (Nat.succ_le_succ (ih _))

end AppinfoTables

end Util

end ModAuthOpenidc
