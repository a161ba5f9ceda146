import Mathlib

/-!
# Base64url text

The encoding of bytes by the 64 letters of the URL-safe alphabet, without padding.  Three bytes make
four letters, and a rest of one or two bytes makes two or three.
-/

namespace Base64Url

/-- The URL-safe alphabet. -/
def alphabet : List Char :=
  "ABCDEFGHIJKLMNOPQRSTUVWXYZabcdefghijklmnopqrstuvwxyz0123456789-_".toList

/-- The letter of a six-bit value. -/
def letter (value : Nat) : Char := alphabet.getD value 'A'

/-- The text of a list of bytes. -/
def encode : List UInt8 → List Char
  | [] => []
  | [a] => [letter (a.toNat / 4), letter (a.toNat % 4 * 16)]
  | [a, b] =>
      [letter (a.toNat / 4), letter (a.toNat % 4 * 16 + b.toNat / 16), letter (b.toNat % 16 * 4)]
  | a :: b :: c :: rest =>
      letter (a.toNat / 4) :: letter (a.toNat % 4 * 16 + b.toNat / 16) ::
        letter (b.toNat % 16 * 4 + c.toNat / 64) :: letter (c.toNat % 64) :: encode rest

theorem alphabet_ascii : ∀ c ∈ alphabet, c.toNat < 128 := by
  have all : alphabet.all (fun c => c.toNat < 128) = true := rfl
  intro c member
  simpa using List.all_eq_true.mp all c member

theorem letter_mem (value : Nat) : letter value ∈ alphabet := by
  have first : 'A' ∈ alphabet := by decide
  unfold letter
  rw [List.getD_eq_getElem?_getD]
  cases found : alphabet[value]? with
  | none => exact first
  | some c => exact List.mem_of_getElem? found

/-- Different six-bit values have different letters. -/
theorem letter_inj {value value' : Nat} (bound : value < 64) (bound' : value' < 64)
    (same : letter value = letter value') : value = value' := by
  have distinct : alphabet.Nodup := by decide
  have length : alphabet.length = 64 := by decide
  have inside : value < alphabet.length := by omega
  have inside' : value' < alphabet.length := by omega
  rw [letter, letter, List.getD_eq_getElem _ _ inside, List.getD_eq_getElem _ _ inside'] at same
  exact (distinct.getElem_inj_iff).mp same

theorem mem_encode (bytes : List UInt8) : ∀ c ∈ encode bytes, c ∈ alphabet := by
  induction bytes using encode.induct with
  | case1 => simp [encode]
  | case2 a => simp [encode, letter_mem]
  | case3 a b => simp [encode, letter_mem]
  | case4 a b c rest ih =>
      intro letter member
      simp only [encode, List.mem_cons] at member
      rcases member with rfl | rfl | rfl | rfl | later
      · exact letter_mem _
      · exact letter_mem _
      · exact letter_mem _
      · exact letter_mem _
      · exact ih letter later

/-- The length of the text depends on the number of bytes only. -/
theorem length_encode (bytes : List UInt8) :
    (encode bytes).length = (bytes.length * 4 + 2) / 3 := by
  induction bytes using encode.induct with
  | case1 => rfl
  | case2 a => simp [encode]
  | case3 a b => simp [encode]
  | case4 a b c rest ih =>
      simp only [encode, List.length_cons, ih]
      omega

/-- Two bytes are equal when their upper and lower parts are. -/
theorem byte_ext {a a' : UInt8} (radix : Nat) (upper : a.toNat / radix = a'.toNat / radix)
    (lower : a.toNat % radix = a'.toNat % radix) : a = a' := by
  apply UInt8.toNat_inj.mp
  rw [← Nat.div_add_mod a.toNat radix, ← Nat.div_add_mod a'.toNat radix, upper, lower]

/-- Texts of equally many bytes determine the bytes. -/
theorem encode_inj {bytes bytes' : List UInt8} (length : bytes.length = bytes'.length)
    (same : encode bytes = encode bytes') : bytes = bytes' := by
  induction bytes using encode.induct generalizing bytes' with
  | case1 => exact (List.eq_nil_of_length_eq_zero length.symm).symm
  | case2 a =>
      obtain ⟨a', rfl⟩ := List.length_eq_one_iff.mp length.symm
      simp only [encode, List.cons.injEq, and_true] at same
      have := a.toNat_lt
      have := a'.toNat_lt
      have upper := letter_inj (by omega) (by omega) same.1
      have lower := letter_inj (by omega) (by omega) same.2
      rw [byte_ext 4 upper (by omega)]
  | case3 a b =>
      obtain ⟨a', b', rfl⟩ := List.length_eq_two.mp length.symm
      simp only [encode, List.cons.injEq, and_true] at same
      have := a.toNat_lt
      have := a'.toNat_lt
      have := b.toNat_lt
      have := b'.toNat_lt
      have first := letter_inj (by omega) (by omega) same.1
      have second := letter_inj (by omega) (by omega) same.2.1
      have third := letter_inj (by omega) (by omega) same.2.2
      have upper : b.toNat / 16 = b'.toNat / 16 := by omega
      rw [byte_ext 4 first (by omega), byte_ext 16 upper (by omega)]
  | case4 a b c rest ih =>
      match bytes', length with
      | a' :: b' :: c' :: rest', length =>
          simp only [encode, List.cons.injEq] at same
          obtain ⟨one, two, three, four, later⟩ := same
          have := a.toNat_lt
          have := a'.toNat_lt
          have := b.toNat_lt
          have := b'.toNat_lt
          have := c.toNat_lt
          have := c'.toNat_lt
          have first := letter_inj (by omega) (by omega) one
          have second := letter_inj (by omega) (by omega) two
          have third := letter_inj (by omega) (by omega) three
          have fourth := letter_inj (by omega) (by omega) four
          have middle : b.toNat / 16 = b'.toNat / 16 := by omega
          have last : c.toNat / 64 = c'.toNat / 64 := by omega
          rw [byte_ext 4 first (by omega), byte_ext 16 middle (by omega), byte_ext 64 last fourth,
            ih (by simpa using length) later]

end Base64Url
