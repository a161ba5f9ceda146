import ModAuthOpenidc.Base64Url

/-!
# Base64 text

The encoding of bytes by 64 letters with padding: three bytes make four letters, and equals signs
fill up the last group. Decoding reads the groups again. The URL-safe text has other letters in two
places and no padding.
-/

namespace Base64

/-- The letters. -/
def alphabet : List Char :=
  "ABCDEFGHIJKLMNOPQRSTUVWXYZabcdefghijklmnopqrstuvwxyz0123456789+/".toList

/-- The letter of a six-bit value. -/
def letter (value : Nat) : Char := alphabet.getD value 'A'

/-- The text of bytes. -/
def encode : List UInt8 → List Char
  | [] => []
  | [a] => [letter (a.toNat / 4), letter (a.toNat % 4 * 16), '=', '=']
  | [a, b] =>
      [letter (a.toNat / 4), letter (a.toNat % 4 * 16 + b.toNat / 16), letter (b.toNat % 16 * 4),
        '=']
  | a :: b :: c :: rest =>
      letter (a.toNat / 4) :: letter (a.toNat % 4 * 16 + b.toNat / 16) ::
        letter (b.toNat % 16 * 4 + c.toNat / 64) :: letter (c.toNat % 64) :: encode rest

/-- The number of equals signs behind the text of some bytes. -/
def padding (length : Nat) : Nat := (3 - length % 3) % 3

/-- The six-bit value of a letter. -/
def value (c : Char) : Nat := alphabet.idxOf c

/-- The bytes of a text. -/
def decode : List Char → List UInt8
  | a :: b :: c :: d :: rest =>
      if c = '=' then [UInt8.ofNat (value a * 4 + value b / 16)]
      else if d = '=' then
        [UInt8.ofNat (value a * 4 + value b / 16),
          UInt8.ofNat (value b % 16 * 16 + value c / 4)]
      else
        UInt8.ofNat (value a * 4 + value b / 16) ::
          UInt8.ofNat (value b % 16 * 16 + value c / 4) ::
            UInt8.ofNat (value c % 4 * 64 + value d) :: decode rest
  | _ => []

/-! ## Letters -/

theorem value_letter {n : Nat} (small : n < 64) : value (letter n) = n := by
  have distinct : alphabet.Nodup := by decide
  have inside : n < alphabet.length := small
  rw [value, letter, List.getD_eq_getElem _ _ inside]
  exact distinct.idxOf_getElem n inside

theorem letter_mem (n : Nat) : letter n ∈ alphabet := by
  unfold letter
  rw [List.getD_eq_getElem?_getD]
  cases found : alphabet[n]? with
  | none => exact List.mem_cons_self
  | some c => exact List.mem_of_getElem? found

theorem letter_ne_equals (n : Nat) : letter n ≠ '=' := by
  have absent : '=' ∉ alphabet := by decide
  exact fun same => absent (same ▸ letter_mem n)

/-- Every character of a text is a letter or an equals sign. -/
theorem mem_encode (bytes : List UInt8) : ∀ c ∈ encode bytes, c ∈ alphabet ∨ c = '=' := by
  induction bytes using encode.induct with
  | case1 => exact fun c member => absurd member List.not_mem_nil
  | case2 a => simp [encode, letter_mem]
  | case3 a b => simp [encode, letter_mem]
  | case4 a b c rest ih =>
      simp only [encode, List.forall_mem_cons]
      exact ⟨.inl (letter_mem _), .inl (letter_mem _), .inl (letter_mem _), .inl (letter_mem _), ih⟩

/-! ## Bytes -/

theorem byte_first {a b : UInt8} :
    UInt8.ofNat (a.toNat / 4 * 4 + (a.toNat % 4 * 16 + b.toNat / 16) / 16) = a := by
  have small := b.toNat_lt
  have whole : a.toNat / 4 * 4 + (a.toNat % 4 * 16 + b.toNat / 16) / 16 = a.toNat := by omega
  rw [whole, UInt8.ofNat_toNat]

theorem byte_second {a b c : UInt8} :
    UInt8.ofNat ((a.toNat % 4 * 16 + b.toNat / 16) % 16 * 16 +
      (b.toNat % 16 * 4 + c.toNat / 64) / 4) = b := by
  have small := b.toNat_lt
  have other := c.toNat_lt
  have whole : (a.toNat % 4 * 16 + b.toNat / 16) % 16 * 16 +
      (b.toNat % 16 * 4 + c.toNat / 64) / 4 = b.toNat := by omega
  rw [whole, UInt8.ofNat_toNat]

theorem byte_third {b c : UInt8} :
    UInt8.ofNat ((b.toNat % 16 * 4 + c.toNat / 64) % 4 * 64 + c.toNat % 64) = c := by
  have small := c.toNat_lt
  have whole : (b.toNat % 16 * 4 + c.toNat / 64) % 4 * 64 + c.toNat % 64 = c.toNat := by omega
  rw [whole, UInt8.ofNat_toNat]

/-- What was encoded is decoded. -/
theorem decode_encode (bytes : List UInt8) : decode (encode bytes) = bytes := by
  induction bytes using encode.induct with
  | case1 => rfl
  | case2 a =>
      have small := a.toNat_lt
      have first := @byte_first a 0
      rw [UInt8.toNat_zero, Nat.zero_div, Nat.add_zero] at first
      rw [encode, decode, if_pos rfl, value_letter (by omega), value_letter (by omega), first]
  | case3 a b =>
      have small := a.toNat_lt
      have small' := b.toNat_lt
      have second := @byte_second a b 0
      rw [UInt8.toNat_zero, Nat.zero_div, Nat.add_zero] at second
      rw [encode, decode, if_neg (letter_ne_equals _), if_pos rfl, value_letter (by omega),
        value_letter (by omega), value_letter (by omega), byte_first, second]
  | case4 a b c rest ih =>
      have small := a.toNat_lt
      have small' := b.toNat_lt
      have small'' := c.toNat_lt
      rw [encode, decode, if_neg (letter_ne_equals _), if_neg (letter_ne_equals _),
        value_letter (by omega), value_letter (by omega), value_letter (by omega),
        value_letter (by omega), byte_first, byte_second, byte_third, ih]

theorem length_encode (bytes : List UInt8) :
    (encode bytes).length = (bytes.length + 2) / 3 * 4 := by
  induction bytes using encode.induct with
  | case1 => rfl
  | case2 a => simp [encode]
  | case3 a b => simp [encode]
  | case4 a b c rest ih =>
      simp only [encode, List.length_cons, ih]
      omega

/-! ## URL-safe text -/

/-- The URL-safe character for a character, with a comma for padding. -/
def toUrl (c : Char) : Char :=
  if c = '+' then '-' else if c = '/' then '_' else if c = '=' then ',' else c

theorem alphabet_toUrl : Base64Url.alphabet = alphabet.map toUrl := by decide

theorem toUrl_letter (n : Nat) : toUrl (letter n) = Base64Url.letter n := by
  have default : toUrl 'A' = 'A' := by decide
  have same := @List.getD_map _ _ alphabet 'A' n toUrl
  rw [default] at same
  rw [letter, Base64Url.letter, alphabet_toUrl, same]

/-- The URL-safe text has other letters, and commas instead of equals signs. -/
theorem map_toUrl_encode (bytes : List UInt8) :
    (encode bytes).map toUrl =
      Base64Url.encode bytes ++ List.replicate (padding bytes.length) ',' := by
  induction bytes using encode.induct with
  | case1 => rfl
  | case2 a =>
      simp only [encode, Base64Url.encode, List.map_cons, List.map_nil, toUrl_letter]
      rfl
  | case3 a b =>
      simp only [encode, Base64Url.encode, List.map_cons, List.map_nil, toUrl_letter]
      rfl
  | case4 a b c rest ih =>
      have same : padding (a :: b :: c :: rest).length = padding rest.length := by
        simp only [padding, List.length_cons]
        omega
      rw [same, encode, Base64Url.encode, List.map_cons, List.map_cons, List.map_cons,
        List.map_cons, ih, toUrl_letter, toUrl_letter, toUrl_letter, toUrl_letter]
      rfl

end Base64
