import ModAuthOpenidc.Base64
import ModAuthOpenidc.Proto.State

/-!
# Base64url text

Bytes are written as base64 by the portable runtime, and the characters are rewritten for URLs:
padding becomes commas, which are stripped from most texts. Reading rewrites the characters back and
pads the text again, as told by its length.
-/

namespace ModAuthOpenidc

namespace Util

/-- The base64 functions of the portable runtime, which implement RFC 4648. -/
structure AprBase64 where
  /-- `apr_base64_encode_len`, with the end of the string. -/
  encodeLen : Nat → Nat
  /-- `apr_base64_encode`. -/
  encode : List UInt8 → List Char
  /-- `apr_base64_decode`. -/
  decode : List Char → List UInt8
  encodeLen_eq : ∀ length, encodeLen length = (length + 2) / 3 * 4 + 1
  encode_eq : ∀ bytes, encode bytes = Base64.encode bytes
  decode_encode : ∀ bytes, decode (Base64.encode bytes) = bytes

/-- `oidc_base64url_padding_t`. -/
inductive Base64urlPadding
  | keep
  | strip
  deriving DecidableEq

/-- The loop of `oidc_util_base64url_encode` on one character. -/
def base64urlChar (c : Char) : Char :=
  let c := if c = '+' then '-' else c
  let c := if c = '/' then '_' else c
  if c = '=' then ',' else c

/-- The loop of `oidc_util_base64url_decode` on one character. -/
def base64Char (c : Char) : Char :=
  let c := if c = '-' then '+' else c
  let c := if c = '_' then '/' else c
  if c = ',' then '=' else c

/-- The padding of `oidc_util_base64url_decode`; no text has one character more than groups. -/
def repad (dec : List Char) : Option (List Char) :=
  match dec.length % 4 with
  | 0 => some dec
  | 2 => some (dec ++ ['=', '='])
  | 3 => some (dec ++ ['='])
  | _ => none

section Functions

variable (apr : AprBase64)

/-- `oidc_util_base64url_encode`: the text and the length that is returned; a negative length for
no bytes. -/
def base64urlEncode (src : Option (List UInt8)) (padding : Base64urlPadding) :
    Option (List Char × Nat) :=
  match src with
  | none => none
  | some src =>
      if src.length = 0 then none
      else
        let enc := (apr.encode src).map base64urlChar
        if padding = .strip then
          let enc := enc.rdropWhile fun c => c = ','
          some (enc, enc.length)
        else some (enc, apr.encodeLen src.length)

/-- `oidc_util_base64url_decode`: the length that is returned, and the bytes if there are any. -/
def base64urlDecode (src : Option (List Char)) : Int × Option (List UInt8) :=
  match src with
  | none => (-1, none)
  | some src =>
      match repad (src.map base64Char) with
      | none => (0, none)
      | some dec => ((apr.decode dec).length, some (apr.decode dec))

end Functions

/-! ## Rewriting and padding -/

theorem base64urlChar_eq (c : Char) : base64urlChar c = Base64.toUrl c := by
  unfold base64urlChar Base64.toUrl
  by_cases plus : c = '+'
  · subst plus
    rfl
  · by_cases slash : c = '/'
    · subst slash
      rfl
    · simp only [plus, slash, if_false]

/-- The characters of a base64 text are found again. -/
theorem base64Char_base64urlChar {c : Char} (known : c ∈ Base64.alphabet ∨ c = '=') :
    base64Char (base64urlChar c) = c := by
  have others : '-' ∉ Base64.alphabet ∧ '_' ∉ Base64.alphabet ∧ ',' ∉ Base64.alphabet := by decide
  obtain ⟨minus, underscore, comma⟩ := others
  rcases known with letter | rfl
  · have other : ∀ d, d ∉ Base64.alphabet → c ≠ d := fun d absent same => absent (same ▸ letter)
    rw [base64urlChar_eq]
    unfold Base64.toUrl
    split
    · next plus => rw [plus]; rfl
    · split
      · next slash => rw [slash]; rfl
      · split
        · next equals => rw [equals]; rfl
        · unfold base64Char
          simp only [other _ minus, other _ underscore, other _ comma, if_false]
  · rfl

theorem map_base64Char (bytes : List UInt8) :
    ((Base64.encode bytes).map base64urlChar).map base64Char = Base64.encode bytes := by
  rw [List.map_map]
  conv_rhs => rw [← List.map_id (Base64.encode bytes)]
  apply List.map_congr_left
  intro c member
  rw [Function.comp_apply, id, base64Char_base64urlChar (Base64.mem_encode bytes c member)]

/-- The URL-safe text, and its padding. -/
theorem map_base64urlChar (bytes : List UInt8) :
    (Base64.encode bytes).map base64urlChar =
      Base64Url.encode bytes ++ List.replicate (Base64.padding bytes.length) ',' := by
  rw [← Base64.map_toUrl_encode]
  exact List.map_congr_left fun c _ => base64urlChar_eq c

/-- Stripping leaves the text without padding. -/
theorem rdropWhile_padding (bytes : List UInt8) :
    ((Base64.encode bytes).map base64urlChar).rdropWhile (fun c => c = ',') =
      Base64Url.encode bytes := by
  have absent : ',' ∉ Base64Url.alphabet := by decide
  have letters : ∀ c ∈ Base64Url.encode bytes, ¬decide (c = ',') = true := by
    intro c member comma
    have inside := Base64Url.mem_encode bytes c member
    rw [of_decide_eq_true comma] at inside
    exact absent inside
  rw [map_base64urlChar]
  generalize Base64.padding bytes.length = commas
  induction commas with
  | zero =>
      rw [List.replicate_zero, List.append_nil, List.rdropWhile_eq_self_iff]
      exact fun nonempty => letters _ (List.getLast_mem nonempty)
  | succ commas ih =>
      rw [List.replicate_succ', ← List.append_assoc, List.rdropWhile_concat_pos _ _ _ rfl, ih]

section Encoded

variable {apr : AprBase64} {bytes : List UInt8}

theorem base64urlEncode_keep (nonempty : bytes ≠ []) :
    base64urlEncode apr (some bytes) .keep =
      some ((Base64.encode bytes).map base64urlChar, apr.encodeLen bytes.length) := by
  rw [base64urlEncode, if_neg fun none_left => nonempty (List.length_eq_zero_iff.mp none_left),
    apr.encode_eq, if_neg (by decide)]

theorem base64urlEncode_strip (nonempty : bytes ≠ []) :
    base64urlEncode apr (some bytes) .strip =
      some (Base64Url.encode bytes, (Base64Url.encode bytes).length) := by
  rw [base64urlEncode, if_neg fun none_left => nonempty (List.length_eq_zero_iff.mp none_left),
    apr.encode_eq, if_pos rfl, rdropWhile_padding]

/-- The text without padding is the one that is used elsewhere. -/
theorem base64urlEncode_strip_text (bytes : List UInt8) :
    (base64urlEncode apr (some bytes) .strip).map (fun encoded => String.ofList encoded.1) =
      State.base64urlEncode bytes := by
  by_cases nothing : bytes = []
  · subst nothing
    rfl
  · rw [base64urlEncode_strip nothing, State.base64urlEncode, if_neg nothing]
    rfl

/-- A text of whole groups is not padded. -/
theorem repad_encode (bytes : List UInt8) :
    repad (Base64.encode bytes) = some (Base64.encode bytes) := by
  have whole : (Base64.encode bytes).length % 4 = 0 := by
    rw [Base64.length_encode]
    omega
  rw [repad, whole]
  rfl

/-- A text without padding is padded as its length tells. -/
theorem repad_strip (bytes : List UInt8) :
    repad ((Base64Url.encode bytes).map base64Char) = some (Base64.encode bytes) := by
  have padded : Base64.encode bytes = (Base64Url.encode bytes).map base64Char ++
      List.replicate (Base64.padding bytes.length) '=' := by
    have rewritten := map_base64Char bytes
    rw [map_base64urlChar, List.map_append, List.map_replicate] at rewritten
    exact rewritten.symm
  have length : ((Base64Url.encode bytes).map base64Char).length = (bytes.length * 4 + 2) / 3 := by
    rw [List.length_map, Base64Url.length_encode]
  have residue : bytes.length % 3 = 0 ∨ bytes.length % 3 = 1 ∨ bytes.length % 3 = 2 := by omega
  rw [repad, length, padded, Base64.padding]
  rcases residue with none_over | one_over | two_over
  · have four : (bytes.length * 4 + 2) / 3 % 4 = 0 := by omega
    rw [four, none_over, List.replicate_zero, List.append_nil]
    rfl
  · have four : (bytes.length * 4 + 2) / 3 % 4 = 2 := by omega
    rw [four, one_over]
    rfl
  · have four : (bytes.length * 4 + 2) / 3 % 4 = 3 := by omega
    rw [four, two_over]
    rfl

theorem base64urlDecode_keep (bytes : List UInt8) :
    base64urlDecode apr (some ((Base64.encode bytes).map base64urlChar)) =
      ((bytes.length : Int), some bytes) := by
  rw [base64urlDecode, map_base64Char, repad_encode]
  dsimp only
  rw [apr.decode_encode]

theorem base64urlDecode_strip (bytes : List UInt8) :
    base64urlDecode apr (some (Base64Url.encode bytes)) = ((bytes.length : Int), some bytes) := by
  rw [base64urlDecode, repad_strip]
  dsimp only
  rw [apr.decode_encode]

/-- What was encoded in either way is decoded. -/
theorem base64urlDecode_of_encode {padding : Base64urlPadding} {text : List Char} {length : Nat}
    (encoded : base64urlEncode apr (some bytes) padding = some (text, length)) :
    base64urlDecode apr (some text) = ((bytes.length : Int), some bytes) := by
  by_cases nothing : bytes = []
  · subst nothing
    cases encoded
  · cases padding with
    | keep =>
        rw [base64urlEncode_keep nothing] at encoded
        cases encoded
        exact base64urlDecode_keep bytes
    | strip =>
        rw [base64urlEncode_strip nothing] at encoded
        cases encoded
        exact base64urlDecode_strip bytes

end Encoded

/-- The functions as the standard describes them. -/
def rfcBase64 : AprBase64 where
  encodeLen := fun length => (length + 2) / 3 * 4 + 1
  encode := Base64.encode
  decode := Base64.decode
  encodeLen_eq := fun _ => rfl
  encode_eq := fun _ => rfl
  decode_encode := Base64.decode_encode

end Util

end ModAuthOpenidc
