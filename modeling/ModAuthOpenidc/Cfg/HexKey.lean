import ModAuthOpenidc.ScriptLiteral
import ModAuthOpenidc.Text

/-!
# Keys in hexadecimal

A key of the configuration may be written in hexadecimal digits. A scanner of the C library reads
two characters of the text after two others. It skips white space, takes a sign, and is content with
one digit, so texts that are not hexadecimal are read as keys too.
-/

namespace ModAuthOpenidc

namespace Cfg

namespace HexKey

open ScriptLiteral (hexValue)

/-- The conversion `%2hhx` of `sscanf`. The flag is set for libraries that read the prefix `0x`
without a digit as zero; others find no number there. -/
def scan (barePrefix : Bool) (pos : List Char) : Option UInt8 :=
  match pos.dropWhile isSpace with
  | [] => none
  | first :: rest =>
      match hexValue first with
      | some high =>
          match rest.head? with
          | none => some (UInt8.ofNat high)
          | some second =>
              match hexValue second with
              | some low => some (UInt8.ofNat (high * 16 + low))
              | none =>
                  if first = '0' ∧ (second = 'x' ∨ second = 'X') ∧ barePrefix = false then none
                  else some (UInt8.ofNat high)
      | none =>
          if first = '+' ∨ first = '-' then
            (rest.head?.bind hexValue).map fun low =>
              if first = '-' then 0 - UInt8.ofNat low else UInt8.ofNat low
          else none

/-- The loop of `oidc_cfg_parse_hex`, with the number of bytes that are left. -/
def parseLoop (barePrefix : Bool) (input : List Char) : Nat → Nat → Except String (List UInt8)
  | 0, _ => .ok []
  | left + 1, count =>
      match scan barePrefix (input.drop (count * 2)) with
      | none => .error s!"hex-decoding failed at offset {count * 2}: non-hex input"
      | some byte => (parseLoop barePrefix input left (count + 1)).map (byte :: ·)

/-- `oidc_cfg_parse_hex`. The length of the key is an `int`; there is no result if it is negative,
as no memory has that size. -/
def parseHex (barePrefix : Bool) (input : List Char) : Option (Except String (List UInt8)) :=
  let inputLen := input.length
  if inputLen % 2 ≠ 0 then
    some (.error s!"hex-decoding failed: input length ({inputLen}) is not even")
  else
    let outputLen := Int.bmod (inputLen / 2 : Nat) (2 ^ 32)
    if outputLen < 0 then none else some (parseLoop barePrefix input outputLen.toNat 0)

/-! ## Hexadecimal texts -/

/-- The characters `0-9`, `a-f` and `A-F`. -/
def IsDigit (c : Char) : Prop := (hexValue c).isSome = true

instance (c : Char) : Decidable (IsDigit c) := inferInstanceAs (Decidable (_ = true))

/-- The texts of digits that are pairs. -/
def IsHex (input : List Char) : Prop := input.length % 2 = 0 ∧ ∀ c ∈ input, IsDigit c

/-- The value of a pair of digits. -/
def pairValue (high low : Char) : UInt8 :=
  UInt8.ofNat ((hexValue high).getD 0 * 16 + (hexValue low).getD 0)

/-- The bytes of the pairs of digits of a text. -/
def pairs : List Char → List UInt8
  | [] => []
  | [_] => []
  | high :: low :: rest => pairValue high low :: pairs rest

/-- What a number in a field of two characters starts with: a digit, which is not the zero of a
prefix without digits, or a sign and a digit. -/
def Number (barePrefix : Bool) : List Char → Prop
  | [] => False
  | first :: rest =>
      (IsDigit first ∧
          (first = '0' → barePrefix = false → ∀ x ∈ rest.head?, x ≠ 'x' ∧ x ≠ 'X')) ∨
        (first = '+' ∨ first = '-') ∧ ∃ digit ∈ rest.head?, IsDigit digit

/-- A scanner accepts hexadecimal texts of even length and no others, and reads them as the values
of their pairs of digits. -/
def Strict (parse : List Char → Option (Except String (List UInt8))) (input : List Char) : Prop :=
  ∃ result, parse input = some result ∧
    ((∃ key, result = .ok key) ↔ IsHex input) ∧ ∀ key, result = .ok key → key = pairs input

theorem length_pairs (text : List Char) : (pairs text).length = text.length / 2 := by
  induction text using pairs.induct with
  | case1 => simp [pairs]
  | case2 c => simp [pairs]
  | case3 high low rest ih =>
      rw [pairs, List.length_cons, ih, List.length_cons, List.length_cons]
      omega

theorem pairs_drop (text : List Char) (count : Nat) :
    pairs (text.drop (count * 2)) = (pairs text).drop count := by
  induction count generalizing text with
  | zero => rw [Nat.zero_mul, List.drop_zero, List.drop_zero]
  | succ count ih =>
      have two : (count + 1) * 2 = count * 2 + 1 + 1 := by omega
      rcases text with _ | ⟨high, _ | ⟨low, rest⟩⟩
      · rw [List.drop_nil, pairs, List.drop_nil]
      · rw [two, List.drop_succ_cons, List.drop_nil, pairs, pairs, List.drop_nil]
      · rw [two, List.drop_succ_cons, List.drop_succ_cons, ih, pairs, List.drop_succ_cons]

/-! ## The scanner -/

theorem isSpace_of_isDigit {c : Char} (digit : IsDigit c) : isSpace c = false := by
  by_contra space
  rw [Bool.not_eq_false] at space
  simp only [isSpace, Bool.or_eq_true, decide_eq_true_eq] at space
  rcases space with ((((rfl | rfl) | rfl) | rfl) | rfl) | rfl
  all_goals exact absurd digit (by decide)

theorem dropWhile_digit {c : Char} (digit : IsDigit c) (rest : List Char) :
    (c :: rest).dropWhile isSpace = c :: rest := by
  rw [List.dropWhile_cons_of_neg]
  simp [isSpace_of_isDigit digit]

/-- Two digits are read as the value of the pair. -/
theorem scan_pair (barePrefix : Bool) {high low : Char} (first : IsDigit high)
    (second : IsDigit low) (rest : List Char) :
    scan barePrefix (high :: low :: rest) = some (pairValue high low) := by
  obtain ⟨h, highValue⟩ := Option.isSome_iff_exists.mp first
  obtain ⟨l, lowValue⟩ := Option.isSome_iff_exists.mp second
  rw [scan, dropWhile_digit first]
  simp only [highValue, List.head?_cons, lowValue, pairValue, Option.getD_some]

theorem ne_of_hexValue {c d : Char} {value : Nat} (known : hexValue c = some value)
    (other : hexValue d = none) : c ≠ d := by
  rintro rfl
  rw [other] at known
  cases known

/-- The scanner reads a byte if a number starts behind the white space. -/
theorem scan_isSome_iff (barePrefix : Bool) (pos : List Char) :
    (scan barePrefix pos).isSome = true ↔ Number barePrefix (pos.dropWhile isSpace) := by
  rw [scan]
  cases pos.dropWhile isSpace with
  | nil => simp [Number]
  | cons first rest =>
      rw [Number, IsDigit]
      dsimp only
      cases known : hexValue first with
      | none =>
          by_cases sign : first = '+' ∨ first = '-'
          · rw [if_pos sign]
            cases rest.head? with
            | none => simp
            | some digit => simp [sign, IsDigit]
          · simp [sign]
      | some high =>
          have plus : first ≠ '+' := ne_of_hexValue known (by decide)
          have minus : first ≠ '-' := ne_of_hexValue known (by decide)
          cases rest with
          | nil => simp
          | cons second rest =>
              rw [List.head?_cons]
              dsimp only
              cases value : hexValue second with
              | some low =>
                  have small : second ≠ 'x' := ne_of_hexValue value (by decide)
                  have large : second ≠ 'X' := ne_of_hexValue value (by decide)
                  simp [small, large]
              | none =>
                  by_cases bare : first = '0' ∧ (second = 'x' ∨ second = 'X') ∧ barePrefix = false
                  · obtain ⟨rfl, prefixed, rfl⟩ := bare
                    rcases prefixed with rfl | rfl
                    · simp
                    · simp
                  · have allowed : first = '0' → barePrefix = false →
                        second ≠ 'x' ∧ second ≠ 'X' := by
                      rintro rfl rfl
                      simpa using bare
                    rw [if_neg bare]
                    simpa [plus, minus] using allowed

/-! ## The loop -/

theorem exists_pair {text : List Char} (two : 2 ≤ text.length) :
    ∃ high low rest, text = high :: low :: rest := by
  rcases text with _ | ⟨high, _ | ⟨low, rest⟩⟩
  · exact absurd two (by simp)
  · exact absurd two (by simp)
  · exact ⟨high, low, rest, rfl⟩

/-- Pairs of digits are read one after the other. -/
theorem parseLoop_digits (barePrefix : Bool) {input : List Char}
    (digits : ∀ c ∈ input, IsDigit c) {left count : Nat}
    (inside : count + left ≤ input.length / 2) :
    parseLoop barePrefix input left count = .ok (((pairs input).drop count).take left) := by
  induction left generalizing count with
  | zero => rw [List.take_zero, parseLoop]
  | succ left ih =>
      have two : 2 ≤ (input.drop (count * 2)).length := by
        rw [List.length_drop]
        omega
      obtain ⟨high, low, rest, window⟩ := exists_pair two
      have among (c : Char) (member : c ∈ high :: low :: rest) : IsDigit c := by
        rw [← window] at member
        exact digits c (List.mem_of_mem_drop member)
      have bytes : (pairs input).drop count = pairValue high low :: pairs rest := by
        rw [← pairs_drop, window, pairs]
      have next : (pairs input).drop (count + 1) = pairs rest := by
        rw [← List.drop_drop, bytes, List.drop_succ_cons, List.drop_zero]
      rw [parseLoop, window, scan_pair barePrefix (among high (by simp)) (among low (by simp)),
        bytes, List.take_succ_cons, ← next]
      exact congrArg (Except.map (pairValue high low :: ·)) (ih (by omega))

/-- The loop succeeds if it finds a number at every position. -/
theorem parseLoop_ok_iff (barePrefix : Bool) (input : List Char) (left count : Nat) :
    (∃ key, parseLoop barePrefix input left count = .ok key) ↔
      ∀ i < left, Number barePrefix ((input.drop ((count + i) * 2)).dropWhile isSpace) := by
  induction left generalizing count with
  | zero =>
      constructor
      · rintro - i small
        exact absurd small (Nat.not_lt_zero i)
      · rintro -
        exact ⟨[], rfl⟩
  | succ left ih =>
      have here := scan_isSome_iff barePrefix (input.drop (count * 2))
      rw [parseLoop]
      cases window : scan barePrefix (input.drop (count * 2)) with
      | none =>
          rw [window] at here
          constructor
          · rintro ⟨key, run⟩
            cases run
          · intro numbers
            exact absurd (here.mpr (numbers 0 (Nat.succ_pos left))) (by simp)
      | some byte =>
          rw [window] at here
          have mapped : (∃ key, (parseLoop barePrefix input left (count + 1)).map (byte :: ·) =
              .ok key) ↔ ∃ key, parseLoop barePrefix input left (count + 1) = .ok key := by
            cases parseLoop barePrefix input left (count + 1) with
            | error message => simp [Except.map]
            | ok rest => simp [Except.map]
          refine mapped.trans ((ih (count + 1)).trans ?_)
          constructor
          · rintro numbers (_ | i) small
            · exact here.mp rfl
            · rw [show count + (i + 1) = count + 1 + i by omega]
              exact numbers i (by omega)
          · intro numbers i small
            rw [show count + 1 + i = count + (i + 1) by omega]
            exact numbers (i + 1) (by omega)

/-! ## Scanners -/

section Scanners

variable {parse : List Char → Option (Except String (List UInt8))} {input : List Char}

theorem not_strict_of_none (run : parse input = none) : ¬Strict parse input := by
  rintro ⟨result, defined, -⟩
  rw [run] at defined
  cases defined

theorem strict_of_error {message : String} (run : parse input = some (.error message)) :
    Strict parse input ↔ ¬IsHex input := by
  constructor
  · rintro ⟨result, defined, accepted, -⟩ hex
    obtain rfl := Option.some.inj (run.symm.trans defined)
    obtain ⟨key, ok⟩ := accepted.mpr hex
    cases ok
  · intro other
    refine ⟨_, run, ?_, ?_⟩
    · constructor
      · rintro ⟨key, ok⟩
        cases ok
      · intro hex
        exact absurd hex other
    · intro key ok
      cases ok

theorem strict_of_ok {key : List UInt8} (run : parse input = some (.ok key)) :
    Strict parse input ↔ IsHex input ∧ key = pairs input := by
  constructor
  · rintro ⟨result, defined, accepted, value⟩
    obtain rfl := Option.some.inj (run.symm.trans defined)
    exact ⟨accepted.mp ⟨key, rfl⟩, value key rfl⟩
  · rintro ⟨hex, value⟩
    refine ⟨_, run, ⟨fun _ => hex, fun _ => ⟨key, rfl⟩⟩, ?_⟩
    intro other ok
    obtain rfl := Except.ok.inj ok
    exact value

end Scanners

/-! ## Keys -/

/-- The texts that are read as hexadecimal or refused: those of odd length, those that are
hexadecimal, and those where no number starts at some position. -/
def Clear (barePrefix : Bool) (input : List Char) : Prop :=
  input.length % 2 = 1 ∨
    (input.length < 2 ^ 32 ∧ ∀ c ∈ input, IsDigit c) ∨
      (input.length / 2 % 2 ^ 32 < 2 ^ 31 ∧ ∃ count < input.length / 2 % 2 ^ 32,
        ¬Number barePrefix ((input.drop (count * 2)).dropWhile isSpace))

theorem number_of_digits (barePrefix : Bool) {input : List Char} (digits : ∀ c ∈ input, IsDigit c)
    {count : Nat} (inside : count < input.length / 2) :
    Number barePrefix ((input.drop (count * 2)).dropWhile isSpace) := by
  have run := parseLoop_digits barePrefix digits (by omega : count + 1 ≤ input.length / 2)
  have numbers := (parseLoop_ok_iff barePrefix input 1 count).mp ⟨_, run⟩
  exact numbers 0 (by decide)

theorem parseHex_odd (barePrefix : Bool) {input : List Char} (odd : input.length % 2 = 1) :
    ∃ message, parseHex barePrefix input = some (.error message) :=
  ⟨_, if_pos (by omega)⟩

/-- The number of bytes of a text that is read, and the texts that no memory has room for. -/
theorem parseHex_even (barePrefix : Bool) {input : List Char} (even : input.length % 2 = 0) :
    (input.length / 2 % 2 ^ 32 < 2 ^ 31 ∧ parseHex barePrefix input =
        some (parseLoop barePrefix input (input.length / 2 % 2 ^ 32) 0)) ∨
      (2 ^ 31 ≤ input.length / 2 % 2 ^ 32 ∧ parseHex barePrefix input = none) := by
  rw [parseHex, if_neg (by omega)]
  dsimp only
  by_cases fits : input.length / 2 % 2 ^ 32 < 2 ^ 31
  · left
    have length : Int.bmod (input.length / 2 : Nat) (2 ^ 32) =
        (input.length / 2 % 2 ^ 32 : Nat) := by
      rw [Int.bmod]
      omega
    rw [length, if_neg (by omega), Int.toNat_natCast]
    exact ⟨fits, rfl⟩
  · right
    have length : Int.bmod (input.length / 2 : Nat) (2 ^ 32) < 0 := by
      rw [Int.bmod]
      omega
    rw [if_pos length]
    exact ⟨by omega, rfl⟩

/-- A text with a number at every position is read right if it is hexadecimal and short. -/
theorem strict_of_numbers (barePrefix : Bool) {input : List Char} (even : input.length % 2 = 0)
    (fits : input.length / 2 % 2 ^ 32 < 2 ^ 31) {key : List UInt8}
    (run : parseHex barePrefix input = some (.ok key))
    (loop : parseLoop barePrefix input (input.length / 2 % 2 ^ 32) 0 = .ok key) :
    Strict (parseHex barePrefix) input ↔ input.length < 2 ^ 32 ∧ ∀ c ∈ input, IsDigit c := by
  have value (digits : ∀ c ∈ input, IsDigit c) :
      key = (pairs input).take (input.length / 2 % 2 ^ 32) := by
    have read := parseLoop_digits barePrefix digits
      (by omega : 0 + input.length / 2 % 2 ^ 32 ≤ input.length / 2)
    exact Except.ok.inj (loop.symm.trans read)
  have length := length_pairs input
  rw [strict_of_ok run]
  constructor
  · rintro ⟨⟨-, digits⟩, whole⟩
    refine ⟨?_, digits⟩
    have same := congrArg List.length ((value digits).symm.trans whole)
    rw [List.length_take, length] at same
    omega
  · rintro ⟨short, digits⟩
    refine ⟨⟨even, digits⟩, ?_⟩
    rw [value digits, List.take_of_length_le]
    omega

/-- The configuration reads exactly the hexadecimal texts, and as the bytes they stand for, if
every text of even length is hexadecimal or has a position where no number starts. -/
theorem parseHex_strict_iff (barePrefix : Bool) (input : List Char) :
    Strict (parseHex barePrefix) input ↔ Clear barePrefix input := by
  rcases Nat.mod_two_eq_zero_or_one input.length with even | odd
  · rcases parseHex_even barePrefix even with ⟨fits, run⟩ | ⟨large, run⟩
    · have numbers := parseLoop_ok_iff barePrefix input (input.length / 2 % 2 ^ 32) 0
      simp only [Nat.zero_add] at numbers
      cases loop : parseLoop barePrefix input (input.length / 2 % 2 ^ 32) 0 with
      | ok key =>
          rw [loop] at run numbers
          rw [strict_of_numbers barePrefix even fits run loop]
          constructor
          · intro hex
            exact .inr (.inl hex)
          · rintro (odd | hex | ⟨-, count, small, missing⟩)
            · omega
            · exact hex
            · exact absurd (numbers.mp ⟨key, rfl⟩ count small) missing
      | error message =>
          rw [loop] at run numbers
          rw [strict_of_error run]
          have missing : ∃ count < input.length / 2 % 2 ^ 32,
              ¬Number barePrefix ((input.drop (count * 2)).dropWhile isSpace) := by
            by_contra every
            push Not at every
            obtain ⟨key, ok⟩ := numbers.mpr every
            cases ok
          constructor
          · rintro -
            exact .inr (.inr ⟨fits, missing⟩)
          · rintro - ⟨-, digits⟩
            obtain ⟨count, small, other⟩ := missing
            exact other (number_of_digits barePrefix digits (by omega))
    · refine iff_of_false (not_strict_of_none run) ?_
      rintro (odd | ⟨short, -⟩ | ⟨fits, -⟩)
      · omega
      · omega
      · omega
  · obtain ⟨message, run⟩ := parseHex_odd barePrefix odd
    rw [strict_of_error run]
    constructor
    · rintro -
      exact .inl odd
    · rintro - ⟨even, -⟩
      omega

/-- A digit and a letter that is none are read as the value of the digit. -/
theorem parseHex_letter : ¬Strict (parseHex false) ['1', 'g'] := by
  rintro ⟨result, run, accepted, -⟩
  obtain rfl : result = .ok [1] := Option.some.inj (run.symm.trans rfl)
  obtain ⟨-, digits⟩ := accepted.mp ⟨[1], rfl⟩
  exact absurd (digits 'g' (by decide)) (by decide)

end HexKey

end Cfg

end ModAuthOpenidc
