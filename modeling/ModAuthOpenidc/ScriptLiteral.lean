import Mathlib

/-!
# String literals of scripts

A string literal of ECMAScript 2019 is read character by character up to the quote that ends it. Its
value is a sequence of code units. Line separators stand for themselves in it since that version,
other line terminators do not.
-/

namespace ScriptLiteral

/-- The code units of a code point. -/
def units (point : Nat) : List Nat :=
  if point < 0x10000 then [point]
  else [0xd800 + (point - 0x10000) / 0x400, 0xdc00 + (point - 0x10000) % 0x400]

/-- The value of a text. -/
def value (text : List Char) : List Nat := text.flatMap fun c => units c.toNat

/-- The value of a hexadecimal digit. -/
def hexValue (c : Char) : Option Nat :=
  if c.isDigit then some (c.toNat - 48)
  else if 'a' ≤ c ∧ c ≤ 'f' then some (c.toNat - 87)
  else if 'A' ≤ c ∧ c ≤ 'F' then some (c.toNat - 55)
  else none

/-- Where the reader stands. -/
inductive Mode
  /-- Between two characters of the value. -/
  | plain
  /-- Behind a backslash. -/
  | escape
  /-- Behind a backslash and a carriage return, which a line feed may follow. -/
  | carriage
  /-- Among digits, of which some more follow this one. -/
  | hex (left value : Nat)
  /-- Behind a backslash and a `u`. -/
  | unicode
  /-- Among the digits of a code point between braces. -/
  | braced (value : Option Nat)

/-- What a character does. -/
inductive Step
  | done
  | fail
  | go (value : List Nat) (mode : Mode)

/-- A character of its own. -/
def plainStep (quote c : Char) : Step :=
  if c = quote then .done
  else if c = '\\' then .go [] .escape
  else if c = '\n' ∨ c = '\r' then .fail
  else .go (units c.toNat) .plain

/-- The single escape characters and what they stand for. -/
def singleEscape (c : Char) : Option Nat :=
  match c with
  | '\'' => some 0x27
  | '"' => some 0x22
  | '\\' => some 0x5c
  | 'b' => some 0x08
  | 'f' => some 0x0c
  | 'n' => some 0x0a
  | 'r' => some 0x0d
  | 't' => some 0x09
  | 'v' => some 0x0b
  | _ => none

/-- A character behind a backslash. -/
def escapeStep (c : Char) (following : Option Char) : Step :=
  match singleEscape c with
  | some unit => .go [unit] .plain
  | none =>
      if c = 'x' then .go [] (.hex 1 0)
      else if c = 'u' then .go [] .unicode
      else if c = '\r' then .go [] .carriage
      else if c = '\n' ∨ c = '\u2028' ∨ c = '\u2029' then .go [] .plain
      else if c = '0' then
        if following.any Char.isDigit then .fail else .go [0] .plain
      else if c.isDigit then .fail
      else .go (units c.toNat) .plain

/-- A digit among others. -/
def hexStep (left value : Nat) (c : Char) : Step :=
  match hexValue c with
  | none => .fail
  | some digit =>
      if left = 0 then .go [value * 16 + digit] .plain
      else .go [] (.hex (left - 1) (value * 16 + digit))

/-- A digit between braces, or the brace at the end. -/
def bracedStep (value : Option Nat) (c : Char) : Step :=
  if c = '\x7d' then
    match value with
    | some point => if point ≤ 0x10ffff then .go (units point) .plain else .fail
    | none => .fail
  else
    match hexValue c with
    | some digit => .go [] (.braced (some (value.getD 0 * 16 + digit)))
    | none => .fail

/-- What a character does where the reader stands. -/
def step (quote : Char) (mode : Mode) (c : Char) (following : Option Char) : Step :=
  match mode with
  | .plain => plainStep quote c
  | .escape => escapeStep c following
  | .carriage => if c = '\n' then .go [] .plain else plainStep quote c
  | .hex left value => hexStep left value c
  | .unicode => if c = '\x7b' then .go [] (.braced none) else hexStep 3 0 c
  | .braced value => bracedStep value c

/-- Read up to the quote: the value, and what is behind the quote. -/
def body (quote : Char) : Mode → List Char → Option (List Nat × List Char)
  | _, [] => none
  | mode, c :: rest =>
      match step quote mode c rest.head? with
      | .done => some ([], rest)
      | .fail => none
      | .go value mode => (body quote mode rest).map fun read => (value ++ read.1, read.2)

/-- Read a literal: its value, and what is behind it. -/
def literal : List Char → Option (List Nat × List Char)
  | [] => none
  | quote :: rest => if quote = '\'' ∨ quote = '"' then body quote .plain rest else none

theorem body_go {quote c : Char} {mode next : Mode} {rest : List Char} {value : List Nat}
    (goes : step quote mode c rest.head? = .go value next) :
    body quote mode (c :: rest) =
      (body quote next rest).map fun read => (value ++ read.1, read.2) := by
  rw [body, goes]

theorem body_done {quote c : Char} {mode : Mode} {rest : List Char}
    (stops : step quote mode c rest.head? = .done) :
    body quote mode (c :: rest) = some ([], rest) := by
  rw [body, stops]

/-- A backslash and a character that stands for a unit. -/
theorem body_escape {quote c : Char} {rest : List Char} {value : List Nat} (other : quote ≠ '\\')
    (goes : escapeStep c rest.head? = .go value .plain) :
    body quote .plain ('\\' :: c :: rest) =
      (body quote .plain rest).map fun read => (value ++ read.1, read.2) := by
  have backslash : step quote .plain '\\' (c :: rest).head? = .go [] .escape := by
    rw [step, plainStep, if_neg (Ne.symm other), if_pos rfl]
  have escaped : step quote .escape c rest.head? = .go value .plain := goes
  rw [body_go backslash, body_go escaped, Option.map_map]
  rfl

/-- A backslash, an `x` and two digits. -/
theorem body_hex {quote high low : Char} {rest : List Char} {h l : Nat} (other : quote ≠ '\\')
    (first : hexValue high = some h) (second : hexValue low = some l) :
    body quote .plain ('\\' :: 'x' :: high :: low :: rest) =
      (body quote .plain rest).map fun read => ((h * 16 + l) :: read.1, read.2) := by
  have backslash : step quote .plain '\\' ('x' :: high :: low :: rest).head? = .go [] .escape := by
    rw [step, plainStep, if_neg (Ne.symm other), if_pos rfl]
  have mark : step quote .escape 'x' (high :: low :: rest).head? = .go [] (.hex 1 0) := rfl
  have one : step quote (.hex 1 0) high (low :: rest).head? = .go [] (.hex 0 (0 * 16 + h)) := by
    rw [step, hexStep, first]
    rfl
  have two : step quote (.hex 0 (0 * 16 + h)) low rest.head? = .go [h * 16 + l] .plain := by
    rw [step, hexStep, second, Nat.zero_mul, Nat.zero_add]
    rfl
  rw [body_go backslash, body_go mark, body_go one, body_go two, Option.map_map, Option.map_map,
    Option.map_map]
  rfl

end ScriptLiteral
