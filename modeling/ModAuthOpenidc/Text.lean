import ModAuthOpenidc.Json

/-!
# Text scanning

The string functions of the C library and of APR that the module's parsers are built from, on lists
of characters.
-/

namespace ModAuthOpenidc

/-- The tokens `apr_strtok` delivers for a single separator: the maximal non-empty runs without it.
-/
def strtok (separator : Char) (text : List Char) : List (List Char) :=
  (text.splitOn separator).filter (· ≠ [])

/-- The first token `apr_strtok` delivers for a set of separators. -/
def leftMostToken (separators : List Char) (text : String) : Option String :=
  match (text.toList.dropWhile (· ∈ separators)).takeWhile (· ∉ separators) with
  | [] => none
  | token => some (String.ofList token)

/-- `isspace` in the C locale. -/
def isSpace (c : Char) : Bool :=
  c = ' ' || c = '\t' || c = '\n' || c = '\x0b' || c = '\x0c' || c = '\r'

/-- The number written by a list of decimal digits. -/
def digitsValue (digits : List Char) : Nat :=
  digits.foldl (fun value digit => value * 10 + (digit.toNat - '0'.toNat)) 0

/-- An optional sign in front of a number. -/
def takeSign : List Char → Int × List Char
  | '-' :: text => (-1, text)
  | '+' :: text => (1, text)
  | text => (1, text)

/-- `strtol` to base ten on a whole string: `none` unless blanks, a sign and at least one digit make
up the entire text. -/
def strtol (text : List Char) : Option Int :=
  let (sign, digits) := takeSign (text.dropWhile isSpace)
  if digits ≠ [] ∧ digits.all Char.isDigit then some (sign * digitsValue digits) else none

/-- `_oidc_str_to_int_checked`: the number if it is an `int`. -/
def strToIntChecked (text : String) : Option Int :=
  (strtol text.toList).filter fun value => intMin ≤ value ∧ value ≤ intMax

/-- `_oidc_str_to_int`, for a string that may be `NULL`. -/
def strToInt (text : Option String) (default : Int) : Int :=
  (text.bind strToIntChecked).getD default

/-- `_oidc_str_to_time`: the number that `sscanf` finds at the front of a text, which need not go on
to its end. -/
def strToTime (text : String) (default : Int) : Int :=
  let (sign, rest) := takeSign (text.toList.dropWhile isSpace)
  match rest.takeWhile Char.isDigit with
  | [] => default
  | digits => sign * digitsValue digits

/-- The words that repeated `ap_getword_white` takes off a text: each call takes everything up to
the next blank and skips the blanks behind it. Every call but the last consumes a character. -/
def getwordsWhite : Nat → List Char → List (List Char)
  | 0, _ => []
  | _, [] => []
  | fuel + 1, text =>
      text.takeWhile (fun c => !isSpace c) ::
        getwordsWhite fuel ((text.dropWhile fun c => !isSpace c).dropWhile isSpace)

/-- The keys of `oidc_util_spaced_string_to_hashtable`. -/
def spacedStringWords (text : Option String) : List (List Char) :=
  match text with
  | none => []
  | some text => (getwordsWhite text.length text.toList).dedup

/-- `oidc_util_spaced_string_equals`. -/
def spacedStringEquals (a b : Option String) : Bool :=
  (spacedStringWords a).length = (spacedStringWords b).length &&
    (spacedStringWords a).all (· ∈ spacedStringWords b)

/-- `oidc_util_spaced_string_contains`. -/
def spacedStringContains (text : Option String) (word : String) : Bool :=
  word.toList ∈ spacedStringWords text

/-- Tokenizing what was joined with the separator gives the parts back. -/
theorem strtok_intercalate {separator : Char} {parts : List (List Char)}
    (clean : ∀ part ∈ parts, separator ∉ part) (nonempty : ∀ part ∈ parts, part ≠ []) :
    strtok separator ([separator].intercalate parts) = parts := by
  cases parts with
  | nil => simp [strtok, List.intercalate]
  | cons part parts =>
      rw [strtok, List.splitOn_intercalate separator clean (by simp), List.filter_eq_self]
      intro other member
      simpa using nonempty other member

/-- The first separator splits a text in one way only. -/
theorem append_separator_inj {separator : Char} {front front' back back' : List Char}
    (clean : separator ∉ front) (clean' : separator ∉ front')
    (same : front ++ separator :: back = front' ++ separator :: back') :
    front = front' ∧ back = back' := by
  induction front generalizing front' with
  | nil =>
      cases front' with
      | nil => simpa using same
      | cons first front' =>
          obtain ⟨rfl, -⟩ := List.cons.inj same
          exact absurd List.mem_cons_self clean'
  | cons first front ih =>
      cases front' with
      | nil =>
          obtain ⟨rfl, -⟩ := List.cons.inj same
          exact absurd List.mem_cons_self clean
      | cons first' front' =>
          obtain ⟨rfl, rest⟩ := List.cons.inj same
          obtain ⟨rfl, rfl⟩ := ih (fun member => clean (List.mem_cons_of_mem _ member))
            (fun member => clean' (List.mem_cons_of_mem _ member)) rest
          exact ⟨rfl, rfl⟩

end ModAuthOpenidc
