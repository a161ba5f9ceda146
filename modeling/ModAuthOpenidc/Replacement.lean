import Mathlib.Data.List.Basic

/-!
# Replacement texts

A replacement text has references in it: a dollar sign and a decimal number. The text is cut into
its references and the characters between them, and every reader of it goes along these pieces.
-/

namespace Replacement

/-! ## Texts that are put together -/

theorem length_flatMap_le {α β : Type} {long short : α → List β}
    (less : ∀ a, short a = long a ∨ short a = []) (l : List α) :
    (l.flatMap short).length ≤ (l.flatMap long).length := by
  induction l with
  | nil => exact Nat.le_refl _
  | cons a l ih =>
      have first : (short a).length ≤ (long a).length := by
        rcases less a with same | empty
        · exact Nat.le_of_eq (congrArg List.length same)
        · rw [empty]
          exact Nat.zero_le _
      rw [List.flatMap_cons, List.flatMap_cons, List.length_append, List.length_append]
      omega

/-- What is put together from the same parts with some of them left out is the same if the parts
that are left out are empty. -/
theorem flatMap_eq_iff {α β : Type} {long short : α → List β}
    (less : ∀ a, short a = long a ∨ short a = []) (l : List α) :
    l.flatMap long = l.flatMap short ↔ ∀ a ∈ l, long a = short a := by
  induction l with
  | nil => simp
  | cons a l ih =>
      rw [List.flatMap_cons, List.flatMap_cons, List.forall_mem_cons]
      constructor
      · intro same
        have first : long a = short a := by
          rcases less a with same | empty
          · exact same.symm
          · have shorter := length_flatMap_le less l
            have lengths := congrArg List.length same
            rw [empty, List.length_append, List.nil_append] at lengths
            rw [empty]
            exact List.eq_nil_of_length_eq_zero (by omega)
        rw [first] at same
        exact ⟨first, ih.mp (List.append_cancel_left same)⟩
      · rintro ⟨first, rest⟩
        rw [first, ih.mpr rest]

/-! ## Pieces -/

/-- A piece of a replacement text. -/
inductive Piece
  /-- A character that stands for itself. -/
  | char (c : Char)
  /-- A dollar sign with the digits behind it. -/
  | reference (digits : List Char)
  deriving DecidableEq

/-- Whether a reference starts with a character and what follows it. -/
def isReference (c : Char) (rest : List Char) : Bool :=
  c = '$' && rest.head?.any Char.isDigit

theorem length_dropWhile_lt (c : Char) (rest : List Char) :
    (rest.dropWhile Char.isDigit).length < (c :: rest).length :=
  Nat.lt_succ_of_le (List.dropWhile_sublist Char.isDigit).length_le

/-- The pieces of a text. The digits of a reference are as many as there are. -/
def pieces : List Char → List Piece
  | [] => []
  | c :: rest =>
      if isReference c rest then
        .reference (rest.takeWhile Char.isDigit) :: pieces (rest.dropWhile Char.isDigit)
      else .char c :: pieces rest
termination_by text => text.length
decreasing_by
  · exact length_dropWhile_lt c rest
  · exact Nat.lt_succ_self rest.length

/-- The text of a piece when references stand for texts. -/
def Piece.text (value : List Char → List Char) : Piece → List Char
  | char c => [c]
  | reference digits => value digits

/-- A text with its references replaced. -/
def expand (value : List Char → List Char) (text : List Char) : List Char :=
  (pieces text).flatMap (Piece.text value)

theorem expand_nil (value : List Char → List Char) : expand value [] = [] := by
  rw [expand, pieces, List.flatMap_nil]

theorem expand_reference (value : List Char → List Char) {c : Char} {rest : List Char}
    (starts : isReference c rest = true) :
    expand value (c :: rest) =
      value (rest.takeWhile Char.isDigit) ++ expand value (rest.dropWhile Char.isDigit) := by
  rw [expand, pieces, if_pos starts, List.flatMap_cons]
  rfl

theorem expand_char (value : List Char → List Char) {c : Char} {rest : List Char}
    (other : ¬isReference c rest = true) :
    expand value (c :: rest) = c :: expand value rest := by
  rw [expand, pieces, if_neg other, List.flatMap_cons]
  rfl

/-- The characters of an expansion are those of the text and of what the references stand for. -/
theorem mem_expand {value : List Char → List Char} {text : List Char} {c : Char}
    (member : c ∈ expand value text) : c ∈ text ∨ ∃ digits, c ∈ value digits := by
  induction text using pieces.induct with
  | case1 =>
      rw [expand_nil] at member
      cases member
  | case2 first rest starts ih =>
      rw [expand_reference value starts] at member
      rcases List.mem_append.mp member with replaced | behind
      · exact .inr ⟨_, replaced⟩
      · rcases ih behind with inside | replaced
        · have suffix := (List.dropWhile_sublist Char.isDigit).subset inside
          exact .inl (List.mem_cons_of_mem first suffix)
        · exact .inr replaced
  | case3 first rest other ih =>
      rw [expand_char value other] at member
      rcases List.mem_cons.mp member with rfl | behind
      · exact .inl List.mem_cons_self
      · rcases ih behind with inside | replaced
        · exact .inl (List.mem_cons_of_mem first inside)
        · exact .inr replaced

/-- What holds of the references of a text holds of the first one and of those behind it. -/
theorem forall_reference_iff {good : List Char → Prop} {c : Char} {rest : List Char}
    (starts : isReference c rest = true) :
    (∀ digits, .reference digits ∈ pieces (c :: rest) → good digits) ↔
      good (rest.takeWhile Char.isDigit) ∧
        ∀ digits, .reference digits ∈ pieces (rest.dropWhile Char.isDigit) → good digits := by
  rw [pieces, if_pos starts]
  simp

theorem forall_char_iff {good : List Char → Prop} {c : Char} {rest : List Char}
    (other : ¬isReference c rest = true) :
    (∀ digits, .reference digits ∈ pieces (c :: rest) → good digits) ↔
      ∀ digits, .reference digits ∈ pieces rest → good digits := by
  rw [pieces, if_neg other]
  simp

/-- Two ways to replace the references agree on a text if they agree on each reference of it, where
one is the other or nothing. -/
theorem expand_eq_iff {value reduced : List Char → List Char}
    (less : ∀ digits, reduced digits = value digits ∨ reduced digits = []) (text : List Char) :
    expand value text = expand reduced text ↔
      ∀ digits, .reference digits ∈ pieces text → value digits = reduced digits := by
  have piecewise (piece : Piece) :
      piece.text reduced = piece.text value ∨ piece.text reduced = [] := by
    cases piece with
    | char c => exact .inl rfl
    | reference digits => exact less digits
  rw [expand, expand, flatMap_eq_iff piecewise]
  constructor
  · intro same digits member
    exact same _ member
  · intro same piece member
    cases piece with
    | char c => rfl
    | reference digits => exact same digits member

end Replacement
