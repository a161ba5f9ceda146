import ModAuthOpenidc.ByteBuffer
import ModAuthOpenidc.Replacement
import ModAuthOpenidc.Text

/-!
# Substitution with PCRE

The first library for regular expressions reports where a subject matched, and the module replaces
the match by a text with references to the groups. The text is read twice: once for the size of the
result and once to write it.
-/

namespace ModAuthOpenidc

namespace Util

namespace PcreSubst

open Replacement (isReference pieces Piece)

/-- A C string: the characters before the terminator. -/
abbrev CText := { text : List Char // '\x00' ∉ text }

/-- What `pcre_exec` reports for a subject. -/
structure Match where
  /-- `str`, which has the length `len`. -/
  str : CText
  /-- `mvec[0]` and `mvec[1]`; a match may start behind its end if an assertion moves its start. -/
  start : Nat
  stop : Nat
  /-- The offsets of the groups, of which there are `nmat - 1`. -/
  groups : List (Int × Int)
  len_le : str.val.length ≤ intMax
  start_le : start ≤ str.val.length
  stop_le : stop ≤ str.val.length
  groups_valid : ∀ group ∈ groups, group = (-1, -1) ∨
    0 ≤ group.1 ∧ group.1 ≤ group.2 ∧ group.2 ≤ str.val.length
  /-- `OIDC_PCRE_MAXCAPTURE`. -/
  groups_lt : groups.length < 255

/-- `ULONG_MAX`, for long integers of 64 or of 32 bits. -/
def ulongMax (wide : Bool) : Nat := if wide then 2 ^ 64 - 1 else 2 ^ 32 - 1

/-- The result of `strtoul` in an `int`. -/
def toInt (wide : Bool) (digits : List Char) : Int :=
  Int.bmod (min (digitsValue digits) (ulongMax wide) : Nat) (2 ^ 32)

/-- The sum of two numbers of type `int`, if it is one. -/
def addInt (a b : Int) : Option Int :=
  if intMin ≤ a + b ∧ a + b ≤ intMax then some (a + b) else none

/-- An element of an array. -/
def element {α : Type} (array : List α) (index : Int) : Option α :=
  if index < 0 then none else array[index.toNat]?

/-- `strncpy`, from an offset of a C string. -/
def strncpy (str : List Char) (offset count : Int) : Option (List Char) :=
  if count < 0 then none
  else if count = 0 then some []
  else if offset < 0 ∨ str.length < offset then none
  else
    let copied := (str.drop offset.toNat).take count.toNat
    some (copied ++ List.replicate (count.toNat - copied.length) '\x00')

section Functions

variable (wide : Bool)

/-- `findreplen`, with the length so far. There is no result if it reads behind the elements that
`edit` has filled in, or if a sum is too large. -/
def findreplen (nmat : Int) (replen : List Int) : List Char → Int → Option Int
  | [], len => some len
  | c :: cp, len =>
      if isReference c cp then
        let val := toInt wide (cp.takeWhile Char.isDigit)
        if val ≠ 0 ∧ val ≤ nmat then
          (element replen (val - 1)).bind fun size =>
            (addInt len size).bind fun len =>
              findreplen nmat replen (cp.dropWhile Char.isDigit) len
        else findreplen nmat replen (cp.dropWhile Char.isDigit) len
      else (addInt len 1).bind fun len => findreplen nmat replen cp len
termination_by rep => rep.length
decreasing_by
  · exact Replacement.length_dropWhile_lt c cp
  · exact Replacement.length_dropWhile_lt c cp
  · exact Nat.lt_succ_self cp.length

/-- `doreplace`: the characters it writes, one behind the other. A pointer into the subject is an
offset. -/
def doreplace (str : List Char) (nmat : Int) (replen repstr : List Int) :
    List Char → Option (List Char)
  | [] => some []
  | c :: cp =>
      if isReference c cp then
        let val := toInt wide (cp.takeWhile Char.isDigit)
        if val ≠ 0 ∧ val ≤ nmat then
          (element repstr (val - 1)).bind fun offset =>
            (element replen (val - 1)).bind fun size =>
              (strncpy str offset size).bind fun copied =>
                (doreplace str nmat replen repstr (cp.dropWhile Char.isDigit)).map (copied ++ ·)
        else doreplace str nmat replen repstr (cp.dropWhile Char.isDigit)
      else (doreplace str nmat replen repstr cp).map (c :: ·)
termination_by rep => rep.length
decreasing_by
  · exact Replacement.length_dropWhile_lt c cp
  · exact Replacement.length_dropWhile_lt c cp
  · exact Nat.lt_succ_self cp.length

/-- The array `replen` of `edit`. -/
def Match.replen (m : Match) : List Int := m.groups.map fun group => group.2 - group.1

/-- The array `repstr` of `edit`. -/
def Match.repstr (m : Match) : List Int := m.groups.map fun group => group.1

/-- `edit`, if there is memory. -/
def edit (m : Match) (rep : CText) : Option (List Char) := do
  let str := m.str.val
  let nmat : Int := m.groups.length
  let slen := str.length
  let len ← addInt slen (-(m.stop - m.start : Int))
  let rlen ← findreplen wide nmat m.replen rep.val 0
  let len ← addInt len rlen
  let size ← addInt len 1
  let res := ByteBuffer.allocate size.toNat
  let front ← strncpy str 0 m.start
  let res ← ByteBuffer.store res 0 front
  let written ← doreplace wide str nmat m.replen m.repstr rep.val
  let res ← ByteBuffer.store res m.start written
  let cp := m.start + rlen.toNat
  let res ← (if m.stop < slen then ByteBuffer.store res cp (str.drop m.stop ++ ['\x00'])
    else some res)
  let res ← ByteBuffer.store res len.toNat ['\x00']
  ByteBuffer.text res

end Functions

/-! ## The result -/

/-- The text of a group, which is empty if the group is not set. -/
def Match.groupText (m : Match) (group : Int × Int) : List Char :=
  (m.str.val.drop group.1.toNat).take (group.2 - group.1).toNat

/-- The text that a number stands for, which is empty if there is no group of that number. -/
def Match.captured (m : Match) (number : Nat) : List Char :=
  if number = 0 then [] else (m.groups[number - 1]?.map m.groupText).getD []

/-- A replacement text with the groups for the references. -/
def Match.expand (m : Match) (rep : CText) : List Char :=
  Replacement.expand (fun digits => m.captured (digitsValue digits)) rep.val

/-! ## Numbers -/

theorem addInt_eq {a b : Int} {sum : Nat} (total : a + b = sum) :
    addInt a b = if (sum : Int) ≤ intMax then some (sum : Int) else none := by
  have low : intMin ≤ (sum : Int) := by
    rw [intMin]
    omega
  rw [addInt, total]
  simp only [low, true_and]

theorem le_ulongMax (wide : Bool) : 2 ^ 31 ≤ ulongMax wide := by
  cases wide with
  | false => decide
  | true => decide

theorem bmod_of_lt {n : Nat} (small : n < 2 ^ 31) : Int.bmod n (2 ^ 32) = n := by
  apply Int.bmod_eq_of_le
  · omega
  · omega

/-- A number that fits is read as it is written. -/
theorem toInt_of_le (wide : Bool) {digits : List Char} (small : digitsValue digits < 2 ^ 31) :
    toInt wide digits = digitsValue digits := by
  have max := le_ulongMax wide
  have value : min (digitsValue digits) (ulongMax wide) = digitsValue digits :=
    Nat.min_eq_left (by omega)
  unfold toInt
  rw [value]
  exact bmod_of_lt small

theorem addInt_eq_some {a b sum : Int} (run : addInt a b = some sum) :
    sum = a + b ∧ a + b ≤ intMax := by
  rw [addInt] at run
  split at run
  · rename_i fits
    exact ⟨(Option.some.inj run).symm, fits.2⟩
  · cases run

/-! ## Groups -/

section Groups

variable {m : Match}

theorem captured_zero : m.captured 0 = [] := if_pos rfl

theorem captured_of_lt {number : Nat} (large : m.groups.length < number) :
    m.captured number = [] := by
  rw [Match.captured, if_neg (by omega), List.getElem?_eq_none (by omega)]
  rfl

/-- The text of a number that is not read as it is written is empty. -/
theorem toInt_eq_or (m : Match) (wide : Bool) (digits : List Char) :
    toInt wide digits = digitsValue digits ∨ m.captured (digitsValue digits) = [] := by
  by_cases small : digitsValue digits < 2 ^ 31
  · exact .inl (toInt_of_le wide small)
  · have few := m.groups_lt
    exact .inr (captured_of_lt (by omega))

/-- The elements of the arrays for a number of a group. -/
theorem element_group {val : Int} (positive : 0 < val) (inside : val ≤ m.groups.length) :
    ∃ group ∈ m.groups, element m.replen (val - 1) = some (group.2 - group.1) ∧
      element m.repstr (val - 1) = some group.1 ∧ m.captured val.toNat = m.groupText group := by
  have index : (val - 1).toNat < m.groups.length := by omega
  have before : val.toNat - 1 = (val - 1).toNat := by omega
  have found := List.getElem?_eq_getElem index
  refine ⟨m.groups[(val - 1).toNat], List.getElem_mem index, ?_, ?_, ?_⟩
  · rw [element, if_neg (by omega), Match.replen, List.getElem?_map, found]
    rfl
  · rw [element, if_neg (by omega), Match.repstr, List.getElem?_map, found]
    rfl
  · rw [Match.captured, if_neg (by omega), before, found]
    rfl

/-- A group of the subject is copied as it is. -/
theorem strncpy_group {group : Int × Int} (member : group ∈ m.groups) :
    strncpy m.str.val group.1 (group.2 - group.1) = some (m.groupText group) ∧
      ((m.groupText group).length : Int) = group.2 - group.1 := by
  have length : (m.groupText group).length =
      min (group.2 - group.1).toNat (m.str.val.length - group.1.toNat) := by
    rw [Match.groupText, List.length_take, List.length_drop]
  rcases m.groups_valid group member with rfl | ⟨low, order, high⟩
  · exact ⟨rfl, rfl⟩
  · have whole : (m.groupText group).length = (group.2 - group.1).toNat := by
      rw [length]
      omega
    refine ⟨?_, by omega⟩
    rw [strncpy, if_neg (by omega)]
    by_cases empty : group.2 - group.1 = 0
    · rw [if_pos empty]
      refine congrArg some (List.eq_nil_of_length_eq_zero ?_).symm
      omega
    · rw [if_neg empty, if_neg (by omega)]
      change some (m.groupText group ++ List.replicate (_ - (m.groupText group).length) '\x00') = _
      rw [whole, Nat.sub_self, List.replicate_zero, List.append_nil]

end Groups

/-! ## Two readings -/

/-- The replacement as the code reads it, with the numbers as they are in an `int`. -/
def Match.coded (wide : Bool) (m : Match) (rep : List Char) : List Char :=
  Replacement.expand (fun digits => m.captured (toInt wide digits).toNat) rep

/-- Neither the subject nor the replacement has a terminator inside. -/
theorem not_mem_coded (wide : Bool) (m : Match) (rep : CText) :
    '\x00' ∉ m.coded wide rep.val := by
  intro member
  rcases Replacement.mem_expand member with inside | ⟨digits, captured⟩
  · exact rep.property inside
  · rw [Match.captured] at captured
    split at captured
    · cases captured
    · cases found : m.groups[(toInt wide digits).toNat - 1]? with
      | none =>
          rw [found] at captured
          cases captured
      | some group =>
          rw [found] at captured
          exact m.str.property (List.mem_of_mem_drop (List.mem_of_mem_take captured))

/-- No number in a replacement becomes negative. -/
def Nonnegative (wide : Bool) (rep : List Char) : Prop :=
  ∀ digits, .reference digits ∈ pieces rep → 0 ≤ toInt wide digits

section Readings

variable {wide : Bool} {m : Match}

/-- The length is that of the text that the code writes, if that fits. -/
theorem findreplen_eq {rep : List Char} (good : Nonnegative wide rep) (len : Nat)
    (fits : (len : Int) ≤ intMax) :
    findreplen wide m.groups.length m.replen rep len =
      if (len + (m.coded wide rep).length : Nat) ≤ intMax then
        some ((len + (m.coded wide rep).length : Nat) : Int)
      else none := by
  induction rep using Replacement.pieces.induct generalizing len with
  | case1 =>
      rw [findreplen, Match.coded, Replacement.expand_nil]
      simp [fits]
  | case2 c cp starts ih =>
      obtain ⟨first, rest⟩ := (Replacement.forall_reference_iff starts).mp good
      rw [findreplen, if_pos starts, Match.coded, Replacement.expand_reference _ starts,
        List.length_append]
      generalize toInt wide (cp.takeWhile Char.isDigit) = val at first ⊢
      by_cases used : val ≠ 0 ∧ val ≤ m.groups.length
      · obtain ⟨group, member, size, -, text⟩ := element_group (by omega) used.2
        have length := (strncpy_group member).2
        rw [if_pos used, size, Option.bind_some, text,
          @addInt_eq _ _ (len + (m.groupText group).length) (by omega)]
        by_cases next : ((len + (m.groupText group).length : Nat) : Int) ≤ intMax
        · rw [if_pos next, Option.bind_some, ih rest _ next, Nat.add_assoc]
          rfl
        · rw [if_neg next, if_neg (by omega)]
          rfl
      · have empty : m.captured val.toNat = [] := by
          by_cases zero : val = 0
          · rw [zero]
            exact captured_zero
          · exact captured_of_lt (by omega)
        rw [if_neg used, ih rest len fits, empty, List.length_nil, Nat.zero_add]
        rfl
  | case3 c cp other ih =>
      have rest := (Replacement.forall_char_iff other).mp good
      rw [findreplen, if_neg other, Match.coded, Replacement.expand_char _ other,
        List.length_cons, @addInt_eq _ _ (len + 1) (by omega)]
      by_cases next : ((len + 1 : Nat) : Int) ≤ intMax
      · rw [if_pos next, Option.bind_some, ih rest _ next]
        have order (n : Nat) : len + 1 + n = len + (n + 1) := by omega
        rw [order]
        rfl
      · rw [if_neg next, if_neg (by omega)]
        rfl

/-- A length is computed only if no number becomes negative. -/
theorem nonnegative_of_findreplen {rep : List Char} {len rlen : Int}
    (run : findreplen wide m.groups.length m.replen rep len = some rlen) :
    Nonnegative wide rep := by
  induction rep using Replacement.pieces.induct generalizing len with
  | case1 =>
      intro digits member
      rw [pieces] at member
      cases member
  | case2 c cp starts ih =>
      rw [findreplen, if_pos starts] at run
      refine (Replacement.forall_reference_iff starts).mpr ?_
      by_cases used : toInt wide (cp.takeWhile Char.isDigit) ≠ 0 ∧
          toInt wide (cp.takeWhile Char.isDigit) ≤ m.groups.length
      · rw [if_pos used] at run
        obtain ⟨size, found, run⟩ := Option.bind_eq_some_iff.mp run
        obtain ⟨sum, -, run⟩ := Option.bind_eq_some_iff.mp run
        refine ⟨?_, ih run⟩
        by_contra negative
        rw [element, if_pos (by omega)] at found
        cases found
      · rw [if_neg used] at run
        exact ⟨by omega, ih run⟩
  | case3 c cp other ih =>
      rw [findreplen, if_neg other] at run
      obtain ⟨sum, -, run⟩ := Option.bind_eq_some_iff.mp run
      exact (Replacement.forall_char_iff other).mpr (ih run)

/-- The characters that are written are those of the replacement as the code reads it. -/
theorem doreplace_eq {rep : List Char} (good : Nonnegative wide rep) :
    doreplace wide m.str.val m.groups.length m.replen m.repstr rep = some (m.coded wide rep) := by
  induction rep using Replacement.pieces.induct with
  | case1 => rw [doreplace, Match.coded, Replacement.expand_nil]
  | case2 c cp starts ih =>
      obtain ⟨first, rest⟩ := (Replacement.forall_reference_iff starts).mp good
      rw [doreplace, if_pos starts, ih rest, Match.coded, Match.coded,
        Replacement.expand_reference _ starts]
      generalize toInt wide (cp.takeWhile Char.isDigit) = val at first ⊢
      by_cases used : val ≠ 0 ∧ val ≤ m.groups.length
      · obtain ⟨group, member, size, offset, text⟩ := element_group (by omega) used.2
        rw [if_pos used, offset, Option.bind_some, size, Option.bind_some,
          (strncpy_group member).1, Option.bind_some, text]
        rfl
      · have empty : m.captured val.toNat = [] := by
          by_cases zero : val = 0
          · rw [zero]
            exact captured_zero
          · exact captured_of_lt (by omega)
        rw [if_neg used, empty, List.nil_append]
  | case3 c cp other ih =>
      have rest := (Replacement.forall_char_iff other).mp good
      rw [doreplace, if_neg other, ih rest, Match.coded, Match.coded,
        Replacement.expand_char _ other]
      rfl

/-! ## The result -/

/-- The number of characters of a result. -/
def Match.resultLength (m : Match) (replacement : List Char) : Nat :=
  m.start + replacement.length + (m.str.val.length - m.stop)

/-- The buffer holds the result, if its size is an `int`. -/
theorem edit_eq {rep : CText} (good : Nonnegative wide rep.val)
    (fits : (m.resultLength (m.coded wide rep.val) + 1 : Nat) ≤ intMax) :
    edit wide m rep = some (m.str.val.take m.start ++ m.coded wide rep.val ++
      m.str.val.drop m.stop) := by
  have start := m.start_le
  have stop := m.stop_le
  rw [Match.resultLength] at fits
  have front : strncpy m.str.val 0 m.start = some (m.str.val.take m.start) := by
    rw [strncpy, if_neg (by omega)]
    by_cases empty : (m.start : Int) = 0
    · have none : m.start = 0 := by omega
      rw [if_pos empty, none]
      rfl
    · rw [if_neg empty, if_neg (by omega)]
      change some (m.str.val.take m.start ++
        List.replicate (m.start - (m.str.val.take m.start).length) '\x00') = _
      rw [List.length_take_of_le start, Nat.sub_self, List.replicate_zero, List.append_nil]
  have body : addInt m.str.val.length (-(m.stop - m.start : Int)) =
      some ((m.start + (m.str.val.length - m.stop) : Nat) : Int) := by
    rw [@addInt_eq _ _ (m.start + (m.str.val.length - m.stop)) (by omega), if_pos (by omega)]
  have length : findreplen wide m.groups.length m.replen rep.val 0 =
      some ((m.coded wide rep.val).length : Int) := by
    have read := @findreplen_eq wide m rep.val good 0 (by omega)
    rw [Nat.zero_add, if_pos (by omega)] at read
    exact read
  have total : addInt (m.start + (m.str.val.length - m.stop) : Nat) (m.coded wide rep.val).length =
      some ((m.resultLength (m.coded wide rep.val) : Nat) : Int) := by
    rw [@addInt_eq _ _ (m.resultLength (m.coded wide rep.val)) (by rw [Match.resultLength]; omega),
      if_pos (by rw [Match.resultLength]; omega)]
  have size : addInt (m.resultLength (m.coded wide rep.val) : Nat) 1 =
      some ((m.resultLength (m.coded wide rep.val) + 1 : Nat) : Int) := by
    rw [@addInt_eq _ _ (m.resultLength (m.coded wide rep.val) + 1) (by omega),
      if_pos (by rw [Match.resultLength]; omega)]
  refine Option.bind_eq_some_iff.mpr ⟨_, body, ?_⟩
  refine Option.bind_eq_some_iff.mpr ⟨_, length, ?_⟩
  refine Option.bind_eq_some_iff.mpr ⟨_, total, ?_⟩
  refine Option.bind_eq_some_iff.mpr ⟨_, size, ?_⟩
  refine Option.bind_eq_some_iff.mpr ⟨_, front, ?_⟩
  have frontLength : (m.str.val.take m.start).length = m.start := List.length_take_of_le start
  have suffixLength : (m.str.val.drop m.stop).length = m.str.val.length - m.stop :=
    List.length_drop
  have sizeNat : ((m.resultLength (m.coded wide rep.val) + 1 : Nat) : Int).toNat =
      (m.str.val.take m.start).length + ((m.coded wide rep.val).length +
        ((m.str.val.drop m.stop).length + 1)) := by
    rw [Int.toNat_natCast, Match.resultLength, frontLength, suffixLength]
    omega
  have nonzero : '\x00' ∉ m.str.val.take m.start ++ m.coded wide rep.val ++
      m.str.val.drop m.stop := by
    intro member
    rcases List.mem_append.mp member with front | suffix
    · rcases List.mem_append.mp front with front | replaced
      · exact m.str.property (List.mem_of_mem_take front)
      · exact not_mem_coded wide m rep replaced
    · exact m.str.property (List.mem_of_mem_drop suffix)
  have first := ByteBuffer.store_filled [] (m.str.val.take m.start)
    ((m.coded wide rep.val).length + ((m.str.val.drop m.stop).length + 1))
  rw [← sizeNat, ← ByteBuffer.allocate_eq] at first
  refine Option.bind_eq_some_iff.mpr ⟨_, first, ?_⟩
  refine Option.bind_eq_some_iff.mpr ⟨_, doreplace_eq good, ?_⟩
  have second := ByteBuffer.store_filled (m.str.val.take m.start) (m.coded wide rep.val)
    ((m.str.val.drop m.stop).length + 1)
  rw [frontLength] at second
  refine Option.bind_eq_some_iff.mpr ⟨_, second, ?_⟩
  have third := ByteBuffer.store_terminated (m.str.val.take m.start ++ m.coded wide rep.val)
    (m.str.val.drop m.stop)
    (fun whole : ¬m.stop < m.str.val.length => List.drop_eq_nil_of_le (Nat.le_of_not_lt whole))
  obtain ⟨cells, copied, last⟩ := Option.bind_eq_some_iff.mp third
  have position : (m.str.val.take m.start ++ m.coded wide rep.val).length =
      m.start + ((m.coded wide rep.val).length : Int).toNat := by
    rw [List.length_append, frontLength, Int.toNat_natCast]
  have behind : (m.str.val.take m.start ++ m.coded wide rep.val).length +
      (m.str.val.drop m.stop).length =
        ((m.resultLength (m.coded wide rep.val) : Nat) : Int).toNat := by
    rw [List.length_append, frontLength, suffixLength, Int.toNat_natCast, Match.resultLength]
  rw [position] at copied
  rw [behind] at last
  refine Option.bind_eq_some_iff.mpr ⟨_, copied, ?_⟩
  refine Option.bind_eq_some_iff.mpr ⟨_, last, ?_⟩
  exact ByteBuffer.text_filled nonzero 0

/-- A result is computed only if no number becomes negative and the size of the buffer is an
`int`. -/
theorem fits_of_edit {rep : CText} {result : List Char} (run : edit wide m rep = some result) :
    Nonnegative wide rep.val ∧ (m.resultLength (m.coded wide rep.val) + 1 : Nat) ≤ intMax := by
  have start := m.start_le
  have stop := m.stop_le
  obtain ⟨len, body, run⟩ := Option.bind_eq_some_iff.mp run
  obtain ⟨rlen, length, run⟩ := Option.bind_eq_some_iff.mp run
  obtain ⟨total, sum, run⟩ := Option.bind_eq_some_iff.mp run
  obtain ⟨size, last, -⟩ := Option.bind_eq_some_iff.mp run
  have good := nonnegative_of_findreplen length
  have short := m.len_le
  have read := @findreplen_eq wide m rep.val good 0 (by omega)
  rw [Nat.zero_add] at read
  have value : rlen = (m.coded wide rep.val).length := by
    split at read
    · exact Option.some.inj (length.symm.trans read)
    · cases length.symm.trans read
  obtain ⟨rfl, -⟩ := addInt_eq_some body
  obtain ⟨rfl, -⟩ := addInt_eq_some sum
  obtain ⟨rfl, bound⟩ := addInt_eq_some last
  refine ⟨good, ?_⟩
  rw [Match.resultLength]
  omega

end Readings

/-- What the substitution is for: every index is that of a group, as many characters are written as
were counted, and the result is the subject with the match replaced. -/
structure Exact (wide : Bool) (m : Match) (rep : CText) : Prop where
  indices : ∀ digits, .reference digits ∈ pieces rep.val → toInt wide digits ≠ 0 →
    toInt wide digits ≤ m.groups.length → 1 ≤ toInt wide digits
  lengths : ∃ rlen written,
    findreplen wide m.groups.length m.replen rep.val 0 = some rlen ∧
      doreplace wide m.str.val m.groups.length m.replen m.repstr rep.val = some written ∧
        written.length = rlen
  result : edit wide m rep =
    some (m.str.val.take m.start ++ m.expand rep ++ m.str.val.drop m.stop)

/-- The replacements that are safe: as an `int` no number is negative, and each stands for the same
text as it is written; and the size of the result is an `int`. -/
def Safe (wide : Bool) (m : Match) (rep : CText) : Prop :=
  (∀ digits, .reference digits ∈ pieces rep.val →
    0 ≤ toInt wide digits ∧
      m.captured (toInt wide digits).toNat = m.captured (digitsValue digits)) ∧
    (m.resultLength (m.expand rep) + 1 : Nat) ≤ intMax

/-- The code reads a replacement as it is written if its numbers stand for the same texts. -/
theorem coded_eq_iff {wide : Bool} {m : Match} {rep : CText} :
    m.coded wide rep.val = m.expand rep ↔ ∀ digits, .reference digits ∈ pieces rep.val →
      m.captured (toInt wide digits).toNat = m.captured (digitsValue digits) := by
  apply Replacement.expand_eq_iff
  intro digits
  rcases toInt_eq_or m wide digits with same | empty
  · left
    rw [same, Int.toNat_natCast]
  · exact .inr empty

/-- A substitution stays inside its arrays and gives the result exactly if the numbers of the
replacement are safe. -/
theorem exact_iff (wide : Bool) (m : Match) (rep : CText) : Exact wide m rep ↔ Safe wide m rep := by
  constructor
  · rintro ⟨-, -, result⟩
    obtain ⟨good, fits⟩ := fits_of_edit result
    have same : m.coded wide rep.val = m.expand rep := by
      have both := Option.some.inj ((edit_eq good fits).symm.trans result)
      exact List.append_cancel_left (List.append_cancel_right both)
    rw [same] at fits
    refine ⟨?_, fits⟩
    intro digits member
    exact ⟨good digits member, coded_eq_iff.mp same digits member⟩
  · rintro ⟨numbers, fits⟩
    have good : Nonnegative wide rep.val := fun digits member => (numbers digits member).1
    have same : m.coded wide rep.val = m.expand rep :=
      coded_eq_iff.mpr fun digits member => (numbers digits member).2
    rw [← same] at fits
    refine ⟨?_, ⟨(m.coded wide rep.val).length, m.coded wide rep.val, ?_, doreplace_eq good, rfl⟩,
      ?_⟩
    · intro digits member other small
      have nonnegative := good digits member
      omega
    · have read := @findreplen_eq wide m rep.val good 0 (by omega)
      rw [Match.resultLength] at fits
      rw [Nat.zero_add, if_pos (by omega)] at read
      exact read
    · rw [edit_eq good fits, same]

/-- A subject of one character, which is a group. -/
def oneGroup : Match where
  str := ⟨['a'], by decide⟩
  start := 0
  stop := 1
  groups := [(0, 1)]
  len_le := by decide
  start_le := by decide
  stop_le := by decide
  groups_valid := by decide
  groups_lt := by decide

/-- The largest number of 32 bits becomes negative. -/
theorem maxWord_not_exact : ¬Exact true oneGroup ⟨"$4294967295".toList, by decide⟩ := by
  rintro ⟨indices, -, -⟩
  have negative : toInt true "4294967295".toList = -1 := by decide
  have member : .reference "4294967295".toList ∈ pieces "$4294967295".toList := by
    change _ ∈ pieces ('$' :: "4294967295".toList)
    rw [pieces, if_pos (by decide)]
    exact List.mem_cons_self
  have positive := indices _ member (by decide) (by decide)
  rw [negative] at positive
  exact absurd positive (by decide)

end PcreSubst

end Util

end ModAuthOpenidc
