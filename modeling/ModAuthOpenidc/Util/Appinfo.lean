import ModAuthOpenidc.Json
import ModAuthOpenidc.Words

/-!
# Arrays in headers

The claims of a user are passed to the application as header values. An array is passed as one text:
its elements are escaped and joined with a delimiter. The escaped form of an element is read here as
a list of signs, and the value of a header as what the lists of its elements stand for.
-/

namespace ModAuthOpenidc

namespace Util

namespace Appinfo

/-! ## Escaping -/

/-- The loop of `oidc_util_appinfo_escape` over the characters of a value, some of which are still
to be copied as they belong to a delimiter. -/
def escapeLoop (claimDelimiter : List Char) : Nat → List Char → List Char
  | _, [] => []
  | k + 1, c :: value => c :: escapeLoop claimDelimiter k value
  | 0, c :: value =>
      if c = '\\' then '\\' :: '\\' :: escapeLoop claimDelimiter 0 value
      else if claimDelimiter <+: c :: value then
        '\\' :: c :: escapeLoop claimDelimiter (claimDelimiter.length - 1) value
      else c :: escapeLoop claimDelimiter 0 value

/-- `oidc_util_appinfo_escape`. -/
def escape (claimDelimiter value : List Char) : List Char :=
  if claimDelimiter = [] then value else escapeLoop claimDelimiter 0 value

/-! ## Joining -/

/-- The text of an element of an array; other elements than strings and booleans have none. -/
def elementText : Json → Option String
  | .str value => some value
  | .bool true => some "1"
  | .bool false => some "0"
  | _ => none

/-- The loop of `oidc_util_appinfo_array_concat` that renders the elements: empty ones in front of
the first other one are left out. -/
def renderLoop (claimDelimiter : List Char) : List Json → List (List Char) → List (List Char)
  | [], elems => elems
  | elem :: array, elems =>
      match elementText elem with
      | none => renderLoop claimDelimiter array elems
      | some value =>
          if elems = [] ∧ escape claimDelimiter value.toList = [] then
            renderLoop claimDelimiter array elems
          else renderLoop claimDelimiter array (elems ++ [escape claimDelimiter value.toList])

/-- The loop of `oidc_util_appinfo_array_concat` that copies the rendered elements. -/
def joinElements (claimDelimiter : List Char) : List (List Char) → List Char
  | [] => []
  | elem :: elems => elem ++ elems.flatMap (claimDelimiter ++ ·)

/-- `oidc_util_appinfo_array_concat`. -/
def arrayConcat (array : List Json) (claimDelimiter : String) : String :=
  String.ofList (joinElements claimDelimiter.toList (renderLoop claimDelimiter.toList array []))

/-! ## Signs -/

/-- What the escape function reads at a time. -/
inductive Sign
  | backslash
  | delimiter
  | plain (c : Char)

namespace Sign

/-- What a sign is in a value. -/
def raw (claimDelimiter : List Char) : Sign → List Char
  | backslash => ['\\']
  | delimiter => claimDelimiter
  | plain c => [c]

/-- What a sign is in the escaped form of a value. -/
def text (claimDelimiter : List Char) : Sign → List Char
  | backslash => ['\\', '\\']
  | delimiter => '\\' :: claimDelimiter
  | plain c => [c]

/-- The signs that can be read: a backslash is never read as anything else. -/
def Proper (claimDelimiter : List Char) : Sign → Prop
  | backslash => True
  | delimiter => claimDelimiter.head? ≠ some '\\'
  | plain c => c ≠ '\\'

/-- The signs of a value without delimiters. -/
def Simple : Sign → Prop
  | backslash => True
  | delimiter => False
  | plain c => c ≠ '\\'

theorem Simple.proper {d : List Char} {sign : Sign} (simple : sign.Simple) : sign.Proper d := by
  cases sign with
  | backslash => trivial
  | delimiter => exact False.elim simple
  | plain c => exact simple

end Sign

variable {d : List Char}

/-- The value that signs stand for. -/
def raws (d : List Char) (signs : List Sign) : List Char := signs.flatMap (Sign.raw d)

/-- The escaped form that signs stand for. -/
def texts (d : List Char) (signs : List Sign) : List Char := signs.flatMap (Sign.text d)

@[simp]
theorem raws_nil : raws d [] = [] := rfl

@[simp]
theorem texts_nil : texts d [] = [] := rfl

@[simp]
theorem raws_cons (sign : Sign) (signs : List Sign) :
    raws d (sign :: signs) = sign.raw d ++ raws d signs :=
  List.flatMap_cons

@[simp]
theorem texts_cons (sign : Sign) (signs : List Sign) :
    texts d (sign :: signs) = sign.text d ++ texts d signs :=
  List.flatMap_cons

@[simp]
theorem raws_append (first second : List Sign) :
    raws d (first ++ second) = raws d first ++ raws d second :=
  List.flatMap_append

@[simp]
theorem texts_append (first second : List Sign) :
    texts d (first ++ second) = texts d first ++ texts d second :=
  List.flatMap_append

theorem texts_ne_nil {signs : List Sign} (nonempty : signs ≠ []) : texts d signs ≠ [] := by
  cases signs with
  | nil => exact absurd rfl nonempty
  | cons sign signs => cases sign <;> simp [Sign.text]

/-! ## Reading a value -/

/-- The signs that the escape function reads one after the other. -/
inductive Reading (d : List Char) : List Sign → Prop
  | nil : Reading d []
  | backslash {signs : List Sign} : Reading d signs → Reading d (.backslash :: signs)
  | delimiter {signs : List Sign} : d.head? ≠ some '\\' → Reading d signs →
      Reading d (.delimiter :: signs)
  | plain {c : Char} {signs : List Sign} :
      c ≠ '\\' → ¬d <+: c :: raws d signs → Reading d signs → Reading d (.plain c :: signs)

/-- Every value is read as some signs. -/
theorem exists_reading (nonempty : d ≠ []) (value : List Char) :
    ∃ signs, Reading d signs ∧ raws d signs = value := by
  induction size : value.length using Nat.strong_induction_on generalizing value with
  | _ size ih =>
      cases value with
      | nil => exact ⟨[], .nil, rfl⟩
      | cons c value =>
          rw [List.length_cons] at size
          by_cases escaped : c = '\\'
          · obtain ⟨signs, reading, same⟩ := ih value.length (by omega) value rfl
            exact ⟨.backslash :: signs, .backslash reading, by rw [raws_cons, same, escaped]; rfl⟩
          · by_cases front : d <+: c :: value
            · obtain ⟨rest, whole⟩ := front
              have positive := List.length_pos_of_ne_nil nonempty
              have lengths := congrArg List.length whole
              rw [List.length_append, List.length_cons] at lengths
              obtain ⟨signs, reading, same⟩ := ih rest.length (by omega) rest rfl
              refine ⟨.delimiter :: signs, .delimiter ?_ reading, ?_⟩
              · rw [← List.head?_append_of_ne_nil d nonempty, whole, List.head?_cons]
                exact fun first => escaped (Option.some.inj first)
              · rw [raws_cons, same, ← whole]
                rfl
            · obtain ⟨signs, reading, same⟩ := ih value.length (by omega) value rfl
              refine ⟨.plain c :: signs, .plain escaped ?_ reading, ?_⟩
              · rwa [same]
              · rw [raws_cons, same]
                rfl

/-- While a delimiter is copied nothing is escaped. -/
theorem escapeLoop_copy (front value : List Char) :
    escapeLoop d front.length (front ++ value) = front ++ escapeLoop d 0 value := by
  induction front with
  | nil => rfl
  | cons c front ih => rw [List.length_cons, List.cons_append, escapeLoop, ih, List.cons_append]

/-- What is read is written in its escaped form. -/
theorem escapeLoop_raws (nonempty : d ≠ []) {signs : List Sign} (reading : Reading d signs) :
    escapeLoop d 0 (raws d signs) = texts d signs := by
  induction reading with
  | nil => rfl
  | backslash reading ih =>
      rw [raws_cons, texts_cons, ← ih]
      rfl
  | @delimiter signs plain reading ih =>
      rw [raws_cons, texts_cons, ← ih]
      cases d with
      | nil => exact absurd rfl nonempty
      | cons c d =>
          rw [List.head?_cons] at plain
          have other : c ≠ '\\' := fun same => plain (congrArg some same)
          have copied := escapeLoop_copy (d := c :: d) d (raws (c :: d) signs)
          rw [Sign.raw, Sign.text, List.cons_append, escapeLoop, if_neg other, if_pos ?_,
            List.length_cons, Nat.add_sub_cancel, copied]
          · rfl
          · exact List.prefix_append (c :: d) (raws (c :: d) signs)
  | plain other absent reading ih =>
      rw [raws_cons, texts_cons, ← ih]
      rw [Sign.raw, Sign.text, List.singleton_append, escapeLoop, if_neg other, if_neg absent]
      rfl

theorem escape_raws (nonempty : d ≠ []) {signs : List Sign} (reading : Reading d signs) :
    escape d (raws d signs) = texts d signs := by
  rw [escape, if_neg nonempty, escapeLoop_raws nonempty reading]

/-! ## Telling signs apart -/

theorem Reading.proper {signs : List Sign} (reading : Reading d signs) :
    ∀ sign ∈ signs, sign.Proper d := by
  induction reading with
  | nil => exact fun sign member => absurd member List.not_mem_nil
  | backslash reading ih => exact List.forall_mem_cons.mpr ⟨trivial, ih⟩
  | delimiter plain reading ih => exact List.forall_mem_cons.mpr ⟨plain, ih⟩
  | plain other absent reading ih => exact List.forall_mem_cons.mpr ⟨other, ih⟩

theorem Reading.of_append {first second : List Sign} (reading : Reading d (first ++ second)) :
    Reading d second := by
  induction first with
  | nil => exact reading
  | cons sign first ih =>
      apply ih
      cases reading with
      | backslash reading => exact reading
      | delimiter plain reading => exact reading
      | plain other absent reading => exact reading

/-- A sign is told by the beginning of what it is written as. -/
theorem text_beginnings (nonempty : d ≠ []) (a b : Sign) (s t : List Char) (properA : a.Proper d)
    (properB : b.Proper d) (same : a.text d ++ s = b.text d ++ t) : a = b := by
  obtain ⟨c, rest, rfl⟩ := List.exists_cons_of_ne_nil nonempty
  cases a with
  | backslash =>
      cases b with
      | backslash => rfl
      | delimiter =>
          have second := (List.cons.inj (List.cons.inj same).2).1
          exact absurd (congrArg some second.symm) properB
      | plain e => exact absurd (List.cons.inj same).1.symm properB
  | delimiter =>
      cases b with
      | backslash =>
          have second := (List.cons.inj (List.cons.inj same).2).1
          exact absurd (congrArg some second) properA
      | delimiter => rfl
      | plain e => exact absurd (List.cons.inj same).1.symm properB
  | plain e =>
      cases b with
      | backslash => exact absurd (List.cons.inj same).1 properA
      | delimiter => exact absurd (List.cons.inj same).1 properA
      | plain f => exact congrArg Sign.plain (List.cons.inj same).1

/-- Two escaped forms that continue to a common text are read alike as long as both last. -/
theorem compare_texts (nonempty : d ≠ []) {first second : List Sign}
    (properFirst : ∀ a ∈ first, a.Proper d) (properSecond : ∀ a ∈ second, a.Proper d)
    {s t : List Char} (same : texts d first ++ s = texts d second ++ t) :
    (∃ rest, second = first ++ rest ∧ s = texts d rest ++ t) ∨
      ∃ rest, first = second ++ rest ∧ texts d rest ++ s = t :=
  Words.compare (text_beginnings nonempty) properFirst properSecond same

theorem Reading.unique (nonempty : d ≠ []) {first second : List Sign} (readFirst : Reading d first)
    (readSecond : Reading d second) (same : raws d first = raws d second) : first = second := by
  have forms : texts d first ++ [] = texts d second ++ [] := by
    rw [← escape_raws nonempty readFirst, ← escape_raws nonempty readSecond, same]
  rcases compare_texts nonempty readFirst.proper readSecond.proper forms with
    ⟨rest, rfl, empty⟩ | ⟨rest, rfl, empty⟩
  · rw [List.append_nil] at empty
    by_cases more : rest = []
    · rw [more, List.append_nil]
    · exact absurd empty.symm (texts_ne_nil more)
  · rw [List.append_nil] at empty
    by_cases more : rest = []
    · rw [more, List.append_nil]
    · exact absurd empty (texts_ne_nil more)

/-! ## Arrays of signs -/

/-- The signs of a value that is not empty. -/
def Element (d : List Char) (signs : List Sign) : Prop := signs ≠ [] ∧ Reading d signs

/-- The value of an element. -/
def value (d : List Char) (signs : List Sign) : String := String.ofList (raws d signs)

/-- What further elements add to a header. -/
def after (d : List Char) (array : List (List Sign)) : List Char :=
  array.flatMap fun signs => d ++ texts d signs

@[simp]
theorem after_nil : after d [] = [] := rfl

@[simp]
theorem after_cons (signs : List Sign) (array : List (List Sign)) :
    after d (signs :: array) = d ++ (texts d signs ++ after d array) := by
  rw [after, List.flatMap_cons, List.append_assoc]
  rfl

theorem after_ne_nil {array : List (List Sign)} (nonempty : array ≠ []) (some : d ≠ []) :
    after d array ≠ [] := by
  cases array with
  | nil => exact absurd rfl nonempty
  | cons signs array =>
      rw [after_cons]
      exact List.append_ne_nil_of_left_ne_nil some _

theorem raws_ne_nil (nonempty : d ≠ []) {signs : List Sign} (element : signs ≠ []) :
    raws d signs ≠ [] := by
  cases signs with
  | nil => exact absurd rfl element
  | cons sign signs =>
      rw [raws_cons]
      refine List.append_ne_nil_of_left_ne_nil ?_ _
      cases sign with
      | backslash => exact List.cons_ne_nil _ _
      | delimiter => exact nonempty
      | plain c => exact List.cons_ne_nil _ _

/-- An array of strings that are not empty is an array of elements. -/
theorem exists_elements (nonempty : d ≠ []) (array : List String) (filled : ∀ s ∈ array, s ≠ "") :
    ∃ elements : List (List Sign),
      (∀ signs ∈ elements, Element d signs) ∧ array = elements.map (value d) := by
  induction array with
  | nil => exact ⟨[], fun signs member => absurd member List.not_mem_nil, rfl⟩
  | cons s array ih =>
      obtain ⟨elements, each, rfl⟩ := ih fun t member => filled t (List.mem_cons_of_mem s member)
      obtain ⟨signs, reading, same⟩ := exists_reading nonempty s.toList
      refine ⟨signs :: elements, ?_, ?_⟩
      · intro other member
        rcases List.mem_cons.mp member with rfl | later
        · refine ⟨?_, reading⟩
          rintro rfl
          rw [raws_nil] at same
          exact filled s List.mem_cons_self (String.toList_eq_nil_iff.mp same.symm)
        · exact each other later
      · rw [List.map_cons, value, same, String.ofList_toList]

theorem filled_of_elements (nonempty : d ≠ []) {elements : List (List Sign)}
    (each : ∀ signs ∈ elements, Element d signs) : ∀ s ∈ elements.map (value d), s ≠ "" := by
  intro s member
  obtain ⟨signs, inside, rfl⟩ := List.mem_map.mp member
  intro empty
  refine raws_ne_nil nonempty (each signs inside).1 ?_
  rw [← String.toList_ofList (l := raws d signs), ← value, empty, String.toList_empty]

/-- Elements that are not empty are all rendered. -/
theorem renderLoop_elements (nonempty : d ≠ []) (elements : List (List Sign))
    (each : ∀ signs ∈ elements, Element d signs) (elems : List (List Char)) :
    renderLoop d (elements.map fun signs => .str (value d signs)) elems =
      elems ++ elements.map (texts d) := by
  induction elements generalizing elems with
  | nil => rw [List.map_nil, List.map_nil, renderLoop, List.append_nil]
  | cons signs elements ih =>
      obtain ⟨filled, reading⟩ := each signs List.mem_cons_self
      have written : escape d (value d signs).toList = texts d signs := by
        rw [value, String.toList_ofList, escape_raws nonempty reading]
      rw [List.map_cons, renderLoop, elementText]
      dsimp only
      rw [written, if_neg fun empty => texts_ne_nil filled empty.2,
        ih (fun other member => each other (List.mem_cons_of_mem signs member)), List.map_cons,
        List.append_assoc, List.singleton_append]

/-- The header of an array of elements. -/
theorem arrayConcat_elements (nonempty : d ≠ []) (elements : List (List Sign))
    (each : ∀ signs ∈ elements, Element d signs) :
    arrayConcat ((elements.map (value d)).map .str) (String.ofList d) =
      String.ofList (joinElements d (elements.map (texts d))) := by
  rw [arrayConcat, String.toList_ofList, List.map_map]
  exact congrArg (fun elems => String.ofList (joinElements d elems))
    (renderLoop_elements nonempty elements each [])

/-- The joined elements behind a delimiter. -/
theorem append_joinElements (elements : List (List Sign)) (some : elements ≠ []) :
    d ++ joinElements d (elements.map (texts d)) = after d elements := by
  cases elements with
  | nil => exact absurd rfl some
  | cons signs elements =>
      rw [List.map_cons, joinElements, List.flatMap_map, after_cons]
      rfl

theorem joinElements_eq_nil_iff {elements : List (List Sign)}
    (each : ∀ signs ∈ elements, Element d signs) :
    joinElements d (elements.map (texts d)) = [] ↔ elements = [] := by
  cases elements with
  | nil => exact iff_of_true rfl rfl
  | cons signs elements =>
      refine iff_of_false ?_ (List.cons_ne_nil _ _)
      rw [List.map_cons, joinElements]
      exact List.append_ne_nil_of_left_ne_nil (texts_ne_nil (each signs List.mem_cons_self).1) _

/-- Headers are the same if what the elements add to a header is. -/
theorem arrayConcat_eq_iff (nonempty : d ≠ []) {first second : List (List Sign)}
    (eachFirst : ∀ signs ∈ first, Element d signs)
    (eachSecond : ∀ signs ∈ second, Element d signs) :
    arrayConcat ((first.map (value d)).map .str) (String.ofList d) =
        arrayConcat ((second.map (value d)).map .str) (String.ofList d) ↔
      after d first = after d second := by
  rw [arrayConcat_elements nonempty first eachFirst,
    arrayConcat_elements nonempty second eachSecond,
    String.ofList_inj]
  by_cases emptyFirst : first = []
  · subst emptyFirst
    by_cases emptySecond : second = []
    · rw [emptySecond]
      exact iff_of_true rfl rfl
    · refine iff_of_false ?_ (after_ne_nil emptySecond nonempty).symm
      exact fun same => emptySecond ((joinElements_eq_nil_iff eachSecond).mp same.symm)
  · by_cases emptySecond : second = []
    · subst emptySecond
      refine iff_of_false ?_ (after_ne_nil emptyFirst nonempty)
      exact fun same => emptyFirst ((joinElements_eq_nil_iff eachFirst).mp same)
    · rw [← append_joinElements first emptyFirst, ← append_joinElements second emptySecond,
        List.append_cancel_left_eq]

theorem value_injective (nonempty : d ≠ []) {first second : List (List Sign)}
    (eachFirst : ∀ signs ∈ first, Element d signs) (eachSecond : ∀ signs ∈ second, Element d signs)
    (same : first.map (value d) = second.map (value d)) : first = second := by
  induction first generalizing second with
  | nil => exact (List.map_eq_nil_iff.mp same.symm).symm
  | cons signs first ih =>
      cases second with
      | nil => exact absurd same (List.cons_ne_nil _ _)
      | cons other second =>
          rw [List.map_cons, List.map_cons] at same
          obtain ⟨head, tail⟩ := List.cons.inj same
          rw [Reading.unique nonempty (eachFirst signs List.mem_cons_self).2
              (eachSecond other List.mem_cons_self).2 (String.ofList_inj.mp head),
            ih (fun a member => eachFirst a (List.mem_cons_of_mem signs member))
              (fun a member => eachSecond a (List.mem_cons_of_mem other member)) tail]

end Appinfo

end Util

end ModAuthOpenidc
