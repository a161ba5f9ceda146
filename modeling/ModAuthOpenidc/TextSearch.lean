import Mathlib

/-!
# Searching and splitting texts

Two ways to find something in a text: the first place where a word occurs, and the segments between
the occurrences of a separator.
-/

namespace ModAuthOpenidc

variable {α : Type} [DecidableEq α]

/-! ## Words -/

/-- `strstr`: the text from the first place where a word occurs. -/
def strstr (needle : List α) : List α → Option (List α)
  | [] => if needle = [] then some [] else none
  | c :: text => if needle <+: c :: text then some (c :: text) else strstr needle text

theorem strstr_suffix {needle text found : List α} (occurs : strstr needle text = some found) :
    found <:+ text := by
  induction text with
  | nil =>
      rw [strstr] at occurs
      split at occurs
      · cases occurs
        exact List.suffix_refl _
      · cases occurs
  | cons c text ih =>
      rw [strstr] at occurs
      split at occurs
      · cases occurs
        exact List.suffix_refl _
      · exact (ih occurs).trans (List.suffix_cons c text)

theorem prefix_of_strstr {needle text found : List α} (occurs : strstr needle text = some found) :
    needle <+: found := by
  induction text with
  | nil =>
      rw [strstr] at occurs
      split at occurs
      · rename_i empty
        cases occurs
        exact List.prefix_nil.mpr empty
      · cases occurs
  | cons c text ih =>
      rw [strstr] at occurs
      split at occurs
      · rename_i front
        cases occurs
        exact front
      · exact ih occurs

/-- What stands in front of the first letter of the word is passed over. -/
theorem strstr_append {c : α} {needle front : List α} (clean : c ∉ front) (rest : List α) :
    strstr (c :: needle) (front ++ rest) = strstr (c :: needle) rest := by
  induction front with
  | nil => rfl
  | cons d front ih =>
      rw [List.mem_cons, not_or] at clean
      rw [List.cons_append, strstr, if_neg, ih clean.2]
      rw [List.cons_prefix_cons]
      exact fun first => clean.1 first.1

/-- The word occurs at the front if it is found there. -/
theorem strstr_eq_self_iff {needle text : List α} :
    strstr needle text = some text ↔ needle <+: text := by
  cases text with
  | nil =>
      rw [strstr, List.prefix_nil]
      split
      · exact iff_of_true rfl (by assumption)
      · exact iff_of_false (Option.some_ne_none _ ∘ Eq.symm) (by assumption)
  | cons c text =>
      rw [strstr]
      split
      · exact iff_of_true rfl (by assumption)
      · refine iff_of_false ?_ (by assumption)
        intro occurs
        have short := (strstr_suffix occurs).length_le
        rw [List.length_cons] at short
        omega

/-- The word occurs somewhere if it is found. -/
theorem isSome_strstr_iff {needle text : List α} :
    (strstr needle text).isSome = true ↔ needle <:+: text := by
  induction text with
  | nil =>
      rw [strstr, List.infix_nil]
      split
      · exact iff_of_true rfl (by assumption)
      · exact iff_of_false Bool.false_ne_true (by assumption)
  | cons c text ih =>
      rw [strstr, List.infix_cons_iff]
      split
      · exact iff_of_true rfl (.inl (by assumption))
      · rw [ih]
        exact (or_iff_right (by assumption)).symm

/-- A word at the front is dropped. -/
theorem dropPrefix?_eq_some_iff_append {needle text rest : List α} :
    text.dropPrefix? needle = some rest ↔ text = needle ++ rest := by
  rw [List.dropPrefix?_eq_some_iff]
  constructor
  · rintro ⟨front, rfl, same⟩
    rw [eq_of_beq same]
  · rintro rfl
    exact ⟨needle, rfl, beq_self_eq_true needle⟩

theorem dropPrefix?_eq_none_iff_not_front {needle text : List α} :
    text.dropPrefix? needle = none ↔ ¬needle <+: text := by
  rw [Option.eq_none_iff_forall_ne_some]
  constructor
  · rintro absent ⟨rest, rfl⟩
    exact absent rest (dropPrefix?_eq_some_iff_append.mpr rfl)
  · rintro absent rest found
    exact absent ⟨rest, (dropPrefix?_eq_some_iff_append.mp found).symm⟩

omit [DecidableEq α] in
/-- A search passes over what it finds nothing in. -/
theorem findSome?_filter {β : Type} {p : α → Bool} {f : α → Option β} {l : List α}
    (empty : ∀ a ∈ l, p a = false → f a = none) : (l.filter p).findSome? f = l.findSome? f := by
  induction l with
  | nil => rfl
  | cons a l ih =>
      have later := ih fun b member => empty b (List.mem_cons_of_mem a member)
      rw [List.filter_cons, List.findSome?_cons]
      split
      · rw [List.findSome?_cons, later]
      · rename_i dropped
        rw [empty a List.mem_cons_self (by simpa using dropped), later]

/-- What stands in front of the first occurrence of a letter. -/
theorem takeWhile_ne_append {c : α} {front : List α} (clean : c ∉ front) (rest : List α) :
    (front ++ c :: rest).takeWhile (· ≠ c) = front := by
  rw [List.takeWhile_append_of_pos, List.takeWhile_cons_of_neg (by simp), List.append_nil]
  intro d member
  exact decide_eq_true (ne_of_mem_of_not_mem member clean)

/-! ## Segments -/

/-- A text is one segment, or a segment followed by a separator and more text. -/
@[elab_as_elim]
theorem segmentInduction (separator : α) {motive : List α → Prop}
    (last : ∀ text, separator ∉ text → motive text)
    (more : ∀ first rest, separator ∉ first → motive rest → motive (first ++ separator :: rest))
    (text : List α) : motive text := by
  induction size : text.length using Nat.strong_induction_on generalizing text with
  | _ size ih =>
      by_cases split : separator ∈ text
      · obtain ⟨first, rest, rfl, clean⟩ := List.eq_append_cons_of_mem split
        refine more first rest clean (ih rest.length ?_ rest rfl)
        rw [← size, List.length_append, List.length_cons]
        omega
      · exact last text split

omit [DecidableEq α] in
theorem intercalate_cons (separator : α) (first : List α) (segments : List (List α)) :
    [separator].intercalate (first :: segments) = first ++ segments.flatMap (separator :: ·) := by
  induction segments generalizing first with
  | nil => rw [List.intercalate_singleton, List.flatMap_nil, List.append_nil]
  | cons second segments ih =>
      rw [List.intercalate_cons_cons, ih, List.flatMap_cons, List.append_assoc,
        List.singleton_append,
        List.cons_append]

theorem notMem_of_mem_splitOn {separator : α} {segment text : List α}
    (member : segment ∈ text.splitOn separator) : separator ∉ segment := by
  induction text using segmentInduction separator with
  | last text clean =>
      rw [List.splitOn_eq_singleton clean, List.mem_singleton] at member
      rwa [member]
  | more first rest clean ih =>
      rw [List.splitOn_append_cons_self_of_not_mem clean] at member
      rcases List.mem_cons.mp member with rfl | later
      · exact clean
      · exact ih later

theorem mem_of_mem_splitOn {separator c : α} {segment text : List α}
    (member : segment ∈ text.splitOn separator) (inside : c ∈ segment) : c ∈ text := by
  induction text using segmentInduction separator with
  | last text clean =>
      rw [List.splitOn_eq_singleton clean, List.mem_singleton] at member
      rwa [← member]
  | more first rest clean ih =>
      rw [List.splitOn_append_cons_self_of_not_mem clean] at member
      rcases List.mem_cons.mp member with rfl | later
      · exact List.mem_append_left _ inside
      · exact List.mem_append_right _ (List.mem_cons_of_mem _ (ih later))

omit [DecidableEq α] in
/-- A word without the separator that stands before a separator stands in the segment. -/
theorem prefix_segment_iff {separator : α} {needle : List α} (clean : separator ∉ needle)
    (first rest : List α) : needle <+: first ++ separator :: rest ↔ needle <+: first := by
  constructor
  · intro front
    rcases List.prefix_or_prefix_of_prefix front (List.prefix_append first _) with short | long
    · exact short
    · obtain ⟨more, rfl⟩ := long
      cases more with
      | nil => rw [List.append_nil]
      | cons c more =>
          have tail := (List.prefix_append_right_inj first).mp front
          obtain ⟨rfl, -⟩ := List.cons_prefix_cons.mp tail
          exact absurd (List.mem_append_right first List.mem_cons_self) clean
  · intro short
    exact short.trans (List.prefix_append _ _)

omit [DecidableEq α] in
/-- A word stands behind a separator in the rest or at its front. -/
theorem infix_segment_iff {separator : α} {needle first : List α} (clean : separator ∉ first)
    (rest : List α) :
    separator :: needle <:+: first ++ separator :: rest ↔
      needle <+: rest ∨ separator :: needle <:+: rest := by
  induction first with
  | nil => rw [List.nil_append, List.infix_cons_iff, List.cons_prefix_cons, and_iff_right rfl]
  | cons c first ih =>
      rw [List.cons_append, List.infix_cons_iff, List.cons_prefix_cons, or_iff_right]
      · exact ih fun member => clean (List.mem_cons_of_mem c member)
      · rintro ⟨rfl, -⟩
        exact clean List.mem_cons_self

/-- A word stands at the front of the text or behind a separator if it begins one of the segments.
-/
theorem begins_segment_iff {separator : α} {needle : List α} (clean : separator ∉ needle)
    (text : List α) :
    needle <+: text ∨ separator :: needle <:+: text ↔
      ∃ segment ∈ text.splitOn separator, needle <+: segment := by
  induction text using segmentInduction separator with
  | last text notMem =>
      rw [List.splitOn_eq_singleton notMem, or_iff_left]
      · simp
      · intro occurs
        exact notMem (occurs.subset List.mem_cons_self)
  | more first rest notMem ih =>
      rw [List.splitOn_append_cons_self_of_not_mem notMem, prefix_segment_iff clean,
        infix_segment_iff notMem, ih]
      simp

end ModAuthOpenidc
