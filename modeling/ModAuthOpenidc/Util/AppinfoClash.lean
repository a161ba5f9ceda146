import ModAuthOpenidc.Util.AppinfoDecode

/-!
# Delimiters that clash with the elements

For every other delimiter there are two arrays of strings with the same header. With the converse in
the module before, the delimiters for which arrays are passed reversibly are known exactly.
-/

namespace ModAuthOpenidc

namespace Util

namespace Appinfo

variable {d : List Char}

/-! ## Values that are read as they are -/

/-- A value in which the delimiter does not occur is read without delimiters. -/
theorem reading_of_absent {signs : List Sign} (simple : ∀ sign ∈ signs, sign.Simple)
    (absent : ¬d <:+: raws d signs) : Reading d signs := by
  induction signs with
  | nil => exact .nil
  | cons sign signs ih =>
      obtain ⟨first, later⟩ := List.forall_mem_cons.mp simple
      rw [raws_cons] at absent
      have rest := ih later fun occurs => absent (occurs.trans (List.suffix_append _ _).isInfix)
      cases sign with
      | backslash => exact .backslash rest
      | delimiter => exact False.elim first
      | plain c => exact .plain first (fun front => absent front.isInfix) rest

/-- Signs in front of others are read if the delimiter does not begin at one of them. -/
theorem reading_append {signs behind : List Sign} (simple : ∀ sign ∈ signs, sign.Simple)
    (absent : ∀ c rest, .plain c :: rest <:+ signs →
      ¬d <+: raws d (.plain c :: rest) ++ raws d behind)
    (reading : Reading d behind) : Reading d (signs ++ behind) := by
  induction signs with
  | nil => exact reading
  | cons sign signs ih =>
      obtain ⟨first, later⟩ := List.forall_mem_cons.mp simple
      have rest := ih later fun c rest inside =>
        absent c rest (inside.trans (List.suffix_cons sign signs))
      cases sign with
      | backslash => exact .backslash rest
      | delimiter => exact False.elim first
      | plain c =>
          have front := absent c signs (List.suffix_refl _)
          rw [raws_cons, List.append_assoc, ← raws_append] at front
          exact .plain first front rest

/-- A word is not inside of one that is not longer and begins or ends otherwise. -/
theorem not_inside {text : List Char} (short : text.length ≤ d.length)
    (other : d.head? ≠ text.head? ∨ d.getLast? ≠ text.getLast?) : ¬d <:+: text := by
  intro inside
  have same := inside.eq_of_length (Nat.le_antisymm inside.length_le short)
  rw [same] at other
  rcases other with head | last
  · exact head rfl
  · exact last rfl

theorem exists_other (x : Option Char) : ∃ c, c ≠ '\\' ∧ x ≠ some c := by
  by_cases first : x = some 'a'
  · exact ⟨'b', by decide, by rw [first]; decide⟩
  · exact ⟨'a', by decide, first⟩

/-- The plain signs of a text. -/
def plains (text : List Char) : List Sign := text.map .plain

@[simp]
theorem raws_plains (text : List Char) : raws d (plains text) = text := by
  induction text with
  | nil => rfl
  | cons c text ih =>
      rw [plains, List.map_cons, raws_cons, ← plains, ih]
      rfl

@[simp]
theorem texts_plains (text : List Char) : texts d (plains text) = text := by
  induction text with
  | nil => rfl
  | cons c text ih =>
      rw [plains, List.map_cons, texts_cons, ← plains, ih]
      rfl

theorem element_plains {text : List Char} (clean : '\\' ∉ text) (some : text ≠ [])
    (absent : ¬d <:+: text) : Element d (plains text) := by
  refine ⟨?_, reading_of_absent ?_ ?_⟩
  · rwa [plains, Ne, List.map_eq_nil_iff]
  · intro sign member
    obtain ⟨c, inside, rfl⟩ := List.mem_map.mp member
    rintro rfl
    exact clean inside
  · rwa [raws_plains]

/-- Two different arrays of elements have the same header. -/
def Ambiguous (d : List Char) : Prop :=
  ∃ first second, (∀ signs ∈ first, Element d signs) ∧ (∀ signs ∈ second, Element d signs) ∧
    first ≠ second ∧ after d first = after d second

/-! ## Delimiters that overlap with themselves -/

/-- An element may end with the beginning of the delimiter or the next one begin with its end. -/
theorem ambiguous_of_bordered (clean : '\\' ∉ d) (bordered : Bordered d) : Ambiguous d := by
  obtain ⟨v, some, other, ⟨w, rfl⟩, ⟨u, whole⟩⟩ := bordered
  obtain ⟨c, plainC, head⟩ := exists_other (v ++ w).head?
  obtain ⟨e, plainE, last⟩ := exists_other (v ++ w).getLast?
  have lengths := congrArg List.length whole
  have positive := List.length_pos_of_ne_nil some
  simp only [List.length_append] at lengths
  have cleanU : '\\' ∉ u := fun member => clean (whole ▸ List.mem_append_left v member)
  have cleanW : '\\' ∉ w := fun member => clean (List.mem_append_right v member)
  have absentC : ¬v ++ w <:+: c :: u := not_inside
    (by rw [List.length_cons, List.length_append]; omega) (.inl (by rwa [List.head?_cons]))
  have absentE : ¬v ++ w <:+: w ++ [e] := not_inside
    (by rw [List.length_append, List.length_append, List.length_singleton]; omega)
    (.inr (by rwa [List.getLast?_concat]))
  refine ⟨[plains (c :: u), plains [e]], [plains [c], plains (w ++ [e])], ?_, ?_, ?_, ?_⟩
  · refine List.forall_mem_cons.mpr ⟨?_, List.forall_mem_singleton.mpr ?_⟩
    · refine element_plains ?_ (List.cons_ne_nil c u) absentC
      rw [List.mem_cons, not_or]
      exact ⟨plainC.symm, cleanU⟩
    · refine element_plains ?_ (List.cons_ne_nil e []) fun inside => absentE ?_
      · exact fun member => plainE (List.mem_singleton.mp member).symm
      · exact inside.trans (List.suffix_append w [e]).isInfix
  · refine List.forall_mem_cons.mpr ⟨?_, List.forall_mem_singleton.mpr ?_⟩
    · refine element_plains ?_ (List.cons_ne_nil c []) fun inside => absentC ?_
      · exact fun member => plainC (List.mem_singleton.mp member).symm
      · exact inside.trans (List.prefix_append [c] u).isInfix
    · refine element_plains ?_ (List.append_ne_nil_of_right_ne_nil w (List.cons_ne_nil e []))
        absentE
      rw [List.mem_append, List.mem_singleton, not_or]
      exact ⟨cleanW, plainE.symm⟩
  · intro same
    have front := congrArg (raws (v ++ w)) (List.cons.inj same).1
    rw [raws_plains, raws_plains, List.cons.injEq] at front
    rw [front.2, List.nil_append] at whole
    exact other whole
  · simp only [after_cons, after_nil, texts_plains, List.append_nil, List.append_cancel_left_eq]
    calc c :: u ++ (v ++ w ++ [e]) = c :: (u ++ v ++ (w ++ [e])) := by
          simp only [List.append_assoc, List.cons_append]
      _ = [c] ++ (v ++ w ++ (w ++ [e])) := by rw [whole, List.singleton_append]

/-! ## Delimiters whose backslashes come in pairs -/

theorem length_raws_le {signs : List Sign} (simple : ∀ sign ∈ signs, sign.Simple) :
    (raws d signs).length ≤ (texts d signs).length := by
  induction signs with
  | nil => exact Nat.le_refl _
  | cons sign signs ih =>
      obtain ⟨first, later⟩ := List.forall_mem_cons.mp simple
      rw [raws_cons, texts_cons, List.length_append, List.length_append]
      refine Nat.add_le_add ?_ (ih later)
      cases sign with
      | backslash => exact Nat.le_succ 1
      | delimiter => exact Nat.le_succ _
      | plain c => exact Nat.le_refl 1

/-- The escaped form of a backslash is longer. -/
theorem length_raws_lt {signs : List Sign} (simple : ∀ sign ∈ signs, sign.Simple)
    (escaped : '\\' ∈ texts d signs) : (raws d signs).length < (texts d signs).length := by
  induction signs with
  | nil => exact absurd escaped List.not_mem_nil
  | cons sign signs ih =>
      obtain ⟨first, later⟩ := List.forall_mem_cons.mp simple
      rw [texts_cons, List.mem_append] at escaped
      rw [raws_cons, texts_cons, List.length_append, List.length_append]
      cases sign with
      | delimiter => exact False.elim first
      | backslash => exact Nat.add_lt_add_of_lt_of_le Nat.one_lt_two (length_raws_le later)
      | plain c =>
          refine Nat.add_lt_add_left (ih later ?_) 1
          exact escaped.resolve_left fun same => first (List.mem_singleton.mp same).symm

theorem element_backslash : Element d [.backslash] := ⟨List.cons_ne_nil _ _, .backslash .nil⟩

/-- A delimiter with backslashes is not inside of a single other sign. -/
theorem reading_single (escaped : '\\' ∈ d) {c : Char} (other : c ≠ '\\') :
    Reading d [.plain c] := by
  refine .plain other ?_ .nil
  intro front
  exact other (List.mem_singleton.mp (front.subset escaped)).symm

/-- The delimiter with a backslash in front of it may be the escaped form of another text. -/
theorem ambiguous_of_paired (escaped : '\\' ∈ d) (paired : Paired d) : Ambiguous d := by
  obtain ⟨signs, simple, whole⟩ := paired.exists_signs (d := d)
  obtain ⟨c, other, last⟩ := exists_other d.getLast?
  have short := length_raws_lt simple (whole.symm ▸ escaped)
  rw [whole] at short
  have simple' : ∀ sign ∈ signs ++ [Sign.plain c], sign.Simple :=
    List.forall_mem_append.mpr ⟨simple, List.forall_mem_singleton.mpr other⟩
  have absent : ¬d <:+: raws d (signs ++ [Sign.plain c]) := by
    rw [raws_append]
    refine not_inside ?_ (.inr ?_)
    · rw [List.length_append]
      exact short
    · rwa [raws_cons, raws_nil, List.append_nil, Sign.raw, List.getLast?_concat]
  refine ⟨[[Sign.backslash], [Sign.plain c]], [Sign.backslash :: (signs ++ [Sign.plain c])],
    ?_, ?_, ?_, ?_⟩
  · refine List.forall_mem_cons.mpr ⟨element_backslash, List.forall_mem_singleton.mpr ?_⟩
    exact ⟨List.cons_ne_nil _ _, reading_single escaped other⟩
  · refine List.forall_mem_singleton.mpr ⟨List.cons_ne_nil _ _, ?_⟩
    exact .backslash (reading_of_absent simple' absent)
  · intro same
    exact absurd (List.cons.inj same).2 (List.cons_ne_nil _ _)
  · simp only [after_cons, after_nil, texts_cons, texts_append, texts_nil, List.append_nil, whole]

/-! ## Delimiters that break off in a repetition -/

theorem reading_replicate {signs : List Sign} (reading : Reading d signs) (n : Nat) :
    Reading d (List.replicate n .backslash ++ signs) := by
  induction n with
  | zero => exact reading
  | succ n ih =>
      rw [List.replicate_succ, List.cons_append]
      exact .backslash ih

theorem raws_replicate (n : Nat) :
    raws d (List.replicate n .backslash) = List.replicate n '\\' := by
  induction n with
  | zero => rfl
  | succ n ih =>
      rw [List.replicate_succ, raws_cons, ih]
      rfl

/-- A delimiter of backslashes may stand at either side of an escaped one. -/
theorem ambiguous_of_backslashes {n : Nat} (whole : d = List.replicate (n + 1) '\\') :
    Ambiguous d := by
  have front : d.head? = some '\\' := by rw [whole, List.replicate_succ, List.head?_cons]
  have plain : ∀ {signs}, Reading d signs → Reading d (.plain 'a' :: signs) := by
    intro signs reading
    refine .plain (by decide) ?_ reading
    rintro ⟨rest, same⟩
    have first := congrArg List.head? same
    rw [List.head?_append, front, List.head?_cons, Option.some_or] at first
    exact absurd first (by decide)
  refine ⟨[[.plain 'a', .backslash], [.plain 'a']], [[.plain 'a'], [.backslash, .plain 'a']],
    ?_, ?_, ?_, ?_⟩
  · refine List.forall_mem_cons.mpr ⟨⟨List.cons_ne_nil _ _, plain (.backslash .nil)⟩, ?_⟩
    exact List.forall_mem_singleton.mpr ⟨List.cons_ne_nil _ _, plain .nil⟩
  · refine List.forall_mem_cons.mpr ⟨⟨List.cons_ne_nil _ _, plain .nil⟩, ?_⟩
    exact List.forall_mem_singleton.mpr ⟨List.cons_ne_nil _ _, .backslash (plain .nil)⟩
  · intro same
    exact List.cons_ne_nil _ _ (List.cons.inj (List.cons.inj same).1).2
  · have pair : Sign.text d .backslash = List.replicate 2 '\\' := rfl
    have swap : Sign.text d .backslash ++ d = d ++ Sign.text d .backslash := by
      rw [pair, whole, List.replicate_append_replicate, List.replicate_append_replicate,
        Nat.add_comm]
    simp only [after_cons, after_nil, texts_cons, texts_nil, List.append_nil, List.append_assoc]
    rw [← List.append_assoc (Sign.text d .backslash), swap, List.append_assoc]

section Repetition

variable {p : List Char} {signs : List Sign} {r j n : Nat}

theorem raws_split (simple : ∀ sign ∈ signs, sign.Simple) {s t : List Char}
    (whole : s ++ t = raws d signs) :
    ∃ first second, signs = first ++ second ∧ raws d first = s ∧ raws d second = t := by
  induction signs generalizing s with
  | nil =>
      obtain ⟨rfl, rfl⟩ := List.append_eq_nil_iff.mp whole
      exact ⟨[], [], rfl, rfl, rfl⟩
  | cons sign signs ih =>
      cases s with
      | nil => exact ⟨[], sign :: signs, rfl, rfl, whole.symm⟩
      | cons c s =>
          obtain ⟨head, later⟩ := List.forall_mem_cons.mp simple
          have single : sign.raw d = [c] ∧ s ++ t = raws d signs := by
            cases sign with
            | delimiter => exact False.elim head
            | backslash =>
                exact ⟨congrArg (· :: []) (List.cons.inj whole).1.symm, (List.cons.inj whole).2⟩
            | plain e =>
                exact ⟨congrArg (· :: []) (List.cons.inj whole).1.symm, (List.cons.inj whole).2⟩
          obtain ⟨first, second, rfl, rfl, rfl⟩ := ih later single.2
          refine ⟨sign :: first, second, rfl, ?_, rfl⟩
          rw [raws_cons, single.1, List.singleton_append]

theorem eq_replicate_of_raws {k : Nat} (simple : ∀ sign ∈ signs, sign.Simple)
    (run : raws d signs = List.replicate k '\\') : signs = List.replicate k .backslash := by
  induction signs generalizing k with
  | nil =>
      cases k with
      | zero => rfl
      | succ k => exact absurd run.symm (List.cons_ne_nil _ _)
  | cons sign signs ih =>
      obtain ⟨head, later⟩ := List.forall_mem_cons.mp simple
      cases k with
      | zero =>
          cases sign with
          | delimiter => exact False.elim head
          | backslash => exact absurd run (List.cons_ne_nil _ _)
          | plain c => exact absurd run (List.cons_ne_nil _ _)
      | succ k =>
          rw [List.replicate_succ] at run ⊢
          cases sign with
          | delimiter => exact False.elim head
          | plain c => exact absurd (List.cons.inj run).1 head
          | backslash => rw [ih later (List.cons.inj run).2]

/-- A run of backslashes in a value is twice as long in its escaped form. -/
theorem hasRun_texts {k : Nat} (simple : ∀ sign ∈ signs, sign.Simple)
    (run : Words.HasRun '\\' k (raws d signs)) : Words.HasRun '\\' (2 * k) (texts d signs) := by
  obtain ⟨s, t, whole⟩ := run
  obtain ⟨front, back, rfl, same, rfl⟩ := raws_split simple whole
  obtain ⟨simpleFront, -⟩ := List.forall_mem_append.mp simple
  obtain ⟨first, middle, rfl, rfl, inside⟩ := raws_split simpleFront same.symm
  rw [eq_replicate_of_raws (List.forall_mem_append.mp simpleFront).2 inside, texts_append,
    texts_append, texts_replicate]
  exact ⟨texts d first, texts d back, rfl⟩

theorem texts_inside {rest : List Sign} (part : rest <:+ signs) :
    texts d rest <:+: texts d signs := by
  obtain ⟨front, rfl⟩ := part
  rw [texts_append]
  exact (List.suffix_append _ _).isInfix

/-- If the escaped form of a value does not end with a backslash, no part of the value does. -/
theorem getLast_raws {rest : List Sign} (simple : ∀ sign ∈ signs, sign.Simple)
    (part : rest <:+ signs)
    (foot : (texts d signs).getLast? ≠ some '\\') : (raws d rest).getLast? ≠ some '\\' := by
  obtain ⟨front, rfl⟩ := part
  rcases List.eq_nil_or_concat rest with rfl | ⟨rest, sign, rfl⟩
  · exact (Option.some_ne_none _).symm
  · have valid := simple sign (by simp)
    rw [List.concat_eq_append, raws_append, raws_cons, raws_nil, List.append_nil]
    rw [List.concat_eq_append, texts_append, texts_append, texts_cons, texts_nil,
      List.append_nil] at foot
    cases sign with
    | delimiter => exact False.elim valid
    | backslash =>
        refine absurd ?_ foot
        rw [List.getLast?_append, List.getLast?_append]
        rfl
    | plain c =>
        rw [Sign.raw, List.getLast?_concat]
        exact fun same => valid (Option.some.inj same)

/-- A delimiter does not begin in a part of itself if its runs of backslashes are longer than what
stands between. -/
theorem not_front_of_run (simple : ∀ sign ∈ signs, sign.Simple) (part : texts d signs <:+: d)
    (foot : (texts d signs).getLast? ≠ some '\\') {k a : Nat} (run : Words.HasRun '\\' k d)
    (fewer : a < k) {c : Char} {rest : List Sign} (inside : .plain c :: rest <:+ signs)
    (t : List Char) : ¬d <+: raws d (.plain c :: rest) ++ (List.replicate a '\\' ++ (d ++ t)) := by
  intro front
  have valid : c ≠ '\\' := simple (.plain c) (inside.subset List.mem_cons_self)
  have begins : d <+: raws d (.plain c :: rest) ++ List.replicate a '\\' ++ d := by
    refine List.prefix_of_prefix_length_le front ⟨t, by simp only [List.append_assoc]⟩ ?_
    rw [List.length_append]
    exact Nat.le_add_left _ _
  obtain ⟨n, g, h, cut, -, power⟩ := Words.period (List.cons_ne_nil c _) begins
  have double : ∀ m, k ≤ m → Words.HasRun '\\' m d → Words.HasRun '\\' (2 * m) d := by
    intro m more long
    rw [power] at long
    have head : (raws d (.plain c :: rest) ++ List.replicate a '\\').head? ≠ some '\\' :=
      fun same => valid (Option.some.inj same)
    rcases (Words.HasRun.of_power head ⟨h, cut.symm⟩ long).append with value | between | ⟨last, -⟩
    · refine (hasRun_texts ?_ value).inside ((texts_inside inside).trans part)
      exact fun sign member => simple sign (inside.subset member)
    · have bound := between.length_le
      rw [List.length_replicate] at bound
      omega
    · exact absurd last (getLast_raws simple inside foot)
  have unbounded : ∀ m, ∃ l, m ≤ l ∧ k ≤ l ∧ Words.HasRun '\\' l d := by
    intro m
    induction m with
    | zero => exact ⟨k, Nat.zero_le k, Nat.le_refl k, run⟩
    | succ m ih =>
        obtain ⟨l, large, more, long⟩ := ih
        exact ⟨2 * l, by omega, by omega, double l more long⟩
  obtain ⟨l, large, -, long⟩ := unbounded (d.length + 1)
  have bound := long.length_le
  omega

end Repetition

/-- The signs in front of a delimiter in an element, with backslashes between. -/
theorem reading_repetition {signs behind : List Sign} (simple : ∀ sign ∈ signs, sign.Simple)
    (part : texts d signs <:+: d) (foot : (texts d signs).getLast? ≠ some '\\') {k a : Nat}
    (run : Words.HasRun '\\' k d) (fewer : a < k) (plain : d.head? ≠ some '\\')
    (reading : Reading d behind) :
    Reading d (signs ++ (List.replicate a .backslash ++ .delimiter :: behind)) := by
  refine reading_append simple ?_ (reading_replicate (.delimiter plain reading) a)
  intro c rest inside
  rw [raws_append (List.replicate a .backslash), raws_replicate, raws_cons .delimiter]
  exact not_front_of_run simple part foot run fewer inside _

/-- A delimiter that breaks off in a repetition may begin before or behind one part of it. -/
theorem ambiguous_of_repetition {p : List Char} {r j n : Nat} (paired : Paired p) (some : p ≠ [])
    (head : p.head? ≠ .some '\\') (foot : p.getLast? ≠ .some '\\') (less : j ≤ r)
    (whole : d = Words.power n (p ++ List.replicate (2 * r + 1) '\\') ++
      (p ++ List.replicate (2 * j + 1) '\\'))
    (run : Words.HasRun '\\' (2 * r + 1) d) : Ambiguous d := by
  obtain ⟨signs, simple, rfl⟩ := paired.exists_signs (d := d)
  have part : texts d signs <:+: d :=
    ⟨_, _, (List.append_assoc _ _ _).trans whole.symm⟩
  have fill : List.replicate (2 * j + 1) '\\' ++ List.replicate (2 * (r - j)) '\\' =
      List.replicate (2 * r + 1) '\\' := by
    rw [List.replicate_append_replicate]
    congr 1
    omega
  have plain : d.head? ≠ .some '\\' := by
    rw [whole]
    refine Words.head_power ?_ ?_
    · rwa [List.head?_append_of_ne_nil _ some]
    · exact (List.prefix_append_right_inj _).mpr ⟨_, fill⟩
  have escaped : '\\' ∈ d :=
    List.IsInfix.subset run (List.mem_replicate.mpr ⟨Nat.succ_ne_zero _, rfl⟩)
  have single : Reading d [.plain 'a'] := reading_single escaped (by decide)
  have reading {a : Nat} {behind : List Sign} (fewer : a < 2 * r + 1) (rest : Reading d behind) :=
    reading_repetition simple part foot run fewer plain rest
  refine ⟨[[Sign.backslash], List.replicate (r - j) Sign.backslash ++
      (signs ++ (List.replicate j Sign.backslash ++ Sign.delimiter :: [Sign.plain 'a']))],
    [Sign.backslash :: (signs ++ (List.replicate r Sign.backslash ++ Sign.delimiter :: [])),
      [Sign.plain 'a']], ?_, ?_, ?_, ?_⟩
  · refine List.forall_mem_cons.mpr ⟨element_backslash, List.forall_mem_singleton.mpr ⟨?_, ?_⟩⟩
    · simp
    · exact reading_replicate (reading (by omega) single) (r - j)
  · refine List.forall_mem_cons.mpr ⟨⟨List.cons_ne_nil _ _, ?_⟩, List.forall_mem_singleton.mpr ?_⟩
    · exact .backslash (reading (by omega) .nil)
    · exact ⟨List.cons_ne_nil _ _, single⟩
  · intro same
    have lengths := congrArg List.length (List.cons.inj same).1
    simp at lengths
  · have fill' := congrArg (texts d signs ++ ·) fill
    rw [← List.append_assoc] at fill'
    have shift := Words.power_fill n fill'
    rw [← whole, List.replicate_succ', List.replicate_succ'] at shift
    have shift' := congrArg (· ++ (d ++ ['a'])) shift
    simp only [List.append_assoc, List.singleton_append] at shift'
    simp only [after_cons, after_nil, texts_cons, texts_append, texts_nil, texts_replicate,
      Sign.text, List.append_nil, List.append_assoc, List.cons_append, List.nil_append]
    exact congrArg (fun rest => d ++ '\\' :: '\\' :: rest) shift'

theorem ambiguous_of_clashing (clashing : Clashing d) : Ambiguous d := by
  obtain ⟨p, r, j, n, paired, head, foot, less, whole⟩ := clashing
  by_cases empty : p = []
  · rw [empty, List.nil_append, List.nil_append, Words.power_replicate,
      List.replicate_append_replicate, ← Nat.add_assoc] at whole
    exact ambiguous_of_backslashes whole
  · cases n with
    | zero =>
        rw [Words.power_zero, List.nil_append] at whole
        refine @ambiguous_of_repetition d p j j 0 paired empty head foot (Nat.le_refl j) ?_ ?_
        · rw [Words.power_zero, List.nil_append, ← whole]
        · exact ⟨p, [], by rw [List.append_nil, ← whole]⟩
    | succ n =>
        apply ambiguous_of_repetition paired empty head foot less whole
        rw [Words.power_succ, List.append_assoc, List.append_assoc] at whole
        exact ⟨p, _, by rw [List.append_assoc]; exact whole.symm⟩

/-- Every delimiter that cannot be told from the elements gives two arrays with the same header. -/
theorem ambiguous_of_not_reversible (clash : ¬Reversible d) : Ambiguous d := by
  rw [Reversible, not_or, not_and_or, not_and_or, not_not, not_not, not_not] at clash
  obtain ⟨first, second⟩ := clash
  rw [not_not] at second
  by_cases escaped : '\\' ∈ d
  · rcases second with paired | clashing
    · exact ambiguous_of_paired escaped paired
    · exact ambiguous_of_clashing clashing
  · exact ambiguous_of_bordered escaped (first.resolve_left escaped)

/-! ## Arrays of strings -/

/-- One character other than a backslash can be told from the elements. -/
theorem reversible_singleton {c : Char} (other : c ≠ '\\') : Reversible [c] := by
  refine .inl ⟨fun member => other (List.mem_singleton.mp member).symm, ?_⟩
  rintro ⟨v, some, whole, front, -⟩
  refine whole (front.eq_of_length_le ?_)
  rw [List.length_singleton]
  exact List.length_pos_of_ne_nil some

/-- Arrays of strings that are not empty are told apart by their headers exactly with the delimiters
that can be told from the elements. -/
theorem arrayConcat_injective_iff (claimDelimiter : String) (nonempty : claimDelimiter ≠ "") :
    (∀ first second : List String, (∀ s ∈ first, s ≠ "") → (∀ s ∈ second, s ≠ "") →
        arrayConcat (first.map .str) claimDelimiter = arrayConcat (second.map .str) claimDelimiter →
          first = second) ↔ Reversible claimDelimiter.toList := by
  have some : claimDelimiter.toList ≠ [] := fun empty =>
    nonempty (String.toList_eq_nil_iff.mp empty)
  constructor
  · intro injective
    by_contra clash
    obtain ⟨first, second, eachFirst, eachSecond, other, same⟩ := ambiguous_of_not_reversible clash
    refine other (value_injective some eachFirst eachSecond (injective _ _ ?_ ?_ ?_))
    · exact filled_of_elements some eachFirst
    · exact filled_of_elements some eachSecond
    · have headers := arrayConcat_eq_iff some eachFirst eachSecond
      rw [String.ofList_toList] at headers
      exact headers.mpr same
  · intro reversible first second filledFirst filledSecond same
    obtain ⟨first, eachFirst, rfl⟩ := exists_elements some first filledFirst
    obtain ⟨second, eachSecond, rfl⟩ := exists_elements some second filledSecond
    have headers := arrayConcat_eq_iff some eachFirst eachSecond
    rw [String.ofList_toList] at headers
    rw [after_injective some reversible eachFirst eachSecond (headers.mp same)]

theorem arrayConcat_injective_iff_comma :
    "," ≠ "" ∧ arrayConcat [.str "a,b"] "," ≠ arrayConcat [.str "a", .str "b"] "," := by
  have some : "," ≠ "" := by decide
  refine ⟨some, fun same => ?_⟩
  have equal := (arrayConcat_injective_iff "," some).mpr (reversible_singleton (by decide))
    ["a,b"] ["a", "b"] (by decide) (by decide) same
  exact absurd equal (by decide)

/-- With a backslash as the delimiter a backslash at the end of an element moves to the next one. -/
theorem arrayConcat_backslash :
    "\\" ≠ "" ∧ ["a\\", "a"] ≠ ["a", "\\a"] ∧
      arrayConcat [.str "a\\", .str "a"] "\\" = arrayConcat [.str "a", .str "\\a"] "\\" := by
  decide +kernel

end Appinfo

end Util

end ModAuthOpenidc
