import ModAuthOpenidc.Util.Appinfo

/-!
# Delimiters that can be told from the elements

A header with several elements can be read in one way only if no delimiter overlaps with the escaped
form of an element. Whether it can depends on the delimiter: one without backslashes must not
overlap with itself, and in one with backslashes they must be odd in number somewhere, unless it
breaks off in a repetition of itself.
-/

namespace ModAuthOpenidc

namespace Util

namespace Appinfo

/-! ## Kinds of delimiters -/

/-- A text ends with a shorter one that it begins with. -/
def Bordered (d : List Char) : Prop := ∃ v, v ≠ [] ∧ v ≠ d ∧ v <+: d ∧ v <:+ d

/-- The backslashes of a text come in pairs. -/
inductive Paired : List Char → Prop
  | nil : Paired []
  | pair {rest : List Char} : Paired rest → Paired ('\\' :: '\\' :: rest)
  | other {c : Char} {rest : List Char} : c ≠ '\\' → Paired rest → Paired (c :: rest)

/-- A text is a word with an odd number of backslashes behind it, several times, and breaks off in
the last of these backslashes after an odd number. -/
def Clashing (d : List Char) : Prop :=
  ∃ p r j n, Paired p ∧ p.head? ≠ some '\\' ∧ p.getLast? ≠ some '\\' ∧ j ≤ r ∧
    d = Words.power n (p ++ List.replicate (2 * r + 1) '\\') ++
      (p ++ List.replicate (2 * j + 1) '\\')

/-- The delimiters that can be told from the elements of an array. -/
def Reversible (d : List Char) : Prop :=
  ('\\' ∉ d ∧ ¬Bordered d) ∨ (¬Paired d ∧ ¬Clashing d)

variable {d : List Char}

/-! ## Signs without delimiters -/

theorem Paired.exists_signs {p : List Char} (paired : Paired p) :
    ∃ signs, (∀ sign ∈ signs, sign.Simple) ∧ texts d signs = p := by
  induction paired with
  | nil => exact ⟨[], fun sign member => absurd member List.not_mem_nil, rfl⟩
  | pair paired ih =>
      obtain ⟨signs, simple, rfl⟩ := ih
      exact ⟨.backslash :: signs, List.forall_mem_cons.mpr ⟨trivial, simple⟩, rfl⟩
  | @other c rest different paired ih =>
      obtain ⟨signs, simple, rfl⟩ := ih
      exact ⟨.plain c :: signs, List.forall_mem_cons.mpr ⟨different, simple⟩, rfl⟩

theorem paired_texts {signs : List Sign} (simple : ∀ sign ∈ signs, sign.Simple) :
    Paired (texts d signs) := by
  induction signs with
  | nil => exact .nil
  | cons sign signs ih =>
      obtain ⟨first, rest⟩ := List.forall_mem_cons.mp simple
      cases sign with
      | backslash => exact .pair (ih rest)
      | delimiter => exact False.elim first
      | plain c => exact .other first (ih rest)

/-- Where the backslashes of a text do not come in pairs there is one left alone. -/
theorem exists_odd {e : List Char} (odd : ¬Paired e) :
    ∃ signs q, (∀ sign ∈ signs, sign.Simple) ∧ e = texts d signs ++ '\\' :: q ∧
      q.head? ≠ some '\\' := by
  induction size : e.length using Nat.strong_induction_on generalizing e with
  | _ size ih =>
      cases e with
      | nil => exact absurd .nil odd
      | cons c e =>
          rw [List.length_cons] at size
          by_cases escape : c = '\\'
          · subst escape
            by_cases again : e.head? = some '\\'
            · obtain ⟨rest, rfl⟩ := List.head?_eq_some_iff.mp again
              rw [List.length_cons] at size
              obtain ⟨signs, q, simple, rfl, other⟩ := ih rest.length (by omega)
                (fun paired => odd (.pair paired)) rfl
              exact ⟨.backslash :: signs, q, List.forall_mem_cons.mpr ⟨trivial, simple⟩, rfl, other⟩
            · exact ⟨[], e, fun sign member => absurd member List.not_mem_nil, rfl, again⟩
          · obtain ⟨signs, q, simple, rfl, other⟩ := ih e.length (by omega)
              (fun paired => odd (.other escape paired)) rfl
            exact ⟨.plain c :: signs, q, List.forall_mem_cons.mpr ⟨escape, simple⟩, rfl, other⟩

/-- The backslashes at the end of a text are split off. -/
theorem exists_trailing {signs : List Sign} (simple : ∀ sign ∈ signs, sign.Simple)
    (front : (texts d signs).head? ≠ some '\\') :
    ∃ p e, Paired p ∧ p.head? ≠ some '\\' ∧ p.getLast? ≠ some '\\' ∧
      texts d signs = p ++ List.replicate (2 * e) '\\' := by
  induction signs using List.reverseRecOn with
  | nil => exact ⟨[], 0, .nil, (Option.some_ne_none _).symm, (Option.some_ne_none _).symm, rfl⟩
  | append_singleton signs sign ih =>
      have last := simple sign (List.mem_append_right signs List.mem_cons_self)
      have rest := fun other member => simple other (List.mem_append_left [sign] member)
      cases sign with
      | backslash =>
          rw [texts_append] at front ⊢
          have front' : (texts d signs).head? ≠ some '\\' := by
            intro first
            rw [List.head?_append, first] at front
            exact front rfl
          obtain ⟨p, e, paired, head, foot, same⟩ := ih rest front'
          refine ⟨p, e + 1, paired, head, foot, ?_⟩
          rw [same, List.append_assoc, texts_cons, texts_nil, List.append_nil, Nat.mul_add,
            List.replicate_add]
          rfl
      | delimiter => exact False.elim last
      | plain c =>
          refine ⟨texts d (signs ++ [.plain c]), 0, paired_texts simple, front, ?_, ?_⟩
          · rw [texts_append, texts_cons, texts_nil, List.append_nil, Sign.text,
              List.getLast?_concat]
            exact fun same => last (Option.some.inj same)
          · rw [Nat.mul_zero, List.replicate_zero, List.append_nil]

/-! ## Headers -/

/-- The texts that delimiters and signs make. -/
inductive Stream (d : List Char) : List Char → Prop
  | nil : Stream d []
  | separator {rest : List Char} : Stream d rest → Stream d (d ++ rest)
  | sign {sign : Sign} {rest : List Char} :
      sign.Proper d → Stream d rest → Stream d (sign.text d ++ rest)

theorem Stream.signs {signs : List Sign} {rest : List Char} (proper : ∀ sign ∈ signs, sign.Proper d)
    (stream : Stream d rest) : Stream d (texts d signs ++ rest) := by
  induction signs with
  | nil => exact stream
  | cons sign signs ih =>
      obtain ⟨first, later⟩ := List.forall_mem_cons.mp proper
      rw [texts_cons, List.append_assoc]
      exact .sign first (ih later)

theorem stream_after {array : List (List Sign)} (each : ∀ signs ∈ array, Element d signs) :
    Stream d (after d array) := by
  induction array with
  | nil => exact .nil
  | cons signs array ih =>
      obtain ⟨first, later⟩ := List.forall_mem_cons.mp each
      rw [after_cons]
      exact .separator (.signs first.2.proper (ih later))

/-- Signs without delimiters that begin with a backslash begin with two. -/
theorem head_of_texts {signs : List Sign} (simple : ∀ sign ∈ signs, sign.Simple) (some : signs ≠ [])
    {s t : List Char} (same : texts d signs ++ s = '\\' :: t) : t.head? = .some '\\' := by
  cases signs with
  | nil => exact absurd rfl some
  | cons sign signs =>
      have first := simple sign List.mem_cons_self
      rw [texts_cons, List.append_assoc] at same
      cases sign with
      | backslash =>
          rw [← (List.cons.inj same).2]
          rfl
      | delimiter => exact False.elim first
      | plain c => exact absurd (List.cons.inj same).1 first

/-- A text that begins with the escaped form of signs is read as these, or a delimiter comes
between. -/
theorem Stream.read (nonempty : d ≠ []) {signs : List Sign} (simple : ∀ sign ∈ signs, sign.Simple)
    {s : List Char} (stream : Stream d (texts d signs ++ s)) :
    Stream d s ∨ ∃ rest t, rest <:+ signs ∧ Stream d t ∧ d ++ t = texts d rest ++ s := by
  induction signs with
  | nil => exact .inl stream
  | cons sign signs ih =>
      obtain ⟨first, later⟩ := List.forall_mem_cons.mp simple
      generalize whole : texts d (sign :: signs) ++ s = text at stream
      cases stream with
      | nil =>
          rw [texts_cons, List.append_assoc] at whole
          cases sign <;> exact absurd whole (List.cons_ne_nil _ _)
      | @separator rest stream =>
          exact .inr ⟨sign :: signs, rest, List.suffix_refl _, stream, whole.symm⟩
      | @sign other rest proper stream =>
          rw [texts_cons, List.append_assoc] at whole
          obtain rfl := text_beginnings nonempty sign other _ _ first.proper proper whole
          rw [← List.append_cancel_left whole] at stream
          rcases ih later stream with done | ⟨rest, t, end_, stream, same⟩
          · exact .inl done
          · exact .inr ⟨rest, t, end_.trans (List.suffix_cons sign signs), stream, same⟩

section Odd

variable {front : List Sign} {q : List Char}

/-- A delimiter with a backslash left alone does not begin in front of it with other signs. -/
theorem head_of_separator (nonempty : d ≠ []) (simple : ∀ sign ∈ front, sign.Simple)
    (cut : d = texts d front ++ '\\' :: q) {signs : List Sign}
    (proper : ∀ sign ∈ signs, sign.Simple)
    (short : signs.length < front.length) {s t : List Char}
    (same : d ++ s = texts d signs ++ '\\' :: t) : t.head? = some '\\' := by
  have whole : texts d front ++ ('\\' :: q ++ s) = texts d signs ++ '\\' :: t := by
    rw [← same, ← List.append_assoc, ← cut]
  rcases compare_texts nonempty (fun a member => (simple a member).proper)
    (fun a member => (proper a member).proper) whole with ⟨rest, rfl, -⟩ | ⟨rest, rfl, equal⟩
  · rw [List.length_append] at short
    omega
  · refine head_of_texts (fun a member => simple a (List.mem_append_right signs member)) ?_ equal
    rintro rfl
    rw [List.append_nil] at short
    exact absurd short (Nat.lt_irrefl _)

/-- An element does not end inside of the signs in front of the backslash that is left alone. -/
theorem head_of_boundary (nonempty : d ≠ []) (simple : ∀ sign ∈ front, sign.Simple)
    (cut : d = texts d front ++ '\\' :: q) {first second : List Sign}
    (split : front = first ++ second)
    (some : first ≠ []) {array : List (List Sign)} {t : List Char}
    (same : texts d second ++ '\\' :: t = after d array) : t.head? = .some '\\' := by
  have positive := List.length_pos_of_ne_nil some
  cases array with
  | nil => exact absurd same (List.append_ne_nil_of_right_ne_nil _ (List.cons_ne_nil _ _))
  | cons signs array =>
      rw [after_cons] at same
      refine head_of_separator nonempty simple cut ?_ ?_ same.symm
      · exact fun sign member => simple sign (split ▸ List.mem_append_right first member)
      · rw [split, List.length_append]
        omega

/-- A delimiter that meets an element meets an escaped delimiter behind the backslash left alone. -/
theorem meets_delimiter (nonempty : d ≠ []) (simple : ∀ sign ∈ front, sign.Simple)
    (cut : d = texts d front ++ '\\' :: q) (plain : ∀ t, (q ++ t).head? ≠ some '\\')
    {signs : List Sign} (proper : ∀ sign ∈ signs, sign.Proper d) (some : signs ≠ [])
    {array : List (List Sign)} {f : List Char} (same : d ++ f = texts d signs ++ after d array) :
    ∃ rest, signs = front ++ .delimiter :: rest ∧
        q ++ f = d ++ (texts d rest ++ after d array) := by
  have whole : texts d front ++ '\\' :: (q ++ f) = texts d signs ++ after d array := by
    calc texts d front ++ '\\' :: (q ++ f) = texts d front ++ '\\' :: q ++ f := by
          rw [List.append_assoc, List.cons_append]
      _ = texts d signs ++ after d array := by rw [← cut, same]
  rcases compare_texts nonempty (fun a member => (simple a member).proper) proper whole with
    ⟨rest, rfl, equal⟩ | ⟨rest, split, equal⟩
  · cases rest with
    | nil =>
        rw [List.append_nil] at some
        exact absurd (head_of_boundary nonempty simple cut (List.append_nil front).symm some equal)
          (plain f)
    | cons sign rest =>
        rw [texts_cons, List.append_assoc] at equal
        have valid := proper sign (List.mem_append_right front List.mem_cons_self)
        cases sign with
        | backslash => exact absurd ((List.cons.inj equal).2 ▸ rfl) (plain f)
        | delimiter => exact ⟨rest, rfl, (List.cons.inj equal).2⟩
        | plain c => exact absurd (List.cons.inj equal).1.symm valid
  · exact absurd (head_of_boundary nonempty simple cut split some equal) (plain f)

/-- What stands behind two parts of a delimiter in turn never becomes a header. -/
theorem not_stream_of_turns (nonempty : d ≠ []) (simple : ∀ sign ∈ front, sign.Simple)
    (cut : d = texts d front ++ '\\' :: q) (begin_ : d.head? ≠ some '\\') {last : List Sign}
    (end_ : last <:+ front) (short : last.length < front.length) {m n : List Char}
    (first : d = m ++ (texts d last ++ '\\' :: n)) (second : d = n ++ (texts d last ++ '\\' :: m))
    (plainM : ∀ t, (m ++ t).head? ≠ some '\\') (plainN : ∀ t, (n ++ t).head? ≠ some '\\')
    {f h : List Char} (same : f = texts d last ++ '\\' :: (m ++ h)) (streamF : Stream d f)
    (streamH : Stream d h) : False := by
  induction size : f.length using Nat.strong_induction_on generalizing m n f h with
  | _ size ih =>
      subst same
      have simpleLast := fun sign member => simple sign (end_.subset member)
      rcases streamF.read nonempty simpleLast with stream | ⟨rest, t, inside, -, equal⟩
      · generalize whole : '\\' :: (m ++ h) = text at stream
        cases stream with
        | nil => exact List.cons_ne_nil _ _ whole
        | @separator t stream =>
            apply begin_
            rw [← List.head?_append_of_ne_nil d nonempty, ← whole, List.head?_cons]
        | @sign sign t proper stream =>
            cases sign with
            | backslash => exact plainM h ((List.cons.inj whole).2 ▸ rfl)
            | plain c => exact proper (List.cons.inj whole).1.symm
            | delimiter =>
                have later : m ++ h = d ++ t := (List.cons.inj whole).2
                have equal : h = texts d last ++ '\\' :: (n ++ t) := by
                  rw [← List.append_cancel_left_eq m, later]
                  nth_rewrite 1 [first]
                  simp only [List.append_assoc, List.cons_append]
                refine ih h.length ?_ second first plainN plainM equal streamH stream rfl
                rw [← size]
                simp only [List.length_append, List.length_cons]
                omega
      · refine plainM h (head_of_separator nonempty simple cut ?_ ?_ equal)
        · exact fun sign member => simpleLast sign (inside.subset member)
        · exact Nat.lt_of_le_of_lt inside.length_le short

/-- Behind a backslash left alone a header has only backslashes up to a delimiter. -/
theorem Stream.read_odd (nonempty : d ≠ []) (begin_ : d.head? ≠ some '\\') {signs : List Sign}
    (simple : ∀ sign ∈ signs, sign.Simple) {s : List Char}
    (stream : Stream d ('\\' :: (texts d signs ++ s))) :
    (∀ sign ∈ signs, sign = .backslash) ∨
      ∃ rest t, rest <:+ signs ∧ Stream d t ∧ d ++ t = texts d rest ++ s := by
  induction signs with
  | nil => exact .inl fun sign member => absurd member List.not_mem_nil
  | cons sign signs ih =>
      obtain ⟨first, later⟩ := List.forall_mem_cons.mp simple
      generalize whole : '\\' :: (texts d (sign :: signs) ++ s) = text at stream
      cases stream with
      | nil => exact absurd whole (List.cons_ne_nil _ _)
      | @separator rest stream =>
          refine absurd ?_ begin_
          rw [← List.head?_append_of_ne_nil d nonempty, ← whole, List.head?_cons]
      | @sign other rest proper stream =>
          cases other with
          | plain c => exact absurd (List.cons.inj whole).1.symm proper
          | delimiter =>
              exact .inr ⟨sign :: signs, rest, List.suffix_refl _, stream,
                (List.cons.inj whole).2.symm⟩
          | backslash =>
              have second : texts d (sign :: signs) ++ s = '\\' :: rest := (List.cons.inj whole).2
              cases sign with
              | delimiter => exact False.elim first
              | plain c => exact absurd (List.cons.inj second).1 first
              | backslash =>
                  have third : '\\' :: (texts d signs ++ s) = rest := (List.cons.inj second).2
                  rcases ih later (third ▸ stream) with all | ⟨rest, t, inside, stream, same⟩
                  · exact .inl (List.forall_mem_cons.mpr ⟨rfl, all⟩)
                  · exact .inr ⟨rest, t, inside.trans (List.suffix_cons _ signs), stream, same⟩

/-- The signs in front of the backslash that is left alone are cut between two of them or in one. -/
theorem cut_texts {signs : List Sign} (simple : ∀ sign ∈ signs, sign.Simple) {g h : List Char}
    (same : texts d signs ++ ['\\'] = g ++ h) (some : h ≠ []) :
    (∃ first second, signs = first ++ second ∧ g = texts d first ∧ h = texts d second ++ ['\\']) ∨
      ∃ first second, signs = first ++ .backslash :: second ∧ g = texts d first ++ ['\\'] ∧
        h = '\\' :: (texts d second ++ ['\\']) := by
  induction signs generalizing g with
  | nil =>
      cases g with
      | nil => exact .inl ⟨[], [], rfl, rfl, same.symm⟩
      | cons c g => exact absurd (List.append_eq_nil_iff.mp (List.cons.inj same).2.symm).2 some
  | cons sign signs ih =>
      obtain ⟨first, later⟩ := List.forall_mem_cons.mp simple
      cases g with
      | nil => exact .inl ⟨[], sign :: signs, rfl, rfl, same.symm⟩
      | cons c g =>
          cases sign with
          | delimiter => exact False.elim first
          | plain e =>
              obtain ⟨rfl, rest⟩ := List.cons.inj same
              rcases ih later rest with ⟨front, back, rfl, rfl, rfl⟩ | ⟨front, back, rfl, rfl, rfl⟩
              · exact .inl ⟨.plain e :: front, back, rfl, rfl, rfl⟩
              · exact .inr ⟨.plain e :: front, back, rfl, rfl, rfl⟩
          | backslash =>
              obtain ⟨rfl, rest⟩ := List.cons.inj same
              cases g with
              | nil => exact .inr ⟨[], signs, rfl, rfl, rest.symm⟩
              | cons c g =>
                  have second : '\\' :: (texts d signs ++ ['\\']) = c :: (g ++ h) := rest
                  obtain ⟨rfl, third⟩ := List.cons.inj second
                  rcases ih later third with
                    ⟨front, back, rfl, rfl, rfl⟩ | ⟨front, back, rfl, rfl, rfl⟩
                  · exact .inl ⟨.backslash :: front, back, rfl, rfl, rfl⟩
                  · exact .inr ⟨.backslash :: front, back, rfl, rfl, rfl⟩

theorem texts_replicate (n : Nat) :
    texts d (List.replicate n .backslash) = List.replicate (2 * n) '\\' := by
  induction n with
  | zero => rfl
  | succ n ih =>
      rw [List.replicate_succ, texts_cons, ih, Nat.mul_succ, Nat.add_comm, List.replicate_add]
      rfl

/-- A delimiter that repeats signs and a backslash clashes. -/
theorem clashing_of_power {signs : List Sign} (simple : ∀ sign ∈ signs, sign.Simple)
    (begin_ : (texts d signs).head? ≠ some '\\') {n i : Nat}
    (whole : d = Words.power n (texts d (signs ++ List.replicate i .backslash) ++ ['\\']) ++
      (texts d signs ++ ['\\'])) : Clashing d := by
  obtain ⟨p, e, paired, head, foot, same⟩ := exists_trailing simple begin_
  refine ⟨p, e + i, e, n, paired, head, foot, Nat.le_add_right e i, ?_⟩
  have long : texts d (signs ++ List.replicate i .backslash) ++ ['\\'] =
      p ++ List.replicate (2 * (e + i) + 1) '\\' := by
    rw [texts_append, texts_replicate, same, List.append_assoc, List.append_assoc,
      List.replicate_succ', Nat.mul_add, List.replicate_add, List.append_assoc]
  have short : texts d signs ++ ['\\'] = p ++ List.replicate (2 * e + 1) '\\' := by
    rw [same, List.append_assoc, List.replicate_succ']
  rw [← long, ← short, ← whole]

theorem plain_of_front {inner outer : List Sign} (some : inner ≠ [])
    (start : (texts d (inner ++ outer)).head? ≠ .some '\\') (t : List Char) :
    (texts d inner ++ t).head? ≠ .some '\\' := by
  rw [texts_append, List.head?_append_of_ne_nil _ (texts_ne_nil some)] at start
  rwa [List.head?_append_of_ne_nil _ (texts_ne_nil some)]

/-- A delimiter that reaches into what stands behind it in two ways clashes. -/
theorem not_meet (nonempty : d ≠ []) (simple : ∀ sign ∈ front, sign.Simple)
    (cut : d = texts d front ++ '\\' :: q) (plain : ∀ t, (q ++ t).head? ≠ some '\\')
    (begin_ : d.head? ≠ some '\\') (reversible : ¬Clashing d) {f h : List Char}
    (streamF : Stream d f) (streamH : Stream d h) (same : q ++ f = d ++ h) : False := by
  have whole : d = texts d front ++ ['\\'] ++ q := by
    rw [List.append_assoc, List.singleton_append, ← cut]
  have inside : q <+: d := by
    refine List.prefix_of_prefix_length_le ⟨f, same⟩ (List.prefix_append d h) ?_
    have lengths := congrArg List.length whole
    rw [List.length_append] at lengths
    omega
  obtain ⟨v, split⟩ := inside
  obtain ⟨n, g, k, first, some, rfl, power⟩ := Words.conjugate (q := q) (v := v)
    (List.append_ne_nil_of_right_ne_nil (texts d front) (List.cons_ne_nil '\\' []))
    (by rw [← whole, split])
  have behind : f = k ++ (g ++ h) := by
    rw [← split, List.append_assoc] at same
    rw [List.append_cancel_left same, List.append_assoc]
  have repeated : d = Words.power (n + 1) (texts d front ++ ['\\']) ++ g := by
    rw [Words.power_succ, List.append_assoc, ← power, ← whole]
  have startFront : (texts d front).head? ≠ .some '\\' := by
    intro start
    rw [cut, List.head?_append, start] at begin_
    exact begin_ rfl
  rcases cut_texts simple first some with
    ⟨inner, outer, rfl, rfl, rfl⟩ | ⟨inner, outer, rfl, rfl, rfl⟩
  · by_cases empty : inner = []
    · subst empty
      refine reversible (clashing_of_power (n := n) (i := 0) simple startFront ?_)
      rw [List.replicate_zero, List.append_nil, Words.power_comm, ← Words.power_succ]
      rwa [texts_nil, List.append_nil] at repeated
    · have plainInner := plain_of_front empty startFront
      refine not_stream_of_turns nonempty simple cut begin_ (List.suffix_append inner outer) ?_
        (m := texts d inner) (n := q) ?_ ?_ plainInner plain ?_ streamF streamH
      · have positive := List.length_pos_of_ne_nil empty
        rw [List.length_append]
        omega
      · simpa only [texts_append, List.append_assoc, List.singleton_append] using whole
      · simpa only [List.append_assoc, List.singleton_append] using split.symm
      · simpa only [List.append_assoc, List.singleton_append] using behind
  · have filled : inner ≠ [] := by
      rintro rfl
      exact startFront rfl
    have plainInner := plain_of_front filled startFront
    have behind' : f = '\\' :: (texts d outer ++ '\\' :: (texts d inner ++ '\\' :: h)) := by
      simpa only [List.append_assoc, List.cons_append, List.nil_append] using behind
    have simpleOuter : ∀ sign ∈ outer, sign.Simple := fun sign member =>
      simple sign (List.mem_append_right inner (List.mem_cons_of_mem .backslash member))
    rcases Stream.read_odd nonempty begin_ simpleOuter (behind' ▸ streamF) with
      all | ⟨rest, t, inside, -, meets⟩
    · refine reversible (@clashing_of_power d inner ?_ ?_ (n + 1) (outer.length + 1) ?_)
      · exact fun sign member => simple sign (List.mem_append_left _ member)
      · rw [← List.append_nil (texts d inner)]
        exact plainInner []
      · rwa [List.replicate_succ, ← List.eq_replicate_of_mem all]
    · refine plainInner _ (head_of_separator nonempty simple cut ?_ ?_ meets)
      · exact fun sign member => simpleOuter sign (inside.subset member)
      · have bound := inside.length_le
        rw [List.length_append, List.length_cons]
        omega

/-! ## Delimiters that begin with backslashes -/

/-- The number of backslashes at the front of a text. -/
def lead (text : List Char) : Nat := (text.takeWhile (· = '\\')).length

theorem lead_backslash (text : List Char) : lead ('\\' :: text) = lead text + 1 := by
  rw [lead, List.takeWhile_cons, if_pos (decide_eq_true rfl), List.length_cons, lead]

theorem lead_other {c : Char} (other : c ≠ '\\') (text : List Char) : lead (c :: text) = 0 := by
  rw [lead, List.takeWhile_cons_of_neg (by rwa [decide_eq_true_eq]), List.length_nil]

theorem even_lead_texts {signs : List Sign} (simple : ∀ sign ∈ signs, sign.Simple)
    (mixed : ¬∀ sign ∈ signs, sign = .backslash) (t : List Char) :
    Even (lead (texts d signs ++ t)) := by
  induction signs with
  | nil => exact absurd (fun sign member => absurd member List.not_mem_nil) mixed
  | cons sign signs ih =>
      obtain ⟨first, later⟩ := List.forall_mem_cons.mp simple
      rw [texts_cons, List.append_assoc]
      cases sign with
      | delimiter => exact False.elim first
      | plain c =>
          rw [Sign.text, List.singleton_append, lead_other first]
          exact Even.zero
      | backslash =>
          have rest := ih later fun all => mixed (List.forall_mem_cons.mpr ⟨rfl, all⟩)
          rw [Sign.text, List.cons_append, List.cons_append, List.nil_append, lead_backslash,
            lead_backslash]
          exact rest.add even_two

/-- If a delimiter begins with pairs of backslashes, everything in a header does. -/
theorem Stream.even_lead (begin_ : d.head? = some '\\') (pairs : ∀ t, Even (lead (d ++ t)))
    {text : List Char} (stream : Stream d text) : Even (lead text) := by
  induction stream with
  | nil => exact Even.zero
  | separator stream ih => exact pairs _
  | @sign sign rest proper stream ih =>
      cases sign with
      | delimiter => exact absurd begin_ proper
      | plain c =>
          rw [Sign.text, List.singleton_append, lead_other proper]
          exact Even.zero
      | backslash =>
          rw [Sign.text, List.cons_append, List.cons_append, List.nil_append, lead_backslash,
            lead_backslash]
          exact ih.add even_two

/-- A delimiter that ends with the backslash left alone does not meet an element. -/
theorem not_overlap_end (nonempty : d ≠ []) (simple : ∀ sign ∈ front, sign.Simple)
    (cut : d = texts d front ++ ['\\']) (reversible : ¬Clashing d) {signs : List Sign}
    (proper : ∀ sign ∈ signs, sign.Proper d) (some : signs ≠ []) {array : List (List Sign)}
    (each : ∀ signs ∈ array, Element d signs) {f : List Char} (stream : Stream d f)
    (same : d ++ f = texts d signs ++ after d array) : False := by
  have begin_ : d.head? = .some '\\' := by
    by_contra start
    refine reversible (@clashing_of_power d front simple ?_ 0 0 ?_)
    · intro first
      rw [cut, List.head?_append, first] at start
      exact start rfl
    · rw [Words.power_zero, List.nil_append, ← cut]
  have mixed : ¬∀ sign ∈ front, sign = .backslash := by
    intro all
    refine reversible ⟨[], front.length, front.length, 0, .nil, (Option.some_ne_none _).symm,
      (Option.some_ne_none _).symm, Nat.le_refl _, ?_⟩
    rw [List.eq_replicate_of_mem all, texts_replicate] at cut
    rw [Words.power_zero, List.nil_append, List.nil_append, List.replicate_succ', ← cut]
  have pairs : ∀ t, Even (lead (d ++ t)) := by
    intro t
    rw [cut, List.append_assoc]
    exact even_lead_texts simple mixed _
  have odd : ¬Even (lead ('\\' :: f)) := by
    rw [lead_backslash, Nat.even_add_one, not_not]
    exact stream.even_lead begin_ pairs
  have whole : texts d front ++ '\\' :: f = texts d signs ++ after d array := by
    calc texts d front ++ '\\' :: f = texts d front ++ ['\\'] ++ f := by
          rw [List.append_assoc, List.singleton_append]
      _ = texts d signs ++ after d array := by rw [← cut, same]
  rcases compare_texts nonempty (fun a member => (simple a member).proper) proper whole with
    ⟨rest, rfl, equal⟩ | ⟨second, split, equal⟩
  · rw [equal] at odd
    refine odd (Stream.even_lead begin_ pairs ((stream_after each).signs fun sign member => ?_))
    exact proper sign (List.mem_append_right front member)
  · cases array with
    | nil => exact absurd equal (List.append_ne_nil_of_right_ne_nil _ (List.cons_ne_nil _ _))
    | cons other array =>
        have again : texts d front ++ '\\' :: (texts d other ++ after d array) =
            texts d second ++ '\\' :: f := by
          calc texts d front ++ '\\' :: (texts d other ++ after d array)
              = texts d front ++ ['\\'] ++ (texts d other ++ after d array) := by
                rw [List.append_assoc, List.singleton_append]
            _ = texts d second ++ '\\' :: f := by rw [← cut, equal, after_cons]
        have part : ∀ sign ∈ second, sign.Simple := fun sign member =>
          simple sign (split ▸ List.mem_append_right signs member)
        rcases compare_texts nonempty (fun a member => (simple a member).proper)
          (fun a member => (part a member).proper) again with
          ⟨rest, longer, -⟩ | ⟨rest, shift, meets⟩
        · have positive := List.length_pos_of_ne_nil some
          have lengths := congrArg List.length split
          rw [longer, List.length_append, List.length_append] at lengths
          omega
        · by_cases all : ∀ sign ∈ rest, sign = .backslash
          · obtain ⟨n, g, h, rfl, -, rfl, power⟩ := Words.conjugate some (split.symm.trans shift)
            have parts : ∀ sign ∈ g ++ h, sign = .backslash := fun sign member =>
              all sign (List.mem_append.mpr (List.mem_append.mp member).symm)
            refine mixed fun sign member => ?_
            rw [split, power] at member
            rcases List.mem_append.mp member with front | behind
            · exact parts sign front
            · rcases List.mem_append.mp behind with repeated | last
              · exact parts sign (Words.mem_of_mem_power repeated)
              · exact parts sign (List.mem_append_left h last)
          · refine odd (meets ▸ even_lead_texts (fun sign member => ?_) all _)
            exact simple sign (shift ▸ List.mem_append_right second member)

/-! ## Reading a header -/

/-- A delimiter in which the backslashes are odd in number somewhere meets no element. -/
theorem not_overlap_odd (nonempty : d ≠ []) (odd : ¬Paired d) (reversible : ¬Clashing d)
    {signs : List Sign} (proper : ∀ sign ∈ signs, sign.Proper d) (some : signs ≠ [])
    {array : List (List Sign)} (each : ∀ signs ∈ array, Element d signs) {f : List Char}
    (stream : Stream d f) (same : d ++ f = texts d signs ++ after d array) : False := by
  obtain ⟨front, q, simple, cut, other⟩ := exists_odd (d := d) odd
  by_cases end_ : q = []
  · subst end_
    exact not_overlap_end nonempty simple cut reversible proper some each stream same
  · have plain : ∀ t, (q ++ t).head? ≠ .some '\\' := by
      intro t
      rwa [List.head?_append_of_ne_nil _ end_]
    obtain ⟨rest, rfl, meets⟩ := meets_delimiter nonempty simple cut plain proper some same
    have begin_ := proper .delimiter (List.mem_append_right front List.mem_cons_self)
    refine not_meet nonempty simple cut plain begin_ reversible stream
      ((stream_after each).signs fun sign member => ?_) meets
    exact proper sign (List.mem_append_right front (List.mem_cons_of_mem .delimiter member))

/-- What has no backslashes is the same in a value and in its escaped form. -/
theorem raws_of_texts {signs : List Sign} {u : List Char} (clean : '\\' ∉ u)
    (front : u <+: texts d signs) : u <+: raws d signs := by
  induction signs generalizing u with
  | nil => exact front
  | cons sign signs ih =>
      cases u with
      | nil => exact List.nil_prefix
      | cons c u =>
          rw [List.mem_cons, not_or] at clean
          rw [texts_cons] at front
          cases sign with
          | backslash => exact absurd (List.cons_prefix_cons.mp front).1.symm clean.1
          | delimiter => exact absurd (List.cons_prefix_cons.mp front).1.symm clean.1
          | plain e =>
              obtain ⟨rfl, rest⟩ := List.cons_prefix_cons.mp front
              exact List.cons_prefix_cons.mpr ⟨rfl, ih clean.2 rest⟩

/-- A delimiter without backslashes that does not overlap with itself meets no element. -/
theorem not_overlap_clean (nonempty : d ≠ []) (clean : '\\' ∉ d) (free : ¬Bordered d)
    {signs : List Sign} (reading : Reading d signs) (some : signs ≠ []) {array : List (List Sign)}
    {f : List Char} (same : d ++ f = texts d signs ++ after d array) : False := by
  have absent : ¬d <+: texts d signs := by
    intro front
    cases reading with
    | nil => exact some rfl
    | backslash reading =>
        obtain ⟨c, e, rfl⟩ := List.exists_cons_of_ne_nil nonempty
        exact clean ((List.cons_prefix_cons.mp front).1 ▸ List.mem_cons_self)
    | delimiter plain reading =>
        obtain ⟨c, e, rfl⟩ := List.exists_cons_of_ne_nil nonempty
        exact clean ((List.cons_prefix_cons.mp front).1 ▸ List.mem_cons_self)
    | plain other absent reading =>
        have found := raws_of_texts clean front
        rw [raws_cons] at found
        exact absent found
  rcases List.append_eq_append_iff.mp same with ⟨v, longer, -⟩ | ⟨v, split, rest⟩
  · exact absent ⟨v, longer.symm⟩
  · have filled : v ≠ [] := by
      rintro rfl
      rw [List.append_nil] at split
      exact absent (split ▸ List.prefix_refl _)
    cases array with
    | nil => exact filled (List.append_eq_nil_iff.mp rest.symm).1
    | cons other array =>
        rw [after_cons] at rest
        have lengths := congrArg List.length split
        have positive := List.length_pos_of_ne_nil (texts_ne_nil (d := d) some)
        rw [List.length_append] at lengths
        refine free ⟨v, filled, ?_, ?_, ⟨texts d signs, split.symm⟩⟩
        · rintro rfl
          omega
        · exact List.prefix_of_prefix_length_le ⟨f, rest.symm⟩ (List.prefix_append d _) (by omega)

/-- No delimiter that can be told from the elements meets one. -/
theorem not_overlap (nonempty : d ≠ []) (reversible : Reversible d) {signs : List Sign}
    (reading : Reading d signs) (some : signs ≠ []) {array : List (List Sign)}
    (each : ∀ signs ∈ array, Element d signs) {f : List Char} (stream : Stream d f)
    (same : d ++ f = texts d signs ++ after d array) : False := by
  rcases reversible with ⟨clean, free⟩ | ⟨odd, free⟩
  · exact not_overlap_clean nonempty clean free reading some same
  · exact not_overlap_odd nonempty odd free reading.proper some each stream same

/-- Behind an element nothing of it is left. -/
theorem no_remainder (nonempty : d ≠ []) (reversible : Reversible d) {signs : List Sign}
    (reading : Reading d signs) {first second : List (List Sign)}
    (eachFirst : ∀ signs ∈ first, Element d signs) (eachSecond : ∀ signs ∈ second, Element d signs)
    (same : after d first = texts d signs ++ after d second) : signs = [] := by
  by_contra some
  cases first with
  | nil => exact texts_ne_nil some (List.append_eq_nil_iff.mp same.symm).1
  | cons other first =>
      obtain ⟨element, later⟩ := List.forall_mem_cons.mp eachFirst
      rw [after_cons] at same
      exact not_overlap nonempty reversible reading some eachSecond
        ((stream_after later).signs element.2.proper) same

/-- If delimiters can be told from the elements, a header is made by one array. -/
theorem after_injective (nonempty : d ≠ []) (reversible : Reversible d)
    {first second : List (List Sign)}
    (eachFirst : ∀ signs ∈ first, Element d signs) (eachSecond : ∀ signs ∈ second, Element d signs)
    (same : after d first = after d second) : first = second := by
  induction first generalizing second with
  | nil =>
      by_contra other
      exact after_ne_nil (fun empty => other empty.symm) nonempty same.symm
  | cons a first ih =>
      cases second with
      | nil => exact absurd same (after_ne_nil (List.cons_ne_nil a first) nonempty)
      | cons b second =>
          obtain ⟨elementA, laterFirst⟩ := List.forall_mem_cons.mp eachFirst
          obtain ⟨elementB, laterSecond⟩ := List.forall_mem_cons.mp eachSecond
          rw [after_cons, after_cons, List.append_cancel_left_eq] at same
          rcases compare_texts nonempty elementA.2.proper elementB.2.proper same with
            ⟨rest, rfl, equal⟩ | ⟨rest, rfl, equal⟩
          · have empty :=
              no_remainder nonempty reversible elementB.2.of_append laterFirst laterSecond equal
            rw [empty, texts_nil, List.nil_append] at equal
            rw [empty, List.append_nil, ih laterFirst laterSecond equal]
          · have empty := no_remainder nonempty reversible elementA.2.of_append laterSecond
              laterFirst equal.symm
            rw [empty, texts_nil, List.nil_append] at equal
            rw [empty, List.append_nil, ih laterFirst laterSecond equal]

end Odd

end Appinfo

end Util

end ModAuthOpenidc
