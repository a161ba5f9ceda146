import ModAuthOpenidc.ScriptLiteral

/-!
# Escaping for pages and scripts

One function escapes a string with the help of another one that escapes a character. It measures the
escaped string in a first pass and writes it in a second one, and before every write it checks that
there is room. A string ends with a null character.
-/

namespace ModAuthOpenidc

namespace Util

namespace Html

/-! ## The functions -/

/-- The end of a string. -/
def nul : Char := '\x00'

/-- What a buffer holds as a string. -/
def cString (buffer : List Char) : List Char := buffer.takeWhile fun c => c ≠ nul

/-- `strcpy` to a place of a buffer. -/
def strcpy (buffer : List Char) (i : Nat) (text : List Char) : List Char :=
  buffer.take i ++ (text ++ [nul]) ++ buffer.drop (i + text.length + 1)

/-- `oidc_util_html_escape_char`. -/
def htmlEscapeChar : Char → Option (List Char)
  | '&' => some "&amp;".toList
  | '\'' => some "&apos;".toList
  | '"' => some "&quot;".toList
  | '>' => some "&gt;".toList
  | '<' => some "&lt;".toList
  | _ => none

/-- `oidc_util_html_javascript_escape_char`. -/
def javascriptEscapeChar : Char → Option (List Char)
  | '\'' => some "\\'".toList
  | '"' => some "\\\"".toList
  | '\\' => some "\\\\".toList
  | '/' => some "\\/".toList
  | '\r' => some "\\r".toList
  | '\n' => some "\\n".toList
  | '<' => some "\\x3c".toList
  | '>' => some "\\x3e".toList
  | _ => none

/-- The output of the second pass, and how far it is. -/
structure Output where
  buffer : List Char
  i : Nat
  deriving DecidableEq

section Passes

variable (escapeChar : Char → Option (List Char))

/-- How long a character is when it is escaped. -/
def width (c : Char) : Nat := (escapeChar c).elim 1 List.length

/-- The first pass of `oidc_util_html_escape_with`. -/
def measure (s : List Char) : Nat := s.foldl (fun outputlen c => outputlen + width escapeChar c) 0

/-- The second pass of `oidc_util_html_escape_with` on one character. -/
def write (outputlen : Nat) (out : Output) (c : Char) : Output :=
  match escapeChar c with
  | none =>
      { buffer := if out.i + 1 ≤ outputlen then out.buffer.set out.i c else out.buffer
        i := out.i + 1 }
  | some esc =>
      { buffer := if out.i + esc.length ≤ outputlen then strcpy out.buffer out.i esc
          else out.buffer
        i := out.i + esc.length }

/-- The second pass so far. -/
def writeAll (outputlen : Nat) (s : List Char) : Output :=
  s.foldl (write escapeChar outputlen) { buffer := List.replicate (outputlen + 1) nul, i := 0 }

/-- `oidc_util_html_escape_with`: the output in the end. -/
def escapeWith (s : List Char) : Output :=
  let out := writeAll escapeChar (measure escapeChar s) s
  { out with buffer := out.buffer.set out.i nul }

end Passes

/-- `oidc_util_html_escape`. -/
def htmlEscape (s : Option (List Char)) : List Char :=
  cString (escapeWith htmlEscapeChar (s.getD [])).buffer

/-- `oidc_util_html_javascript_escape`. -/
def javascriptEscape (s : Option (List Char)) : Option (List Char) :=
  s.map fun s => cString (escapeWith javascriptEscapeChar s).buffer

/-! ## The two passes -/

section Render

variable (escapeChar : Char → Option (List Char))

/-- A character as it is written. -/
def piece (c : Char) : List Char := (escapeChar c).getD [c]

/-- A string as it is written. -/
def render (s : List Char) : List Char := s.flatMap (piece escapeChar)

variable {escapeChar}

theorem length_piece (c : Char) : (piece escapeChar c).length = width escapeChar c := by
  unfold piece width
  cases escapeChar c with
  | none => rfl
  | some esc => rfl

theorem render_append (front back : List Char) :
    render escapeChar (front ++ back) = render escapeChar front ++ render escapeChar back :=
  List.flatMap_append

theorem render_singleton (c : Char) : render escapeChar [c] = piece escapeChar c :=
  List.flatMap_singleton _ _

/-- The first pass measures what is written. -/
theorem measure_eq (s : List Char) : measure escapeChar s = (render escapeChar s).length := by
  induction s using List.reverseRecOn with
  | nil => rfl
  | append_singleton s c ih =>
      rw [measure, List.foldl_append, ← measure, ih, render_append, render_singleton,
        List.length_append, length_piece]
      rfl

/-- One character is written behind the others, if there is room for it. -/
theorem write_piece (outputlen : Nat) (front : List Char) (c : Char)
    (room : front.length + width escapeChar c ≤ outputlen) :
    write escapeChar outputlen
        { buffer := front ++ List.replicate (outputlen + 1 - front.length) nul
          i := front.length } c =
      { buffer := (front ++ piece escapeChar c) ++
          List.replicate (outputlen + 1 - (front ++ piece escapeChar c).length) nul
        i := (front ++ piece escapeChar c).length } := by
  have longer : (front ++ piece escapeChar c).length = front.length + width escapeChar c := by
    rw [List.length_append, length_piece]
  rw [longer]
  unfold write
  cases found : escapeChar c with
  | none =>
      have one : width escapeChar c = 1 := by rw [width, found, Option.elim_none]
      have own : piece escapeChar c = [c] := by rw [piece, found, Option.getD_none]
      have more : outputlen + 1 - front.length = outputlen + 1 - (front.length + 1) + 1 := by omega
      rw [one] at room ⊢
      dsimp only
      rw [own, if_pos room, more, List.replicate_succ, List.set_append_right _ _ le_rfl,
        Nat.sub_self, List.set_cons_zero, List.append_assoc, List.singleton_append]
  | some esc =>
      have length : width escapeChar c = esc.length := by rw [width, found, Option.elim_some]
      have own : piece escapeChar c = esc := by rw [piece, found, Option.getD_some]
      have fewer : outputlen + 1 - (front.length + esc.length) =
          outputlen + 1 - front.length - (esc.length + 1) + 1 := by omega
      rw [length] at room ⊢
      dsimp only
      rw [own, if_pos room, strcpy, List.take_left, Nat.add_assoc, List.drop_length_add_append,
        List.drop_replicate, fewer, List.replicate_succ]
      simp only [List.append_assoc, List.singleton_append]

/-- The second pass writes what the first pass measures, one character after the other. -/
theorem writeAll_append (front back : List Char) :
    writeAll escapeChar (measure escapeChar (front ++ back)) front =
      { buffer := render escapeChar front ++
          List.replicate (measure escapeChar (front ++ back) + 1 -
            (render escapeChar front).length) nul
        i := (render escapeChar front).length } := by
  induction front using List.reverseRecOn generalizing back with
  | nil => rfl
  | append_singleton front c ih =>
      have earlier := ih (c :: back)
      have room : (render escapeChar front).length + width escapeChar c ≤
          measure escapeChar (front ++ c :: back) := by
        rw [measure_eq, render_append, List.length_append, ← List.singleton_append, render_append,
          render_singleton, List.length_append, length_piece]
        omega
      rw [List.append_assoc, List.singleton_append, writeAll, List.foldl_append, ← writeAll,
        earlier, List.foldl_cons, List.foldl_nil, write_piece _ _ _ room, render_append, render_singleton]

/-- In the end everything is written, and the end of the string behind it. -/
theorem escapeWith_eq (s : List Char) :
    escapeWith escapeChar s =
      { buffer := render escapeChar s ++ [nul], i := measure escapeChar s } := by
  have all := @writeAll_append escapeChar s []
  rw [List.append_nil] at all
  have left : measure escapeChar s + 1 - (render escapeChar s).length = 1 := by
    rw [measure_eq]
    omega
  rw [left] at all
  unfold escapeWith
  dsimp only
  rw [all, List.replicate_one, List.set_append_right _ _ le_rfl, Nat.sub_self, List.set_cons_zero,
    measure_eq]

end Render

/-! ## Entities -/

/-- The five entities, and the characters they stand for. -/
def entities : List (List Char × Char) :=
  [("&amp;".toList, '&'), ("&apos;".toList, '\''), ("&quot;".toList, '"'), ("&gt;".toList, '>'),
    ("&lt;".toList, '<')]

/-- Replace the entities of a text, some of whose characters still belong to the last one. -/
def unescape : Nat → List Char → List Char
  | _, [] => []
  | k + 1, _ :: text => unescape k text
  | 0, c :: text =>
      match entities.find? fun entity => entity.1 <+: c :: text with
      | some entity => entity.2 :: unescape (entity.1.length - 1) text
      | none => c :: unescape 0 text

theorem unescape_skip (front text : List Char) :
    unescape front.length (front ++ text) = unescape 0 text := by
  induction front with
  | nil => rfl
  | cons c front ih => rw [List.length_cons, List.cons_append, unescape, ih]

/-- A character is escaped by its entity, or it is none that has one. -/
theorem htmlEscapeChar_cases (c : Char) :
    (∃ entity ∈ entities, htmlEscapeChar c = some entity.1 ∧ entity.2 = c) ∨
      htmlEscapeChar c = none ∧ ∀ entity ∈ entities, entity.2 ≠ c := by
  by_cases known : ∃ entity ∈ entities, entity.2 = c
  · obtain ⟨entity, member, rfl⟩ := known
    have own : ∀ entity ∈ entities, htmlEscapeChar entity.2 = some entity.1 := by decide
    exact .inl ⟨entity, member, own entity member, rfl⟩
  · have other : ∀ entity ∈ entities, entity.2 ≠ c := fun entity member same =>
      known ⟨entity, member, same⟩
    refine .inr ⟨?_, other⟩
    unfold htmlEscapeChar
    split
    · exact absurd rfl (other ("&amp;".toList, '&') (by decide))
    · exact absurd rfl (other ("&apos;".toList, '\'') (by decide))
    · exact absurd rfl (other ("&quot;".toList, '"') (by decide))
    · exact absurd rfl (other ("&gt;".toList, '>') (by decide))
    · exact absurd rfl (other ("&lt;".toList, '<') (by decide))
    · rfl

/-- An entity is found where it stands. -/
theorem find_entity {entity : List Char × Char} (member : entity ∈ entities) (text : List Char) :
    entities.find? (fun other => other.1 <+: entity.1 ++ text) = some entity := by
  simp only [entities, List.mem_cons, List.not_mem_nil, or_false] at member
  rcases member with rfl | rfl | rfl | rfl | rfl <;> rfl

/-- An ampersand is the beginning of an entity, and nothing else of it. -/
theorem entity_cons {entity : List Char × Char} (member : entity ∈ entities) :
    ∃ tail, entity.1 = '&' :: tail ∧ '&' ∉ tail := by
  have all : ∀ entity ∈ entities, entity.1 = '&' :: entity.1.tail ∧ '&' ∉ entity.1.tail := by
    decide
  exact ⟨_, all entity member⟩

/-- Reading an escaped character gives it back. -/
theorem unescape_piece (c : Char) (text : List Char) :
    unescape 0 (piece htmlEscapeChar c ++ text) = c :: unescape 0 text := by
  rcases htmlEscapeChar_cases c with ⟨entity, member, escaped, rfl⟩ | ⟨plain, other⟩
  · obtain ⟨tail, whole, -⟩ := entity_cons member
    have found := find_entity member text
    rw [piece, escaped, Option.getD_some, whole, List.cons_append, unescape]
    rw [whole, List.cons_append] at found
    rw [found]
    dsimp only
    rw [whole, List.length_cons, Nat.add_sub_cancel, unescape_skip]
  · have missing : entities.find? (fun entity => entity.1 <+: c :: text) = none := by
      rw [List.find?_eq_none]
      rintro entity member front
      obtain ⟨tail, whole, -⟩ := entity_cons member
      rw [decide_eq_true_iff, whole, List.cons_prefix_cons] at front
      exact other ("&amp;".toList, '&') (by decide) front.1
    rw [piece, plain, Option.getD_none, List.singleton_append, unescape, missing]

theorem unescape_render (s : List Char) : unescape 0 (render htmlEscapeChar s) = s := by
  induction s with
  | nil => rfl
  | cons c s ih => rw [render, List.flatMap_cons, ← render, unescape_piece, ih]

/-- Every ampersand of an escaped string begins an entity. -/
theorem ampersand_render (s : List Char) {back : List Char}
    (inside : '&' :: back <:+ render htmlEscapeChar s) :
    ∃ entity ∈ entities, entity.1 <+: '&' :: back := by
  induction s with
  | nil => exact absurd (List.suffix_nil.mp inside) (List.cons_ne_nil _ _)
  | cons c s ih =>
      rw [render, List.flatMap_cons, ← render] at inside
      obtain ⟨front, whole⟩ := inside
      rcases List.append_eq_append_iff.mp whole with ⟨rest, own, behind⟩ | ⟨rest, rfl, behind⟩
      · cases rest with
        | nil => exact ih ⟨[], behind⟩
        | cons first rest =>
            rw [List.cons_append, List.cons.injEq] at behind
            obtain ⟨rfl, rfl⟩ := behind
            rcases htmlEscapeChar_cases c with ⟨entity, member, escaped, -⟩ | ⟨plain, other⟩
            · obtain ⟨tail, entity_eq, once⟩ := entity_cons member
              rw [piece, escaped, Option.getD_some, entity_eq] at own
              cases front with
              | nil =>
                  refine ⟨entity, member, ?_⟩
                  rw [entity_eq, own]
                  exact ⟨render htmlEscapeChar s, rfl⟩
              | cons start front =>
                  rw [List.cons_append, List.cons.injEq] at own
                  refine absurd ?_ once
                  rw [own.2]
                  exact List.mem_append_right _ List.mem_cons_self
            · rw [piece, plain, Option.getD_none] at own
              have amp : '&' ∈ [c] := own ▸ List.mem_append_right _ List.mem_cons_self
              exact absurd (List.mem_singleton.mp amp) (other ("&amp;".toList, '&') (by decide))
      · exact ih ⟨rest, behind.symm⟩

/-- No character with an entity is left but ampersands. -/
theorem plain_render (s : List Char) {c : Char} (member : c ∈ render htmlEscapeChar s) :
    c ≠ '<' ∧ c ≠ '>' ∧ c ≠ '"' ∧ c ≠ '\'' := by
  obtain ⟨d, -, written⟩ := List.mem_flatMap.mp member
  rcases htmlEscapeChar_cases d with ⟨entity, known, escaped, -⟩ | ⟨plain, other⟩
  · rw [piece, escaped, Option.getD_some] at written
    have absent : ∀ entity ∈ entities,
        '<' ∉ entity.1 ∧ '>' ∉ entity.1 ∧ '"' ∉ entity.1 ∧ '\'' ∉ entity.1 := by
      decide
    obtain ⟨less, greater, quote, apostrophe⟩ := absent entity known
    exact ⟨fun same => less (same ▸ written), fun same => greater (same ▸ written),
      fun same => quote (same ▸ written), fun same => apostrophe (same ▸ written)⟩
  · rw [piece, plain, Option.getD_none, List.mem_singleton] at written
    subst written
    exact ⟨(other ("&lt;".toList, '<') (by decide)).symm,
      (other ("&gt;".toList, '>') (by decide)).symm,
      (other ("&quot;".toList, '"') (by decide)).symm,
      (other ("&apos;".toList, '\'') (by decide)).symm⟩

/-! ## Script literals -/

/-- The characters that are escaped in scripts, and what is written for them. -/
def scriptEscapes : List (List Char × Char) :=
  [("\\'".toList, '\''), ("\\\"".toList, '"'), ("\\\\".toList, '\\'), ("\\/".toList, '/'),
    ("\\r".toList, '\r'), ("\\n".toList, '\n'), ("\\x3c".toList, '<'), ("\\x3e".toList, '>')]

/-- A character is escaped, or it is none that is. -/
theorem javascriptEscapeChar_cases (c : Char) :
    (∃ escape ∈ scriptEscapes, javascriptEscapeChar c = some escape.1 ∧ escape.2 = c) ∨
      javascriptEscapeChar c = none ∧ ∀ escape ∈ scriptEscapes, escape.2 ≠ c := by
  by_cases known : ∃ escape ∈ scriptEscapes, escape.2 = c
  · obtain ⟨escape, member, rfl⟩ := known
    have own : ∀ escape ∈ scriptEscapes, javascriptEscapeChar escape.2 = some escape.1 := by decide
    exact .inl ⟨escape, member, own escape member, rfl⟩
  · have other : ∀ escape ∈ scriptEscapes, escape.2 ≠ c := fun escape member same =>
      known ⟨escape, member, same⟩
    have apart : ∀ d, d ∈ scriptEscapes.map Prod.snd → c ≠ d := by
      intro d member same
      obtain ⟨escape, inside, rfl⟩ := List.mem_map.mp member
      exact other escape inside same.symm
    refine .inr ⟨?_, other⟩
    unfold javascriptEscapeChar
    split
    · exact absurd rfl (apart '\'' (by decide))
    · exact absurd rfl (apart '"' (by decide))
    · exact absurd rfl (apart '\\' (by decide))
    · exact absurd rfl (apart '/' (by decide))
    · exact absurd rfl (apart '\r' (by decide))
    · exact absurd rfl (apart '\n' (by decide))
    · exact absurd rfl (apart '<' (by decide))
    · exact absurd rfl (apart '>' (by decide))
    · rfl

/-- Reading an escaped character gives its code units. -/
theorem body_piece {quote : Char} (known : quote = '\'' ∨ quote = '"') (c : Char)
    (text : List Char) :
    ScriptLiteral.body quote .plain (piece javascriptEscapeChar c ++ text) =
      (ScriptLiteral.body quote .plain text).map fun read =>
        (ScriptLiteral.units c.toNat ++ read.1, read.2) := by
  have other : quote ≠ '\\' := by
    rcases known with rfl | rfl
    · decide
    · decide
  rcases javascriptEscapeChar_cases c with ⟨escape, member, escaped, rfl⟩ | ⟨plain, unescaped⟩
  · rw [piece, escaped, Option.getD_some]
    simp only [scriptEscapes, List.mem_cons, List.not_mem_nil, or_false] at member
    rcases member with rfl | rfl | rfl | rfl | rfl | rfl | rfl | rfl
    · exact ScriptLiteral.body_escape other rfl
    · exact ScriptLiteral.body_escape other rfl
    · exact ScriptLiteral.body_escape other rfl
    · exact ScriptLiteral.body_escape other rfl
    · exact ScriptLiteral.body_escape other rfl
    · exact ScriptLiteral.body_escape other rfl
    · exact ScriptLiteral.body_hex other (h := 3) (l := 12) rfl rfl
    · exact ScriptLiteral.body_hex other (h := 3) (l := 14) rfl rfl
  · have apart : ∀ d, d ∈ scriptEscapes.map Prod.snd → c ≠ d := by
      intro d member same
      obtain ⟨escape, inside, rfl⟩ := List.mem_map.mp member
      exact unescaped escape inside same.symm
    have not_quote : c ≠ quote := by
      rcases known with rfl | rfl
      · exact apart '\'' (by decide)
      · exact apart '"' (by decide)
    have goes : ScriptLiteral.step quote .plain c text.head? =
        .go (ScriptLiteral.units c.toNat) .plain := by
      rw [ScriptLiteral.step, ScriptLiteral.plainStep, if_neg not_quote,
        if_neg (apart '\\' (by decide)), if_neg]
      rintro (feed | carriage)
      · exact apart '\n' (by decide) feed
      · exact apart '\r' (by decide) carriage
    rw [piece, plain, Option.getD_none, List.singleton_append, ScriptLiteral.body_go goes]

/-- An escaped string between quotes is a literal with the value of the string. -/
theorem literal_render {quote : Char} (known : quote = '\'' ∨ quote = '"') (s text : List Char) :
    ScriptLiteral.literal (quote :: (render javascriptEscapeChar s ++ quote :: text)) =
      some (ScriptLiteral.value s, text) := by
  rw [ScriptLiteral.literal, if_pos known]
  induction s with
  | nil =>
      have stops : ScriptLiteral.step quote .plain quote text.head? = .done := by
        rw [ScriptLiteral.step, ScriptLiteral.plainStep, if_pos rfl]
      exact ScriptLiteral.body_done stops
  | cons c s ih =>
      rw [render, List.flatMap_cons, ← render, List.append_assoc, body_piece known, ih]
      rfl

/-- No angle brackets are left. -/
theorem brackets_render (s : List Char) {c : Char} (member : c ∈ render javascriptEscapeChar s) :
    c ≠ '<' ∧ c ≠ '>' := by
  obtain ⟨d, -, written⟩ := List.mem_flatMap.mp member
  rcases javascriptEscapeChar_cases d with ⟨escape, known, escaped, -⟩ | ⟨plain, other⟩
  · rw [piece, escaped, Option.getD_some] at written
    have absent : ∀ escape ∈ scriptEscapes, '<' ∉ escape.1 ∧ '>' ∉ escape.1 := by decide
    obtain ⟨less, greater⟩ := absent escape known
    exact ⟨fun same => less (same ▸ written), fun same => greater (same ▸ written)⟩
  · rw [piece, plain, Option.getD_none, List.mem_singleton] at written
    subst written
    exact ⟨(other ("\\x3c".toList, '<') (by decide)).symm,
      (other ("\\x3e".toList, '>') (by decide)).symm⟩

/-! ## Strings -/

/-- A table of escapes without null characters. -/
theorem nul_notMem_render {escapeChar : Char → Option (List Char)} {s : List Char}
    (clean : ∀ c esc, escapeChar c = some esc → nul ∉ esc) (inside : nul ∉ s) :
    nul ∉ render escapeChar s := by
  intro member
  obtain ⟨c, own, written⟩ := List.mem_flatMap.mp member
  unfold piece at written
  cases found : escapeChar c with
  | none =>
      rw [found, Option.getD_none, List.mem_singleton] at written
      exact inside (written ▸ own)
  | some esc =>
      rw [found, Option.getD_some] at written
      exact clean c esc found written

/-- The escaped string is what the buffer holds. -/
theorem cString_escapeWith {escapeChar : Char → Option (List Char)} {s : List Char}
    (clean : ∀ c esc, escapeChar c = some esc → nul ∉ esc) (inside : nul ∉ s) :
    cString (escapeWith escapeChar s).buffer = render escapeChar s := by
  have visible : ∀ c ∈ render escapeChar s, decide (c ≠ nul) = true := fun c member =>
    decide_eq_true fun same => nul_notMem_render clean inside (same ▸ member)
  rw [escapeWith_eq, cString, List.takeWhile_append_of_pos visible,
    List.takeWhile_cons_of_neg (by simp), List.append_nil]

theorem htmlEscapeChar_clean (c : Char) (esc : List Char) (escaped : htmlEscapeChar c = some esc) :
    nul ∉ esc := by
  have clean : ∀ entity ∈ entities, nul ∉ entity.1 := by decide
  rcases htmlEscapeChar_cases c with ⟨entity, member, own, -⟩ | ⟨plain, -⟩
  · rw [own] at escaped
    cases escaped
    exact clean entity member
  · rw [plain] at escaped
    cases escaped

theorem javascriptEscapeChar_clean (c : Char) (esc : List Char)
    (escaped : javascriptEscapeChar c = some esc) : nul ∉ esc := by
  have clean : ∀ escape ∈ scriptEscapes, nul ∉ escape.1 := by decide
  rcases javascriptEscapeChar_cases c with ⟨escape, member, own, -⟩ | ⟨plain, -⟩
  · rw [own] at escaped
    cases escaped
    exact clean escape member
  · rw [plain] at escaped
    cases escaped

/-- Nothing is dropped: there is room for every character, and the string is as long as it was
measured. -/
structure Written (escapeChar : Char → Option (List Char)) (s : List Char) : Prop where
  room : ∀ front c back, s = front ++ c :: back →
    (writeAll escapeChar (measure escapeChar s) front).i + width escapeChar c ≤
      measure escapeChar s
  place : (escapeWith escapeChar s).i = measure escapeChar s
  length : (cString (escapeWith escapeChar s).buffer).length = measure escapeChar s

theorem written_of_clean {escapeChar : Char → Option (List Char)} {s : List Char}
    (clean : ∀ c esc, escapeChar c = some esc → nul ∉ esc) (inside : nul ∉ s) :
    Written escapeChar s := by
  refine ⟨?_, ?_, ?_⟩
  · rintro front c back rfl
    rw [writeAll_append, measure_eq, render_append, List.length_append, ← List.singleton_append,
      render_append, render_singleton, List.length_append, length_piece]
    dsimp only
    omega
  · rw [escapeWith_eq]
  · rw [cString_escapeWith clean inside, measure_eq]

/-- A string is escaped without loss and without danger. -/
structure Escaped (s : List Char) : Prop where
  htmlPlain : ∀ c ∈ htmlEscape (some s), c ≠ '<' ∧ c ≠ '>' ∧ c ≠ '"' ∧ c ≠ '\''
  htmlEntities : ∀ back, '&' :: back <:+ htmlEscape (some s) →
    ∃ entity ∈ entities, entity.1 <+: '&' :: back
  htmlLossless : unescape 0 (htmlEscape (some s)) = s
  script : ∃ out, javascriptEscape (some s) = some out ∧ (∀ c ∈ out, c ≠ '<' ∧ c ≠ '>') ∧
    ∀ quote, quote = '\'' ∨ quote = '"' → ∀ text,
      ScriptLiteral.literal (quote :: (out ++ quote :: text)) =
        some (ScriptLiteral.value s, text)
  htmlWritten : Written htmlEscapeChar s
  scriptWritten : Written javascriptEscapeChar s

/-- Every string is. -/
theorem escaped_of_nul {s : List Char} (inside : nul ∉ s) : Escaped s := by
  have html : htmlEscape (some s) = render htmlEscapeChar s :=
    cString_escapeWith htmlEscapeChar_clean inside
  have script : javascriptEscape (some s) = some (render javascriptEscapeChar s) :=
    congrArg some (cString_escapeWith javascriptEscapeChar_clean inside)
  refine ⟨fun c member => ?_, fun back tail => ?_, ?_, ?_, ?_, ?_⟩
  · exact plain_render s (html ▸ member)
  · exact ampersand_render s (html ▸ tail)
  · rw [html, unescape_render]
  · exact ⟨_, script, fun c member => brackets_render s member,
      fun quote known text => literal_render known s text⟩
  · exact written_of_clean htmlEscapeChar_clean inside
  · exact written_of_clean javascriptEscapeChar_clean inside

/-- A string that is dangerous everywhere. -/
theorem closing_escaped :
    htmlEscape (some "</a'&".toList) = "&lt;/a&apos;&amp;".toList ∧ Escaped "</a'&".toList :=
  ⟨by decide +kernel, escaped_of_nul (by decide)⟩

end Html

end Util

end ModAuthOpenidc
