import ModAuthOpenidc.Http.RedactBody

/-!
# Redaction of JSON responses

A response is written to the log with the values of its sensitive members masked. The text is not
parsed: for each member a pass over the text looks for its name in quotes, a colon and a quote, and
masks what follows up to the next quote. No name has a quote, so a pass is determined by the pieces
between the quotes of the text.
-/

namespace ModAuthOpenidc

namespace Http

/-! ## The pass over the text -/

/-- `_oidc_http_sensitive_json_members`. -/
def sensitiveJsonMembers : List String :=
  ["access_token", "refresh_token", "id_token", "client_secret", "registration_access_token"]

/-- What is skipped between a name and its value. -/
def isBlank (c : Char) : Bool := c = ' ' || c = '\t'

/-- The text behind a character, if it is the first one. -/
def behind (c : Char) : List Char → Option (List Char)
  | [] => none
  | d :: text => if d = c then some text else none

/-- The text of the value behind a name: blanks, a colon, blanks and a quote stand in front of it.
-/
def memberValue (text : List Char) : Option (List Char) :=
  (behind ':' (text.dropWhile isBlank)).bind fun text => behind '"' (text.dropWhile isBlank)

/-- The loop of `oidc_http_redact_json_member`: what is written, what is passed over but not written
yet, and the text from the cursor on. -/
def redactMemberLoop (needle : List Char) : Nat → List Char → List Char → List Char → List Char
  | 0, out, copied, pos => out ++ copied ++ pos
  | fuel + 1, out, copied, pos =>
      match strstr needle pos with
      | none => out ++ copied ++ pos
      | some found =>
          let text := found.drop needle.length
          match memberValue text with
          | none =>
              redactMemberLoop needle fuel out (copied ++ pos.take (pos.length - text.length)) text
          | some value =>
              redactMemberLoop needle fuel
                (out ++ (copied ++ pos.take (pos.length - value.length)) ++ logMask) []
                (value.dropWhile (· ≠ '"'))

/-- `oidc_http_redact_json_member`.  Every turn of the loop takes the word off the text. -/
def redactJsonMember (data needle : List Char) : List Char :=
  redactMemberLoop needle (data.length + 1) [] [] data

/-- The bytes that a pass allocates, that of the final null included. -/
def redactJsonSize (data needle : List Char) : Nat :=
  data.length + 3 * (data.length / (needle.length + 2) + 1) + 1

/-- A name in quotes. -/
def quoted (name : List Char) : List Char := '"' :: (name ++ ['"'])

/-- `oidc_http_redact_json_for_log`, with `OIDCDebugMaskSecrets`. -/
def redactJsonForLog (maskSecrets : Bool) (data : Option String) : Option String :=
  match data with
  | none => none
  | some data =>
      if maskSecrets then
        some (String.ofList (sensitiveJsonMembers.foldl
          (fun result member => redactJsonMember result (quoted member.toList)) data.toList))
      else some data

/-! ## The pass over the pieces -/

/-- What stands between the quotes of a name and a value. -/
def isColon (gap : List Char) : Bool :=
  (behind ':' (gap.dropWhile isBlank)).any fun rest => rest.all isBlank

/-- A pass over the pieces, each of which has a quote in front of it. -/
def maskMember (name : List Char) : List (List Char) → List (List Char)
  | piece :: gap :: value :: rest =>
      if piece = name then
        if isColon gap then piece :: gap :: logMask :: maskMember name rest
        else piece :: gap :: maskMember name (value :: rest)
      else piece :: maskMember name (gap :: value :: rest)
  | pieces => pieces

/-- The text of some pieces with a quote in front of each. -/
def piecesText (pieces : List (List Char)) : List Char := pieces.flatMap ('"' :: ·)

theorem piecesText_cons (piece : List Char) (pieces : List (List Char)) :
    piecesText (piece :: pieces) = '"' :: (piece ++ piecesText pieces) := by
  rw [piecesText, List.flatMap_cons, List.cons_append, piecesText]

section Values

variable {gap : List Char}

theorem dropWhile_append_of_neg {p : Char → Bool} {c : Char} (stops : p c = false)
    (front rest : List Char) :
    (front ++ c :: rest).dropWhile p = front.dropWhile p ++ c :: rest := by
  induction front with
  | nil => exact List.dropWhile_cons_of_neg (by simp [stops])
  | cons d front ih =>
      rw [List.cons_append, List.dropWhile_cons, List.dropWhile_cons, ih]
      split <;> rfl

theorem behind_eq_some_iff {c : Char} {text rest : List Char} :
    behind c text = some rest ↔ text = c :: rest := by
  cases text with
  | nil => simp [behind]
  | cons d text =>
      rw [behind, List.cons_eq_cons]
      by_cases same : d = c
      · rw [if_pos same, Option.some_inj, and_iff_right same]
      · rw [if_neg same]
        exact iff_of_false (Option.some_ne_none rest).symm fun both => same both.1

theorem behind_append {c d : Char} (different : d ≠ c) (front rest : List Char) :
    behind c (front ++ d :: rest) = (behind c front).map (· ++ d :: rest) := by
  cases front with
  | nil => exact if_neg different
  | cons e front =>
      rw [List.cons_append, behind, behind]
      split <;> rfl

/-- A value is found behind the next quote, if a colon stands in front of it. -/
theorem memberValue_append (clean : '"' ∉ gap) (value : List Char) :
    memberValue (gap ++ '"' :: value) = if isColon gap then some value else none := by
  rw [memberValue, isColon, dropWhile_append_of_neg (by decide), behind_append (by decide)]
  cases colon : behind ':' (gap.dropWhile isBlank) with
  | none => rfl
  | some text =>
      have inside : '"' ∉ text.dropWhile isBlank := by
        intro member
        refine clean ((List.dropWhile_sublist isBlank).subset ?_)
        rw [behind_eq_some_iff.mp colon]
        exact List.mem_cons_of_mem _ ((List.dropWhile_sublist isBlank).subset member)
      rw [Option.map_some, Option.bind_some, dropWhile_append_of_neg (by decide), Option.any_some]
      by_cases blank : text.dropWhile isBlank = []
      · rw [if_pos (List.all_eq_true.mpr (List.dropWhile_eq_nil_iff.mp blank)), blank]
        rfl
      · rw [if_neg fun all => blank (List.dropWhile_eq_nil_iff.mpr (List.all_eq_true.mp all))]
        obtain ⟨d, rest, found⟩ := List.exists_cons_of_ne_nil blank
        rw [found, List.mem_cons, not_or] at inside
        rw [found]
        exact if_neg fun quote => inside.1 quote.symm

/-- Without another quote there is no value. -/
theorem memberValue_of_notMem (clean : '"' ∉ gap) : memberValue gap = none := by
  rw [memberValue, Option.bind_eq_none_iff]
  intro text colon
  rw [Option.eq_none_iff_forall_ne_some]
  intro value quote
  refine clean ((List.dropWhile_sublist isBlank).subset ?_)
  rw [behind_eq_some_iff.mp colon]
  refine List.mem_cons_of_mem _ ((List.dropWhile_sublist isBlank).subset ?_)
  rw [behind_eq_some_iff.mp quote]
  exact List.mem_cons_self

/-- A colon and a quote stand in front of a value. -/
theorem memberValue_length {text value : List Char} (found : memberValue text = some value) :
    value.length + 2 ≤ text.length := by
  rw [memberValue, Option.bind_eq_some_iff] at found
  obtain ⟨rest, colon, quote⟩ := found
  have outer : (text.dropWhile isBlank).length ≤ text.length :=
    (List.dropWhile_sublist isBlank).length_le
  have inner : (rest.dropWhile isBlank).length ≤ rest.length :=
    (List.dropWhile_sublist isBlank).length_le
  rw [behind_eq_some_iff.mp colon, List.length_cons] at outer
  rw [behind_eq_some_iff.mp quote, List.length_cons] at inner
  omega

end Values

/-! ## The loop on pieces -/

section Loop

variable {needle front rest : List Char}

/-- What stands in front of all occurrences is passed over. -/
theorem redactMemberLoop_skip
    (same : strstr needle (front ++ rest) = strstr needle rest) (fuel : Nat)
    (out copied : List Char) :
    redactMemberLoop needle fuel out copied (front ++ rest) =
      redactMemberLoop needle fuel out (copied ++ front) rest := by
  cases fuel with
  | zero => rw [redactMemberLoop, redactMemberLoop, List.append_assoc, List.append_assoc,
      List.append_assoc]
  | succ fuel =>
      rw [redactMemberLoop, redactMemberLoop, same]
      cases occurs : strstr needle rest with
      | none => 
          dsimp only
          rw [List.append_assoc, List.append_assoc, List.append_assoc]
      | some found =>
          have short := (strstr_suffix occurs).length_le
          have taken : ∀ text : List Char, text.length ≤ found.length →
              (front ++ rest).take ((front ++ rest).length - text.length) =
                front ++ rest.take (rest.length - text.length) := by
            intro text shorter
            rw [List.length_append, Nat.add_sub_assoc (shorter.trans short),
              List.take_length_add_append]
          have behind : (found.drop needle.length).length ≤ found.length := by
            rw [List.length_drop]
            exact Nat.sub_le _ _
          dsimp only
          cases value : memberValue (found.drop needle.length) with
          | none =>
              dsimp only
              rw [taken _ behind, List.append_assoc]
          | some value' =>
              have shorter := memberValue_length value
              dsimp only
              rw [taken _ (by omega), List.append_assoc copied]

theorem redactMemberLoop_none {pos : List Char} (absent : strstr needle pos = none) (fuel : Nat)
    (out copied : List Char) :
    redactMemberLoop needle fuel out copied pos = out ++ copied ++ pos := by
  cases fuel with
  | zero => rfl
  | succ fuel => rw [redactMemberLoop, absent]

end Loop

/-! ## The pass is determined by the pieces -/

section Pieces

variable {name : List Char} {pieces : List (List Char)}

theorem dropWhile_piecesText {value : List Char} (clean : '"' ∉ value) (pieces : List (List Char)) :
    (value ++ piecesText pieces).dropWhile (· ≠ '"') = piecesText pieces := by
  have all : ∀ c ∈ value, decide (c ≠ '"') = true := by
    intro c member
    exact decide_eq_true (ne_of_mem_of_not_mem member clean)
  rw [List.dropWhile_append_of_pos all]
  cases pieces with
  | nil => rfl
  | cons piece pieces => 
      rw [piecesText_cons]
      exact List.dropWhile_cons_of_neg (by simp)

theorem strstr_quoted_of_notMem {text : List Char} (clean : '"' ∉ text) :
    strstr (quoted name) text = none := by
  have passed : strstr (quoted name) (text ++ []) = strstr (quoted name) [] :=
    strstr_append clean []
  rw [List.append_nil] at passed
  rw [passed]
  rfl

/-- A name is not found before the next piece, if that is not the name. -/
theorem strstr_quoted_piece {piece : List Char} (cleanName : '"' ∉ name) (clean : '"' ∉ piece)
    (other : piece ≠ name) (next : List (List Char)) :
    strstr (quoted name) ('"' :: (piece ++ piecesText next)) =
      strstr (quoted name) (piecesText next) := by
  have absent : ¬quoted name <+: '"' :: (piece ++ piecesText next) := by
    rw [quoted, List.cons_prefix_cons, and_iff_right rfl]
    rintro ⟨rest, same⟩
    rw [List.append_assoc, List.singleton_append] at same
    cases next with
    | nil =>
        rw [piecesText, List.flatMap_nil, List.append_nil] at same
        rw [← same] at clean
        exact clean (List.mem_append_right _ List.mem_cons_self)
    | cons after next =>
        have cut := congrArg (List.takeWhile (· ≠ '"')) same
        rw [piecesText_cons, takeWhile_ne_append cleanName, takeWhile_ne_append clean] at cut
        exact other cut.symm
  rw [strstr, if_neg absent, quoted, strstr_append clean]

theorem strstr_quoted_name (rest : List Char) :
    strstr (quoted name) (quoted name ++ rest) = some (quoted name ++ rest) :=
  strstr_eq_self_iff.mpr (List.prefix_append _ rest)

/-- Once the name is found, a value behind it is masked, or the cursor is put behind the name. -/
theorem redactMemberLoop_quoted (fuel : Nat) (out copied rest : List Char) :
    redactMemberLoop (quoted name) (fuel + 1) out copied (quoted name ++ rest) =
      match memberValue rest with
      | none => redactMemberLoop (quoted name) fuel out (copied ++ quoted name) rest
      | some value =>
          redactMemberLoop (quoted name) fuel
            (out ++ (copied ++ quoted name ++ rest.take (rest.length - value.length)) ++ logMask) []
            (value.dropWhile (· ≠ '"')) := by
  rw [redactMemberLoop, strstr_quoted_name]
  dsimp only
  rw [List.drop_left]
  cases found : memberValue rest with
  | none =>
      dsimp only
      rw [List.length_append, Nat.add_sub_cancel_right, List.take_left]
  | some value =>
      have shorter := memberValue_length found
      dsimp only
      rw [List.length_append, Nat.add_sub_assoc (by omega), List.take_length_add_append,
        List.append_assoc copied]

theorem piecesText_name (gap : List Char) (next : List (List Char)) :
    piecesText (name :: gap :: next) = quoted name ++ (gap ++ piecesText next) := by
  rw [piecesText_cons, piecesText_cons, quoted, List.cons_append, List.append_assoc,
    List.singleton_append]

theorem strstr_quoted_last {piece : List Char} (clean : '"' ∉ piece) :
    strstr (quoted name) (piecesText [piece]) = none := by
  have absent : ¬quoted name <+: '"' :: piece := by
    rw [quoted, List.cons_prefix_cons, and_iff_right rfl]
    exact fun front => clean (front.subset (List.mem_append_right _ List.mem_cons_self))
  rw [piecesText_cons, piecesText, List.flatMap_nil, List.append_nil, strstr, if_neg absent,
    strstr_quoted_of_notMem clean]

/-- A name that no further quote follows has no value. -/
theorem redactMemberLoop_last {gap : List Char} (clean : '"' ∉ gap) (fuel : Nat)
    (out copied : List Char) :
    redactMemberLoop (quoted name) fuel out copied (piecesText [name, gap]) =
      out ++ copied ++ piecesText [name, gap] := by
  cases fuel with
  | zero => rfl
  | succ fuel =>
      rw [piecesText_name, piecesText, List.flatMap_nil, List.append_nil, redactMemberLoop_quoted,
        memberValue_of_notMem clean]
      dsimp only
      rw [redactMemberLoop_none (strstr_quoted_of_notMem clean)]
      simp only [List.append_assoc]

/-- The loop writes what the pass makes of the pieces. -/
theorem redactMemberLoop_piecesText (cleanName : '"' ∉ name) (clean : ∀ piece ∈ pieces, '"' ∉ piece)
    {fuel : Nat} (enough : pieces.length ≤ fuel) (out copied : List Char) :
    redactMemberLoop (quoted name) fuel out copied (piecesText pieces) =
      out ++ copied ++ piecesText (maskMember name pieces) := by
  induction pieces using maskMember.induct name generalizing fuel out copied with
  | case1 gap value rest colon ih =>
      obtain ⟨fuel, rfl⟩ : ∃ less, fuel = less + 1 := ⟨fuel - 1, by simp at enough; omega⟩
      have cleanGap : '"' ∉ gap := clean gap (by simp)
      have cleanValue : '"' ∉ value := clean value (by simp)
      have later : ∀ piece ∈ rest, '"' ∉ piece := fun piece member => clean piece (by simp [member])
      have opening : (gap ++ '"' :: (value ++ piecesText rest)).take
          ((gap ++ '"' :: (value ++ piecesText rest)).length - (value ++ piecesText rest).length) =
            gap ++ ['"'] := by
        have whole : gap ++ '"' :: (value ++ piecesText rest) =
          gap ++ ['"'] ++ (value ++ piecesText rest) := by
          rw [List.append_assoc, List.singleton_append]
        rw [whole, List.length_append, Nat.add_sub_cancel_right, List.take_left]
      rw [piecesText_name, piecesText_cons, redactMemberLoop_quoted, memberValue_append cleanGap,
        if_pos colon]
      dsimp only
      rw [opening, dropWhile_piecesText cleanValue, ih later (by simp at enough; omega), maskMember,
        if_pos rfl, if_pos colon, piecesText_name, piecesText_cons]
      simp only [List.append_assoc, List.nil_append, List.append_nil, List.cons_append]
  | case2 gap value rest colon ih =>
      obtain ⟨fuel, rfl⟩ : ∃ less, fuel = less + 1 := ⟨fuel - 1, by simp at enough; omega⟩
      have cleanGap : '"' ∉ gap := clean gap (by simp)
      have later : ∀ piece ∈ value :: rest, '"' ∉ piece :=
        fun piece member => clean piece (List.mem_cons_of_mem _ (List.mem_cons_of_mem _ member))
      have passed : strstr (quoted name) (gap ++ piecesText (value :: rest)) =
          strstr (quoted name) (piecesText (value :: rest)) := strstr_append cleanGap _
      rw [piecesText_name, piecesText_cons, redactMemberLoop_quoted, memberValue_append cleanGap,
        if_neg colon, ← piecesText_cons]
      dsimp only
      rw [redactMemberLoop_skip passed, ih later (by simp at enough ⊢; omega),
        maskMember, if_pos rfl, if_neg colon, piecesText_name]
      simp only [List.append_assoc]
  | case3 piece gap value rest other ih =>
      have cleanPiece : '"' ∉ piece := clean piece List.mem_cons_self
      have later : ∀ piece ∈ gap :: value :: rest, '"' ∉ piece :=
        fun piece member => clean piece (List.mem_cons_of_mem _ member)
      rw [piecesText_cons, ← List.cons_append,
        redactMemberLoop_skip (strstr_quoted_piece cleanName cleanPiece other _),
        ih later (by simp at enough ⊢; omega), maskMember, if_neg other, piecesText_cons]
      simp only [List.append_assoc, List.cons_append]
  | case4 pieces short =>
      rw [maskMember]
      · rcases pieces with _ | ⟨piece, _ | ⟨gap, _ | ⟨value, rest⟩⟩⟩
        · exact redactMemberLoop_none rfl fuel out copied
        · exact redactMemberLoop_none
            (strstr_quoted_last (clean piece List.mem_cons_self)) fuel out copied
        · have cleanPiece : '"' ∉ piece := clean piece (by simp)
          have cleanGap : '"' ∉ gap := clean gap (by simp)
          by_cases same : piece = name
          · rw [same]
            exact redactMemberLoop_last cleanGap fuel out copied
          · refine redactMemberLoop_none ?_ fuel out copied
            rw [piecesText_cons, strstr_quoted_piece cleanName cleanPiece same,
              strstr_quoted_last cleanGap]
        · exact absurd rfl (short piece gap value rest)
      · exact short

theorem maskMember_clean (clean : ∀ piece ∈ pieces, '"' ∉ piece) :
    ∀ piece ∈ maskMember name pieces, '"' ∉ piece := by
  induction pieces using maskMember.induct name with
  | case1 gap value rest colon ih =>
      have later := ih fun piece member => clean piece (by simp [member])
      rw [maskMember, if_pos rfl, if_pos colon]
      intro piece member
      rcases List.mem_cons.mp member with rfl | member
      · exact clean _ List.mem_cons_self
      · rcases List.mem_cons.mp member with rfl | member
        · exact clean _ (by simp)
        · rcases List.mem_cons.mp member with rfl | member
          · decide
          · exact later piece member
  | case2 gap value rest colon ih =>
      have later := ih fun piece member =>
        clean piece (List.mem_cons_of_mem _ (List.mem_cons_of_mem _ member))
      rw [maskMember, if_pos rfl, if_neg colon]
      intro piece member
      rcases List.mem_cons.mp member with rfl | member
      · exact clean _ List.mem_cons_self
      · rcases List.mem_cons.mp member with rfl | member
        · exact clean _ (by simp)
        · exact later piece member
  | case3 first gap value rest other ih =>
      have later := ih fun piece member => clean piece (List.mem_cons_of_mem _ member)
      rw [maskMember, if_neg other]
      intro piece member
      rcases List.mem_cons.mp member with rfl | member
      · exact clean _ List.mem_cons_self
      · exact later piece member
  | case4 pieces short =>
      rw [maskMember]
      · exact clean
      · exact short

theorem length_le_piecesText (pieces : List (List Char)) :
    pieces.length ≤ (piecesText pieces).length := by
  induction pieces with
  | nil => exact Nat.le_refl 0
  | cons piece pieces ih =>
      rw [piecesText_cons, List.length_cons, List.length_cons, List.length_append]
      omega

/-- A pass over all pieces of a text; the first has no quote in front of it. -/
def maskPieces (name : List Char) : List (List Char) → List (List Char)
  | [] => []
  | first :: pieces => first :: maskMember name pieces

/-- The pieces of a text after a pass. -/
theorem redactJsonMember_pieces (cleanName : '"' ∉ name) (data : List Char) :
    (redactJsonMember data (quoted name)).splitOn '"' = maskPieces name (data.splitOn '"') := by
  obtain ⟨first, pieces, split⟩ := List.exists_cons_of_ne_nil (List.splitOn_ne_nil '"' data)
  have clean : ∀ piece ∈ first :: pieces, '"' ∉ piece := by
    rw [← split]
    exact fun piece => notMem_of_mem_splitOn
  have cleanFirst := clean first List.mem_cons_self
  have later : ∀ piece ∈ pieces, '"' ∉ piece := fun piece member => clean piece (by simp [member])
  have whole : data = first ++ piecesText pieces := by
    rw [piecesText, ← intercalate_cons, ← split, List.intercalate_splitOn]
  have passed : strstr (quoted name) (first ++ piecesText pieces) =
      strstr (quoted name) (piecesText pieces) := strstr_append cleanFirst _
  have enough : pieces.length ≤ data.length + 1 := by
    have bound := length_le_piecesText pieces
    rw [whole, List.length_append]
    omega
  have written : redactJsonMember data (quoted name) =
      ['"'].intercalate (first :: maskMember name pieces) := by
    rw [intercalate_cons, ← piecesText, redactJsonMember]
    conv_lhs => rw [whole]
    rw [redactMemberLoop_skip passed, redactMemberLoop_piecesText cleanName later
      (by rwa [whole] at enough)]
    rfl
  rw [written, split, maskPieces, List.splitOn_intercalate]
  · intro piece member
    rcases List.mem_cons.mp member with rfl | member
    · exact cleanFirst
    · exact maskMember_clean later piece member
  · exact List.cons_ne_nil _ _

end Pieces

/-! ## The buffer -/

/-- Each mask that is written has its own part of the text in front of it. -/
theorem redactMemberLoop_length (needle : List Char) (fuel : Nat) (out copied pos : List Char) :
    ∃ masks, masks * (needle.length + 2) ≤ pos.length ∧
      (redactMemberLoop needle fuel out copied pos).length ≤
        out.length + copied.length + pos.length + 3 * masks := by
  induction fuel generalizing out copied pos with
  | zero =>
      refine ⟨0, by omega, ?_⟩
      rw [redactMemberLoop, List.length_append, List.length_append]
      omega
  | succ fuel ih =>
      rw [redactMemberLoop]
      cases occurs : strstr needle pos with
      | none =>
          refine ⟨0, by omega, ?_⟩
          dsimp only
          rw [List.length_append, List.length_append]
          omega
      | some found =>
          have short := (strstr_suffix occurs).length_le
          have long := (prefix_of_strstr occurs).length_le
          have behindName : (found.drop needle.length).length = found.length - needle.length :=
            List.length_drop
          dsimp only
          cases next : memberValue (found.drop needle.length) with
          | none =>
              obtain ⟨masks, fits, bound⟩ := ih out
                (copied ++ pos.take (pos.length - (found.drop needle.length).length))
                (found.drop needle.length)
              rw [List.length_append, List.length_take] at bound
              exact ⟨masks, by omega, by dsimp only; omega⟩
          | some value =>
              have shorter := memberValue_length next
              have rest : (value.dropWhile (· ≠ '"')).length ≤ value.length :=
                (List.dropWhile_sublist _).length_le
              obtain ⟨masks, fits, bound⟩ := ih
                (out ++ (copied ++ pos.take (pos.length - value.length)) ++ logMask) []
                (value.dropWhile (· ≠ '"'))
              refine ⟨masks + 1, ?_, bound.trans ?_⟩
              · rw [Nat.succ_mul]
                omega
              · rw [List.length_append, List.length_append, List.length_append,
                  List.length_take, logMask,
                  List.length_cons, List.length_cons, List.length_singleton, List.length_nil]
                omega

/-- A pass writes no more than what is allocated. -/
theorem redactJsonMember_length (data needle : List Char) :
    (redactJsonMember data needle).length + 1 ≤ redactJsonSize data needle := by
  obtain ⟨masks, fits, bound⟩ := redactMemberLoop_length needle (data.length + 1) [] [] data
  have few : masks ≤ data.length / (needle.length + 2) :=
    (Nat.le_div_iff_mul_le (Nat.succ_pos _)).mpr fits
  rw [List.length_nil] at bound
  rw [redactJsonMember, redactJsonSize]
  omega

end Http

end ModAuthOpenidc
