import Mathlib

/-!
# Resolving references as browsers do

The part of the URL standard that decides where a browser goes from an `https` page: white space is
stripped, backslashes count as slashes, and the host is what the host parser makes of a piece of the
authority.  Paths, queries and fragments play no role.
-/

namespace WebUrl

/-! ## Characters -/

/-- A C0 control or a space. -/
def isControl (c : Char) : Bool := c.toNat ≤ 32

/-- These are removed wherever they occur. -/
def isTabOrNewline (c : Char) : Bool := c = '\t' || c = '\n' || c = '\r'

/-- Both slashes count for web URLs. -/
def isSlash (c : Char) : Bool := c = '/' || c = '\\'

/-- The end of an authority. -/
def isDelimiter (c : Char) : Bool := isSlash c || c = '?' || c = '#'

/-- A character of a scheme. -/
def isSchemeChar (c : Char) : Bool :=
  c.isAlpha || c.isDigit || c = '+' || c = '-' || c = '.'

/-- Letters in lower case. -/
def lower (text : List Char) : List Char := text.map Char.toLower

/-- A text without controls. -/
def visible (text : List Char) : List Char := text.filter fun c => !isControl c

/-! ## Hosts -/

/-- The host parser for web URLs, as far as it matters here. -/
structure HostParser where
  /-- The host, unless the text is not valid. -/
  parse : List Char → Option (List Char)
  /-- Upper and lower case are the same. -/
  parse_lower : ∀ text, parse (lower text) = parse text
  /-- A host is not empty. -/
  parse_nil : parse [] = none
  /-- A host has no controls or spaces. -/
  parse_control : ∀ text, (∃ c ∈ text, isControl c = true) → parse text = none
  /-- Brackets enclose an IPv6 address. -/
  parse_bracket : ∀ text, ('[' ∈ text ∨ ']' ∈ text) → (parse text).isSome = true →
    ∃ inner, text = '[' :: inner ++ [']'] ∧ ':' ∈ inner ∧ '[' ∉ inner ∧ ']' ∉ inner

/-- Split at the first colon outside brackets. -/
def splitPort : Bool → List Char → List Char × Option (List Char)
  | _, [] => ([], none)
  | inside, c :: rest =>
      if c = ':' ∧ inside = false then ([], some rest)
      else
        let inside := if c = '[' then true else if c = ']' then false else inside
        (c :: (splitPort inside rest).1, (splitPort inside rest).2)

/-- A port is a small number, or empty. -/
def portOk : Option (List Char) → Bool
  | none => true
  | some digits => digits.all Char.isDigit &&
      digits.foldl (fun value digit => value * 10 + (digit.toNat - '0'.toNat)) 0 ≤ 65535

/-- The host and the port are behind the last `@`. -/
def hostAndPort (authority : List Char) : List Char := authority.rtakeWhile (· ≠ '@')

/-- The host of an authority. -/
def authorityHost (parser : HostParser) (authority : List Char) : Option (List Char) :=
  let (host, port) := splitPort false (hostAndPort authority)
  if portOk port then parser.parse host else none

/-! ## References -/

/-- Where a browser goes. -/
inductive Target
  /-- To a web page: `http` or `https`. -/
  | web (scheme : List Char) (host : List Char)
  /-- To something else, if anywhere. -/
  | other (scheme : List Char)
  deriving DecidableEq

/-- White space is stripped from both ends, and line breaks and tabs are removed. -/
def clean (text : List Char) : List Char :=
  ((text.dropWhile isControl).rdropWhile isControl).filter fun c => !isTabOrNewline c

/-- The scheme of a reference, and what follows. -/
def schemeOf (text : List Char) : Option (List Char × List Char) :=
  match text.takeWhile isSchemeChar, text.dropWhile isSchemeChar with
  | first :: front, ':' :: rest =>
      if first.isAlpha then some (lower (first :: front), rest) else none
  | _, _ => none

/-- Any number of slashes, and an authority. -/
def fromAuthority (parser : HostParser) (scheme text : List Char) : Option Target :=
  (authorityHost parser ((text.dropWhile isSlash).takeWhile fun c => !isDelimiter c)).map
    (Target.web scheme)

/-- `https`. -/
def https : List Char := ['h', 't', 't', 'p', 's']

/-- `http`. -/
def http : List Char := ['h', 't', 't', 'p']

/-- A reference without a scheme, on a page of the host `base`. -/
def relative (parser : HostParser) (base : List Char) : List Char → Option Target
  | first :: second :: rest =>
      if isSlash first && isSlash second then fromAuthority parser https rest
      else some (.web https base)
  | _ => some (.web https base)

/-- Where a browser goes from an `https` page of the host `base`. -/
def resolve (parser : HostParser) (base text : List Char) : Option Target :=
  match schemeOf (clean text) with
  | none => relative parser base (clean text)
  | some (scheme, rest) =>
      if scheme = https then relative parser base rest
      else if scheme = http then fromAuthority parser http rest
      else some (.other scheme)

/-- A reference that does not name a scheme other than those of the web. -/
def Web (text : List Char) : Prop :=
  ∀ scheme rest, schemeOf (clean text) = some (scheme, rest) → scheme = https ∨ scheme = http

/-! ## Backslashes -/

/-- The other slash for a backslash. -/
def toSlash (c : Char) : Char := if c = '\\' then '/' else c

theorem toSlash_of_ne {c : Char} (other : c ≠ '\\') : toSlash c = c := if_neg other

/-- A test that makes no difference between the slashes. -/
theorem test_toSlash (test : Char → Bool) (same : test '/' = test '\\') (c : Char) :
    test (toSlash c) = test c := by
  unfold toSlash
  split
  · next backslash => rw [backslash, same]
  · rfl

theorem map_toSlash_of_notMem {text : List Char} (clean : '\\' ∉ text) :
    text.map toSlash = text := by
  refine (List.map_congr_left fun c member => ?_).trans (List.map_id text)
  exact toSlash_of_ne fun backslash => clean (backslash ▸ member)

theorem dropWhile_toSlash (test : Char → Bool) (same : test '/' = test '\\') (text : List Char) :
    (text.map toSlash).dropWhile test = (text.dropWhile test).map toSlash := by
  rw [List.dropWhile_map]
  congr 2
  funext c
  exact test_toSlash test same c

theorem takeWhile_toSlash (test : Char → Bool) (same : test '/' = test '\\') (text : List Char) :
    (text.map toSlash).takeWhile test = (text.takeWhile test).map toSlash := by
  rw [List.takeWhile_map]
  congr 2
  funext c
  exact test_toSlash test same c

theorem clean_toSlash (text : List Char) : clean (text.map toSlash) = (clean text).map toSlash := by
  have control : isControl '/' = isControl '\\' := by decide
  have line : (!isTabOrNewline '/') = !isTabOrNewline '\\' := by decide
  rw [clean, dropWhile_toSlash isControl control, List.rdropWhile, ← List.map_reverse,
    dropWhile_toSlash isControl control, ← List.map_reverse, List.filter_map]
  congr 1
  refine List.filter_congr fun c _ => ?_
  exact test_toSlash (fun c => !isTabOrNewline c) line c

theorem schemeOf_toSlash (text : List Char) :
    schemeOf (text.map toSlash) = (schemeOf text).map fun (scheme, rest) =>
        (scheme, rest.map toSlash) := by
  have same : isSchemeChar '/' = isSchemeChar '\\' := by decide
  have front : '\\' ∉ text.takeWhile isSchemeChar := by
    intro member
    have letter := List.mem_takeWhile_imp member
    exact absurd letter (by decide)
  rw [schemeOf, takeWhile_toSlash _ same, map_toSlash_of_notMem front,
    dropWhile_toSlash _ same, schemeOf]
  cases text.takeWhile isSchemeChar with
  | nil => rfl
  | cons first letters =>
      cases text.dropWhile isSchemeChar with
      | nil => rfl
      | cons c rest =>
          by_cases colon : c = ':'
          · subst colon
            have kept : toSlash ':' = ':' := by decide
            simp only [List.map_cons, kept]
            split <;> rfl
          · have other : toSlash c ≠ ':' := by
              unfold toSlash
              split
              · decide
              · exact colon
            simp only [List.map_cons]
            split
            · next same => exact absurd (List.cons.inj same).1 other
            · split
              · next same => exact absurd (List.cons.inj same).1 colon
              · rfl

theorem fromAuthority_toSlash (parser : HostParser) (scheme text : List Char) :
    fromAuthority parser scheme (text.map toSlash) = fromAuthority parser scheme text := by
  have slash : isSlash '/' = isSlash '\\' := by decide
  have delimiter : (!isDelimiter '/') = !isDelimiter '\\' := by decide
  have inside : '\\' ∉ (text.dropWhile isSlash).takeWhile fun c => !isDelimiter c := by
    intro member
    have letter := List.mem_takeWhile_imp member
    exact absurd letter (by decide)
  rw [fromAuthority, dropWhile_toSlash _ slash,
    takeWhile_toSlash (fun c => !isDelimiter c) delimiter, map_toSlash_of_notMem inside,
    fromAuthority]

theorem relative_toSlash (parser : HostParser) (base text : List Char) :
    relative parser base (text.map toSlash) = relative parser base text := by
  have slash : isSlash '/' = isSlash '\\' := by decide
  match text with
  | [] => rfl
  | [_] => rfl
  | first :: second :: rest =>
      rw [List.map_cons, List.map_cons, relative, relative, test_toSlash _ slash,
        test_toSlash _ slash,
        fromAuthority_toSlash]

/-- It makes no difference which slashes are used. -/
theorem resolve_toSlash (parser : HostParser) (base text : List Char) :
    resolve parser base (text.map toSlash) = resolve parser base text := by
  rw [resolve, clean_toSlash, schemeOf_toSlash, resolve]
  cases schemeOf (clean text) with
  | none => exact relative_toSlash parser base _
  | some found =>
      obtain ⟨scheme, rest⟩ := found
      simp only [Option.map_some, relative_toSlash, fromAuthority_toSlash]

theorem web_toSlash (text : List Char) : Web (text.map toSlash) ↔ Web text := by
  rw [Web, clean_toSlash, schemeOf_toSlash, Web]
  cases schemeOf (clean text) with
  | none => simp
  | some found =>
      obtain ⟨scheme, rest⟩ := found
      simp

/-! ## References with an authority -/

section Lists

variable {α : Type} {test : α → Bool}

theorem dropWhile_append_of_neg (front : List α) {a : α} (stops : test a = false) (rest : List α) :
    (front ++ a :: rest).dropWhile test = front.dropWhile test ++ a :: rest := by
  induction front with
  | nil => simp [stops]
  | cons b front ih =>
      rw [List.cons_append, List.dropWhile_cons, List.dropWhile_cons]
      split
      · exact ih
      · rfl

theorem rdropWhile_append_of_neg (front : List α) {rest : List α} {a : α} (member : a ∈ rest)
    (stops : test a = false) : (front ++ rest).rdropWhile test = front ++ rest.rdropWhile test := by
  obtain ⟨before, after, rfl⟩ := List.append_of_mem member
  have flip : ∀ front : List α, (front ++ (before ++ a :: after)).reverse =
      after.reverse ++ a :: (before.reverse ++ front.reverse) := by
    intro front
    simp
  have whole := flip front
  have part := flip []
  rw [List.nil_append] at part
  rw [List.rdropWhile, List.rdropWhile, whole, part, dropWhile_append_of_neg _ stops,
    dropWhile_append_of_neg _ stops]
  simp

end Lists

/-- A reference in which an authority follows two slashes, at the beginning or behind a scheme. -/
structure Parts (text front authority rest : List Char) : Prop where
  split : text = front ++ '/' :: '/' :: (authority ++ rest)
  front : front = [] ∨ ∃ scheme, front = scheme ++ [':'] ∧ ':' ∉ scheme ∧
      '/' ∉ scheme ∧ '\\' ∉ scheme
  authority : ∀ c ∈ authority, isDelimiter c = false
  rest : ∀ c ∈ rest.head?, isDelimiter c = true

/-- What is left of a text after white space was stripped. -/
def Stripped (text left : List Char) : Prop :=
  ∃ kept blank, text = kept ++ blank ∧ (∀ c ∈ blank, isControl c = true) ∧
    left = kept.filter fun c => !isTabOrNewline c

section Parts

variable {text front authority rest : List Char}

theorem isControl_of_isDelimiter {c : Char} (delimiter : isDelimiter c = true) :
    isControl c = false ∧ isTabOrNewline c = false := by
  simp only [isDelimiter, isSlash, Bool.or_eq_true, decide_eq_true_eq] at delimiter
  rcases delimiter with ((rfl | rfl) | rfl) | rfl <;> decide

/-- Stripping an authority and what follows. -/
theorem exists_stripped (authority : List Char)
    (ends : ∀ c ∈ rest.head?, isDelimiter c = true) :
    ∃ left rest', ((authority ++ rest).rdropWhile isControl).filter (fun c => !isTabOrNewline c) =
        left ++ rest' ∧ Stripped authority left ∧ ∀ c ∈ rest'.head?, isDelimiter c = true := by
  cases rest with
  | nil =>
      refine ⟨_, [], ?_, ⟨authority.rdropWhile isControl,
        authority.rtakeWhile isControl, ?_, ?_, rfl⟩,
        ends⟩
      · rw [List.append_nil, List.append_nil]
      · exact List.rdropWhile_append_rtakeWhile.symm
      · intro c member
        exact List.mem_rtakeWhile_imp member
  | cons d rest =>
      have delimiter := ends d rfl
      obtain ⟨uncontrolled, kept⟩ := isControl_of_isDelimiter delimiter
      have split : (d :: rest).rdropWhile isControl = d :: rest.rdropWhile isControl := by
        rw [List.rdropWhile, List.reverse_cons, dropWhile_append_of_neg _ uncontrolled,
          List.rdropWhile]
        simp
      refine ⟨authority.filter fun c => !isTabOrNewline c,
        d :: (rest.rdropWhile isControl).filter fun c => !isTabOrNewline c, ?_,
        ⟨authority, [], ?_, nofun, rfl⟩, ?_⟩
      · rw [rdropWhile_append_of_neg authority List.mem_cons_self uncontrolled, split,
          List.filter_append, List.filter_cons_of_pos (by simp [kept])]
      · rw [List.append_nil]
      · intro c first
        cases first
        exact delimiter

/-- Stripping keeps the parts. -/
theorem Parts.clean (parts : Parts text front authority rest)
    (visible : ∃ c ∈ authority, isControl c = false) :
    ∃ front' left rest', Parts (clean text) front' left rest' ∧ Stripped authority left := by
  obtain ⟨left, rest', stripped, kept, ends⟩ := exists_stripped authority parts.rest
  obtain ⟨c, member, plain⟩ := visible
  have slash : isControl '/' = false := by decide
  have tidy : ∀ text : List Char, ('/' :: '/' :: text).filter (fun c => !isTabOrNewline c) =
      '/' :: '/' :: text.filter fun c => !isTabOrNewline c := fun _ => rfl
  have colon : isControl ':' = false := by decide
  refine ⟨(front.dropWhile isControl).filter fun c => !isTabOrNewline c, left, rest', ?_, kept⟩
  have text_eq : WebUrl.clean text = (front.dropWhile isControl).filter
    (fun c => !isTabOrNewline c) ++
      '/' :: '/' :: (left ++ rest') := by
    have back : c ∈ '/' :: '/' :: (authority ++ rest) :=
      List.mem_cons_of_mem _ (List.mem_cons_of_mem _ (List.mem_append_left _ member))
    have slashes : ('/' :: '/' :: (authority ++ rest)).rdropWhile isControl =
        '/' :: '/' :: (authority ++ rest).rdropWhile isControl :=
      rdropWhile_append_of_neg ['/', '/'] (List.mem_append_left rest member) plain
    rw [WebUrl.clean, parts.split, dropWhile_append_of_neg front slash,
      rdropWhile_append_of_neg _ back plain, slashes, List.filter_append, tidy, stripped]
  refine ⟨text_eq, ?_, ?_, ends⟩
  · rcases parts.front with rfl | ⟨scheme, rfl, noColon, noSlash, noBackslash⟩
    · exact .inl rfl
    · have subset : (scheme.dropWhile isControl).filter (fun c => !isTabOrNewline c) ⊆ scheme :=
        fun c member => (List.dropWhile_sublist _).subset (List.mem_of_mem_filter member)
      refine .inr ⟨(scheme.dropWhile isControl).filter fun c => !isTabOrNewline c, ?_,
        fun member => noColon (subset member), fun member => noSlash (subset member),
        fun member => noBackslash (subset member)⟩
      rw [dropWhile_append_of_neg scheme colon, List.filter_append]
      rfl
  · obtain ⟨kept, blank, rfl, -, rfl⟩ := kept
    intro c member
    exact parts.authority c (List.mem_append_left _ (List.mem_of_mem_filter member))

/-- An authority is read up to its end. -/
theorem Parts.fromAuthority (parts : Parts text front authority rest) (nonempty : authority ≠ [])
    (parser : HostParser) (scheme slashes : List Char) (only : ∀ c ∈ slashes, isSlash c = true) :
    fromAuthority parser scheme (slashes ++ (authority ++ rest)) =
      (authorityHost parser authority).map (Target.web scheme) := by
  have first : (slashes ++ (authority ++ rest)).dropWhile isSlash = authority ++ rest := by
    rw [List.dropWhile_append_of_pos only]
    cases letters : authority with
    | nil => exact absurd letters nonempty
    | cons c authority =>
        have inside := parts.authority c (letters ▸ List.mem_cons_self)
        have stops : isSlash c = false := by
          rw [isDelimiter, Bool.or_eq_false_iff, Bool.or_eq_false_iff] at inside
          exact inside.1.1
        rw [List.cons_append, List.dropWhile_cons_of_neg (by simp [stops])]
  have last : (authority ++ rest).takeWhile (fun c => !isDelimiter c) = authority := by
    rw [List.takeWhile_append_of_pos fun c member => by simp [parts.authority c member]]
    cases letters : rest with
    | nil => simp
    | cons d rest =>
        have delimiter := parts.rest d (by simp [letters])
        rw [List.takeWhile_cons_of_neg (by simp [delimiter]), List.append_nil]
  rw [WebUrl.fromAuthority, first, last]

/-- The scheme of a reference with an authority is what stands in front of it. -/
theorem Parts.schemeOf (parts : Parts text front authority rest) {scheme after : List Char}
    (found : schemeOf text = some (scheme, after)) : after = '/' :: '/' :: (authority ++ rest) := by
  have slash : isSchemeChar '/' = false := by decide
  have colon : isSchemeChar ':' = false := by decide
  rw [WebUrl.schemeOf, parts.split] at found
  rcases parts.front with rfl | ⟨letters, rfl, noColon, -⟩
  · rw [List.nil_append, List.takeWhile_cons_of_neg (by simp [slash])] at found
    cases found
  · rw [List.append_assoc, List.singleton_append, dropWhile_append_of_neg _ colon] at found
    split at found
    · next first more after' _ behind =>
        split at found
        · cases found
          cases stopped : letters.dropWhile isSchemeChar with
          | nil =>
              rw [stopped] at behind
              exact (List.cons.inj behind).2.symm
          | cons c others =>
              rw [stopped] at behind
              have member : c ∈ letters :=
                (List.dropWhile_sublist _).subset (stopped ▸ List.mem_cons_self)
              exact absurd ((List.cons.inj behind).1 ▸ member) noColon
        · cases found
    · cases found

/-- Without a scheme, the authority counts if it comes first. -/
theorem Parts.relative (parts : Parts text front authority rest) (nonempty : authority ≠ [])
    (parser : HostParser) (base : List Char) :
    relative parser base text = some (.web https base) ∨
      relative parser base text = (authorityHost parser authority).map (Target.web https) := by
  rcases parts.front with rfl | ⟨scheme, rfl, -, noSlash, noBackslash⟩
  · refine .inr ?_
    rw [parts.split]
    exact parts.fromAuthority nonempty parser https [] nofun
  · refine .inl ?_
    rw [parts.split]
    cases scheme with
    | nil => rfl
    | cons c scheme =>
        have letter : isSlash c = false := by
          rw [isSlash, Bool.or_eq_false_iff, decide_eq_false_iff_not, decide_eq_false_iff_not]
          exact ⟨fun same => noSlash (same ▸ List.mem_cons_self),
            fun same => noBackslash (same ▸ List.mem_cons_self)⟩
        cases scheme with
        | nil => simp [WebUrl.relative, letter]
        | cons d scheme => simp [WebUrl.relative, letter]

end Parts

/-! ## Letters -/

/-- Lower case letters come from letters. -/
theorem toLower_cases (c : Char) :
    c.toLower = c ∨ (65 ≤ c.toNat ∧ c.toNat ≤ 90 ∧ c.toLower.toNat = c.toNat + 32) := by
  unfold Char.toLower
  split
  · next upper =>
      obtain ⟨low, high⟩ := upper
      have least : 65 ≤ c.toNat := UInt32.le_iff_toNat_le.mp low
      have most : c.toNat ≤ 90 := UInt32.le_iff_toNat_le.mp high
      have shifted : (c.val + ('a'.val - 'A'.val)).toNat = c.toNat + 32 := by
        rw [UInt32.toNat_add]
        exact Nat.mod_eq_of_lt (lt_of_le_of_lt (Nat.add_le_add_right most _) (by decide))
      exact .inr ⟨least, most, shifted⟩
  · exact .inl rfl

theorem isControl_toLower (c : Char) : isControl c.toLower = isControl c := by
  rcases toLower_cases c with same | ⟨low, -, shifted⟩
  · rw [same]
  · have before : ¬c.toNat ≤ 32 := by omega
    have after : ¬c.toLower.toNat ≤ 32 := by omega
    simp only [isControl, before, after]

theorem mem_of_mem_lower {c : Char} {text : List Char} (sign : c.toNat < 97)
    (member : c ∈ lower text) :
    c ∈ text := by
  obtain ⟨d, inside, rfl⟩ := List.mem_map.mp member
  rcases toLower_cases d with same | ⟨low, -, shifted⟩
  · rwa [same]
  · omega

theorem mem_lower {c : Char} {text : List Char} (same : c.toLower = c) (member : c ∈ text) :
    c ∈ lower text :=
  List.mem_map.mpr ⟨c, member, same⟩

theorem lower_visible (text : List Char) : lower (visible text) = visible (lower text) := by
  rw [lower, visible, visible, lower, List.filter_map]
  congr 1
  refine List.filter_congr fun c _ => ?_
  simp [isControl_toLower]

theorem isControl_of_isTabOrNewline {c : Char} (line : isTabOrNewline c = true) :
    isControl c = true := by
  simp only [isTabOrNewline, Bool.or_eq_true, decide_eq_true_eq] at line
  rcases line with (rfl | rfl) | rfl <;> decide

/-- Removing controls does not change what is visible. -/
theorem visible_filter {test : Char → Bool} (controls : ∀ c, test c = false → isControl c = true)
    (text : List Char) : visible (text.filter test) = visible text := by
  rw [visible, visible, List.filter_filter]
  refine List.filter_congr fun c _ => ?_
  cases kept : test c with
  | true => rw [Bool.and_true]
  | false => rw [controls c kept]; rfl

/-- What is written between brackets is visible between brackets. -/
theorem lower_visible_bracketed (text : List Char) :
    lower (visible ('[' :: (text ++ [']']))) = '[' :: (lower (visible text) ++ [']']) := by
  have opens : isControl '[' = false := by decide
  have closes : isControl ']' = false := by decide
  rw [visible, List.filter_cons_of_pos (by simp [opens]), List.filter_append,
    List.filter_cons_of_pos (by simp [closes]), List.filter_nil, lower, List.map_cons,
        List.map_append]
  rfl

theorem mem_lower_visible {c : Char} {text : List Char} (plain : isControl c = false)
    (same : c.toLower = c) (member : c ∈ text) : c ∈ lower (visible text) :=
  mem_lower same (List.mem_filter.mpr ⟨member, by rw [plain]; rfl⟩)

/-! ## Valid hosts -/

section Hosts

variable {parser : HostParser}

theorem visible_of_parse {text host : List Char} (valid : parser.parse text = some host) :
    visible text = text := by
  refine List.filter_eq_self.mpr fun c member => ?_
  cases control : isControl c with
  | false => rfl
  | true =>
      rw [parser.parse_control text ⟨c, member, control⟩] at valid
      cases valid

/-- Texts that are the same in lower case are the same host. -/
theorem host_eq {curHost base : List Char} (current : parser.parse curHost = some base)
    {text host : List Char}
    (valid : parser.parse text = some host) (same : lower text = lower curHost) : host = base := by
  rw [← parser.parse_lower, same, parser.parse_lower, current] at valid
  exact (Option.some.inj valid).symm

end Hosts

/-! ## What is stripped -/

theorem Stripped.visible {text left : List Char} (stripped : Stripped text left) :
    visible left = visible text := by
  obtain ⟨kept, blank, rfl, controls, rfl⟩ := stripped
  have nothing : WebUrl.visible blank = [] :=
    List.filter_eq_nil_iff.mpr fun c member => by simp [controls c member]
  rw [visible_filter fun c line => isControl_of_isTabOrNewline (by simpa using line)]
  rw [WebUrl.visible, WebUrl.visible, List.filter_append]
  rw [WebUrl.visible] at nothing
  rw [nothing, List.append_nil]

theorem Stripped.subset {text left : List Char} (stripped : Stripped text left) : left ⊆ text := by
  obtain ⟨kept, blank, rfl, -, rfl⟩ := stripped
  exact fun c member => List.mem_append_left _ (List.mem_of_mem_filter member)

/-- Stripping does not go beyond a visible character. -/
theorem Stripped.append {front back left : List Char} {c : Char} (plain : isControl c = false)
    (stripped : Stripped (front ++ c :: back) left) :
    ∃ left', Stripped back left' ∧
        left = front.filter (fun c => !isTabOrNewline c) ++ c :: left' := by
  obtain ⟨kept, blank, whole, controls, rfl⟩ := stripped
  have line : isTabOrNewline c = false := by
    cases line : isTabOrNewline c with
    | false => rfl
    | true => rw [isControl_of_isTabOrNewline line] at plain; cases plain
  rcases List.append_eq_append_iff.mp whole with ⟨middle, rfl, rest⟩ | ⟨middle, rfl, rest⟩
  · cases middle with
    | nil =>
        rw [List.nil_append] at rest
        have member : c ∈ blank := rest ▸ List.mem_cons_self
        rw [controls c member] at plain
        cases plain
    | cons d middle =>
        rw [List.cons_append] at rest
        obtain ⟨rfl, rfl⟩ := List.cons.inj rest
        refine ⟨_, ⟨middle, blank, rfl, controls, rfl⟩, ?_⟩
        rw [List.filter_append, List.filter_cons_of_pos (by simp [line])]
  · have member : c ∈ blank := rest ▸ List.mem_append_right _ List.mem_cons_self
    rw [controls c member] at plain
    cases plain

/-- The user is what ends with the last `@`. -/
theorem exists_user (authority : List Char) :
    ∃ user, authority = user ++ hostAndPort authority ∧ '@' ∉ hostAndPort authority ∧
      (user = [] ∨ ∃ name, user = name ++ ['@']) := by
  have named : '@' ∉ hostAndPort authority := by
    intro member
    have other := List.mem_rtakeWhile_imp member
    simp at other
  refine ⟨authority.rdropWhile (· ≠ '@'), List.rdropWhile_append_rtakeWhile.symm, named, ?_⟩
  by_cases nothing : authority.rdropWhile (· ≠ '@') = []
  · exact .inl nothing
  · have last := List.rdropWhile_last_not _ _ nothing
    simp only [ne_eq, decide_not, Bool.not_eq_true', decide_eq_false_iff_not, not_not] at last
    have split := List.dropLast_append_getLast nothing
    simp only [ne_eq, decide_not] at split
    rw [last] at split
    exact .inr ⟨_, by simpa using split.symm⟩

theorem hostAndPort_append {user host : List Char} (ends : user = [] ∨ ∃ name, user = name ++ ['@'])
    (clean : '@' ∉ host) : hostAndPort (user ++ host) = host := by
  have all : ∀ c ∈ host.reverse, decide (c ≠ '@') = true := by
    intro c member
    exact decide_eq_true fun same => clean (same ▸ List.mem_reverse.mp member)
  rw [hostAndPort, List.rtakeWhile, List.reverse_append, List.takeWhile_append_of_pos all]
  rcases ends with rfl | ⟨name, rfl⟩
  · simp
  · simp

/-- Stripping an authority strips what follows its last `@`. -/
theorem hostAndPort_stripped {authority left : List Char} (stripped : Stripped authority left)
    (plain : ∃ c ∈ hostAndPort authority, isControl c = false) :
    Stripped (hostAndPort authority) (hostAndPort left) := by
  obtain ⟨kept, blank, whole, controls, rfl⟩ := stripped
  obtain ⟨user, split, clean, ends⟩ := exists_user authority
  obtain ⟨c, member, plain⟩ := plain
  rcases List.append_eq_append_iff.mp (whole.symm.trans split) with
    ⟨middle, -, rest⟩ | ⟨middle, rfl, rest⟩
  · have inside : c ∈ blank := rest ▸ List.mem_append_right middle member
    rw [controls c inside] at plain
    cases plain
  · refine ⟨middle, blank, rest, controls, ?_⟩
    rw [List.filter_append]
    refine hostAndPort_append ?_ fun inside => clean ?_
    · rcases ends with rfl | ⟨name, rfl⟩
      · exact .inl rfl
      · exact .inr ⟨_, List.filter_append ..⟩
    · rw [rest]
      exact List.mem_append_left _ (List.mem_of_mem_filter inside)

/-! ## Ports -/

theorem splitPort_of_notMem {text : List Char} (noColon : ':' ∉ text) (inside : Bool) :
    splitPort inside text = (text, none) := by
  induction text generalizing inside with
  | nil => rfl
  | cons c text ih =>
      rw [List.mem_cons, not_or] at noColon
      rw [splitPort, if_neg fun colon => noColon.1 colon.1.symm]
      dsimp only
      rw [ih noColon.2]

theorem splitPort_append {text : List Char} (noColon : ':' ∉ text) (noBracket : '[' ∉ text)
    (port : List Char) : splitPort false (text ++ ':' :: port) = (text, some port) := by
  induction text with
  | nil => rfl
  | cons c text ih =>
      rw [List.mem_cons, not_or] at noColon noBracket
      have outside : (if c = '[' then true else if c = ']' then false else false) = false := by
        rw [if_neg (Ne.symm noBracket.1), ite_self]
      rw [List.cons_append, splitPort, if_neg fun colon => noColon.1 colon.1.symm]
      dsimp only
      rw [outside, ih noColon.2 noBracket.2]

theorem splitPort_inside {text : List Char} (closes : ']' ∉ text) (rest : List Char) :
    splitPort true (text ++ ']' :: rest) =
      (text ++ ']' :: (splitPort false rest).1, (splitPort false rest).2) := by
  induction text with
  | nil => rfl
  | cons c text ih =>
      rw [List.mem_cons, not_or] at closes
      have inside : (if c = '[' then true else if c = ']' then false else true) = true := by
        rw [if_neg (Ne.symm closes.1), ite_self]
      rw [List.cons_append, splitPort, if_neg (by simp)]
      dsimp only
      rw [inside, ih closes.2]
      rfl

/-! ## Where references lead -/

section Targets

variable {parser : HostParser} {base text : List Char}

/-- A target on the web, on the host of the page. -/
def Target.Stays (base : List Char) (target : Target) : Prop :=
  ∃ scheme, (scheme = https ∨ scheme = http) ∧ target = .web scheme base

/-- A reference that names another scheme leaves the web. -/
theorem web_of_stays (stays : ∀ target, resolve parser base text = some target →
    target.Stays base) :
    Web text := by
  intro scheme rest found
  by_contra other
  rw [not_or] at other
  have leaves : resolve parser base text = some (.other scheme) := by
    rw [resolve, found]
    dsimp only
    rw [if_neg other.1, if_neg other.2]
  obtain ⟨_, -, page⟩ := stays _ leaves
  cases page

/-- A path leads to the host of the page. -/
theorem resolve_path (path : List Char)
    (second : ∀ c ∈ path.head?, isSlash c = false ∧ isTabOrNewline c = false) :
    resolve parser base ('/' :: path) = some (.web https base) := by
  have slash : isControl '/' = false := by decide
  have kept : ('/' :: path).rdropWhile isControl = '/' :: path.rdropWhile isControl := by
    rw [List.rdropWhile, List.reverse_cons, dropWhile_append_of_neg _ slash, List.rdropWhile]
    simp
  have cleaned : clean ('/' :: path) =
      '/' :: (path.rdropWhile isControl).filter fun c => !isTabOrNewline c := by
    rw [clean, List.dropWhile_cons_of_neg (by simp [slash]), kept]
    rfl
  have noScheme : schemeOf (clean ('/' :: path)) = none := by
    rw [cleaned]
    rfl
  rw [resolve, noScheme, cleaned]
  dsimp only
  obtain ⟨blank, split⟩ := List.rdropWhile_prefix isControl path
  cases shown : path.rdropWhile isControl with
  | nil => rfl
  | cons c shorter =>
      rw [shown] at split
      obtain ⟨letter, line⟩ := second c (by rw [← split]; rfl)
      rw [List.filter_cons_of_pos (by simp [line]), relative, letter, Bool.and_false]
      rfl

/-- An authority that can only be the host of the page leads to it. -/
theorem stays_of_parts {front authority rest : List Char} (parts : Parts text front authority rest)
    (plain : ∃ c ∈ hostAndPort authority, isControl c = false)
    (host : ∀ left found, Stripped (hostAndPort authority) left →
      parser.parse (splitPort false left).1 = some found → found = base)
    (web : Web text) {target : Target} (resolved : resolve parser base text = some target) :
    target.Stays base := by
  obtain ⟨user, split, -, -⟩ := exists_user authority
  obtain ⟨c, member, uncontrolled⟩ := plain
  have inside : c ∈ authority := split ▸ List.mem_append_right _ member
  obtain ⟨front', left, rest', cleaned, stripped⟩ := parts.clean ⟨c, inside, uncontrolled⟩
  have nonempty : left ≠ [] := by
    rintro rfl
    have shown : c ∈ visible authority := List.mem_filter.mpr ⟨inside, by simp [uncontrolled]⟩
    rw [← stripped.visible] at shown
    cases shown
  have leads : ∀ scheme, (scheme = https ∨ scheme = http) →
      (authorityHost parser left).map (Target.web scheme) = some target → target.Stays base := by
    intro scheme either found
    obtain ⟨found, valid, rfl⟩ := Option.map_eq_some_iff.mp found
    rw [authorityHost] at valid
    dsimp only at valid
    split at valid
    · rw [host _ _ (hostAndPort_stripped stripped ⟨c, member, uncontrolled⟩) valid]
      exact ⟨scheme, either, rfl⟩
    · cases valid
  rw [resolve] at resolved
  cases named : schemeOf (clean text) with
  | none =>
      rw [named] at resolved
      rcases cleaned.relative nonempty parser base with page | page
      · exact ⟨https, .inl rfl, Option.some.inj (resolved.symm.trans page)⟩
      · exact leads https (.inl rfl) (page.symm.trans resolved)
  | some found =>
      obtain ⟨scheme, after⟩ := found
      have behind := cleaned.schemeOf named
      rw [named] at resolved
      dsimp only at resolved
      split at resolved
      · rw [behind] at resolved
        have page := cleaned.fromAuthority nonempty parser https [] nofun
        exact leads https (.inl rfl) (page.symm.trans resolved)
      · next notHttps =>
          have plainHttp : scheme = http := (web scheme after named).resolve_left notHttps
          rw [if_pos plainHttp, behind] at resolved
          have page := cleaned.fromAuthority nonempty parser http ['/', '/'] (by simp [isSlash])
          exact leads http (.inr rfl) (page.symm.trans resolved)

end Targets

end WebUrl
