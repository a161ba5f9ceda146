import ModAuthOpenidc.Exposition

/-!
# Writing the text format

A writer puts out one family of samples after the other: a help text, a type, and the samples of the
family. What it writes is read again if it escapes the label values.
-/

namespace Exposition

/-! ## Texts in lines and groups -/

/-- The lines about one metric. -/
structure Group where
  metric : List Char
  help : Option (List Char)
  kind : Option Kind
  samples : List Sample

/-- The names of samples that are reserved for a group. -/
def Group.names (group : Group) : List (List Char) :=
  match group.kind with
  | some .histogram =>
      [group.metric, group.metric ++ "_bucket".toList, group.metric ++ "_sum".toList,
        group.metric ++ "_count".toList]
  | some .summary =>
      [group.metric, group.metric ++ "_sum".toList, group.metric ++ "_count".toList]
  | _ => [group.metric]

/-- A sample is one of a group. Those of a histogram are its buckets with their bounds, its sum and
its count. -/
def Group.Owns (group : Group) (sample : Sample) : Prop :=
  match group.kind with
  | some .histogram =>
      (sample.metric = group.metric ++ "_bucket".toList ∧
          "le".toList ∈ sample.labels.map Prod.fst) ∨
        sample.metric = group.metric ++ "_sum".toList ∨
        sample.metric = group.metric ++ "_count".toList
  | some .summary =>
      (sample.metric = group.metric ∧ "quantile".toList ∈ sample.labels.map Prod.fst) ∨
        sample.metric = group.metric ++ "_sum".toList ∨
        sample.metric = group.metric ++ "_count".toList
  | _ => sample.metric = group.metric

/-- The help text and the type of a group. -/
def Group.header (group : Group) : List Line :=
  (group.help.map (.help group.metric)).toList ++ (group.kind.map (.type group.metric)).toList

/-- Lines are those of groups: the help text and the type come first, in either order. -/
inductive Grouped : List Group → List Line → Prop
  | nil : Grouped [] []
  | cons {group : Group} {head lines : List Line} {groups : List Group}
      (permuted : head.Perm group.header) (grouped : Grouped groups lines) :
      Grouped (group :: groups) (head ++ group.samples.map .sample ++ lines)

/-- What the format asks of lines: all lines about a metric are in one group, no name is reserved
for two of them, and no two samples belong to one series. -/
def WellFormed (lines : List Line) : Prop :=
  ∃ groups, Grouped groups (lines.filter (· ≠ .ignored)) ∧
    (∀ group ∈ groups, ∀ sample ∈ group.samples, group.Owns sample) ∧
    groups.Pairwise (fun group other => group.names.Disjoint other.names) ∧
    (samplesOf lines).Pairwise (fun sample other => ¬SameSeries sample other)

/-! ## Writing -/

/-- A character as it stands in a label value. -/
def escapeChar (c : Char) : List Char :=
  if c = '\\' then ['\\', '\\']
  else if c = '"' then ['\\', '"']
  else if c = '\n' then ['\\', 'n']
  else [c]

/-- A label value with its escapes. -/
def escape (value : List Char) : List Char := value.flatMap escapeChar

/-- A value without characters that have to be escaped. -/
def Clean (value : List Char) : Prop := '\\' ∉ value ∧ '"' ∉ value ∧ '\n' ∉ value

instance (value : List Char) : Decidable (Clean value) :=
  inferInstanceAs (Decidable (_ ∧ _ ∧ _))

/-- A sample with an integer. -/
structure Row where
  metric : List Char
  labels : List (List Char × List Char)
  number : Int

/-- The sample of a row. -/
def Row.sample (row : Row) : Sample where
  metric := row.metric
  labels := row.labels
  number := .integer row.number
  timestamp := none

/-- The samples of one metric. -/
structure Family where
  metric : List Char
  help : List Char
  kind : Kind
  rows : List Row

section Write

variable (quote : List Char → List Char)

/-- Write a label. -/
def writeLabel (label : List Char × List Char) : List Char :=
  label.1 ++ '=' :: '"' :: quote label.2 ++ ['"']

/-- Write labels, with a comma between two of them. -/
def writeLabels : List (List Char × List Char) → List Char
  | [] => []
  | [label] => writeLabel quote label
  | label :: other :: labels => writeLabel quote label ++ ',' :: writeLabels (other :: labels)

/-- Write a row. -/
def Row.write (row : Row) : List Char :=
  row.metric ++ '\x7b' :: writeLabels quote row.labels ++ '\x7d' :: ' ' ::
    (toString row.number).toList

/-- Write the help text. -/
def Family.writeHelp (family : Family) : List Char :=
  ['#', ' ', 'H', 'E', 'L', 'P', ' '] ++ family.metric ++ ' ' :: family.help

/-- Write the type. -/
def Family.writeKind (family : Family) : List Char :=
  ['#', ' ', 'T', 'Y', 'P', 'E', ' '] ++ family.metric ++ ' ' :: family.kind.word

/-- Write a family, and an empty line. -/
def Family.write (family : Family) : List Char :=
  family.writeHelp ++ '\n' :: family.writeKind ++ '\n' ::
    family.rows.flatMap (fun row => row.write quote ++ ['\n']) ++ ['\n']

end Write

/-- The lines of a family. -/
def Family.lines (family : Family) : List Line :=
  .help family.metric family.help :: .type family.metric family.kind ::
    family.rows.map (fun row => .sample row.sample) ++ [.ignored]

/-- The group of a family. -/
def Family.group (family : Family) : Group where
  metric := family.metric
  help := some family.help
  kind := some family.kind
  samples := family.rows.map Row.sample

/-! ## What a writer has to keep to -/

/-- A name. -/
def isName (colon : Bool) : List Char → Bool
  | [] => false
  | c :: rest => isNameStart colon c && rest.all (isNameChar colon)

/-- The names of a row are names, and its labels have different ones. -/
structure Row.Named (row : Row) : Prop where
  metric : isName true row.metric = true
  labels : ∀ label ∈ row.labels, isName false label.1 = true
  distinct : (row.labels.map Prod.fst).Nodup

/-- A help text that needs no escapes and starts with no blank. -/
def isHelp : List Char → Bool
  | [] => true
  | c :: rest => !isBlank c && (c :: rest).all fun c => c ≠ '\\' && c ≠ '\n'

/-- A family that can be written. -/
structure Family.Named (family : Family) : Prop where
  metric : isName true family.metric = true
  help : isHelp family.help = true
  rows : ∀ row ∈ family.rows, row.Named

/-! ## Reading names and labels again -/

theorem skipBlanks_cons {c : Char} (other : isBlank c = false) (rest : List Char) :
    skipBlanks (c :: rest) = c :: rest := by
  rw [skipBlanks, List.dropWhile_cons_of_neg (by simp [other])]

/-- Up to a character that does not go on, everything is taken. -/
theorem takeWhile_stop {goes : Char → Bool} {word : List Char} (every : ∀ c ∈ word, goes c = true)
    {c : Char} (stops : goes c = false) (rest : List Char) :
    (word ++ c :: rest).takeWhile goes = word ∧ (word ++ c :: rest).dropWhile goes = c :: rest := by
  constructor
  · rw [List.takeWhile_append_of_pos every, List.takeWhile_cons_of_neg (by simp [stops]),
      List.append_nil]
  · rw [List.dropWhile_append_of_pos every, List.dropWhile_cons_of_neg (by simp [stops])]

/-- The first character of a name is no blank and no number sign. -/
theorem isNameStart_visible {colon : Bool} {c : Char} (start : isNameStart colon c = true) :
    isBlank c = false ∧ c ≠ '#' ∧ c ≠ '\x7d' := by
  refine ⟨Bool.eq_false_iff.mpr fun blank => ?_, ?_, ?_⟩
  · have either : c = ' ' ∨ c = '\t' := by simpa [isBlank] using blank
    rcases either with rfl | rfl <;> cases colon <;> exact absurd start (by decide)
  · rintro rfl
    cases colon <;> exact absurd start (by decide)
  · rintro rfl
    cases colon <;> exact absurd start (by decide)

theorem readName_append {colon : Bool} {name : List Char} (named : isName colon name = true)
    {c : Char} (stops : isNameChar colon c = false) (rest : List Char) :
    readName colon (name ++ c :: rest) = some (name, c :: rest) := by
  cases name with
  | nil => cases named
  | cons first name =>
      rw [isName, Bool.and_eq_true] at named
      obtain ⟨taken, left⟩ :=
        takeWhile_stop (List.all_eq_true.mp named.2) stops rest
      rw [List.cons_append, readName, if_pos named.1, taken, left]

theorem skipBlanks_name {colon : Bool} {name : List Char} (named : isName colon name = true)
    (rest : List Char) : skipBlanks (name ++ rest) = name ++ rest := by
  cases name with
  | nil => cases named
  | cons first name =>
      rw [isName, Bool.and_eq_true] at named
      exact skipBlanks_cons (isNameStart_visible named.1).1 _

/-- A character of its own in a label value. -/
theorem readValue_plain {c : Char} (quote : c ≠ '"') (backslash : c ≠ '\\') (feed : c ≠ '\n')
    {text value rest : List Char} (later : readValue text = some (value, rest)) :
    readValue (c :: text) = some (c :: value, rest) := by
  cases text with
  | nil => cases later
  | cons next text =>
      rw [readValue, if_neg quote, if_neg backslash, if_neg feed, later]
      rfl

/-- A character behind a backslash. -/
theorem readValue_escape {c next : Char} (stands : unescape next = some c)
    {text value rest : List Char} (later : readValue text = some (value, rest)) :
    readValue ('\\' :: next :: text) = some (c :: value, rest) := by
  rw [readValue, if_neg (by decide), if_pos rfl, stands, later]
  rfl

/-- An escaped value is read again up to its closing quote. -/
theorem readValue_escape_append (value rest : List Char) :
    readValue (escape value ++ '"' :: rest) = some (value, rest) := by
  induction value with
  | nil => cases rest <;> rfl
  | cons c value ih =>
      rw [escape, List.flatMap_cons, ← escape, List.append_assoc, escapeChar]
      split
      · rename_i same
        subst same
        exact readValue_escape rfl ih
      · split
        · rename_i same
          subst same
          exact readValue_escape rfl ih
        · split
          · rename_i same
            subst same
            exact readValue_escape rfl ih
          · rename_i backslash quote feed
            exact readValue_plain quote backslash feed ih

theorem readLabel_write {label : List Char × List Char} (named : isName false label.1 = true)
    (rest : List Char) :
    readLabel (writeLabel escape label ++ rest) = some (label, rest) := by
  have text : writeLabel escape label ++ rest =
      label.1 ++ '=' :: '"' :: (escape label.2 ++ '"' :: rest) := by
    simp [writeLabel]
  rw [text, readLabel, skipBlanks_name named, readName_append named (by decide)]
  refine Option.bind_eq_some_iff.mpr ⟨_, rfl, ?_⟩
  refine Option.bind_eq_some_iff.mpr ⟨_, rfl, ?_⟩
  refine Option.bind_eq_some_iff.mpr ⟨_, rfl, ?_⟩
  exact Option.bind_eq_some_iff.mpr ⟨_, readValue_escape_append label.2 rest, rfl⟩

/-- A label does not start with a closing brace. -/
theorem expect_brace_label {label : List Char × List Char} (named : isName false label.1 = true)
    (quote : List Char → List Char) (rest : List Char) :
    expect '\x7d' (skipBlanks (writeLabel quote label ++ rest)) = none := by
  rw [writeLabel, List.append_assoc, List.append_assoc, skipBlanks_name named]
  cases start : label.1 with
  | nil => rw [start] at named; cases named
  | cons first name =>
      rw [start, isName, Bool.and_eq_true] at named
      rw [List.cons_append, expect, if_neg (isNameStart_visible named.1).2.2]

theorem readLabels_write {labels : List (List Char × List Char)}
    (named : ∀ label ∈ labels, isName false label.1 = true) (rest : List Char) {fuel : Nat}
    (enough : labels.length < fuel) :
    readLabels fuel (writeLabels escape labels ++ '\x7d' :: rest) = some (labels, rest) := by
  fun_induction writeLabels escape labels generalizing fuel with
  | case1 =>
      obtain ⟨fuel, rfl⟩ := Nat.exists_eq_succ_of_ne_zero (Nat.ne_of_gt enough)
      rfl
  | case2 label =>
      obtain ⟨fuel, rfl⟩ := Nat.exists_eq_succ_of_ne_zero (Nat.ne_of_gt (Nat.zero_lt_of_lt enough))
      have own := named label (List.mem_singleton_self label)
      rw [readLabels, expect_brace_label own, readLabel_write own]
      rfl
  | case3 label other labels ih =>
      obtain ⟨fuel, rfl⟩ := Nat.exists_eq_succ_of_ne_zero (Nat.ne_of_gt (Nat.zero_lt_of_lt enough))
      have own := named label List.mem_cons_self
      have later := @ih (fun label member => named label (List.mem_cons_of_mem _ member)) fuel
        (Nat.lt_of_succ_lt_succ enough)
      rw [List.append_assoc, readLabels, expect_brace_label own, readLabel_write own]
      refine Option.bind_eq_some_iff.mpr ⟨_, rfl, ?_⟩
      exact Option.bind_eq_some_iff.mpr ⟨_, later, rfl⟩

/-! ## Reading numbers again -/

theorem toDigits_digit {n : Nat} {c : Char} (member : c ∈ Nat.toDigits 10 n) :
    c.isDigit = true :=
  Nat.isDigit_of_mem_toDigits (by decide) (by decide) member

theorem toDigits_ne_nil (n : Nat) : Nat.toDigits 10 n ≠ [] :=
  List.ne_nil_of_length_pos Nat.length_toDigits_pos

theorem readNat_toDigits (n : Nat) : readNat (Nat.toDigits 10 n) = some n := by
  rw [readNat, if_pos ⟨toDigits_ne_nil n, List.all_eq_true.mpr fun c => toDigits_digit⟩,
    Nat.ofDigitChars_ten_toDigits]

/-- Digits are read without a sign. -/
theorem readInt_digits {digits : List Char} (every : ∀ c ∈ digits, c.isDigit = true) :
    readInt digits = (readNat digits).map Int.ofNat := by
  unfold readInt
  split
  · exact absurd (every '-' List.mem_cons_self) (by decide)
  · exact absurd (every '+' List.mem_cons_self) (by decide)
  · rfl

/-- An integer in decimal digits, with a sign if it is negative. -/
theorem toList_int (n : Int) : (toString n).toList =
    if 0 ≤ n then Nat.toDigits 10 n.toNat else '-' :: Nat.toDigits 10 (-n).toNat := by
  cases n with
  | ofNat n =>
      rw [if_pos (show 0 ≤ Int.ofNat n from Int.natCast_nonneg n)]
      exact Nat.toList_repr
  | negSucc n =>
      rw [if_neg (Int.not_le.mpr (Int.negSucc_lt_zero n))]
      exact (String.toList_append).trans (congrArg ('-' :: ·) Nat.toList_repr)

theorem readInt_toString (n : Int) : readInt (toString n).toList = some n := by
  rw [toList_int]
  split
  · rename_i nonneg
    rw [readInt_digits fun c => toDigits_digit, readNat_toDigits, Option.map_some]
    exact congrArg some (Int.toNat_of_nonneg nonneg)
  · rename_i negative
    rw [readInt, readNat_toDigits, Option.map_some]
    exact congrArg some (by simp only [Int.ofNat_eq_natCast]; omega)

/-- The characters of a written number. -/
theorem mem_toString_int {n : Int} {c : Char} (member : c ∈ (toString n).toList) :
    c.isDigit = true ∨ c = '-' := by
  rw [toList_int] at member
  split at member
  · exact .inl (toDigits_digit member)
  · rcases List.mem_cons.mp member with same | later
    · exact .inr same
    · exact .inl (toDigits_digit later)

theorem isBlank_of_mem_number {n : Int} {c : Char} (member : c ∈ (toString n).toList) :
    isBlank c = false := by
  refine Bool.eq_false_iff.mpr fun blank => ?_
  have either : c = ' ' ∨ c = '\t' := by simpa [isBlank] using blank
  rcases mem_toString_int member with digit | rfl
  · rcases either with rfl | rfl <;> exact absurd digit (by decide)
  · exact absurd either (by decide)

theorem readEnd_number (isFloat : List Char → Bool) (row : Row) :
    readEnd isFloat row.metric row.labels (toString row.number).toList = some row.sample := by
  have every : ∀ c ∈ (toString row.number).toList, (!isBlank c) = true := by
    intro c member
    rw [isBlank_of_mem_number member]
    rfl
  rw [readEnd, List.takeWhile_eq_self_iff.mpr every, List.dropWhile_eq_nil_iff.mpr every,
    readNumber, readInt_toString]
  rfl

theorem writeLabels_length (quote : List Char → List Char)
    (labels : List (List Char × List Char)) :
    labels.length ≤ (writeLabels quote labels).length := by
  fun_induction writeLabels quote labels with
  | case1 => exact Nat.le_refl 0
  | case2 label =>
      simp only [writeLabel, List.length_append, List.length_cons]
      omega
  | case3 label other labels ih =>
      simp only [List.length_append, List.length_cons] at ih ⊢
      omega

/-- A row is read again. -/
theorem readSample_write (isFloat : List Char → Bool) {row : Row} (named : row.Named) :
    readSample isFloat (row.write escape) = some row.sample := by
  have enough : row.labels.length < (writeLabels escape row.labels ++ '\x7d' :: ' ' ::
      (toString row.number).toList).length + 1 := by
    have labels := writeLabels_length escape row.labels
    rw [List.length_append]
    omega
  rw [Row.write, readSample, List.append_assoc, List.cons_append,
    readName_append named.metric (by decide)]
  refine Option.bind_eq_some_iff.mpr ⟨_, rfl, ?_⟩
  refine Option.bind_eq_some_iff.mpr ⟨_, readLabels_write named.labels _ enough, ?_⟩
  dsimp only
  rw [if_pos named.distinct]
  have number : skipBlanks (' ' :: (toString row.number).toList) =
      (toString row.number).toList := by
    rw [skipBlanks, List.dropWhile_cons_of_pos (by decide)]
    cases start : (toString row.number).toList with
    | nil => rfl
    | cons c rest =>
        exact skipBlanks_cons (isBlank_of_mem_number (start ▸ List.mem_cons_self)) rest
  rw [number, readEnd_number]

theorem readLine_write (isFloat : List Char → Bool) {row : Row} (named : row.Named) :
    readLine isFloat (row.write escape) = some (.sample row.sample) := by
  have read := readSample_write isFloat named
  have metric := named.metric
  rw [Row.write, List.append_assoc] at read ⊢
  cases start : row.metric with
  | nil => rw [start] at metric; cases metric
  | cons c rest =>
      rw [start, isName, Bool.and_eq_true] at metric
      obtain ⟨visible, comment, -⟩ := isNameStart_visible metric.1
      rw [start] at read
      rw [readLine, List.cons_append, skipBlanks_cons visible]
      dsimp only
      rw [if_neg comment]
      exact Option.map_eq_some_iff.mpr ⟨_, read, rfl⟩

/-! ## Reading help texts and types again -/

/-- A help text that needs no escapes stands for itself. -/
theorem readHelp_plain {text : List Char} (backslash : '\\' ∉ text) :
    readHelp text = some text := by
  fun_induction readHelp text with
  | case1 => rfl
  | case2 => exact absurd List.mem_cons_self backslash
  | case3 => rfl
  | case4 => exact absurd List.mem_cons_self backslash
  | case5 => exact absurd List.mem_cons_self backslash
  | case6 => exact absurd List.mem_cons_self backslash
  | case7 c next rest other ih =>
      rw [ih fun member => backslash (List.mem_cons_of_mem c member)]
      rfl

theorem isHelp_plain {text : List Char} (help : isHelp text = true) :
    '\\' ∉ text ∧ '\n' ∉ text ∧ skipBlanks text = text := by
  cases text with
  | nil => exact ⟨List.not_mem_nil, List.not_mem_nil, rfl⟩
  | cons c text =>
      rw [isHelp, Bool.and_eq_true, Bool.not_eq_true'] at help
      have every := List.all_eq_true.mp help.2
      refine ⟨fun member => ?_, fun member => ?_, skipBlanks_cons help.1 text⟩
      · exact absurd (every _ member) (by decide)
      · exact absurd (every _ member) (by decide)

/-- Behind the word and a blank, a metric name and a blank are read. -/
theorem readMetric_append {metric rest : List Char} (named : isName true metric = true) :
    readMetric (metric ++ ' ' :: rest) = some (metric, skipBlanks rest) := by
  rw [readMetric, readName_append named (by decide)]
  refine Option.bind_eq_some_iff.mpr ⟨_, rfl, ?_⟩
  have blank : (' ' :: rest).head?.all isBlank = true := rfl
  dsimp only
  rw [if_pos blank]
  rfl

theorem readLine_help (isFloat : List Char → Bool) {family : Family} (named : family.Named) :
    readLine isFloat family.writeHelp = some (.help family.metric family.help) := by
  obtain ⟨backslash, -, visible⟩ := isHelp_plain named.help
  have rest : skipBlanks (family.metric ++ ' ' :: family.help) =
      family.metric ++ ' ' :: family.help := skipBlanks_name named.metric _
  have line : readLine isFloat family.writeHelp =
      (readMetric (skipBlanks (family.metric ++ ' ' :: family.help))).bind fun found =>
        (readHelp found.2).bind fun text => some (.help found.1 text) := by
    rfl
  rw [line, rest, readMetric_append named.metric, visible]
  refine Option.bind_eq_some_iff.mpr ⟨_, rfl, ?_⟩
  exact Option.bind_eq_some_iff.mpr ⟨_, readHelp_plain backslash, rfl⟩

theorem readKind_word (kind : Kind) : readKind (skipBlanks kind.word) = some kind := by
  cases kind <;> decide

theorem readLine_kind (isFloat : List Char → Bool) {family : Family} (named : family.Named) :
    readLine isFloat family.writeKind = some (.type family.metric family.kind) := by
  have rest : skipBlanks (family.metric ++ ' ' :: family.kind.word) =
      family.metric ++ ' ' :: family.kind.word := skipBlanks_name named.metric _
  have line : readLine isFloat family.writeKind =
      (readMetric (skipBlanks (family.metric ++ ' ' :: family.kind.word))).bind fun found =>
        (readKind found.2).bind fun kind => some (.type found.1 kind) := by
    rfl
  rw [line, rest, readMetric_append named.metric]
  refine Option.bind_eq_some_iff.mpr ⟨_, rfl, ?_⟩
  exact Option.bind_eq_some_iff.mpr ⟨_, readKind_word family.kind, rfl⟩

/-! ## Reading lines again -/

theorem splitLines_line {line : List Char} (feed : '\n' ∉ line) (text : List Char) :
    splitLines (line ++ '\n' :: text) = (line :: (splitLines text).1, (splitLines text).2) := by
  induction line with
  | nil => rw [List.nil_append, splitLines, if_pos rfl]
  | cons c line ih =>
      have other : c ≠ '\n' := fun same => feed (same ▸ List.mem_cons_self)
      rw [List.cons_append, splitLines, if_neg other,
        ih fun member => feed (List.mem_cons_of_mem c member)]

/-- A line is read before the rest of a text. -/
theorem read_line {isFloat : List Char → Bool} {text : List Char} (feed : '\n' ∉ text)
    {line : Line} (first : readLine isFloat text = some line) (rest : List Char) :
    read isFloat (text ++ '\n' :: rest) = (read isFloat rest).map (line :: ·) := by
  rw [read, read, splitLines_line feed]
  dsimp only
  split
  · rw [readLines, first]
    cases readLines isFloat (splitLines rest).1 <;> rfl
  · rfl

theorem escape_feed (value : List Char) : '\n' ∉ escape value := by
  intro member
  obtain ⟨c, -, inside⟩ := List.mem_flatMap.mp member
  unfold escapeChar at inside
  split at inside
  · exact absurd inside (by decide)
  · split at inside
    · exact absurd inside (by decide)
    · split at inside
      · exact absurd inside (by decide)
      · rename_i other
        exact other (List.mem_singleton.mp inside).symm

/-- All characters of a name are characters of names. -/
theorem isNameChar_of_mem {colon : Bool} {name : List Char} (named : isName colon name = true)
    {c : Char} (member : c ∈ name) : isNameChar colon c = true := by
  cases name with
  | nil => cases named
  | cons first rest =>
      rw [isName, Bool.and_eq_true] at named
      rcases List.mem_cons.mp member with rfl | later
      · rw [isNameChar, named.1, Bool.true_or]
      · exact List.all_eq_true.mp named.2 _ later

theorem name_feed {colon : Bool} {name : List Char} (named : isName colon name = true) :
    '\n' ∉ name := by
  intro member
  have among := isNameChar_of_mem named member
  cases colon <;> exact absurd among (by decide)

theorem writeLabels_feed {labels : List (List Char × List Char)}
    (named : ∀ label ∈ labels, isName false label.1 = true) :
    '\n' ∉ writeLabels escape labels := by
  have one {label : List Char × List Char} (own : isName false label.1 = true) :
      '\n' ∉ writeLabel escape label := by
    simp [writeLabel, name_feed own, escape_feed]
  fun_induction writeLabels escape labels with
  | case1 => exact List.not_mem_nil
  | case2 label => exact one (named label List.mem_cons_self)
  | case3 label other labels ih =>
      have first := one (named label List.mem_cons_self)
      have later := ih fun label member => named label (List.mem_cons_of_mem _ member)
      simp [first, later]

theorem write_feed {row : Row} (named : row.Named) : '\n' ∉ row.write escape := by
  have number : '\n' ∉ row.number.repr.toList := by
    intro member
    rcases @mem_toString_int row.number _ member with digit | sign
    · exact absurd digit (by decide)
    · exact absurd sign (by decide)
  simp [Row.write, name_feed named.metric, writeLabels_feed named.labels, number]

/-- The rows of a family are read before the rest of a text. -/
theorem read_rows {isFloat : List Char → Bool} {rows : List Row}
    (named : ∀ row ∈ rows, row.Named) (rest : List Char) :
    read isFloat (rows.flatMap (fun row => row.write escape ++ ['\n']) ++ rest) =
      (read isFloat rest).map (rows.map (fun row => Line.sample row.sample) ++ ·) := by
  induction rows with
  | nil => exact Option.map_id'.symm
  | cons row rows ih =>
      have own := named row List.mem_cons_self
      rw [List.flatMap_cons, List.append_assoc, List.append_assoc, List.singleton_append,
        read_line (write_feed own) (readLine_write isFloat own),
        ih fun row member => named row (List.mem_cons_of_mem _ member), Option.map_map]
      rfl

theorem kind_feed (kind : Kind) : '\n' ∉ kind.word := by
  cases kind <;> decide

/-- A family is read before the rest of a text. -/
theorem read_family {isFloat : List Char → Bool} {family : Family} (named : family.Named)
    (rest : List Char) :
    read isFloat (family.write escape ++ rest) =
      (read isFloat rest).map (family.lines ++ ·) := by
  have help : '\n' ∉ family.writeHelp :=
    List.not_mem_append (List.not_mem_append (by decide) (name_feed named.metric))
      (List.not_mem_cons_of_ne_of_not_mem (by decide) (isHelp_plain named.help).2.1)
  have kind : '\n' ∉ family.writeKind :=
    List.not_mem_append (List.not_mem_append (by decide) (name_feed named.metric))
      (List.not_mem_cons_of_ne_of_not_mem (by decide) (kind_feed family.kind))
  have empty : read isFloat ('\n' :: rest) = (read isFloat rest).map (Line.ignored :: ·) :=
    read_line List.not_mem_nil rfl rest
  have text : family.write escape ++ rest = family.writeHelp ++ '\n' :: (family.writeKind ++
      '\n' :: (family.rows.flatMap (fun row => row.write escape ++ ['\n']) ++
        '\n' :: rest)) := by
    simp [Family.write]
  rw [text, read_line help (readLine_help isFloat named),
    read_line kind (readLine_kind isFloat named), read_rows named.rows, empty, Option.map_map,
    Option.map_map, Option.map_map]
  congr 1
  funext lines
  simp [Family.lines]

/-- Families are read again. -/
theorem read_families {isFloat : List Char → Bool} {families : List Family}
    (named : ∀ family ∈ families, family.Named) :
    read isFloat (families.flatMap (Family.write escape)) =
      some (families.flatMap Family.lines) := by
  induction families with
  | nil => rfl
  | cons family families ih =>
      rw [List.flatMap_cons, read_family (named family List.mem_cons_self),
        ih fun family member => named family (List.mem_cons_of_mem _ member)]
      rfl

/-! ## The lines of families -/

theorem samplesOf_rows (rows : List Row) :
    samplesOf (rows.map fun row => .sample row.sample) = rows.map Row.sample := by
  induction rows with
  | nil => rfl
  | cons row rows ih => rw [List.map_cons, samplesOf_sample, ih, List.map_cons]

theorem samplesOf_lines (family : Family) :
    samplesOf family.lines = family.rows.map Row.sample := by
  have ending : samplesOf [.ignored] = [] := rfl
  rw [Family.lines, samplesOf_append, ending, List.append_nil]
  exact samplesOf_rows family.rows

theorem samplesOf_families (families : List Family) :
    samplesOf (families.flatMap Family.lines) =
      families.flatMap fun family => family.rows.map Row.sample := by
  induction families with
  | nil => rfl
  | cons family families ih =>
      rw [List.flatMap_cons, samplesOf_append, samplesOf_lines, ih, List.flatMap_cons]

theorem filter_lines (family : Family) :
    family.lines.filter (· ≠ .ignored) =
      family.group.header ++ family.group.samples.map .sample := by
  have rows : (family.rows.map fun row => Line.sample row.sample).filter (· ≠ .ignored) =
      family.rows.map fun row => Line.sample row.sample := by
    refine List.filter_eq_self.mpr fun line member => ?_
    obtain ⟨row, -, rfl⟩ := List.mem_map.mp member
    rfl
  rw [Family.lines, List.filter_append, List.filter_cons_of_pos (by rfl),
    List.filter_cons_of_pos (by rfl), rows, List.filter_cons_of_neg (by decide), List.filter_nil,
    List.append_nil, Family.group, List.map_map]
  rfl

theorem grouped_families (families : List Family) :
    Grouped (families.map Family.group)
      ((families.flatMap Family.lines).filter (· ≠ .ignored)) := by
  induction families with
  | nil => exact .nil
  | cons family families ih =>
      rw [List.flatMap_cons, List.filter_append, filter_lines]
      exact .cons (.refl _) ih

/-- Families are well formed if they own their rows, have names of their own, and have no series
twice. -/
theorem wellFormed_families {families : List Family}
    (owned : ∀ family ∈ families, ∀ row ∈ family.rows, family.group.Owns row.sample)
    (apart : families.Pairwise fun family other => family.group.names.Disjoint other.group.names)
    (series : (families.flatMap fun family => family.rows.map Row.sample).Pairwise
      fun sample other => ¬SameSeries sample other) :
    WellFormed (families.flatMap Family.lines) := by
  refine ⟨families.map Family.group, grouped_families families, ?_, List.pairwise_map.mpr apart,
    (samplesOf_families families).symm ▸ series⟩
  intro group member sample inside
  obtain ⟨family, among, rfl⟩ := List.mem_map.mp member
  obtain ⟨row, present, rfl⟩ := List.mem_map.mp inside
  exact owned family among row present

/-! ## Writing without escapes -/

theorem escape_clean {value : List Char} (clean : Clean value) : escape value = value := by
  induction value with
  | nil => rfl
  | cons c value ih =>
      obtain ⟨backslash, quote, feed⟩ := clean
      have one : escapeChar c = [c] := by
        rw [escapeChar, if_neg (List.ne_of_not_mem_cons backslash).symm,
          if_neg (List.ne_of_not_mem_cons quote).symm, if_neg (List.ne_of_not_mem_cons feed).symm]
      rw [escape, List.flatMap_cons, one, ← escape,
        ih ⟨fun member => backslash (List.mem_cons_of_mem c member),
          fun member => quote (List.mem_cons_of_mem c member),
          fun member => feed (List.mem_cons_of_mem c member)⟩]
      rfl

theorem writeLabels_clean {labels : List (List Char × List Char)}
    (clean : ∀ label ∈ labels, Clean label.2) :
    writeLabels id labels = writeLabels escape labels := by
  have one {label : List Char × List Char} (own : Clean label.2) :
      writeLabel id label = writeLabel escape label := by
    rw [writeLabel, writeLabel, escape_clean own]
    rfl
  fun_induction writeLabels escape labels with
  | case1 => rfl
  | case2 label => exact one (clean label List.mem_cons_self)
  | case3 label other labels ih =>
      rw [writeLabels, one (clean label List.mem_cons_self),
        ih fun label member => clean label (List.mem_cons_of_mem _ member)]

/-- Rows with clean label values are written with and without escapes alike. -/
theorem write_clean {families : List Family}
    (clean : ∀ family ∈ families, ∀ row ∈ family.rows, ∀ label ∈ row.labels, Clean label.2) :
    families.flatMap (Family.write id) = families.flatMap (Family.write escape) := by
  refine List.flatMap_congr fun family member => ?_
  have rows : family.rows.flatMap (fun row => row.write id ++ ['\n']) =
      family.rows.flatMap (fun row => row.write escape ++ ['\n']) := by
    refine List.flatMap_congr fun row inside => ?_
    rw [Row.write, Row.write, writeLabels_clean (clean family member row inside)]
  rw [Family.write, Family.write, rows]

/-- The label values of rows. -/
def valuesOf (rows : List Row) : List (List Char) :=
  rows.flatMap fun row => row.labels.map Prod.snd

theorem valuesOf_cons (row : Row) (rows : List Row) :
    valuesOf (row :: rows) = row.labels.map Prod.snd ++ valuesOf rows :=
  List.flatMap_cons

theorem valuesOf_append (rows others : List Row) :
    valuesOf (rows ++ others) = valuesOf rows ++ valuesOf others :=
  List.flatMap_append

theorem name_backslash {colon : Bool} {name : List Char} (named : isName colon name = true) :
    name.count '\\' = 0 := by
  refine List.count_eq_zero.mpr fun member => ?_
  have among := isNameChar_of_mem named member
  cases colon <;> exact absurd among (by decide)

/-- The backslashes of values. -/
def backslashes (values : List (List Char)) : Nat := (values.map (List.count '\\')).sum

theorem backslashes_append (values others : List (List Char)) :
    backslashes (values ++ others) = backslashes values + backslashes others := by
  rw [backslashes, List.map_append, List.sum_append, ← backslashes, ← backslashes]

theorem writeLabels_backslashes {labels : List (List Char × List Char)}
    (named : ∀ label ∈ labels, isName false label.1 = true) :
    (writeLabels id labels).count '\\' = backslashes (labels.map Prod.snd) := by
  have one {label : List Char × List Char} (own : isName false label.1 = true) :
      (writeLabel id label).count '\\' = label.2.count '\\' := by
    simp [writeLabel, name_backslash own]
  fun_induction writeLabels id labels with
  | case1 => rfl
  | case2 label => exact one (named label List.mem_cons_self)
  | case3 label other labels ih =>
      have first := one (named label List.mem_cons_self)
      have later := ih fun label member => named label (List.mem_cons_of_mem _ member)
      rw [List.count_append, List.count_cons_of_ne (by decide), first, later]
      rfl

theorem row_backslashes {row : Row} (named : row.Named) :
    (row.write id).count '\\' = backslashes (row.labels.map Prod.snd) := by
  have number : (toString row.number).toList.count '\\' = 0 := by
    refine List.count_eq_zero.mpr fun member => ?_
    rcases mem_toString_int member with digit | sign
    · exact absurd digit (by decide)
    · exact absurd sign (by decide)
  rw [Row.write, List.count_append, List.count_append, name_backslash named.metric,
    List.count_cons_of_ne (by decide), List.count_cons_of_ne (by decide),
    List.count_cons_of_ne (by decide), number, writeLabels_backslashes named.labels]
  omega

theorem rows_backslashes {rows : List Row} (named : ∀ row ∈ rows, row.Named) :
    (rows.flatMap fun row => row.write id ++ ['\n']).count '\\' =
      backslashes (valuesOf rows) := by
  induction rows with
  | nil => rfl
  | cons row rows ih =>
      rw [List.flatMap_cons, List.count_append, List.count_append,
        row_backslashes (named row List.mem_cons_self),
        ih fun row member => named row (List.mem_cons_of_mem _ member), valuesOf_cons,
        backslashes_append]
      rfl

theorem family_backslashes {family : Family} (named : family.Named) :
    (family.write id).count '\\' = backslashes (valuesOf family.rows) := by
  have metric := List.count_eq_zero.mp (name_backslash named.metric)
  have kind : '\\' ∉ family.kind.word := by
    cases family.kind <;> decide
  have help : family.writeHelp.count '\\' = 0 :=
    List.count_eq_zero.mpr (List.not_mem_append (List.not_mem_append (by decide) metric)
      (List.not_mem_cons_of_ne_of_not_mem (by decide) (isHelp_plain named.help).1))
  have type : family.writeKind.count '\\' = 0 :=
    List.count_eq_zero.mpr (List.not_mem_append (List.not_mem_append (by decide) metric)
      (List.not_mem_cons_of_ne_of_not_mem (by decide) kind))
  rw [Family.write, List.count_append, List.count_append, List.count_append, help,
    List.count_cons_of_ne (by decide), type, List.count_cons_of_ne (by decide),
    rows_backslashes named.rows, List.count_singleton]
  simp

/-- All backslashes that are written without escapes are those of the values. -/
theorem families_backslashes {families : List Family}
    (named : ∀ family ∈ families, family.Named) :
    (families.flatMap (Family.write id)).count '\\' =
      backslashes (valuesOf (families.flatMap Family.rows)) := by
  induction families with
  | nil => rfl
  | cons family families ih =>
      rw [List.flatMap_cons, List.count_append,
        family_backslashes (named family List.mem_cons_self),
        ih fun family member => named family (List.mem_cons_of_mem _ member), List.flatMap_cons,
        valuesOf_append, backslashes_append]

/-- A value costs at least its own backslashes, and more if it is not clean. -/
theorem count_le_cost (value : List Char) : value.count '\\' ≤ cost value := by
  rw [cost]
  omega

theorem clean_of_cost_le {value : List Char} (enough : cost value ≤ value.count '\\') :
    Clean value := by
  rw [cost] at enough
  exact ⟨List.count_eq_zero.mp (by omega), List.count_eq_zero.mp (by omega),
    List.count_eq_zero.mp (by omega)⟩

/-- Values that cost no more than their own backslashes are clean. -/
theorem clean_of_sum_le {values : List (List Char)}
    (enough : (values.map cost).sum ≤ backslashes values) : ∀ value ∈ values, Clean value := by
  induction values with
  | nil => exact fun value member => absurd member List.not_mem_nil
  | cons value values ih =>
      rw [backslashes, List.map_cons, List.map_cons, List.sum_cons, List.sum_cons,
        ← backslashes] at enough
      have least : backslashes values ≤ (values.map cost).sum :=
        List.sum_le_sum fun value _ => count_le_cost value
      have first := count_le_cost value
      intro other member
      rcases List.mem_cons.mp member with rfl | later
      · exact clean_of_cost_le (by omega)
      · exact ih (by omega) other later

theorem samplesCost_rows (rows : List Row) :
    samplesCost (rows.map Row.sample) = ((valuesOf rows).map cost).sum := by
  induction rows with
  | nil => rfl
  | cons row rows ih =>
      rw [samplesCost, List.map_cons, List.map_cons, List.sum_cons, ← samplesCost, ih,
        valuesOf_cons, List.map_append, List.sum_append, List.map_map]
      rfl

end Exposition
