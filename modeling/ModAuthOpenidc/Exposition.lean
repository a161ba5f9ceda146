import Mathlib

/-!
# The text format of a metrics collector

A collector reads counters and histograms from lines of text. A line holds a help text, the type of
a metric, or a sample: a metric name, labels with quoted values, and a number. A backslash, a double
quote and a line feed are escaped in a label value.
-/

namespace Exposition

/-! ## Samples and lines -/

/-- The number of a sample. -/
inductive Number
  | integer (value : Int)
  /-- Any other number, as it is written. -/
  | other (text : List Char)
  deriving DecidableEq

/-- A sample: one number of one series. -/
structure Sample where
  metric : List Char
  labels : List (List Char × List Char)
  number : Number
  timestamp : Option Int
  deriving DecidableEq

/-- Two samples belong to one series if they have the same name and the same labels. -/
def SameSeries (first second : Sample) : Prop :=
  first.metric = second.metric ∧ first.labels.Perm second.labels

/-- The type of a metric. -/
inductive Kind
  | counter
  | gauge
  | histogram
  | summary
  | untyped
  deriving DecidableEq

/-- The word for a type. -/
def Kind.word : Kind → List Char
  | counter => "counter".toList
  | gauge => "gauge".toList
  | histogram => "histogram".toList
  | summary => "summary".toList
  | untyped => "untyped".toList

/-- The types. -/
def Kind.all : List Kind := [counter, gauge, histogram, summary, untyped]

/-- A line. -/
inductive Line
  /-- An empty line or a comment. -/
  | ignored
  | help (metric text : List Char)
  | type (metric : List Char) (kind : Kind)
  | sample (sample : Sample)
  deriving DecidableEq

/-! ## Reading -/

/-- What separates the parts of a line. -/
def isBlank (c : Char) : Bool := c = ' ' ∨ c = '\t'

/-- Go past blanks. -/
def skipBlanks (text : List Char) : List Char := text.dropWhile isBlank

/-- The first character of a name; metric names have colons as well. -/
def isNameStart (colon : Bool) (c : Char) : Bool := c.isAlpha || c = '_' || (colon && c = ':')

/-- Any other character of a name. -/
def isNameChar (colon : Bool) (c : Char) : Bool := isNameStart colon c || c.isDigit

/-- Read a name. -/
def readName (colon : Bool) : List Char → Option (List Char × List Char)
  | [] => none
  | c :: rest =>
      if isNameStart colon c then
        some (c :: rest.takeWhile (isNameChar colon), rest.dropWhile (isNameChar colon))
      else none

/-- Read one character. -/
def expect (c : Char) : List Char → Option (List Char)
  | [] => none
  | first :: rest => if first = c then some rest else none

/-- What a character behind a backslash stands for. -/
def unescape (c : Char) : Option Char :=
  if c = '\\' then some '\\'
  else if c = '"' then some '"'
  else if c = 'n' then some '\n'
  else none

/-- Read a label value up to its closing quote. -/
def readValue : List Char → Option (List Char × List Char)
  | [] => none
  | [c] => if c = '"' then some ([], []) else none
  | c :: next :: rest =>
      if c = '"' then some ([], next :: rest)
      else if c = '\\' then do
        let value ← unescape next
        let (values, rest) ← readValue rest
        some (value :: values, rest)
      else if c = '\n' then none
      else do
        let (values, rest) ← readValue (next :: rest)
        some (c :: values, rest)

/-- Read a label: a name, an equals sign and a quoted value. -/
def readLabel (text : List Char) : Option ((List Char × List Char) × List Char) := do
  let (name, text) ← readName false (skipBlanks text)
  let text ← expect '=' (skipBlanks text)
  let text ← expect '"' (skipBlanks text)
  let (value, text) ← readValue text
  some ((name, value), text)

/-- Read labels up to the closing brace, with a comma between two of them. -/
def readLabels : Nat → List Char → Option (List (List Char × List Char) × List Char)
  | 0, _ => none
  | fuel + 1, text =>
      match expect '\x7d' (skipBlanks text) with
      | some rest => some ([], rest)
      | none => do
          let (label, text) ← readLabel text
          match expect ',' (skipBlanks text) with
          | some rest =>
              let (labels, rest) ← readLabels fuel rest
              some (label :: labels, rest)
          | none =>
              let rest ← expect '\x7d' (skipBlanks text)
              some ([label], rest)

/-- The value of a text of digits. -/
def readNat (text : List Char) : Option Nat :=
  if text ≠ [] ∧ text.all Char.isDigit then some (Nat.ofDigitChars 10 text 0) else none

/-- The value of digits behind a sign, if there is one. -/
def readInt : List Char → Option Int
  | '-' :: digits => (readNat digits).map fun n => -Int.ofNat n
  | '+' :: digits => (readNat digits).map Int.ofNat
  | digits => (readNat digits).map Int.ofNat

/-- Read a number; what is not an integer may be a floating-point number. -/
def readNumber (isFloat : List Char → Bool) (text : List Char) : Option Number :=
  match readInt text with
  | some value => some (.integer value)
  | none => if isFloat text then some (.other text) else none

/-- Read a timestamp, or nothing. -/
def readTimestamp (text : List Char) : Option (Option Int) :=
  if text = [] then some none
  else if skipBlanks (text.dropWhile fun c => !isBlank c) = [] then
    (readInt (text.takeWhile fun c => !isBlank c)).map some
  else none

/-- Read the number of a sample, and its timestamp. -/
def readEnd (isFloat : List Char → Bool) (metric : List Char)
    (labels : List (List Char × List Char)) (text : List Char) : Option Sample := do
  let number ← readNumber isFloat (text.takeWhile fun c => !isBlank c)
  let timestamp ← readTimestamp (skipBlanks (text.dropWhile fun c => !isBlank c))
  some { metric := metric, labels := labels, number := number, timestamp := timestamp }

/-- Read a sample, whose labels have different names. -/
def readSample (isFloat : List Char → Bool) (text : List Char) : Option Sample := do
  let (metric, text) ← readName true text
  let (labels, text) ←
    (match expect '\x7b' (skipBlanks text) with
      | some rest => readLabels (rest.length + 1) rest
      | none => some ([], text))
  if (labels.map Prod.fst).Nodup then readEnd isFloat metric labels (skipBlanks text) else none

/-- Read a help text. -/
def readHelp : List Char → Option (List Char)
  | [] => some []
  | [c] => if c = '\\' then none else some [c]
  | c :: next :: rest =>
      if c = '\\' then
        if next = '\\' then (readHelp rest).map ('\\' :: ·)
        else if next = 'n' then (readHelp rest).map ('\n' :: ·)
        else none
      else (readHelp (next :: rest)).map (c :: ·)

/-- Read the type of a metric, with nothing behind it. -/
def readKind (text : List Char) : Option Kind :=
  if skipBlanks (text.dropWhile fun c => !isBlank c) = [] then
    Kind.all.find? fun kind => kind.word = text.takeWhile fun c => !isBlank c
  else none

/-- Read a metric name that ends the line or stands in front of a blank. -/
def readMetric (text : List Char) : Option (List Char × List Char) := do
  let (metric, rest) ← readName true text
  if rest.head?.all isBlank then some (metric, skipBlanks rest) else none

/-- Read what is behind a number sign: a help text, a type, or a comment. -/
def readComment (text : List Char) : Option Line :=
  let word := (skipBlanks text).takeWhile fun c => !isBlank c
  let rest := skipBlanks ((skipBlanks text).dropWhile fun c => !isBlank c)
  if word = "HELP".toList then do
    let (metric, rest) ← readMetric rest
    let text ← readHelp rest
    some (.help metric text)
  else if word = "TYPE".toList then do
    let (metric, rest) ← readMetric rest
    let kind ← readKind rest
    some (.type metric kind)
  else some .ignored

/-- Read a line. -/
def readLine (isFloat : List Char → Bool) (text : List Char) : Option Line :=
  match skipBlanks text with
  | [] => some .ignored
  | c :: rest =>
      if c = '#' then readComment rest else (readSample isFloat (c :: rest)).map .sample

/-- The lines of a text, and what is behind the last of them. -/
def splitLines : List Char → List (List Char) × List Char
  | [] => ([], [])
  | c :: rest =>
      if c = '\n' then ([] :: (splitLines rest).1, (splitLines rest).2)
      else
        match (splitLines rest).1 with
        | [] => ([], c :: (splitLines rest).2)
        | line :: lines => ((c :: line) :: lines, (splitLines rest).2)

/-- Read lines. -/
def readLines (isFloat : List Char → Bool) : List (List Char) → Option (List Line)
  | [] => some []
  | text :: texts => do
      let line ← readLine isFloat text
      let lines ← readLines isFloat texts
      some (line :: lines)

/-- Read a text, whose last line is ended as well. -/
def read (isFloat : List Char → Bool) (text : List Char) : Option (List Line) :=
  if (splitLines text).2 = [] then readLines isFloat (splitLines text).1 else none

/-- The samples of lines. -/
def samplesOf (lines : List Line) : List Sample :=
  lines.filterMap fun line =>
    match line with
    | .sample sample => some sample
    | _ => none

/-! ## Backslashes

Every character that has to be escaped takes a backslash of the text. -/

/-- The backslashes of a value in quotes. -/
def cost (value : List Char) : Nat := 2 * value.count '\\' + value.count '"' + value.count '\n'

/-- The backslashes of a line with quoted values. -/
def Sample.cost (sample : Sample) : Nat :=
  (sample.labels.map fun label => Exposition.cost label.2).sum

theorem count_dropWhile_le (stops : Char → Bool) (text : List Char) :
    (text.dropWhile stops).count '\\' ≤ text.count '\\' :=
  (List.dropWhile_sublist stops).count_le _

theorem count_skipBlanks_le (text : List Char) :
    (skipBlanks text).count '\\' ≤ text.count '\\' :=
  count_dropWhile_le isBlank text

theorem readName_count {colon : Bool} {text name rest : List Char}
    (reads : readName colon text = some (name, rest)) : rest.count '\\' ≤ text.count '\\' := by
  cases text with
  | nil => cases reads
  | cons c text =>
      rw [readName] at reads
      split at reads
      · cases reads
        exact (count_dropWhile_le _ text).trans (List.count_le_count_cons ..)
      · cases reads

theorem expect_count {c : Char} {text rest : List Char} (reads : expect c text = some rest) :
    rest.count '\\' ≤ text.count '\\' := by
  cases text with
  | nil => cases reads
  | cons first text =>
      rw [expect] at reads
      split at reads
      · cases reads
        exact List.count_le_count_cons ..
      · cases reads

/-- An escaped character costs what its backslash and itself do. -/
theorem unescape_cost {c value : Char} (stands : unescape c = some value) (rest : List Char) :
    cost (value :: rest) = cost rest + 1 + if c = '\\' then 1 else 0 := by
  unfold unescape at stands
  split at stands
  · rename_i same
    cases stands
    rw [if_pos same, cost, cost, List.count_cons_self, List.count_cons_of_ne (by decide),
      List.count_cons_of_ne (by decide)]
    omega
  · rename_i other
    rw [if_neg other]
    split at stands
    · cases stands
      rw [cost, cost, List.count_cons_self, List.count_cons_of_ne (by decide),
        List.count_cons_of_ne (by decide)]
      omega
    · split at stands
      · cases stands
        rw [cost, cost, List.count_cons_self, List.count_cons_of_ne (by decide),
          List.count_cons_of_ne (by decide)]
        omega
      · cases stands

/-- The backslashes in front of a closing quote are those of the value. -/
theorem readValue_count {text value rest : List Char}
    (reads : readValue text = some (value, rest)) :
    cost value + rest.count '\\' = text.count '\\' := by
  fun_induction readValue text generalizing value rest with
  | case1 => cases reads
  | case2 => cases reads; rfl
  | case3 => cases reads
  | case4 next rest' =>
      cases reads
      exact (Nat.zero_add _).trans (List.count_cons_of_ne (by decide : '"' ≠ '\\')).symm
  | case5 next rest' _ ih =>
      obtain ⟨first, stands, reads⟩ := Option.bind_eq_some_iff.mp reads
      obtain ⟨⟨values, behind⟩, later, same⟩ := Option.bind_eq_some_iff.mp reads
      cases same
      rw [unescape_cost stands, List.count_cons_self, List.count_cons, ← ih later]
      simp only [beq_iff_eq]
      omega
  | case6 => cases reads
  | case7 c next rest' quote backslash feed ih =>
      obtain ⟨⟨values, behind⟩, later, same⟩ := Option.bind_eq_some_iff.mp reads
      cases same
      have plain : cost (c :: values) = cost values := by
        rw [cost, cost, List.count_cons_of_ne backslash, List.count_cons_of_ne quote,
          List.count_cons_of_ne feed]
      rw [plain, List.count_cons_of_ne backslash, ih later]

theorem readLabel_count {text rest : List Char} {label : List Char × List Char}
    (reads : readLabel text = some (label, rest)) :
    cost label.2 + rest.count '\\' ≤ text.count '\\' := by
  obtain ⟨⟨name, text₁⟩, named, reads⟩ := Option.bind_eq_some_iff.mp reads
  obtain ⟨text₂, equals, reads⟩ := Option.bind_eq_some_iff.mp reads
  obtain ⟨text₃, quoted, reads⟩ := Option.bind_eq_some_iff.mp reads
  obtain ⟨⟨value, text₄⟩, valued, same⟩ := Option.bind_eq_some_iff.mp reads
  cases same
  have start := (readName_count named).trans (count_skipBlanks_le text)
  have middle := (expect_count equals).trans (count_skipBlanks_le text₁)
  have opening := (expect_count quoted).trans (count_skipBlanks_le text₂)
  have closing := readValue_count valued
  show cost value + _ ≤ _
  omega

/-- The backslashes of several labels. -/
def labelsCost (labels : List (List Char × List Char)) : Nat :=
  (labels.map fun label => cost label.2).sum

theorem readLabels_count {fuel : Nat} {text rest : List Char}
    {labels : List (List Char × List Char)}
    (reads : readLabels fuel text = some (labels, rest)) :
    labelsCost labels + rest.count '\\' ≤ text.count '\\' := by
  induction fuel generalizing text labels rest with
  | zero => cases reads
  | succ fuel ih =>
      rw [readLabels] at reads
      have blanks := count_skipBlanks_le text
      split at reads
      · rename_i behind closed
        cases reads
        exact (Nat.zero_add _).trans_le ((expect_count closed).trans blanks)
      · obtain ⟨⟨label, text₁⟩, first, reads⟩ := Option.bind_eq_some_iff.mp reads
        have one := readLabel_count first
        have between := count_skipBlanks_le text₁
        dsimp only at reads
        split at reads
        · rename_i text₂ comma
          obtain ⟨⟨others, behind⟩, later, same⟩ := Option.bind_eq_some_iff.mp reads
          cases same
          have next := expect_count comma
          have following := ih later
          rw [labelsCost, List.map_cons, List.sum_cons, ← labelsCost]
          dsimp only
          omega
        · obtain ⟨behind, closed, same⟩ := Option.bind_eq_some_iff.mp reads
          cases same
          have last := expect_count closed
          rw [labelsCost, List.map_singleton, List.sum_singleton]
          exact le_trans (Nat.add_le_add_left (last.trans between) _) one

theorem readSample_count {isFloat : List Char → Bool} {text : List Char} {sample : Sample}
    (reads : readSample isFloat text = some sample) : sample.cost ≤ text.count '\\' := by
  obtain ⟨⟨metric, text₁⟩, named, reads⟩ := Option.bind_eq_some_iff.mp reads
  obtain ⟨⟨labels, text₂⟩, labelled, reads⟩ := Option.bind_eq_some_iff.mp reads
  dsimp only at labelled reads
  have own : sample.labels = labels := by
    split at reads
    · obtain ⟨number, -, reads⟩ := Option.bind_eq_some_iff.mp reads
      obtain ⟨timestamp, -, same⟩ := Option.bind_eq_some_iff.mp reads
      cases same
      rfl
    · cases reads
  have start := (count_skipBlanks_le text₁).trans (readName_count named)
  rw [Sample.cost, own, ← labelsCost]
  split at labelled
  · rename_i behind opened
    have inside := readLabels_count labelled
    have opening := expect_count opened
    omega
  · cases labelled
    exact Nat.zero_le _

/-- The backslashes of the samples. -/
def samplesCost (samples : List Sample) : Nat := (samples.map Sample.cost).sum

@[simp]
theorem samplesOf_nil : samplesOf [] = [] := rfl

@[simp]
theorem samplesOf_sample (sample : Sample) (lines : List Line) :
    samplesOf (.sample sample :: lines) = sample :: samplesOf lines := rfl

@[simp]
theorem samplesOf_append (lines others : List Line) :
    samplesOf (lines ++ others) = samplesOf lines ++ samplesOf others :=
  List.filterMap_append

/-- What is behind a number sign is no sample. -/
theorem readComment_samples {text : List Char} {line : Line}
    (reads : readComment text = some line) : samplesOf [line] = [] := by
  unfold readComment at reads
  dsimp only at reads
  split at reads
  · obtain ⟨⟨metric, rest⟩, -, reads⟩ := Option.bind_eq_some_iff.mp reads
    obtain ⟨help, -, same⟩ := Option.bind_eq_some_iff.mp reads
    cases same
    rfl
  · split at reads
    · obtain ⟨⟨metric, rest⟩, -, reads⟩ := Option.bind_eq_some_iff.mp reads
      obtain ⟨kind, -, same⟩ := Option.bind_eq_some_iff.mp reads
      cases same
      rfl
    · cases reads
      rfl

theorem readLine_count {isFloat : List Char → Bool} {text : List Char} {line : Line}
    (reads : readLine isFloat text = some line) :
    samplesCost (samplesOf [line]) ≤ text.count '\\' := by
  have blanks := count_skipBlanks_le text
  rw [readLine] at reads
  split at reads
  · cases reads
    exact Nat.zero_le _
  · rename_i c rest start
    split at reads
    · rw [readComment_samples reads]
      exact Nat.zero_le _
    · obtain ⟨sample, read, rfl⟩ := Option.map_eq_some_iff.mp reads
      rw [samplesOf_sample, samplesOf_nil, samplesCost, List.map_singleton, List.sum_singleton]
      exact (start ▸ readSample_count read).trans blanks

theorem readLines_count {isFloat : List Char → Bool} {texts : List (List Char)}
    {lines : List Line} (reads : readLines isFloat texts = some lines) :
    samplesCost (samplesOf lines) ≤ (texts.map (List.count '\\')).sum := by
  induction texts generalizing lines with
  | nil =>
      cases reads
      exact Nat.zero_le _
  | cons text texts ih =>
      obtain ⟨line, first, reads⟩ := Option.bind_eq_some_iff.mp reads
      obtain ⟨others, later, same⟩ := Option.bind_eq_some_iff.mp reads
      cases same
      have split : samplesOf (line :: others) = samplesOf [line] ++ samplesOf others :=
        samplesOf_append [line] others
      rw [split, samplesCost, List.map_append, List.sum_append, List.map_cons, List.sum_cons]
      exact Nat.add_le_add (readLine_count first) (ih later)

/-- Every backslash is in a line or behind the last one. -/
theorem splitLines_count (text : List Char) :
    ((splitLines text).1.map (List.count '\\')).sum + (splitLines text).2.count '\\' =
      text.count '\\' := by
  induction text with
  | nil => rfl
  | cons c text ih =>
      rw [splitLines]
      split
      · rename_i feed
        subst feed
        rw [List.count_cons_of_ne (by decide), ← ih, List.map_cons, List.sum_cons]
        exact congrArg (· + _) (Nat.zero_add _)
      · rw [List.count_cons, ← ih]
        split
        · rename_i none
          rw [none, List.count_cons]
          simp only [List.map_nil, List.sum_nil]
          omega
        · rename_i line lines some
          rw [some, List.map_cons, List.map_cons, List.sum_cons, List.sum_cons, List.count_cons]
          dsimp only
          omega

/-- The values that are read from a text have no more characters to escape than the text has
backslashes. -/
theorem read_count {isFloat : List Char → Bool} {text : List Char} {lines : List Line}
    (reads : read isFloat text = some lines) :
    samplesCost (samplesOf lines) ≤ text.count '\\' := by
  rw [read] at reads
  split at reads
  · have every := splitLines_count text
    have bounded := readLines_count reads
    omega
  · cases reads

end Exposition
