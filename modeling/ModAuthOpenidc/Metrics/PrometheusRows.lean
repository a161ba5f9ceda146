import ModAuthOpenidc.Metrics.Prometheus

/-!
# The rows of the output for Prometheus

The text for Prometheus is that of a writer that puts out families of rows and escapes nothing.
Every member of a counter and every member of a timing is one row.
-/

namespace ModAuthOpenidc

namespace Metrics

open Exposition (Row Family writeLabel writeLabels)

/-! ## Rows -/

/-- The name of a family. -/
@[irreducible]
def counterLabel (type : Nat) : String := prometheusNormalizeName (type2s countersInfo type)

/-- The name of a family of timings. -/
@[irreducible]
def timingLabel (type : Nat) : String := prometheusNormalizeName (type2s timingsInfo type)

/-- A row of a counter. -/
def counterRow (label server : String) (labels : List (String × String)) (n : Int) : Row where
  metric := label.toList
  labels := (("server_name", server) :: labels).map fun label => (label.1.toList, label.2.toList)
  number := n

/-- The rows of one counter of a server: an integer, integers by value, or both by name. -/
def counterRows (label server : String) : Json → List Row
  | .int n => [counterRow label server [] n]
  | counter =>
      counter.iterated.flatMap fun member =>
        match member.2 with
        | .int n => [counterRow label server [("value", member.1)] n]
        | names =>
            names.iterated.map fun value =>
              counterRow label server [("name", member.1), ("value", value.1)]
                value.2.integerValue

/-- The bound of a bucket. -/
def bucketBound (name : String) : Option String :=
  (bucketBounds.find? fun bucket => bucket.1 = name).map Prod.snd

/-- A row of a timing: a bucket with its bound, or another member under its own name. -/
def timingRow (label server name : String) (n : Int) : Row :=
  match bucketBound name with
  | some bound =>
      { metric := (label ++ "_bucket").toList
        labels := [("le".toList, bound.toList), ("server_name".toList, server.toList)]
        number := n }
  | none =>
      { metric := (label ++ "_" ++ name).toList
        labels := [("server_name".toList, server.toList)]
        number := n }

/-- The rows of one timing of a server. -/
def timingRows (label server : String) (timing : Json) : List Row :=
  timing.iterated.map fun member => timingRow label server member.1 member.2.integerValue

/-- The family of a type of counters. -/
def counterFamily (entry : String × Json) : Family where
  metric := (counterLabel (key2type entry.1)).toList
  help := ("The number of " ++ (infoOf countersInfo (key2type entry.1)).desc ++ ".").toList
  kind := .counter
  rows := entry.2.iterated.flatMap fun server =>
    counterRows (counterLabel (key2type entry.1)) server.1 server.2

/-- The family of a type of timings. -/
def timingFamily (entry : String × Json) : Family where
  metric := (timingLabel (key2type entry.1)).toList
  help := ("A histogram of " ++ (infoOf timingsInfo (key2type entry.1)).desc ++ ".").toList
  kind := .histogram
  rows := entry.2.iterated.flatMap fun server =>
    timingRows (timingLabel (key2type entry.1)) server.1 server.2

/-- The families of a document. -/
def prometheusFamilies (utf8 : String → Bool) (iteration : Iteration) (json : Json) :
    List Family :=
  (iteration.order (byType utf8 json "counters")).map counterFamily ++
    (iteration.order (byType utf8 json "timings")).map timingFamily

/-! ## The text is what the writer writes -/

/-- A text that is appended to piece by piece. -/
theorem foldl_toList {α : Type} {step : String → α → String} {piece : α → List Char}
    (each : ∀ text item, (step text item).toList = text.toList ++ piece item) (items : List α)
    (text : String) : (items.foldl step text).toList = text.toList ++ items.flatMap piece := by
  induction items generalizing text with
  | nil => exact (List.append_nil _).symm
  | cons item items ih =>
      rw [List.foldl_cons, ih, each, List.flatMap_cons, List.append_assoc]

/-- A row with a line feed. -/
def rowText (row : Row) : List Char := row.write id ++ ['\n']

theorem counterNamed_text (text label server key : String) (value : Json) :
    (prometheusCounterNamed text (label ++ "\x7bserver_name=\"" ++ server ++ "\"") key
        value).toList =
      text.toList ++ (value.iterated.map fun member =>
        counterRow label server [("name", key), ("value", member.1)]
          member.2.integerValue).flatMap rowText := by
  rw [prometheusCounterNamed, List.flatMap_map]
  refine foldl_toList (fun text member => ?_) _ text
  simp only [String.toList_append, List.append_assoc, rowText, Row.write, counterRow, writeLabels,
    writeLabel, List.map_cons, List.map_nil, List.cons_append, List.nil_append, id]
  rfl

theorem counterKeyed_text (text label server : String) {counter : Json}
    (other : ∀ n, counter ≠ .int n) :
    (prometheusCounterKeyed text (label ++ "\x7bserver_name=\"" ++ server ++ "\"")
        counter).toList =
      text.toList ++ (counterRows label server counter).flatMap rowText := by
  have rows : counterRows label server counter =
      counter.iterated.flatMap fun member =>
        match member.2 with
        | .int n => [counterRow label server [("value", member.1)] n]
        | names =>
            names.iterated.map fun value =>
              counterRow label server [("name", member.1), ("value", value.1)]
                value.2.integerValue := by
    unfold counterRows
    split
    · rename_i n
      exact absurd rfl (other n)
    · rfl
  rw [rows, prometheusCounterKeyed, List.flatMap_assoc]
  refine foldl_toList (fun text member => ?_) _ text
  obtain ⟨key, value⟩ := member
  cases value with
  | int n =>
      simp only [String.toList_append, List.append_assoc, rowText, Row.write, counterRow,
        writeLabels, writeLabel, List.map_cons, List.map_nil, List.cons_append, List.nil_append,
        id, List.flatMap_cons, List.flatMap_nil]
      rfl
  | _ => exact counterNamed_text text label server key _

/-- The text of a family: its two first lines, its rows and an empty line. -/
theorem family_text {text : String} {family : Family}
    (head : text.toList = family.writeHelp ++ '\n' :: family.writeKind ++ ['\n'])
    {α : Type} {step : String → α → String} {piece : α → List Row}
    (each : ∀ text item, (step text item).toList = text.toList ++ (piece item).flatMap rowText)
    {items : List α} (rows : family.rows = items.flatMap piece) :
    (items.foldl step text ++ "\n").toList = family.write id := by
  rw [String.toList_append, foldl_toList each, head, Family.write, rows, List.flatMap_assoc,
    List.append_assoc, List.append_assoc, List.append_assoc]
  simp only [List.append_assoc, List.cons_append, List.nil_append]
  rfl

theorem counters_head (label desc : String) (rows : List Row) :
    ("# HELP " ++ label ++ " The number of " ++ desc ++ ".\n" ++ "# TYPE " ++ label ++
        " counter\n").toList =
      Family.writeHelp ⟨label.toList, ("The number of " ++ desc ++ ".").toList, .counter, rows⟩ ++
        '\n' :: Family.writeKind
          ⟨label.toList, ("The number of " ++ desc ++ ".").toList, .counter, rows⟩ ++ ['\n'] := by
  simp only [Family.writeHelp, Family.writeKind, String.toList_append, List.append_assoc,
    List.cons_append]
  rfl

theorem timings_head (label desc : String) (rows : List Row) :
    ("# HELP " ++ label ++ " A histogram of " ++ desc ++ ".\n" ++ "# TYPE " ++ label ++
        " histogram\n").toList =
      Family.writeHelp
          ⟨label.toList, ("A histogram of " ++ desc ++ ".").toList, .histogram, rows⟩ ++
        '\n' :: Family.writeKind
          ⟨label.toList, ("A histogram of " ++ desc ++ ".").toList, .histogram, rows⟩ ++
        ['\n'] := by
  simp only [Family.writeHelp, Family.writeKind, String.toList_append, List.append_assoc,
    List.cons_append]
  rfl

theorem counters_text (entry : String × Json) :
    (prometheusCounters entry.1 entry.2).toList = (counterFamily entry).write id := by
  unfold prometheusCounters counterFamily
  dsimp only
  rw [counterLabel]
  generalize prometheusNormalizeName (type2s countersInfo (key2type entry.1)) = label
  generalize (infoOf countersInfo (key2type entry.1)).desc = desc
  refine family_text (counters_head label desc _) (fun text server => ?_) rfl
  obtain ⟨name, counter⟩ := server
  cases counter with
  | int n =>
      simp only [String.toList_append, List.append_assoc, rowText, Row.write, counterRows,
        counterRow, writeLabels, writeLabel, List.map_cons, List.map_nil, List.cons_append,
        List.nil_append, id, List.flatMap_cons, List.flatMap_nil]
      rfl
  | _ => exact counterKeyed_text text _ name fun n same => by cases same

theorem timings_text (entry : String × Json) :
    (prometheusTimings entry.1 entry.2).toList = (timingFamily entry).write id := by
  unfold prometheusTimings timingFamily
  dsimp only
  rw [timingLabel]
  generalize prometheusNormalizeName (type2s timingsInfo (key2type entry.1)) = label
  generalize (infoOf timingsInfo (key2type entry.1)).desc = desc
  refine family_text (timings_head label desc _) (fun text server => ?_) rfl
  rw [timingRows, List.flatMap_map]
  refine foldl_toList (fun text member => ?_) _ text
  have bucket : prometheusBucketLabel member.1 =
      (bucketBound member.1).map fun bound => "le=\"" ++ bound ++ "\"" := by
    rw [prometheusBucketLabel, bucketBound, Option.map_map]
    rfl
  rw [bucket, timingRow]
  cases bucketBound member.1 with
  | none =>
      simp only [Option.map_none, String.toList_append, List.append_assoc, rowText, Row.write,
        writeLabels, writeLabel, List.cons_append, List.nil_append, id]
      rfl
  | some bound =>
      simp only [Option.map_some, String.toList_append, List.append_assoc, rowText, Row.write,
        writeLabels, writeLabel, List.cons_append, List.nil_append, id]
      rfl

/-- The text of a document is that of its families, without escapes. -/
theorem prometheus_text (utf8 : String → Bool) (iteration : Iteration) (json : Json) :
    (prometheusText utf8 iteration json).toList =
      (prometheusFamilies utf8 iteration json).flatMap (Family.write id) := by
  have counters : ∀ text (entry : String × Json),
      (text ++ prometheusCounters entry.1 entry.2).toList =
        text.toList ++ (counterFamily entry).write id := by
    intro text entry
    rw [String.toList_append, counters_text]
  have timings : ∀ text (entry : String × Json),
      (text ++ prometheusTimings entry.1 entry.2).toList =
        text.toList ++ (timingFamily entry).write id := by
    intro text entry
    rw [String.toList_append, timings_text]
  rw [prometheusText, foldl_toList timings, foldl_toList counters, prometheusFamilies,
    List.flatMap_append, List.flatMap_map, List.flatMap_map]
  rfl

end Metrics

end ModAuthOpenidc
