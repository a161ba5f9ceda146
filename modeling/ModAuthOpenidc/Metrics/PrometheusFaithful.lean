import ModAuthOpenidc.Metrics.PrometheusNames

/-!
# The output for Prometheus is faithful

A text is faithful to a document if it is well formed and its samples are those of the stored
numbers. The output is, exactly if no server name, claim name or value has to be escaped and no
named counter is stored without values.
-/

namespace ModAuthOpenidc

namespace Metrics

open Exposition (Row Family Group Clean SameSeries WellFormed samplesOf samplesCost valuesOf
  backslashes isName isNameChar isHelp)

/-- A text is well formed, and its samples are those of the numbers that the document stores: one
for every number, with its server, its name and its value. -/
def Faithful (isFloat : List Char → Bool) (json : Json) (text : String) : Prop :=
  ∃ lines, Exposition.read isFloat text.toList = some lines ∧ WellFormed lines ∧
    ∃ entries : List (Entry × Int), entries.Nodup ∧
      (∀ entry n, (entry, n) ∈ entries ↔ HasNumber json entry n) ∧
      samplesOf lines = entries.map fun entry => (entry.1.row entry.2).sample

/-- All numbers are stored under texts that need no escapes, and those with a name under a value. -/
def Printable (json : Json) : Prop :=
  ∀ entry n, HasNumber json entry n →
    (∀ text ∈ entry.texts, Clean text.toList) ∧ entry.Valued

/-! ## The families can be written -/

section Families

variable {utf8 : String → Bool} {json : Json} {iteration : Iteration}

/-- The rows of the output are those of stored numbers. -/
theorem mem_rows (shaped : Shaped utf8 json) {family : Family}
    (member : family ∈ prometheusFamilies utf8 iteration json) {row : Row}
    (inside : row ∈ family.rows) :
    ∃ entry n, HasNumber json entry n ∧ row = entry.printed n := by
  have among : row ∈ (prometheusFamilies utf8 iteration json).flatMap Family.rows :=
    List.mem_flatMap.mpr ⟨family, member, inside⟩
  rw [rows_prometheusFamilies] at among
  obtain ⟨⟨entry, n⟩, listed, rfl⟩ := List.mem_map.mp among
  exact ⟨entry, n, (mem_printedEntries shaped iteration).mp listed, rfl⟩

theorem timingLabel_named (type : Nat) {ending : String} (among : ending ∈ endings) :
    isName true ((timingLabel type).toList ++ ending.toList) = true := by
  rw [timingLabel]
  refine isName_label timingsInfo type ?_
  have every : ∀ ending ∈ endings, ending.toList.all (isNameChar true) = true := by
    decide
  exact every ending among

theorem counterLabel_named (type : Nat) : isName true (counterLabel type).toList = true := by
  have named := @isName_label countersInfo type [] rfl
  rwa [List.append_nil, ← counterLabel] at named

/-- The labels of a row have different names. -/
theorem written_named {labels : List (String × String)}
    (names : labels.map Prod.fst ∈ [["server_name"], ["server_name", "name"],
      ["server_name", "value"], ["server_name", "name", "value"], ["le", "server_name"]]) :
    (∀ label ∈ written labels, isName false label.1 = true) ∧
      ((written labels).map Prod.fst).Nodup := by
  have every : ∀ names ∈ [["server_name"], ["server_name", "name"], ["server_name", "value"],
      ["server_name", "name", "value"], ["le", "server_name"]],
      (∀ name ∈ names, isName false name.toList = true) ∧ (names.map String.toList).Nodup := by
    decide
  obtain ⟨named, distinct⟩ := every _ names
  refine ⟨fun label member => ?_, ?_⟩
  · obtain ⟨text, inside, rfl⟩ := List.mem_map.mp member
    exact named text.1 (List.mem_map_of_mem inside)
  · rw [List.map_map] at distinct
    rw [written, List.map_map]
    exact distinct

theorem counterRow_named {label : String} (named : isName true label.toList = true)
    (server : String) {labels : List (String × String)}
    (names : labels.map Prod.fst ∈ [[], ["name"], ["value"], ["name", "value"]]) (n : Int) :
    (counterRow label server labels n).Named := by
  have whole : (("server_name", server) :: labels).map Prod.fst ∈ [["server_name"],
      ["server_name", "name"], ["server_name", "value"], ["server_name", "name", "value"],
      ["le", "server_name"]] := by
    rw [List.map_cons]
    simp only [List.mem_cons, List.not_mem_nil, or_false] at names
    rcases names with names | names | names | names <;> simp [names]
  obtain ⟨each, distinct⟩ := written_named whole
  exact ⟨named, each, distinct⟩

theorem Entry.Known.printed_named {entry : Entry} (known : entry.Known) (n : Int) :
    (entry.printed n).Named := by
  cases entry with
  | counter server type name value =>
      have label := counterLabel_named type
      cases name with
      | none =>
          cases value with
          | none => exact counterRow_named label server (by simp) n
          | some value => exact counterRow_named label server (by simp) n
      | some name =>
          cases value with
          | none => exact counterRow_named label server (by simp) n
          | some value => exact counterRow_named label server (by simp) n
  | timing server type member =>
      have names : (Entry.labels (.timing server type member)).map Prod.fst ∈ [["server_name"],
          ["server_name", "name"], ["server_name", "value"], ["server_name", "name", "value"],
          ["le", "server_name"]] := by
        rw [Entry.labels]
        cases bucketBound member <;> simp
      obtain ⟨named, distinct⟩ := written_named names
      have metric := Entry.row_metric (.timing server type member) n
      have labels := Entry.row_labels (.timing server type member) n
      have own := timingLabel_named type (timingNames_cases member known.2).1
      rw [Entry.printed]
      · exact ⟨metric ▸ own, labels ▸ named, labels ▸ distinct⟩
      · rintro _ _ _ whole
        cases whole

/-- A help text goes on with characters that need no escapes. -/
theorem isHelp_append {first rest : List Char} (filled : first ≠ []) (help : isHelp first = true)
    (plain : '\\' ∉ rest ∧ '\n' ∉ rest) : isHelp (first ++ rest) = true := by
  cases first with
  | nil => exact absurd rfl filled
  | cons c first =>
      rw [isHelp, Bool.and_eq_true] at help
      rw [List.cons_append, isHelp, ← List.cons_append, List.all_append, help.1, help.2,
        Bool.true_and, Bool.true_and]
      refine List.all_eq_true.mpr fun c member => ?_
      rw [Bool.and_eq_true, decide_eq_true_eq, decide_eq_true_eq]
      exact ⟨fun same => plain.1 (same ▸ member), fun same => plain.2 (same ▸ member)⟩

/-- A character of one byte is not in a text whose bytes do not have it. -/
theorem notMem_of_bytes {text : String} {c : Char} {byte : UInt8}
    (one : String.utf8EncodeChar c = [byte]) (absent : byte ∉ text.toByteArray.data.toList) :
    c ∉ text.toList := by
  intro member
  rw [← String.utf8Encode_toList, List.utf8Encode, List.data_toByteArray] at absent
  exact absent (List.mem_flatMap.mpr ⟨c, member, one ▸ List.mem_singleton_self byte⟩)

/-- The descriptions of all metrics need no escapes. -/
theorem desc_plain (infos : List Info) (table : infos = countersInfo ∨ infos = timingsInfo)
    (type : Nat) : '\\' ∉ (infoOf infos type).desc.toList ∧
      '\n' ∉ (infoOf infos type).desc.toList := by
  have every : ∀ info ∈ ⟨"", "", ""⟩ :: (countersInfo ++ timingsInfo),
      92 ∉ info.desc.toByteArray.data.toList ∧ 10 ∉ info.desc.toByteArray.data.toList := by
    decide +kernel
  have member : infoOf infos type ∈ ⟨"", "", ""⟩ :: (countersInfo ++ timingsInfo) := by
    rw [infoOf, List.getD_eq_getElem?_getD]
    cases found : infos[type]? with
    | none => exact List.mem_cons_self
    | some info =>
        have inside := List.mem_of_getElem? found
        rcases table with rfl | rfl
        · exact List.mem_cons_of_mem _ (List.mem_append_left _ inside)
        · exact List.mem_cons_of_mem _ (List.mem_append_right _ inside)
  exact ⟨notMem_of_bytes rfl (every _ member).1, notMem_of_bytes rfl (every _ member).2⟩

theorem isHelp_desc {start : String} (filled : start.toList ≠ [])
    (help : isHelp start.toList = true) {infos : List Info}
    (table : infos = countersInfo ∨ infos = timingsInfo) (type : Nat) :
    isHelp (start ++ (infoOf infos type).desc ++ ".").toList = true := by
  obtain ⟨backslash, feed⟩ := desc_plain infos table type
  rw [String.toList_append, String.toList_append, List.append_assoc]
  exact isHelp_append filled help
    ⟨List.not_mem_append backslash (by decide), List.not_mem_append feed (by decide)⟩

theorem family_named {label help : String} {kind : Exposition.Kind} {rows : List Row}
    (metric : isName true label.toList = true) (text : isHelp help.toList = true)
    (each : ∀ row ∈ rows, row.Named) : Family.Named ⟨label.toList, help.toList, kind, rows⟩ :=
  ⟨metric, text, each⟩

/-- All families can be written. -/
theorem families_named (shaped : Shaped utf8 json) :
    ∀ family ∈ prometheusFamilies utf8 iteration json, family.Named := by
  intro family member
  have rows : ∀ row ∈ family.rows, row.Named := by
    intro row inside
    obtain ⟨entry, n, holds, rfl⟩ := mem_rows shaped member inside
    exact (holds.known shaped).printed_named n
  rcases List.mem_append.mp member with counter | timing
  · obtain ⟨type, -, rfl⟩ := List.mem_map.mp counter
    have help := @isHelp_desc "The number of " (by decide) (by decide) _ (.inl rfl)
      (key2type type.1)
    exact family_named (counterLabel_named (key2type type.1)) help rows
  · obtain ⟨type, -, rfl⟩ := List.mem_map.mp timing
    have help := @isHelp_desc "A histogram of " (by decide) (by decide) _ (.inr rfl)
      (key2type type.1)
    have metric := @timingLabel_named (key2type type.1) "" (by decide)
    exact family_named (by simpa using metric) help rows

theorem counterRows_metric {label server : String} {counter : Json} {row : Row}
    (member : row ∈ counterRows label server counter) : row.metric = label.toList := by
  cases counter with
  | int n => rw [List.mem_singleton.mp member, counterRow]
  | _ =>
      obtain ⟨⟨key, value⟩, -, own⟩ := List.mem_flatMap.mp member
      cases value with
      | int n => rw [List.mem_singleton.mp own, counterRow]
      | _ =>
          obtain ⟨value, -, rfl⟩ := List.mem_map.mp own
          rw [counterRow]

/-- The rows of a timing are the buckets, the sum and the count of its histogram. -/
theorem timingRow_owned {member : String} (among : member ∈ timingNames) (label server : String)
    (help : Option (List Char)) (samples : List Exposition.Sample) (n : Int) :
    Group.Owns ⟨label.toList, help, some .histogram, samples⟩
      (timingRow label server member n).sample := by
  have metric : (timingRow label server member n).sample.metric =
      label.toList ++ (timingEnding member).toList := timingRow_metric label server member n
  rcases (timingNames_cases member among).2 with bound | rfl | rfl
  · refine .inl ⟨?_, ?_⟩
    · rw [metric, timingEnding, if_pos bound]
    · obtain ⟨text, found⟩ := Option.isSome_iff_exists.mp bound
      have labels : (timingRow label server member n).sample.labels =
          [("le".toList, text.toList), ("server_name".toList, server.toList)] := by
        rw [timingRow, found]
        rfl
      rw [labels]
      exact List.mem_cons_self
  · exact .inr (.inl metric)
  · exact .inr (.inr metric)

theorem families_owned (shaped : Shaped utf8 json) :
    ∀ family ∈ prometheusFamilies utf8 iteration json, ∀ row ∈ family.rows,
      family.group.Owns row.sample := by
  intro family member row inside
  rcases List.mem_append.mp member with counter | timing
  · obtain ⟨type, -, rfl⟩ := List.mem_map.mp counter
    obtain ⟨server, -, own⟩ := List.mem_flatMap.mp inside
    exact counterRows_metric own
  · obtain ⟨type, listed, rfl⟩ := List.mem_map.mp timing
    obtain ⟨server, among, own⟩ := List.mem_flatMap.mp inside
    obtain ⟨name, present, rfl⟩ := List.mem_map.mp own
    obtain ⟨sorted, found, shapes⟩ := shaped.timings
    have stored := (mem_types sorted iteration _ _ _).mp ⟨type, listed, rfl, among⟩
    obtain ⟨-, -, -, members, whole, names, -⟩ := shapes _ _ _ ((found _ _).symm.trans stored)
    rw [whole] at present
    exact timingRow_owned (names ▸ List.mem_map_of_mem present) _ _ _ _ _

/-- The keys of a table by type are those of types. -/
theorem key_type {hash : Hash Json} {known : String → Prop} (sorted : ByType known hash)
    {limit : Nat} (small : limit ≤ 2 ^ 32)
    (types : ∀ key, known key → ∃ type < limit, key = toString type) {type : String × Json}
    (listed : type ∈ iteration.order hash) :
    key2type type.1 < limit ∧ type.1 = toString (key2type type.1) := by
  obtain ⟨own, -⟩ := sorted.objects type ((iteration.perm hash).mem_iff.mp listed)
  obtain ⟨known, bound, key⟩ := types type.1 own
  have same : key2type type.1 = known := by
    rw [key, key2type_toString (Nat.lt_of_lt_of_le bound small)]
  exact ⟨same ▸ bound, same ▸ key⟩

theorem counter_key (shaped : Shaped utf8 json) {type : String × Json}
    (listed : type ∈ iteration.order (byType utf8 json "counters")) :
    key2type type.1 < countersInfo.length ∧ type.1 = toString (key2type type.1) := by
  refine key_type shaped.counters.1 (by decide) ?_ listed
  rintro key ⟨value, type, known, same, -⟩
  exact ⟨type, known, same⟩

theorem timing_key (shaped : Shaped utf8 json) {type : String × Json}
    (listed : type ∈ iteration.order (byType utf8 json "timings")) :
    key2type type.1 < timingsInfo.length ∧ type.1 = toString (key2type type.1) := by
  refine key_type shaped.timings.1 (by decide) ?_ listed
  rintro key ⟨value, type, known, same, -⟩
  exact ⟨type, known, same⟩

/-- Entries of a table by type in the order of the output have different types. -/
theorem pairwise_types {hash : Hash Json} {known : String → Prop} (sorted : ByType known hash) :
    (iteration.order hash).Pairwise fun type other => type.1 ≠ other.1 :=
  List.pairwise_map.mp (((iteration.perm hash).map Prod.fst).nodup_iff.mpr sorted.distinct)

theorem counter_names (type : String × Json) :
    (counterFamily type).group.names = [(counterLabel (key2type type.1)).toList] := rfl

theorem timing_names (type : String × Json) :
    (timingFamily type).group.names =
      endings.map fun ending => (timingLabel (key2type type.1)).toList ++ ending.toList := by
  have whole : (timingLabel (key2type type.1)).toList ++ "".toList =
      (timingLabel (key2type type.1)).toList := List.append_nil _
  rw [endings, List.map_cons, whole]
  rfl

/-- No name is taken by two families. -/
theorem families_apart (shaped : Shaped utf8 json) :
    (prometheusFamilies utf8 iteration json).Pairwise fun family other =>
      family.group.names.Disjoint other.group.names := by
  rw [prometheusFamilies]
  refine List.pairwise_append.mpr ⟨List.pairwise_map.mpr ?_, List.pairwise_map.mpr ?_, ?_⟩
  · refine (pairwise_types shaped.counters.1).imp_of_mem fun {type other} here there different => ?_
    obtain ⟨known, key⟩ := counter_key shaped here
    obtain ⟨known', key'⟩ := counter_key shaped there
    rw [counter_names, counter_names]
    intro name first second
    have same := (List.mem_singleton.mp first).symm.trans (List.mem_singleton.mp second)
    exact different (key.trans ((congrArg toString (counterLabel_inj known known' same)).trans
      key'.symm))
  · refine (pairwise_types shaped.timings.1).imp_of_mem fun {type other} here there different => ?_
    obtain ⟨known, key⟩ := timing_key shaped here
    obtain ⟨known', key'⟩ := timing_key shaped there
    rw [timing_names, timing_names]
    intro name first second
    obtain ⟨ending, among, rfl⟩ := List.mem_map.mp first
    obtain ⟨ending', among', same⟩ := List.mem_map.mp second
    exact different (key.trans ((congrArg toString
      (timingLabel_inj known known' among among' same.symm)).trans key'.symm))
  · intro family counter other timing
    obtain ⟨type, listed, rfl⟩ := List.mem_map.mp counter
    obtain ⟨type', listed', rfl⟩ := List.mem_map.mp timing
    rw [counter_names, timing_names]
    intro name first second
    obtain ⟨ending, among, same⟩ := List.mem_map.mp second
    exact counterLabel_ne (counter_key shaped listed).1 (timing_key shaped listed').1 among
      ((List.mem_singleton.mp first).symm.trans same.symm)

/-- No two samples of stored numbers belong to one series. -/
theorem series_apart (shaped : Shaped utf8 json) :
    ((printedEntries utf8 iteration json).map fun entry => (entry.1.row entry.2).sample).Pairwise
      fun sample other => ¬SameSeries sample other := by
  refine List.pairwise_map.mpr ?_
  refine (List.pairwise_map.mp (nodup_printedEntries shaped iteration)).imp_of_mem ?_
  intro entry other here there different same
  exact different (series_inj (((mem_printedEntries shaped iteration).mp here).known shaped)
    (((mem_printedEntries shaped iteration).mp there).known shaped) same)

/-- The samples of the families are those of the printed rows. -/
theorem samplesOf_prometheus :
    samplesOf ((prometheusFamilies utf8 iteration json).flatMap Family.lines) =
      (printedEntries utf8 iteration json).map fun entry => (entry.1.printed entry.2).sample := by
  have rows : (prometheusFamilies utf8 iteration json).flatMap
      (fun family => family.rows.map Row.sample) =
        ((prometheusFamilies utf8 iteration json).flatMap Family.rows).map Row.sample :=
    List.map_flatMap.symm
  rw [Exposition.samplesOf_families, rows, rows_prometheusFamilies, List.map_map]
  rfl

end Families

/-! ## What the labels say -/

/-- The values of an entry are its texts, and the bound of a bucket. -/
theorem Entry.mem_values {entry : Entry} {n : Int} {value : List Char} :
    value ∈ (entry.row n).labels.map Prod.snd ↔ (∃ text ∈ entry.texts, value = text.toList) ∨
      ∃ server type member bound, entry = .timing server type member ∧
        bucketBound member = some bound ∧ value = bound.toList := by
  rw [Entry.row_labels, written, List.map_map]
  cases entry with
  | counter server type name value' =>
      cases name <;> cases value' <;> simp [Entry.labels, Entry.texts]
  | timing server type member =>
      cases found : bucketBound member with
      | none => simp [Entry.labels, Entry.texts, found]
      | some bound => simp [Entry.labels, Entry.texts, found, or_comm]

theorem bound_clean {member bound : String} (found : bucketBound member = some bound) :
    Clean bound.toList := by
  have every : ∀ bucket ∈ bucketBounds, Clean bucket.2.toList := by decide
  obtain ⟨bucket, listed, rfl⟩ := Option.map_eq_some_iff.mp found
  exact every bucket (List.mem_of_find?_eq_some listed)

/-- Whether a sample has a name. -/
def hasName (sample : Exposition.Sample) : Bool :=
  sample.labels.any fun label => label.1 = "name".toList

theorem hasName_row (entry : Entry) (n : Int) :
    hasName (entry.row n).sample = entry.labels.any fun label => label.1 = "name" := by
  have labels : (entry.row n).sample.labels = written entry.labels := entry.row_labels n
  rw [hasName, labels, written, List.any_map]
  congr 1
  funext label
  rw [Function.comp_apply, decide_eq_decide]
  exact String.toList_inj

/-- A counter with a name and without values loses its name in print. -/
theorem hasName_printed (entry : Entry) (n : Int) :
    (hasName (entry.printed n).sample = true → hasName (entry.row n).sample = true) ∧
      (hasName (entry.row n).sample = true → hasName (entry.printed n).sample = true →
        entry.Valued) ∧ (¬entry.Valued → hasName (entry.row n).sample = true) := by
  cases entry with
  | counter server type name value =>
      cases name with
      | none => exact ⟨fun has => has, fun _ _ => .inl rfl, fun lost => absurd (.inl rfl) lost⟩
      | some name =>
          cases value with
          | none =>
              have unnamed :
                  hasName ((Entry.counter server type (some name) none).printed n).sample =
                    false := by
                have same : (Entry.counter server type (some name) none).printed n =
                    (Entry.counter server type none (some name)).row n := rfl
                rw [same, hasName_row]
                rfl
              rw [unnamed, hasName_row]
              exact ⟨fun has => absurd has (by decide), fun _ has => absurd has (by decide),
                fun _ => rfl⟩
          | some value =>
              exact ⟨fun has => has, fun _ _ => .inr (by simp), fun lost =>
                absurd (.inr (by simp)) lost⟩
  | timing server type member =>
      exact ⟨fun has => has, fun _ _ => trivial, fun lost => absurd trivial lost⟩

/-- Items that fewer tests pass in no smaller number pass both tests. -/
theorem of_countP_eq {α : Type} {p q : α → Bool} {items : List α}
    (implied : ∀ item, q item = true → p item = true)
    (same : items.countP p = items.countP q) : ∀ item ∈ items, p item = true → q item = true := by
  induction items with
  | nil => exact fun item member => absurd member List.not_mem_nil
  | cons first items ih =>
      have fewer : items.countP q ≤ items.countP p :=
        List.countP_mono_left fun item _ => implied item
      rw [List.countP_cons, List.countP_cons] at same
      intro item member passes
      by_cases test : q first = true
      · rw [if_pos test, if_pos (implied first test)] at same
        rcases List.mem_cons.mp member with rfl | later
        · exact test
        · exact ih (by omega) item later passes
      · rw [if_neg test] at same
        rcases List.mem_cons.mp member with rfl | later
        · rw [if_pos passes] at same
          omega
        · split at same
          · omega
          · exact ih (by omega) item later passes

/-! ## The output is faithful exactly to printable documents -/

section Faithful

variable {utf8 : String → Bool} {json : Json} {iteration : Iteration}
  {isFloat : List Char → Bool}

/-- Without characters that have to be escaped, the text is read again as it was written. -/
theorem read_prometheus (shaped : Shaped utf8 json)
    (clean : ∀ entry n, HasNumber json entry n → ∀ text ∈ entry.texts, Clean text.toList) :
    Exposition.read isFloat (prometheusText utf8 iteration json).toList =
      some ((prometheusFamilies utf8 iteration json).flatMap Family.lines) := by
  rw [prometheus_text, Exposition.write_clean, Exposition.read_families (families_named shaped)]
  intro family member row inside label among
  obtain ⟨entry, n, holds, rfl⟩ := mem_rows shaped member inside
  have value : label.2 ∈ (entry.row n).labels.map Prod.snd :=
    entry.printed_values n ▸ List.mem_map_of_mem among
  rcases Entry.mem_values.mp value with ⟨text, own, same⟩ | ⟨_, _, _, bound, -, found, same⟩
  · exact same ▸ clean entry n holds text own
  · exact same ▸ bound_clean found

theorem faithful_of_printable (shaped : Shaped utf8 json) (printable : Printable json) :
    Faithful isFloat json (prometheusText utf8 iteration json) := by
  have printed : ((printedEntries utf8 iteration json).map fun entry =>
      (entry.1.printed entry.2).sample) =
        (printedEntries utf8 iteration json).map fun entry => (entry.1.row entry.2).sample := by
    refine List.map_congr_left fun entry listed => ?_
    have holds := (mem_printedEntries shaped iteration).mp listed
    rw [(printable _ _ holds).2.printed_eq]
  refine ⟨_, read_prometheus shaped fun entry n holds => (printable entry n holds).1, ?_,
    printedEntries utf8 iteration json, (nodup_printedEntries shaped iteration).of_map,
    fun entry n => mem_printedEntries shaped iteration, samplesOf_prometheus.trans printed⟩
  refine Exposition.wellFormed_families (families_owned shaped) (families_apart shaped) ?_
  rw [← Exposition.samplesOf_families, samplesOf_prometheus, printed]
  exact series_apart shaped

/-- The backslashes of the text are not enough for escapes, so nothing has to be escaped. -/
theorem clean_of_faithful (shaped : Shaped utf8 json)
    (faithful : Faithful isFloat json (prometheusText utf8 iteration json)) :
    ∀ entry n, HasNumber json entry n → ∀ text ∈ entry.texts, Clean text.toList := by
  obtain ⟨lines, reads, -, entries, distinct, stored, samples⟩ := faithful
  have perm : entries.Perm (printedEntries utf8 iteration json) := by
    refine (List.perm_ext_iff_of_nodup distinct
      (nodup_printedEntries shaped iteration).of_map).mpr fun entry => ?_
    rw [stored, mem_printedEntries shaped iteration]
  have values : valuesOf ((printedEntries utf8 iteration json).map fun entry =>
      entry.1.printed entry.2) =
        valuesOf ((printedEntries utf8 iteration json).map fun entry => entry.1.row entry.2) := by
    rw [valuesOf, valuesOf, List.flatMap_map, List.flatMap_map]
    exact List.flatMap_congr fun entry _ => entry.1.printed_values entry.2
  have read : samplesCost (samplesOf lines) =
      ((valuesOf ((printedEntries utf8 iteration json).map fun entry =>
        entry.1.row entry.2)).map Exposition.cost).sum := by
    have rows : samplesOf lines =
        (entries.map fun entry => entry.1.row entry.2).map Row.sample := by
      rw [samples, List.map_map]
      rfl
    rw [rows, ← Exposition.samplesCost_rows]
    exact (((perm.map _).map Row.sample).map Exposition.Sample.cost).sum_eq
  have bounded := Exposition.read_count reads
  rw [read, prometheus_text, Exposition.families_backslashes (families_named shaped),
    rows_prometheusFamilies, values] at bounded
  intro entry n holds text own
  refine Exposition.clean_of_sum_le bounded _ (List.mem_flatMap.mpr ⟨entry.row n, ?_, ?_⟩)
  · exact List.mem_map.mpr ⟨(entry, n), (mem_printedEntries shaped iteration).mpr holds, rfl⟩
  · exact Entry.mem_values.mpr (.inl ⟨text, own, rfl⟩)

theorem printable_of_faithful (shaped : Shaped utf8 json)
    (faithful : Faithful isFloat json (prometheusText utf8 iteration json)) : Printable json := by
  have clean := clean_of_faithful shaped faithful
  obtain ⟨lines, reads, -, entries, distinct, stored, samples⟩ := faithful
  have perm : entries.Perm (printedEntries utf8 iteration json) := by
    refine (List.perm_ext_iff_of_nodup distinct
      (nodup_printedEntries shaped iteration).of_map).mpr fun entry => ?_
    rw [stored, mem_printedEntries shaped iteration]
  rw [read_prometheus shaped clean] at reads
  cases reads
  rw [samplesOf_prometheus] at samples
  -- the samples with a name are counted on both sides
  have names := congrArg (List.countP hasName) samples
  rw [((perm.map _).countP_eq hasName), List.countP_map, List.countP_map] at names
  intro entry n holds
  refine ⟨clean entry n holds, ?_⟩
  by_contra lost
  obtain ⟨-, agree, named⟩ := hasName_printed entry n
  refine lost (agree (named lost) ?_)
  exact of_countP_eq (fun entry => (hasName_printed entry.1 entry.2).1) names.symm (entry, n)
    ((mem_printedEntries shaped iteration).mpr holds) (named lost)

end Faithful

/-- A text that is produced can be parsed. -/
theorem Produced.loads {jansson : Jansson} (documented : jansson.Documented) {size : Nat}
    {storage : String} (produced : Produced jansson size storage) (filled : storage ≠ "") :
    ∃ json, jansson.loads storage = some json := by
  have set {before : String} {json : Json} (shaped : Shaped jansson.utf8 json)
      (kept : before ≠ "" → ∃ json, jansson.loads before = some json)
      (left : storageSet size before (jansson.dumps json) ≠ "") :
      ∃ json', jansson.loads (storageSet size before (jansson.dumps json)) = some json' := by
    obtain ⟨members, rfl, -⟩ := shaped
    unfold storageSet at left ⊢
    cases dumped : jansson.dumps (.obj members) with
    | none =>
        rw [dumped] at left
        exact absurd rfl left
    | some text =>
        rw [dumped] at left
        dsimp only at left ⊢
        split at left
        · rename_i large
          rw [if_pos large]
          exact kept left
        · rename_i fits
          rw [if_neg fits]
          exact ⟨_, (documented.loads_dumps members text dumped).2⟩
  induction produced with
  | nothing => exact absurd rfl filled
  | store before counted arranged recorded ordered ih =>
      unfold Metrics.store at filled ⊢
      split at filled
      · rename_i nothing
        rw [if_pos nothing]
        exact ih filled
      · rename_i some
        rw [if_neg some]
        exact set (((before.shaped documented).storeCounters
          (counted.known.arranged arranged)).storeTimings (recorded.known.arranged ordered)) ih
          filled
  | reset before ih => exact set (before.shaped documented).reset ih filled

/-- For every document that flushes produce, the text for Prometheus is well formed and has exactly
the samples of the stored numbers if and only if no label value has to be escaped and every counter
with a name is stored with values. -/
theorem prometheus_faithful_iff {jansson : Jansson} (documented : jansson.Documented) {size : Nat}
    {storage : String} (produced : Produced jansson size storage) (filled : storage ≠ "")
    (iteration : Iteration) :
    ∃ text, handlePrometheus jansson iteration storage = some text ∧
      ∀ isFloat, Faithful isFloat (document jansson storage) text ↔
        Printable (document jansson storage) := by
  obtain ⟨json, loaded⟩ := produced.loads documented filled
  have held : document jansson storage = json := by
    rw [document, storageGet, if_neg filled, Option.getD_some, loaded, Option.getD_some]
  have shaped := produced.shaped documented
  rw [held] at shaped ⊢
  refine ⟨prometheusText jansson.utf8 iteration json, by rw [handlePrometheus, loaded]; rfl,
    fun isFloat => ⟨printable_of_faithful shaped, faithful_of_printable shaped⟩⟩

/-! ## A claim value with a quote -/

/-- The order in which the entries were made. -/
def madeOrder : Iteration where
  order := id
  perm := fun _ => .refl _

/-- The documents with one value of one claim. -/
def valueTable (value : String) : List (Json × String) :=
  [(nicknames (.obj [(value, .int 1)]), "one")]

theorem produced_value {value : String}
    (stored : store (.ofTable (valueTable value)) 100
      (counterInc [] (some "host") 18 (some "nickname") (some value)) [] "" = "one") :
    Produced (.ofTable (valueTable value)) 100 "one" := by
  rw [← stored]
  exact .store .nothing
    (.inc .nothing (some "host") (by decide : 18 < countersInfo.length) rfl (some value))
    (countersArranged_refl _) .nothing (arranged_refl (arranged_refl fun _ => rfl) _)

theorem documented_value (value : String) : (Jansson.ofTable (valueTable value)).Documented := by
  refine Jansson.documented_ofTable (List.nodup_singleton _) fun row member => ?_
  rw [List.mem_singleton.mp member]
  exact ⟨(by decide : "one" ≠ ""), (by decide : "one" ≠ "\x7b\x7d")⟩

/-- One value of one claim is a sample of its own. -/
theorem plain_value_faithful : ∃ text,
    handlePrometheus (.ofTable (valueTable "al")) madeOrder "one" = some text ∧
      ∀ isFloat, Faithful isFloat (document (.ofTable (valueTable "al")) "one") text := by
  have documented := documented_value "al"
  have produced : Produced (.ofTable (valueTable "al")) 100 "one" :=
    produced_value (by decide +kernel)
  obtain ⟨text, sent, faithful⟩ :=
    prometheus_faithful_iff documented produced (by decide) madeOrder
  refine ⟨text, sent, fun isFloat => (faithful isFloat).mpr fun entry n holds => ?_⟩
  have listed := (mem_printedEntries (produced.shaped documented) madeOrder).mpr holds
  have whole : printedEntries (Jansson.ofTable (valueTable "al")).utf8 madeOrder
      (document (.ofTable (valueTable "al")) "one") =
        [(.counter "host" 18 (some "nickname") (some "al"), 1)] := by decide +kernel
  rw [whole] at listed
  cases List.mem_singleton.mp listed
  exact ⟨by decide, .inr (by decide)⟩

/-- A value with a quote ends its label, and the text is none that can be read back. -/
theorem quoted_value_unfaithful : ∃ text,
    handlePrometheus (.ofTable (valueTable "a\"b")) madeOrder "one" = some text ∧
      Produced (.ofTable (valueTable "a\"b")) 100 "one" ∧
      ∀ isFloat, ¬Faithful isFloat (document (.ofTable (valueTable "a\"b")) "one") text := by
  have documented := documented_value "a\"b"
  have produced : Produced (.ofTable (valueTable "a\"b")) 100 "one" :=
    produced_value (by decide +kernel)
  refine ⟨_, rfl, produced, fun isFloat faithful => ?_⟩
  have printable := printable_of_faithful (produced.shaped documented) faithful
  have holds : HasNumber (document (.ofTable (valueTable "a\"b")) "one")
      (.counter "host" 18 (some "nickname") (some "a\"b")) 1 :=
    (mem_printedEntries (produced.shaped documented) madeOrder).mp (by decide +kernel)
  exact (by decide : ¬Clean "a\"b".toList) ((printable _ _ holds).1 _ (by decide))

end Metrics

end ModAuthOpenidc
