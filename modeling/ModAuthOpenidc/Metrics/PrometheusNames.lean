import ModAuthOpenidc.Metrics.PrometheusEntries

/-!
# Names in the output for Prometheus

The names of families are the names of the metrics with underscores. They differ from each other,
also from the names that histograms take for their buckets, sums and counts, so that a sample shows
the entry it is of.
-/

namespace ModAuthOpenidc

namespace Metrics

open Exposition (Row Family SameSeries isName isNameChar isNameStart)

/-! ## Names of families -/

/-- A character of a name. -/
def nameChar (c : Char) : Char := if c.isAlphanum then c else '_'

/-- The name of a metric behind the prefix of the module. -/
def labelChars (info : Info) : List Char :=
  (info.className.toList ++ '.' :: info.metricName.toList).map nameChar

/-- What the samples of a histogram have behind its name. -/
def endings : List String := ["", "_bucket", "_sum", "_count"]

/-- The names that are taken by a type of timings. -/
def timingChars (type : Nat) : List (List Char) :=
  endings.map fun ending => labelChars (infoOf timingsInfo type) ++ ending.toList

/-- All names behind the prefix. -/
def allNames : List (List Char) :=
  ((List.range countersInfo.length).map fun type => labelChars (infoOf countersInfo type)) ++
    (List.range timingsInfo.length).flatMap timingChars

/-- A name as a number. -/
def nameCode (name : List Char) : Nat := name.foldl (fun code c => code * 256 + c.toNat) 0

/-- All names are different. -/
theorem allNames_nodup : allNames.Nodup := by
  have codes : (allNames.map nameCode).Nodup := by decide +kernel
  exact codes.of_map

theorem toList_label (infos : List Info) (type : Nat) :
    (prometheusNormalizeName (type2s infos type)).toList =
      ['o', 'i', 'd', 'c', '_'] ++ labelChars (infoOf infos type) := by
  have dot : ".".toList = ['.'] := String.toList_ofList
  have start : "oidc_".toList = ['o', 'i', 'd', 'c', '_'] := String.toList_ofList
  rw [prometheusNormalizeName, String.toList_append, start, String.toList_ofList, type2s,
    String.toList_append, String.toList_append, dot, List.append_assoc]
  rfl

theorem counterLabel_inj {type other : Nat} (known : type < countersInfo.length)
    (known' : other < countersInfo.length)
    (same : (counterLabel type).toList = (counterLabel other).toList) : type = other := by
  rw [counterLabel, counterLabel, toList_label, toList_label] at same
  exact List.inj_on_of_nodup_map (List.nodup_append.mp allNames_nodup).1
    (List.mem_range.mpr known) (List.mem_range.mpr known') (List.append_cancel_left same)

/-- No two types of timings take one name. -/
theorem timingLabel_inj {type other : Nat} (known : type < timingsInfo.length)
    (known' : other < timingsInfo.length) {first second : String} (among : first ∈ endings)
    (among' : second ∈ endings)
    (same : (timingLabel type).toList ++ first.toList =
      (timingLabel other).toList ++ second.toList) : type = other := by
  rw [timingLabel, timingLabel, toList_label, toList_label, List.append_assoc,
    List.append_assoc] at same
  by_contra different
  have disjoint := (List.nodup_flatMap.mp (List.nodup_append.mp allNames_nodup).2.1).2
  have symmetric : Std.Symm (Function.onFun List.Disjoint timingChars) :=
    ⟨fun _ _ apart => apart.symm⟩
  have apart := disjoint.forall (List.mem_range.mpr known) (List.mem_range.mpr known') different
  exact apart (List.mem_map_of_mem among)
    (List.mem_map.mpr ⟨second, among', (List.append_cancel_left same).symm⟩)

/-- No counter takes a name of timings. -/
theorem counterLabel_ne {type other : Nat} (known : type < countersInfo.length)
    (known' : other < timingsInfo.length) {ending : String} (among : ending ∈ endings) :
    (counterLabel type).toList ≠ (timingLabel other).toList ++ ending.toList := by
  intro same
  rw [counterLabel, timingLabel, toList_label, toList_label, List.append_assoc] at same
  exact (List.nodup_append.mp allNames_nodup).2.2 _
    (List.mem_map.mpr ⟨type, List.mem_range.mpr known, rfl⟩) _
    (List.mem_flatMap.mpr ⟨other, List.mem_range.mpr known', List.mem_map_of_mem among⟩)
    (List.append_cancel_left same)

theorem isNameChar_nameChar (c : Char) : isNameChar true (nameChar c) = true := by
  unfold nameChar
  split
  · rename_i alphanumeric
    rw [Char.isAlphanum, Bool.or_eq_true] at alphanumeric
    rcases alphanumeric with alpha | digit
    · rw [isNameChar, isNameStart, alpha]
      rfl
    · rw [isNameChar, digit, Bool.or_true]
  · decide

/-- A label is a metric name, with an ending as well. -/
theorem isName_label (infos : List Info) (type : Nat) {ending : List Char}
    (named : ending.all (isNameChar true) = true) :
    isName true ((prometheusNormalizeName (type2s infos type)).toList ++ ending) = true := by
  have label : (labelChars (infoOf infos type)).all (isNameChar true) = true := by
    refine List.all_eq_true.mpr fun c member => ?_
    obtain ⟨old, -, rfl⟩ := List.mem_map.mp member
    exact isNameChar_nameChar old
  have start : (['i', 'd', 'c', '_'] : List Char).all (isNameChar true) = true := by decide
  rw [toList_label, List.append_assoc, List.cons_append, isName, List.all_append, List.all_append,
    label, named, start]
  decide

/-! ## Rows of known entries -/

/-- An entry of a type that the tables of metrics have. -/
def Entry.Known : Entry → Prop
  | counter _ type _ _ => type < countersInfo.length
  | timing _ type member => type < timingsInfo.length ∧ member ∈ timingNames

/-- Only entries of known types are stored. -/
theorem HasNumber.known {utf8 : String → Bool} {json : Json} (shaped : Shaped utf8 json)
    {entry : Entry} {n : Int} (holds : HasNumber json entry n) : entry.Known := by
  obtain ⟨-, path⟩ := holds
  cases entry with
  | counter server type name value =>
      rw [Entry.path, List.append_assoc, memberAt_append] at path
      obtain ⟨counter, present, -⟩ := Option.bind_eq_some_iff.mp path
      obtain ⟨other, known, same, -⟩ := shaped.counters.2.2 _ server counter present
      obtain rfl := Nat.repr_inj.mp same
      exact known
  | timing server type member =>
      have split : (Entry.timing server type member).path =
          [server, "timings", toString type] ++ [member] := rfl
      rw [split, memberAt_append] at path
      obtain ⟨timing, present, inner⟩ := Option.bind_eq_some_iff.mp path
      obtain ⟨other, known, same, shape⟩ := shaped.timings.2.2 _ server timing present
      obtain rfl := Nat.repr_inj.mp same
      obtain ⟨value, found, -⟩ := Option.bind_eq_some_iff.mp inner
      exact ⟨known, (shape.member found).1⟩

/-- What a member of a timing has behind the name of its family. -/
def timingEnding (member : String) : String :=
  if (bucketBound member).isSome then "_bucket" else "_" ++ member

/-- A member is a bucket with a bound, or the sum or the count. -/
theorem timingNames_cases : ∀ member ∈ timingNames, timingEnding member ∈ endings ∧
    ((bucketBound member).isSome = true ∨ member = "sum" ∨ member = "count") := by
  decide

/-- The members are told apart by their bounds and endings. -/
theorem timingNames_inj : ∀ member ∈ timingNames, ∀ other ∈ timingNames,
    bucketBound member = bucketBound other → timingEnding member = timingEnding other →
      member = other := by
  decide

theorem timingRow_metric (label server member : String) (n : Int) :
    (timingRow label server member n).metric = label.toList ++ (timingEnding member).toList := by
  rw [timingRow, timingEnding]
  cases bucketBound member with
  | none => exact (congrArg String.toList (String.append_assoc ..)).trans String.toList_append
  | some bound => exact String.toList_append

/-- Labels as they are written. -/
def written (labels : List (String × String)) : List (List Char × List Char) :=
  labels.map fun label => (label.1.toList, label.2.toList)

/-- The labels of a row. -/
def Entry.labels : Entry → List (String × String)
  | counter server _ name value =>
      ("server_name", server) ::
        (name.toList.map (("name", ·)) ++ value.toList.map (("value", ·)))
  | timing server _ member =>
      (bucketBound member).toList.map (("le", ·)) ++ [("server_name", server)]

theorem Entry.row_labels (entry : Entry) (n : Int) :
    (entry.row n).labels = written entry.labels := by
  cases entry with
  | counter server type name value => rfl
  | timing server type member =>
      rw [Entry.row, timingRow, Entry.labels]
      cases bucketBound member <;> rfl

/-- The name of the samples of an entry. -/
def Entry.metric : Entry → List Char
  | counter _ type _ _ => (counterLabel type).toList
  | timing _ type member => (timingLabel type).toList ++ (timingEnding member).toList

theorem Entry.row_metric (entry : Entry) (n : Int) : (entry.row n).metric = entry.metric := by
  cases entry with
  | counter server type name value => rfl
  | timing server type member => exact timingRow_metric ..

/-- The values under one label name. -/
def valuesAt (name : String) (labels : List (String × String)) : List String :=
  labels.filterMap fun label => if label.1 = name then some label.2 else none

theorem counter_values (server : String) (type : Nat) (name value : Option String) :
    valuesAt "server_name" (Entry.labels (.counter server type name value)) = [server] ∧
      valuesAt "name" (Entry.labels (.counter server type name value)) = name.toList ∧
      valuesAt "value" (Entry.labels (.counter server type name value)) = value.toList := by
  cases name <;> cases value <;> simp [Entry.labels, valuesAt]

theorem timing_values (server : String) (type : Nat) (member : String) :
    valuesAt "server_name" (Entry.labels (.timing server type member)) = [server] ∧
      valuesAt "le" (Entry.labels (.timing server type member)) =
        (bucketBound member).toList := by
  rw [Entry.labels]
  cases bucketBound member <;> simp [valuesAt]

/-- Rows of one series have the same name and the same values under every label name. -/
theorem sameSeries_rows {entry other : Entry} {n m : Int}
    (same : SameSeries (entry.row n).sample (other.row m).sample) :
    entry.metric = other.metric ∧
      ∀ name, (valuesAt name entry.labels).Perm (valuesAt name other.labels) := by
  have metric : (entry.row n).metric = (other.row m).metric := same.1
  have labels : (entry.row n).labels.Perm (other.row m).labels := same.2
  rw [Entry.row_metric, Entry.row_metric] at metric
  rw [Entry.row_labels, Entry.row_labels, written, written] at labels
  have injective : Function.Injective fun label : String × String =>
      (label.1.toList, label.2.toList) := by
    intro label other equal
    rw [Prod.mk.injEq, String.toList_inj, String.toList_inj] at equal
    exact Prod.ext equal.1 equal.2
  exact ⟨metric, fun name => ((List.map_perm_map_iff injective).mp labels).filterMap _⟩

/-- At most one value stands under a label name. -/
theorem option_perm {first second : Option String} (perm : first.toList.Perm second.toList) :
    first = second := by
  cases first with
  | none =>
      cases second with
      | none => rfl
      | some text => exact absurd perm.length_eq (by simp)
  | some text =>
      cases second with
      | none => exact absurd perm.length_eq (by simp)
      | some other => rw [List.singleton_perm_singleton.mp perm]

/-- A series shows the entry it is of. -/
theorem series_inj {entry other : Entry} (known : entry.Known) (known' : other.Known) {n m : Int}
    (same : SameSeries (entry.row n).sample (other.row m).sample) : entry = other := by
  obtain ⟨metric, values⟩ := sameSeries_rows same
  clear same
  cases entry with
  | counter server type name value =>
      cases other with
      | counter server' type' name' value' =>
          obtain ⟨servers, names, texts⟩ := counter_values server type name value
          obtain ⟨servers', names', texts'⟩ := counter_values server' type' name' value'
          have one := values "server_name"
          rw [servers, servers'] at one
          have named := values "name"
          rw [names, names'] at named
          have valued := values "value"
          rw [texts, texts'] at valued
          rw [counterLabel_inj known known' metric, List.singleton_perm_singleton.mp one,
            option_perm named, option_perm valued]
      | timing server' type' member' =>
          exact absurd metric (counterLabel_ne known known'.1 (timingNames_cases _ known'.2).1)
  | timing server type member =>
      cases other with
      | counter server' type' name' value' =>
          exact absurd metric.symm
            (counterLabel_ne known' known.1 (timingNames_cases _ known.2).1)
      | timing server' type' member' =>
          obtain rfl := timingLabel_inj known.1 known'.1 (timingNames_cases _ known.2).1
            (timingNames_cases _ known'.2).1 metric
          obtain ⟨servers, bounds⟩ := timing_values server type member
          obtain ⟨servers', bounds'⟩ := timing_values server' type member'
          have one := values "server_name"
          rw [servers, servers'] at one
          have bound := values "le"
          rw [bounds, bounds'] at bound
          rw [List.singleton_perm_singleton.mp one,
            timingNames_inj _ known.2 _ known'.2 (option_perm bound)
              (String.toList_inj.mp (List.append_cancel_left metric))]

end Metrics

end ModAuthOpenidc
