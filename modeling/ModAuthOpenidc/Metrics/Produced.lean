import ModAuthOpenidc.Metrics.PrometheusRows
import ModAuthOpenidc.Metrics.Recorder

/-!
# Documents that flushes produce

Processes count known metrics, merge their tables into shared memory in any order, and documents are
reset. Every document that comes about has the same shape: under each server there are counters and
timings by their type, and all that is stored in the end are integers.
-/

namespace ModAuthOpenidc

namespace Json

/-- An object that has every name once, with members that fit their names. -/
def ObjectOf (fits : String → Json → Prop) (json : Json) : Prop :=
  ∃ members, json = .obj members ∧ Object.Distinct members ∧
    ∀ member ∈ members, fits member.1 member.2

section ObjectOf

variable {fits : String → Json → Prop} {json : Json} {key : String} {value : Json}

theorem objectOf_nil : ObjectOf fits (.obj []) :=
  ⟨[], rfl, List.nodup_nil, fun _ member => absurd member List.not_mem_nil⟩

theorem ObjectOf.member (object : ObjectOf fits json) (found : json.member key = some value) :
    fits key value := by
  obtain ⟨members, rfl, -, each⟩ := object
  rw [Json.member, Object.get] at found
  obtain ⟨⟨name, value⟩, listed, rfl⟩ := Option.map_eq_some_iff.mp found
  obtain rfl := KeyedList.key_of_lookup Prod.fst listed
  exact each _ (KeyedList.mem_of_lookup Prod.fst listed)

theorem objectOf_set {members : Object} (distinct : Object.Distinct members)
    (each : ∀ member ∈ members, fits member.1 member.2) (fit : fits key value) :
    ObjectOf fits (.obj (Object.set members key value)) := by
  refine ⟨_, rfl, KeyedList.nodup_upsert Prod.fst distinct _, fun member inside => ?_⟩
  rcases KeyedList.mem_of_mem_upsert Prod.fst inside with rfl | old
  · exact fit
  · exact each member old

theorem ObjectOf.setNew (object : ObjectOf fits json) {utf8 : String → Bool}
    (fit : utf8 key = true → fits key value) : ObjectOf fits (json.setNew utf8 key value) := by
  obtain ⟨members, rfl, distinct, each⟩ := object
  rw [Json.setNew]
  split
  · rename_i valid
    exact objectOf_set distinct each (fit valid)
  · exact ⟨members, rfl, distinct, each⟩

theorem ObjectOf.updateMember (object : ObjectOf fits json)
    (fit : ∀ old, json.member key = some old → fits key value) :
    ObjectOf fits (json.updateMember key value) := by
  obtain ⟨members, rfl, distinct, each⟩ := object
  rw [Json.updateMember]
  split
  · rename_i present
    obtain ⟨old, found⟩ := Option.isSome_iff_exists.mp present
    exact objectOf_set distinct each (fit old found)
  · exact ⟨members, rfl, distinct, each⟩

theorem ObjectOf.mapMembers {others : String → Json → Prop} (object : ObjectOf fits json)
    {change : Json → Json} (fit : ∀ key value, fits key value → others key (change value)) :
    ObjectOf others (Metrics.mapMembers change json) := by
  obtain ⟨members, rfl, distinct, each⟩ := object
  refine ⟨_, rfl, ?_, fun member inside => ?_⟩
  · rw [Object.Distinct, List.map_map]
    exact distinct
  · obtain ⟨old, among, rfl⟩ := List.mem_map.mp inside
    exact fit old.1 old.2 (each old among)

end ObjectOf

end Json

namespace Metrics

open Json (ObjectOf)

/-! ## What the processes store -/

/-- The types of counters that have a name, `OM_CLAIM_ID_TOKEN` and `OM_CLAIM_USER_INFO`. -/
def counterNamed (type : Nat) : Bool := type = 18 ∨ type = 19

/-- The counters of a process, after increments of known types. -/
inductive Counted : Hash (Hash Values) → Prop
  | nothing : Counted []
  | inc {counters : Hash (Hash Values)} (counted : Counted counters) (hostname : Option String)
      {type : Nat} (known : type < countersInfo.length) {name : Option String}
      (naming : counterNamed type = name.isSome) (value : Option String) :
      Counted (counterInc counters hostname type name value)

/-- The timings of a process, after samples of known types. -/
inductive Timed : Hash (Hash Timing) → Prop
  | nothing : Timed []
  | add {timings : Hash (Hash Timing)} (timed : Timed timings) (hostname : Option String)
      {type : Nat} (known : type < timingsInfo.length) (elapsed : Int) :
      Timed (timingAdd timings hostname type elapsed)

/-- The texts in shared memory that flushes and resets produce, whatever the order of the tables. -/
inductive Produced (jansson : Jansson) (size : Nat) : String → Prop
  | nothing : Produced jansson size ""
  | store {storage : String} (produced : Produced jansson size storage)
      {table counters : Hash (Hash Values)} (counted : Counted table)
      (arranged : CountersArranged table counters) {timed timings : Hash (Hash Timing)}
      (recorded : Timed timed) (ordered : Arranged (Arranged Eq) timed timings) :
      Produced jansson size (Metrics.store jansson size counters timings storage)
  | reset {storage : String} (produced : Produced jansson size storage) :
      Produced jansson size (storageReset jansson size storage)

/-! ## The shape of documents -/

/-- An integer. -/
def IsInt (json : Json) : Prop := ∃ n, json = .int n

/-- A counter: an integer, or integers by value. -/
def IsCount (json : Json) : Prop := IsInt json ∨ ObjectOf (fun _ value => IsInt value) json

/-- The counters of one type, by name if the type has names. -/
def CounterOf (key : String) (json : Json) : Prop :=
  ∃ type < countersInfo.length, key = toString type ∧
    if counterNamed type then ObjectOf (fun _ counter => IsCount counter) json else IsCount json

/-- The names of the members of a timings entry. -/
def timingNames : List String := metricBuckets.map Prod.fst ++ ["sum", "count"]

/-- A timings entry: all members, with integers. -/
def IsTiming (json : Json) : Prop :=
  ∃ members, json = .obj members ∧ members.map Prod.fst = timingNames ∧
    ∀ member ∈ members, IsInt member.2

/-- The timings of one type. -/
def TimingOf (key : String) (json : Json) : Prop :=
  ∃ type < timingsInfo.length, key = toString type ∧ IsTiming json

/-- The metrics of one server. -/
structure ServerOf (counters timings : Json) : Prop where
  counters : ObjectOf CounterOf counters
  timings : ObjectOf TimingOf timings

/-- The groups of one server. -/
def serverGroups (counters timings : Json) : Json :=
  .obj [("counters", counters), ("timings", timings)]

/-- A document. -/
def Shaped (utf8 : String → Bool) (json : Json) : Prop :=
  ObjectOf (fun server groups => utf8 server = true ∧
    ∃ counters timings, groups = serverGroups counters timings ∧ ServerOf counters timings) json

/-! ## Counters keep their shape -/

section Counters

variable {jansson : Jansson}

theorem IsInt.integerSet {json : Json} (int : IsInt json) (n : Int) :
    IsInt (json.integerSet n) := by
  obtain ⟨old, rfl⟩ := int
  exact ⟨n, rfl⟩

theorem IsInt.addCount {json : Json} (int : IsInt json) (count : Int) :
    IsInt (addCount json count) :=
  int.integerSet _

theorem isCount_empty : IsCount (.obj []) := .inr Json.objectOf_nil

/-- A value is set in a counter of values, and nowhere else. -/
theorem IsCount.setNew {counter : Json} (count : IsCount counter) (key : String) (n : Int) :
    IsCount (counter.setNew jansson.utf8 key (.int n)) := by
  rcases count with ⟨old, rfl⟩ | object
  · exact .inl ⟨old, rfl⟩
  · exact .inr (object.setNew fun _ => ⟨n, rfl⟩)

theorem IsCount.updateValue {counter : Json} (count : IsCount counter) (entry : String × Int) :
    IsCount (counterUpdateValue jansson counter entry) := by
  unfold counterUpdateValue
  split
  · rcases count with int | ⟨members, rfl, distinct, each⟩
    · exact .inl (int.addCount _)
    · exact .inr ⟨members, rfl, distinct, each⟩
  · split
    · exact count.setNew entry.1 entry.2
    · rename_i value found
      rcases count with ⟨old, rfl⟩ | object
      · exact .inl ⟨old, rfl⟩
      · exact .inr (object.updateMember fun _ _ => (object.member found).addCount entry.2)

theorem IsCount.update {counter : Json} (count : IsCount counter) (values : Values) :
    IsCount (counterUpdate jansson counter values) :=
  List.foldlRecOn (motive := IsCount) values _ count fun _ count entry _ => count.updateValue entry

theorem isCount_new {values : Values} {counter : Json}
    (made : counterNew jansson values = some counter) : IsCount counter := by
  have every : ∀ counter, counterNew jansson values = some counter → IsCount counter := by
    refine List.foldlRecOn (motive := fun made : Option Json => ∀ counter, made = some counter →
      IsCount counter) values _ (fun _ none => by cases none) fun before kept entry _ => ?_
    intro counter same
    split at same
    · cases same
      exact .inl ⟨entry.2, rfl⟩
    · cases same
      cases before with
      | none => exact isCount_empty.setNew entry.1 entry.2
      | some old => exact (kept old rfl).setNew entry.1 entry.2
  exact every counter made

/-- A counter is stored under a key that a counter may have. -/
theorem setOrUpdate_object {fits : String → Json → Prop} {parent : Json} {key : String}
    (object : ObjectOf fits parent) (counts : ∀ counter, IsCount counter → fits key counter)
    (counted : ∀ counter, fits key counter → IsCount counter) (values : Values) :
    ObjectOf fits (counterSetOrUpdate jansson parent key values) := by
  unfold counterSetOrUpdate
  split
  · rename_i counter found
    exact object.updateMember fun _ _ =>
      counts _ ((counted counter (object.member found)).update values)
  · unfold setCounterNew
    split
    · rename_i counter made
      exact object.setNew fun _ => counts counter (isCount_new made)
    · exact object

theorem counterOf_plain {type : Nat} (known : type < countersInfo.length)
    (plain : counterNamed type = false) (json : Json) :
    CounterOf (toString type) json ↔ IsCount json := by
  constructor
  · rintro ⟨other, -, same, shape⟩
    obtain rfl := Nat.repr_inj.mp same
    rwa [if_neg (by simp [plain])] at shape
  · exact fun shape => ⟨type, known, rfl, by rwa [if_neg (by simp [plain])]⟩

theorem counterOf_named {type : Nat} (known : type < countersInfo.length)
    (named : counterNamed type = true) (json : Json) :
    CounterOf (toString type) json ↔ ObjectOf (fun _ counter => IsCount counter) json := by
  constructor
  · rintro ⟨other, -, same, shape⟩
    obtain rfl := Nat.repr_inj.mp same
    rwa [if_pos named] at shape
  · exact fun shape => ⟨type, known, rfl, by rwa [if_pos named]⟩

theorem storeCounterEntry_shaped {counters : Json} (object : ObjectOf CounterOf counters)
    {type : Nat} (known : type < countersInfo.length) {name : Option String}
    (naming : counterNamed type = name.isSome) (values : Values) :
    ObjectOf CounterOf (storeCounterEntry jansson counters (typeName2key type name) values) := by
  cases name with
  | none =>
      have shape := counterOf_plain known naming
      rw [storeCounterEntry, splitKey_none]
      exact setOrUpdate_object object (fun counter => (shape counter).mpr)
        (fun counter => (shape counter).mp) values
  | some name =>
      have shape := counterOf_named known naming
      rw [storeCounterEntry, splitKey_some]
      dsimp only
      split
      · refine object.setNew fun _ => (shape _).mpr ?_
        unfold setCounterNew
        split
        · rename_i counter made
          exact Json.objectOf_nil.setNew fun _ => isCount_new made
        · exact Json.objectOf_nil
      · rename_i names found
        refine object.updateMember fun _ _ => (shape _).mpr ?_
        exact setOrUpdate_object ((shape names).mp (object.member found)) (fun _ count => count)
          (fun _ count => count) values

end Counters

/-! ## Timings keep their shape -/

section Timings

variable {jansson : Jansson}

/-- A member that is there is set where it stands. -/
theorem keys_set {members : Object} {key : String} (present : key ∈ members.map Prod.fst)
    (value : Json) : (Object.set members key value).map Prod.fst = members.map Prod.fst := by
  obtain ⟨old, among, same⟩ := List.mem_map.mp present
  have found : members.any fun old => decide (old.1 = key) :=
    List.any_eq_true.mpr ⟨old, among, decide_eq_true same⟩
  rw [Object.set, KeyedList.upsert, if_pos found, List.map_map]
  refine List.map_congr_left fun member _ => ?_
  rw [Function.comp_apply]
  split
  · rename_i same
    exact same.symm
  · rfl

theorem isTiming_set {members : Object} (names : members.map Prod.fst = timingNames)
    (ints : ∀ member ∈ members, IsInt member.2) {key : String} (among : key ∈ timingNames)
    {value : Json} (int : IsInt value) : IsTiming (.obj (Object.set members key value)) := by
  refine ⟨_, rfl, (keys_set (names ▸ among) value).trans names, fun member inside => ?_⟩
  rcases KeyedList.mem_of_mem_upsert Prod.fst inside with rfl | old
  · exact int
  · exact ints member old

theorem IsTiming.member {entry : Json} (timing : IsTiming entry) {key : String} {value : Json}
    (found : entry.member key = some value) : key ∈ timingNames ∧ IsInt value := by
  obtain ⟨members, rfl, names, ints⟩ := timing
  rw [Json.member, Object.get] at found
  obtain ⟨⟨name, value⟩, listed, rfl⟩ := Option.map_eq_some_iff.mp found
  obtain rfl := KeyedList.key_of_lookup Prod.fst listed
  have inside := KeyedList.mem_of_lookup Prod.fst listed
  exact ⟨names ▸ List.mem_map_of_mem inside, ints _ inside⟩

theorem IsTiming.updateMember {entry : Json} (timing : IsTiming entry) (key : String)
    {value : Json} (int : IsInt value) : IsTiming (entry.updateMember key value) := by
  obtain ⟨members, rfl, names, ints⟩ := timing
  rw [Json.updateMember]
  split
  · rename_i present
    obtain ⟨old, found⟩ := Option.isSome_iff_exists.mp present
    have among := (IsTiming.member ⟨members, rfl, names, ints⟩ found).1
    exact isTiming_set names ints among int
  · exact ⟨members, rfl, names, ints⟩

theorem IsTiming.addMember {entry : Json} (timing : IsTiming entry) (name : String) (n : Int) :
    IsTiming (addMember entry name n) := by
  unfold Metrics.addMember
  split
  · rename_i value found
    exact timing.updateMember name ((timing.member found).2.integerSet _)
  · exact timing

theorem IsTiming.update {entry : Json} (shape : IsTiming entry) (timing : Timing) :
    IsTiming (timingsUpdate entry timing) := by
  have buckets := List.foldlRecOn (motive := IsTiming) (List.zip metricBuckets timing.buckets)
    (fun entry bucket => Metrics.addMember entry bucket.1.1 bucket.2) shape
    fun _ shape bucket _ => shape.addMember bucket.1.1 bucket.2
  unfold timingsUpdate
  refine IsTiming.addMember ?_ _ _
  split
  · rename_i sum found
    exact buckets.updateMember "sum" ((buckets.member found).2.addCount _)
  · exact buckets

/-- Numbers under the names of a list have its names. -/
theorem fst_zipWith {α : Type} (names : List (String × α)) {numbers : List Int}
    (same : numbers.length = names.length) :
    (List.zipWith (fun name n => (name.1, Json.int n)) names numbers).map Prod.fst =
      names.map Prod.fst := by
  induction names generalizing numbers with
  | nil => rfl
  | cons name names ih =>
      cases numbers with
      | nil => cases same
      | cons n numbers =>
          rw [List.zipWith_cons_cons, List.map_cons, List.map_cons, ih (Nat.succ.inj same)]

theorem isTiming_new {timing : Timing} (whole : timing.buckets.length = metricBuckets.length) :
    IsTiming (timingsNew timing) := by
  refine ⟨_, rfl, ?_, fun member inside => ?_⟩
  · rw [List.map_append, fst_zipWith metricBuckets whole]
    rfl
  · rcases List.mem_append.mp inside with bucket | other
    · rw [← List.map_uncurry_zip_eq_zipWith] at bucket
      obtain ⟨pair, -, rfl⟩ := List.mem_map.mp bucket
      exact ⟨_, rfl⟩
    · rcases List.mem_cons.mp other with rfl | last
      · exact ⟨_, rfl⟩
      · exact ⟨_, congrArg Prod.snd (List.mem_singleton.mp last)⟩

theorem storeTimingEntry_shaped {timings : Json} (object : ObjectOf TimingOf timings) {type : Nat}
    (known : type < timingsInfo.length) {timing : Timing}
    (whole : timing.buckets.length = metricBuckets.length) :
    ObjectOf TimingOf (storeTimingEntry jansson timings (toString type) timing) := by
  unfold storeTimingEntry
  split
  · rename_i entry found
    obtain ⟨-, -, -, shape⟩ := object.member found
    exact object.updateMember fun _ _ => ⟨type, known, rfl, shape.update timing⟩
  · exact object.setNew fun _ => ⟨type, known, rfl, isTiming_new whole⟩

theorem IsTiming.reset {entry : Json} (shape : IsTiming entry) :
    IsTiming (resetTimer jansson entry) := by
  refine List.foldlRecOn (motive := IsTiming) timingNames _ shape fun entry shape name among => ?_
  obtain ⟨members, rfl, names, ints⟩ := shape
  rw [Json.setNew]
  split
  · exact isTiming_set names ints among ⟨0, rfl⟩
  · exact ⟨members, rfl, names, ints⟩

end Timings

/-! ## Documents keep their shape -/

section Documents

variable {jansson : Jansson} {json : Json}

theorem shaped_empty (utf8 : String → Bool) : Shaped utf8 (.obj []) := Json.objectOf_nil

theorem updateMember_counters (counters timings value : Json) :
    (serverGroups counters timings).updateMember "counters" value =
      serverGroups value timings := rfl

theorem updateMember_timings (counters timings value : Json) :
    (serverGroups counters timings).updateMember "timings" value =
      serverGroups counters value := rfl

theorem updateServer_eq (json : Json) (name group : String) (change : Json → Json) :
    updateServer jansson json name group change =
      ((serverGet jansson json name).2.member group).elim (serverGet jansson json name).1
        fun entries => (serverGet jansson json name).1.updateMember name
          ((serverGet jansson json name).2.updateMember group (change entries)) := by
  unfold updateServer
  obtain ⟨whole, server⟩ := serverGet jansson json name
  dsimp only
  cases server.member group <;> rfl

/-- The groups of a server are changed, or those of a new one. -/
theorem Shaped.updateServer (shaped : Shaped jansson.utf8 json) (name : String) {group : String}
    {change : Json → Json}
    (changes : ∀ counters timings, ServerOf counters timings → ∀ entries,
      (serverGroups counters timings).member group = some entries →
        ∃ counters' timings', (serverGroups counters timings).updateMember group
          (change entries) = serverGroups counters' timings' ∧ ServerOf counters' timings') :
    Shaped jansson.utf8 (updateServer jansson json name group change) := by
  have stored (server : Json) (counters timings : Json)
      (groups : server = serverGroups counters timings) (shape : ServerOf counters timings)
      (whole : Json) (kept : Shaped jansson.utf8 whole) :
      Shaped jansson.utf8
        ((server.member group).elim whole fun entries =>
          whole.updateMember name (server.updateMember group (change entries))) := by
    subst groups
    cases found : (serverGroups counters timings).member group with
    | none => exact kept
    | some entries =>
        obtain ⟨counters', timings', same, after⟩ := changes counters timings shape entries found
        exact kept.updateMember fun old present =>
          ⟨(kept.member present).1, counters', timings', same, after⟩
  rw [updateServer_eq]
  unfold serverGet
  cases found : json.member name with
  | some server =>
      obtain ⟨-, counters, timings, groups, shape⟩ := shaped.member found
      exact stored server counters timings groups shape json shaped
  | none =>
      have fresh : ServerOf (.obj []) (.obj []) := ⟨Json.objectOf_nil, Json.objectOf_nil⟩
      exact stored _ _ _ rfl fresh _
        (shaped.setNew fun valid => ⟨valid, _, _, rfl, fresh⟩)

/-- Counters with known types, and with names where the type has names. -/
def KnownCounters (table : Hash (Hash Values)) : Prop :=
  ∀ server ∈ table, ∀ counter ∈ server.2, ∃ type < countersInfo.length, ∃ name,
    counterNamed type = Option.isSome name ∧ counter.1 = typeName2key type name

/-- Timings with known types and all buckets. -/
def KnownTimings (table : Hash (Hash Timing)) : Prop :=
  ∀ server ∈ table, ∀ timing ∈ server.2, (∃ type < timingsInfo.length, timing.1 = toString type) ∧
    timing.2.buckets.length = metricBuckets.length

theorem Shaped.storeCounters (shaped : Shaped jansson.utf8 json)
    {counters : Hash (Hash Values)} (known : KnownCounters counters) :
    Shaped jansson.utf8 (storeCounters jansson json counters) := by
  refine List.foldlRecOn (motive := Shaped jansson.utf8) counters _ shaped
    fun json shaped server member => shaped.updateServer server.1 ?_
  intro counters timings shape entries found
  cases found
  refine ⟨_, timings, updateMember_counters counters timings _, ?_, shape.timings⟩
  refine List.foldlRecOn (motive := ObjectOf CounterOf) server.2 _ shape.counters
    fun counters object counter inside => ?_
  obtain ⟨type, among, name, naming, key⟩ := known server member counter inside
  rw [key]
  exact storeCounterEntry_shaped object among naming counter.2

theorem Shaped.storeTimings (shaped : Shaped jansson.utf8 json)
    {timings : Hash (Hash Timing)} (known : KnownTimings timings) :
    Shaped jansson.utf8 (storeTimings jansson json timings) := by
  refine List.foldlRecOn (motive := Shaped jansson.utf8) timings _ shaped
    fun json shaped server member => shaped.updateServer server.1 ?_
  intro counters timings shape entries found
  cases found
  refine ⟨counters, _, updateMember_timings counters timings _, shape.counters, ?_⟩
  refine List.foldlRecOn (motive := ObjectOf TimingOf) server.2 _ shape.timings
    fun timings object timing inside => ?_
  obtain ⟨⟨type, among, key⟩, whole⟩ := known server member timing inside
  rw [key]
  exact storeTimingEntry_shaped object among whole

theorem resetMembers_eq (members : List (String × Json)) :
    resetMembers members = members.map fun member => (member.1, resetValue member.2) := by
  induction members with
  | nil => rfl
  | cons member members ih => rw [resetMembers, ih, List.map_cons]

theorem resetIntegerTree_eq (json : Json) : resetIntegerTree json = mapMembers resetValue json := by
  cases json with
  | obj members => rw [resetIntegerTree, mapMembers, resetMembers_eq]
  | _ => rfl

theorem resetValue_obj (members : Object) :
    resetValue (.obj members) = mapMembers resetValue (.obj members) := by
  rw [resetValue, mapMembers, resetMembers_eq]

theorem ObjectOf.resetValue {fits others : String → Json → Prop} (object : ObjectOf fits json)
    (fit : ∀ key value, fits key value → others key (resetValue value)) :
    ObjectOf others (resetValue json) := by
  have mapped := object.mapMembers fit
  obtain ⟨members, rfl, -⟩ := object
  rwa [resetValue_obj]

theorem IsInt.reset (int : IsInt json) : IsInt (resetValue json) := by
  obtain ⟨n, rfl⟩ := int
  exact ⟨0, rfl⟩

theorem IsCount.reset (count : IsCount json) : IsCount (resetValue json) := by
  rcases count with int | object
  · exact .inl int.reset
  · exact .inr (ObjectOf.resetValue object fun _ _ int => int.reset)

theorem CounterOf.reset {key : String} (counter : CounterOf key json) :
    CounterOf key (resetValue json) := by
  obtain ⟨type, known, rfl, shape⟩ := counter
  refine ⟨type, known, rfl, ?_⟩
  split
  · rename_i named
    rw [if_pos named] at shape
    exact ObjectOf.resetValue shape fun _ _ count => count.reset
  · rename_i plain
    rw [if_neg plain] at shape
    exact shape.reset

/-- A reset changes numbers only. -/
theorem Shaped.reset (shaped : Shaped jansson.utf8 json) :
    Shaped jansson.utf8 (mapMembers (resetServer jansson) json) := by
  refine shaped.mapMembers fun name server => ?_
  rintro ⟨valid, counters, timings, rfl, shape⟩
  refine ⟨valid, resetIntegerTree counters, mapMembers (resetTimer jansson) timings, rfl, ?_, ?_⟩
  · rw [resetIntegerTree_eq]
    exact shape.counters.mapMembers fun _ _ counter => counter.reset
  · refine shape.timings.mapMembers fun key entry => ?_
    rintro ⟨type, known, same, timing⟩
    exact ⟨type, known, same, timing.reset⟩

end Documents

/-! ## What is stored has the shape -/

section Stored

variable {jansson : Jansson}

theorem mem_counterInc {counters : Hash (Hash Values)} {hostname : Option String} {type : Nat}
    {name value : Option String} {server : String × Hash Values}
    (member : server ∈ counterInc counters hostname type name value)
    {counter : String × Values} (inside : counter ∈ server.2) :
    counter.1 = typeName2key type name ∨ ∃ old ∈ counters, counter ∈ old.2 := by
  rcases KeyedList.mem_of_mem_upsert Prod.fst member with rfl | old
  · rcases KeyedList.mem_of_mem_upsert Prod.fst inside with rfl | older
    · exact .inl rfl
    · obtain ⟨found, among, -, same⟩ := mem_getD older
      exact .inr ⟨found, among, same ▸ older⟩
  · exact .inr ⟨server, old, inside⟩

theorem Counted.known {counters : Hash (Hash Values)} (counted : Counted counters) :
    KnownCounters counters := by
  induction counted with
  | nothing => exact fun server member => absurd member List.not_mem_nil
  | inc counted hostname known naming value ih =>
      intro server member counter inside
      rcases mem_counterInc member inside with same | ⟨old, among, present⟩
      · exact ⟨_, known, _, naming, same⟩
      · exact ih old among counter present

theorem timingBucketsInc_length (elapsed : Int) (thresholds : List (String × Int))
    (counts : List Int) : (timingBucketsInc elapsed thresholds counts).length = counts.length := by
  fun_induction timingBucketsInc elapsed thresholds counts with
  | case1 => exact List.length_map _
  | case2 _ _ _ _ _ _ ih => rw [List.length_cons, List.length_cons, ih]
  | case3 => rfl

theorem clear_length : Timing.clear.buckets.length = metricBuckets.length := List.length_map _

/-- The timing that a sample is added to has all buckets. -/
theorem KnownTimings.getD {timings : Hash (Hash Timing)} (known : KnownTimings timings)
    (server key : String) :
    ((((timings.get server).getD []).get key).getD .clear).buckets.length =
      metricBuckets.length := by
  cases found : ((timings.get server).getD []).get key with
  | none => exact clear_length
  | some timing =>
      rw [Hash.get] at found
      obtain ⟨entry, listed, rfl⟩ := Option.map_eq_some_iff.mp found
      have inside := KeyedList.mem_of_lookup Prod.fst listed
      obtain ⟨origin, among, -, same⟩ := mem_getD inside
      exact (known origin among entry (same ▸ inside)).2

theorem Timed.known {timings : Hash (Hash Timing)} (timed : Timed timings) :
    KnownTimings timings := by
  induction timed with
  | nothing => exact fun server member => absurd member List.not_mem_nil
  | @add timings timed hostname type known elapsed ih =>
      intro server member timing inside
      unfold timingAdd at member
      split at member
      · exact ih server member timing inside
      · rcases KeyedList.mem_of_mem_upsert Prod.fst member with rfl | old
        · rcases KeyedList.mem_of_mem_upsert Prod.fst inside with rfl | older
          · refine ⟨⟨type, known, rfl⟩, (timingBucketsInc_length ..).trans ?_⟩
            split
            · exact clear_length
            · exact ih.getD _ _
          · obtain ⟨found, among, -, same⟩ := mem_getD older
            exact ih found among timing (same ▸ older)
        · exact ih server old timing inside

theorem KnownCounters.arranged {table counters : Hash (Hash Values)}
    (known : KnownCounters table) (arranged : CountersArranged table counters) :
    KnownCounters counters := by
  intro server member counter inside
  obtain ⟨origin, among, -, inner⟩ := arranged.source member
  obtain ⟨source, present, same, -⟩ := inner.source inside
  obtain ⟨type, bound, name, naming, key⟩ := known origin among source present
  exact ⟨type, bound, name, naming, same ▸ key⟩

theorem KnownTimings.arranged {table timings : Hash (Hash Timing)}
    (known : KnownTimings table) (arranged : Arranged (Arranged Eq) table timings) :
    KnownTimings timings := by
  intro server member timing inside
  obtain ⟨origin, among, -, inner⟩ := arranged.source member
  obtain ⟨source, present, same, equal⟩ := inner.source inside
  obtain ⟨key, whole⟩ := known origin among source present
  exact ⟨same ▸ key, equal ▸ whole⟩

/-- The text that stays in shared memory is that of a document with the shape. -/
theorem shaped_storageSet (documented : jansson.Documented) {size : Nat} {storage : String}
    (before : Shaped jansson.utf8 (document jansson storage)) {json : Json}
    (after : Shaped jansson.utf8 json) :
    Shaped jansson.utf8 (document jansson (storageSet size storage (jansson.dumps json))) := by
  obtain ⟨members, rfl, distinct, each⟩ := after
  unfold storageSet
  cases dumped : jansson.dumps (.obj members) with
  | none =>
      rw [document, storageGet, if_pos rfl, Option.getD_none, documented.loads_empty,
        Option.getD_some]
      exact shaped_empty jansson.utf8
  | some text =>
      dsimp only
      split
      · exact before
      · obtain ⟨filled, loaded⟩ := documented.loads_dumps members text dumped
        rw [document, storageGet, if_neg filled, Option.getD_some, loaded, Option.getD_some]
        exact ⟨members, rfl, distinct, each⟩

/-- Every document that is produced has the shape. -/
theorem Produced.shaped (documented : jansson.Documented) {size : Nat} {storage : String}
    (produced : Produced jansson size storage) :
    Shaped jansson.utf8 (document jansson storage) := by
  induction produced with
  | nothing =>
      rw [document, storageGet, if_pos rfl, Option.getD_none, documented.loads_empty,
        Option.getD_some]
      exact shaped_empty jansson.utf8
  | store _ counted arranged recorded ordered ih =>
      unfold Metrics.store
      split
      · exact ih
      · exact shaped_storageSet documented ih
          ((ih.storeCounters (counted.known.arranged arranged)).storeTimings
            (recorded.known.arranged ordered))
  | reset _ ih => exact shaped_storageSet documented ih ih.reset

end Stored

end Metrics

end ModAuthOpenidc
