import ModAuthOpenidc.Ledger
import ModAuthOpenidc.Metrics.Merge

/-!
# Counts are conserved

Processes count on their own and flush their tables into shared memory in any order, while requests
read the document and may reset it. As long as no counter gets both the default value and another
one, every increment is in the table of a process, in shared memory, or was handed out by a read
that reset the document.
-/

namespace ModAuthOpenidc

namespace Metrics

/-! ## Tables in the order of an iteration -/

/-- The entries of a table in any order, each with a value that stands for its own. -/
def Arranged {α : Type} (stands : α → α → Prop) (table order : Hash α) : Prop :=
  ∃ between, between.Perm table ∧
    List.Forall₂ (fun entry other => entry.1 = other.1 ∧ stands entry.2 other.2) between order

/-- The counters of a process in the order of nested iterations. -/
def CountersArranged : Hash (Hash Values) → Hash (Hash Values) → Prop :=
    Arranged (Arranged (Arranged Eq))

section Arranged

variable {α : Type} {stands : α → α → Prop} {table order : Hash α}

/-- A sum over the entries with one key. -/
def entriesSum (table : Hash α) (key : String) (count : α → Int) : Int :=
  (table.map fun entry => if entry.1 = key then count entry.2 else 0).sum

theorem Arranged.sum (arranged : Arranged stands table order) (key : String) {count : α → Int}
    (respects : ∀ value other, stands value other → count value = count other) :
    entriesSum order key count = entriesSum table key count := by
  obtain ⟨between, permuted, pairs⟩ := arranged
  have first : entriesSum between key count = entriesSum table key count :=
    (permuted.map _).sum_eq
  rw [← first]
  clear first permuted
  induction pairs with
  | nil => rfl
  | @cons entry other entries others agree _ ih =>
      rw [entriesSum, entriesSum, List.map_cons, List.map_cons, List.sum_cons,
        List.sum_cons, agree.1,
        respects _ _ agree.2]
      exact congrArg _ ih

theorem Arranged.keys (arranged : Arranged stands table order) :
    (order.map Prod.fst).Perm (table.map Prod.fst) := by
  obtain ⟨between, permuted, pairs⟩ := arranged
  have same : order.map Prod.fst = between.map Prod.fst := by
    clear permuted
    induction pairs with
    | nil => rfl
    | cons agree _ ih => rw [List.map_cons, List.map_cons, agree.1, ih]
  rw [same]
  exact permuted.map _

theorem Arranged.source (arranged : Arranged stands table order) {other : String × α}
    (member : other ∈ order) : ∃ entry ∈ table, entry.1 = other.1 ∧ stands entry.2 other.2 := by
  obtain ⟨between, permuted, pairs⟩ := arranged
  obtain ⟨entry, present, agree⟩ : ∃ entry ∈ between, entry.1 = other.1 ∧
    stands entry.2 other.2 := by
    clear permuted
    induction pairs with
    | nil => cases member
    | cons agree _ ih =>
        rcases List.mem_cons.mp member with rfl | later
        · exact ⟨_, List.mem_cons_self, agree⟩
        · obtain ⟨entry, present, agree⟩ := ih later
          exact ⟨entry, List.mem_cons_of_mem _ present, agree⟩
  exact ⟨entry, permuted.subset present, agree⟩

end Arranged

/-- Any order counts the same. -/
theorem CountersArranged.count {table order : Hash (Hash Values)}
    (arranged : CountersArranged table order)
    (key : Key) : localCount order key = localCount table key := by
  have value {values other : Values} (same : Arranged Eq values other) :
      valuesCount values key.value = valuesCount other key.value :=
    (@Arranged.sum _ _ _ _ same key.value id fun _ _ equal => equal).symm
  have counter {server other : Hash Values} (same : Arranged (Arranged Eq) server other) :
      serverCount server key.type key.name key.value =
          serverCount other key.type key.name key.value :=
    (@Arranged.sum _ _ _ _ same (typeName2key key.type key.name) (valuesCount · key.value)
      fun _ _ equal => value equal).symm
  exact @Arranged.sum _ _ _ _ arranged key.server (serverCount · key.type key.name key.value)
    fun _ _ equal => counter equal

/-! ## The table of a process -/

section Table

variable {jansson : Jansson} {named : Nat → Bool} {valued : String → Nat → Option String → Bool}

/-- The table of a process has distinct keys throughout and counters that fit their shape. -/
structure Table (jansson : Jansson) (named : Nat → Bool)
    (valued : String → Nat → Option String → Bool)
    (table : Hash (Hash Values)) : Prop where
  plain : LocalPlain jansson named valued table
  servers : (table.map Prod.fst).Nodup
  counters : ∀ entry ∈ table, (entry.2.map Prod.fst).Nodup

/-- Any order of a table fits the shapes as well. -/
theorem Table.arranged {table order : Hash (Hash Values)} (kept : Table jansson named valued table)
    (arranged : CountersArranged table order) : LocalPlain jansson named valued order := by
  refine ⟨fun other member => ?_, fun other member => ⟨fun counter present => ?_⟩⟩
  · obtain ⟨entry, source, same, -⟩ := arranged.source member
    rw [← same]
    exact kept.plain.utf8 entry source
  · obtain ⟨entry, source, same, server⟩ := arranged.source member
    obtain ⟨values, inside, key, order⟩ := server.source present
    obtain ⟨type, name, own, naming, utf8, plain, distinct⟩ :=
      (kept.plain.server entry source).counter values inside
    refine ⟨type, name, key ▸ own, naming, utf8, ⟨fun value listed => ?_, fun value listed => ?_,
      fun value listed => ?_⟩, ?_⟩
    · obtain ⟨value', known, equal, -⟩ := order.source listed
      rw [← equal, ← same]
      exact plain.kind value' known
    · obtain ⟨value', known, equal, -⟩ := order.source listed
      rw [← equal]
      exact plain.utf8 value' known
    · obtain ⟨value', known, -, equal⟩ := order.source listed
      rw [← equal]
      exact plain.nonneg value' known
    · exact order.keys.nodup_iff.mpr distinct

/-! ## One increment -/

/-- The sum over the entries with a key is what is found there. -/
theorem entriesSum_eq_get {α : Type} {table : Hash α} (distinct : (table.map Prod.fst).Nodup)
    (key : String) (count : α → Int) :
    entriesSum table key count = (table.get key).elim 0 count := by
  induction table with
  | nil => rfl
  | cons entry table ih =>
      rw [List.map_cons, List.nodup_cons] at distinct
      rw [entriesSum, List.map_cons, List.sum_cons, Hash.get, KeyedList.lookup_cons]
      by_cases same : entry.1 = key
      · have rest : entriesSum table key count = 0 := by
          refine List.sum_eq_zero fun n member => ?_
          obtain ⟨other, present, rfl⟩ := List.mem_map.mp member
          rw [if_neg]
          intro again
          exact distinct.1 (List.mem_map.mpr ⟨other, present, again.trans same.symm⟩)
        rw [if_pos same, if_pos same]
        exact (congrArg _ rest).trans (add_zero _)
      · rw [if_neg same, if_neg same, zero_add]
        exact ih distinct.2

theorem get_set {α : Type} (table : Hash α) (key other : String) (value : α) :
    (table.set key value).get other = if other = key then some value else table.get other := by
  rw [Hash.get, Hash.set, KeyedList.lookup_upsert, Hash.get]
  split <;> rfl

theorem nodup_set {α : Type} {table : Hash α} (distinct : (table.map Prod.fst).Nodup) (key : String)
    (value : α) : ((table.set key value).map Prod.fst).Nodup :=
  KeyedList.nodup_upsert Prod.fst distinct (key, value)

/-- A value is set for one key: what is counted changes for that key only. -/
theorem entriesSum_set {α : Type} {table : Hash α} (distinct : (table.map Prod.fst).Nodup)
    (key other : String) (value : α) (count : α → Int) :
    entriesSum (table.set key value) other count =
      if other = key then count value else entriesSum table other count := by
  rw [entriesSum_eq_get (nodup_set distinct key value), get_set, entriesSum_eq_get distinct]
  split <;> rfl

/-- What a sub-table counts, if it is there. -/
theorem entriesSum_getD {α : Type} {table : Hash α} (distinct : (table.map Prod.fst).Nodup)
    (key : String) (default : α) {count : α → Int} (nothing : count default = 0) :
    count ((table.get key).getD default) = entriesSum table key count := by
  rw [entriesSum_eq_get distinct]
  cases table.get key with
  | none => exact nothing
  | some value => rfl

theorem nextCount_eq {count : Int} (nonneg : 0 ≤ count) (room : count < metricsIntMax) :
    nextCount count = count + 1 := by
  rw [nextCount]
  split
  · omega
  · have fits : isOverflow count 1 = false := by
      rw [isOverflow]
      exact decide_eq_false (by omega)
    rw [fits, if_neg Bool.false_ne_true]

/-- The key that an increment counts for. -/
def incKey (hostname : Option String) (type : Nat) (name value : Option String) : Key where
  server := serverName hostname
  type := type
  name := name
  value := value2key value

/-- A counter gets default values only or other values only, and all its texts are valid. -/
structure Uniform (jansson : Jansson) (named : Nat → Bool)
    (valued : String → Nat → Option String → Bool) (key : Key) : Prop where
  naming : named key.type = key.name.isSome
  kind : valued key.server key.type key.name = decide (key.value ≠ valueDefault)
  server : jansson.utf8 key.server = true
  name : ∀ text, key.name = some text → jansson.utf8 text = true
  value : jansson.utf8 key.value = true

theorem mem_getD {α : Type} {table : Hash (Hash α)} {key : String} {entry : String × α}
    (member : entry ∈ (table.get key).getD []) :
    ∃ found ∈ table, found.1 = key ∧ (table.get key).getD [] = found.2 := by
  rw [Hash.get] at member ⊢
  cases found : KeyedList.lookup Prod.fst table key with
  | none =>
      rw [found] at member
      cases member
  | some pair => exact ⟨pair, KeyedList.mem_of_lookup Prod.fst found,
      KeyedList.key_of_lookup Prod.fst found, rfl⟩

/-- A value of a counter that is there, or a new one, is set. -/
theorem Plain.set {kind : Bool} {values : Values} (plain : Plain jansson kind values)
    {value : String}
    {count : Int} (fits : kind = decide (value ≠ valueDefault)) (utf8 : jansson.utf8 value = true)
    (nonneg : 0 ≤ count) : Plain jansson kind (values.set value count) := by
  refine ⟨fun entry member => ?_, fun entry member => ?_, fun entry member => ?_⟩
  · rcases KeyedList.mem_of_mem_upsert Prod.fst member with rfl | old
    · exact fits
    · exact plain.kind entry old
  · rcases KeyedList.mem_of_mem_upsert Prod.fst member with rfl | old
    · exact utf8
    · exact plain.utf8 entry old
  · rcases KeyedList.mem_of_mem_upsert Prod.fst member with rfl | old
    · exact nonneg
    · exact plain.nonneg entry old

/-- The counters of one server in a table. -/
theorem Table.server {table : Hash (Hash Values)} (kept : Table jansson named valued table)
    (server : String) : ServerPlain jansson named (valued server) ((table.get server).getD []) ∧
      (((table.get server).getD []).map Prod.fst).Nodup := by
  refine ⟨⟨fun entry member => ?_⟩, ?_⟩
  · obtain ⟨found, present, rfl, same⟩ := mem_getD member
    rw [same] at member
    exact (kept.plain.server found present).counter entry member
  · rw [Hash.get]
    cases found : KeyedList.lookup Prod.fst table server with
    | none => exact List.nodup_nil
    | some pair => exact kept.counters pair (KeyedList.mem_of_lookup Prod.fst found)

theorem plain_nil {kind : Bool} : Plain jansson kind [] := by
  refine ⟨fun entry member => ?_, fun entry member => ?_, fun entry member => ?_⟩
  all_goals cases member

/-- The values of one counter in a table. -/
theorem ServerPlain.values {valued : Nat → Option String → Bool} {entries : Hash Values}
    (plain : ServerPlain jansson named valued entries) (type : Nat) (name : Option String) :
    Plain jansson (valued type name) ((entries.get (typeName2key type name)).getD []) ∧
      (((entries.get (typeName2key type name)).getD []).map Prod.fst).Nodup := by
  rw [Hash.get]
  cases found : KeyedList.lookup Prod.fst entries (typeName2key type name) with
  | none => exact ⟨plain_nil, List.nodup_nil⟩
  | some pair =>
      obtain ⟨type', name', key, -, -, values, distinct⟩ :=
        plain.counter pair (KeyedList.mem_of_lookup Prod.fst found)
      obtain ⟨rfl, rfl⟩ := typeName2key_inj
        (key.symm.trans (KeyedList.key_of_lookup Prod.fst found))
      exact ⟨values, distinct⟩

/-- An increment keeps the table and counts one more for its key. -/
theorem Table.inc {table : Hash (Hash Values)} (kept : Table jansson named valued table)
    {hostname : Option String} {type : Nat} {name value : Option String}
    (uniform : Uniform jansson named valued (incKey hostname type name value))
    (room : localCount table (incKey hostname type name value) < metricsIntMax) :
    Table jansson named valued (counterInc table hostname type name value) ∧
      ∀ key, localCount (counterInc table hostname type name value) key =
        localCount table key + if key = incKey hostname type name value then 1 else 0 := by
  obtain ⟨serverPlain, serverDistinct⟩ := kept.server (serverName hostname)
  obtain ⟨valuesPlain, valuesDistinct⟩ := serverPlain.values type name
  unfold counterInc
  dsimp only
  generalize held : (table.get (serverName hostname)).getD [] = server at *
  generalize stored : (server.get (typeName2key type name)).getD [] = values at *
  have inServer (key : Key) (own : key.server = serverName hostname) : localCount table key =
      entriesSum server (typeName2key key.type key.name) (valuesCount · key.value) := by
    rw [← held, ← own]
    exact (@entriesSum_getD _ table kept.servers key.server [] (fun server =>
      entriesSum server (typeName2key key.type key.name) (valuesCount · key.value)) rfl).symm
  have inValues (value : String) :
      entriesSum server (typeName2key type name)
          (valuesCount · value) = valuesCount values value := by
    rw [← stored]
    exact (@entriesSum_getD _ server serverDistinct (typeName2key type name) []
      (valuesCount · value)
      rfl).symm
  have own : valuesCount values (value2key value) = (values.get (value2key value)).getD 0 :=
    (@entriesSum_getD _ values valuesDistinct (value2key value) 0 id rfl).symm
  have counted : localCount table (incKey hostname type name value) =
      (values.get (value2key value)).getD 0 := by
    rw [inServer _ rfl]
    exact (inValues _).trans own
  have nonneg := kept.plain.count_nonneg (incKey hostname type name value)
  rw [counted] at room nonneg
  rw [nextCount_eq nonneg room]
  generalize count : (values.get (value2key value)).getD 0 = old at *
  have nextValues : Plain jansson (valued (serverName hostname) type name)
      (values.set (value2key value) (old + 1)) :=
    valuesPlain.set uniform.kind uniform.value (by omega)
  refine ⟨⟨⟨fun entry member => ?_, fun entry member => ?_⟩, nodup_set kept.servers _ _,
    fun entry member => ?_⟩, fun key => ?_⟩
  · rcases KeyedList.mem_of_mem_upsert Prod.fst member with rfl | earlier
    · exact uniform.server
    · exact kept.plain.utf8 entry earlier
  · rcases KeyedList.mem_of_mem_upsert Prod.fst member with rfl | earlier
    · refine ⟨fun inner present => ?_⟩
      rcases KeyedList.mem_of_mem_upsert Prod.fst present with rfl | before
      · exact ⟨type, name, rfl, uniform.naming, uniform.name, nextValues,
          nodup_set valuesDistinct _ _⟩
      · exact serverPlain.counter inner before
    · exact kept.plain.server entry earlier
  · rcases KeyedList.mem_of_mem_upsert Prod.fst member with rfl | earlier
    · exact nodup_set serverDistinct _ _
    · exact kept.counters entry earlier
  · have first := entriesSum_set kept.servers (serverName hostname) key.server
      (server.set (typeName2key type name) (values.set (value2key value) (old + 1)))
      (fun server => entriesSum server (typeName2key key.type key.name) (valuesCount · key.value))
    apply first.trans
    by_cases sameServer : key.server = serverName hostname
    · rw [if_pos sameServer, inServer key sameServer, entriesSum_set serverDistinct]
      by_cases sameKey : typeName2key key.type key.name = typeName2key type name
      · rw [if_pos sameKey, sameKey, inValues]
        refine (entriesSum_set valuesDistinct (value2key value) key.value (old + 1) id).trans ?_
        obtain ⟨sameType, sameName⟩ := typeName2key_inj sameKey
        by_cases sameValue : key.value = value2key value
        · have same : key = incKey hostname type name value := by
            obtain ⟨server, type', name', value'⟩ := key
            cases sameServer
            cases sameType
            cases sameName
            cases sameValue
            rfl
          rw [if_pos sameValue, if_pos same, sameValue, own]
          rfl
        · rw [if_neg sameValue, if_neg fun same => sameValue (congrArg Key.value same), add_zero]
          rfl
      · rw [if_neg sameKey, if_neg fun same => sameKey (by rw [same]; rfl), add_zero]
    · rw [if_neg sameServer, if_neg fun same => sameServer (congrArg Key.server same), add_zero]
      rfl

end Table

/-! ## Processes and shared memory -/

/-- The tables of a process, and whether a flush has merged them and not cleared them yet. It holds
the mutex of the process meanwhile. -/
structure Process where
  counters : Hash (Hash Values) := []
  timings : Hash (Hash Timing) := []
  flushed : Bool := false

/-- What the process still has to flush. -/
def Process.unflushed (process : Process) (key : Key) : Int :=
  if process.flushed then 0 else localCount process.counters key

/-- What a text in shared memory says of a counter. -/
def storageCount (jansson : Jansson) (storage : String) (key : Key) : Int :=
  match document jansson storage with
  | .obj servers => documentCount servers key
  | _ => 0

/-- The processes and the shared memory, with the counts that were handed out and the increments
that were made. -/
structure System (ι : Type) where
  processes : ι → Process
  storage : String
  handedOut : Key → Int
  made : Key → Int

/-- A document fits into the segment. -/
def Fits (jansson : Jansson) (size : Nat) (json : Json) : Prop :=
  ∃ text, jansson.dumps json = some text ∧ text.utf8ByteSize + 1 ≤ size

namespace System

variable {ι : Type} [DecidableEq ι]

/-- After the start of the server. -/
def start : System ι where
  processes := fun _ => {}
  storage := ""
  handedOut := fun _ => 0
  made := fun _ => 0

/-- A change of one process. -/
def setProcess (system : System ι) (i : ι) (process : Process) : System ι :=
  { system with processes := Function.update system.processes i process }

/-- What happens under the mutexes. Only increments with certain keys are permitted, no count is too
large, and all documents fit into the segment. -/
inductive Step (jansson : Jansson) (size : Nat) (permits : Key → Prop) (system : System ι) :
    System ι → Prop
  /-- `oidc_metrics_counter_inc`. -/
  | inc (i : ι) (hostname : Option String) (type : Nat) (name value : Option String)
      (free : (system.processes i).flushed = false)
      (permitted : permits (incKey hostname type name value))
      (room : localCount (system.processes i).counters
      (incKey hostname type name value) < metricsIntMax) :
      Step jansson size permits system
        { system.setProcess i { system.processes i with
            counters := counterInc (system.processes i).counters hostname type name value } with
          made := Function.update system.made (incKey hostname type name value)
            (system.made (incKey hostname type name value) + 1) }
  /-- `oidc_metrics_timing_add`. -/
  | timing (i : ι) (hostname : Option String) (type : Nat) (elapsed : Int)
      (free : (system.processes i).flushed = false) :
      Step jansson size permits system
        (system.setProcess i { system.processes i with
          timings := timingAdd (system.processes i).timings hostname type elapsed })
  /-- `oidc_metrics_store` in a flush. -/
  | store (i : ι) (counters : Hash (Hash Values)) (timings : Hash (Hash Timing))
      (free : (system.processes i).flushed = false)
      (arranged : CountersArranged (system.processes i).counters counters)
      (arrangedTimings : Arranged (Arranged Eq) (system.processes i).timings timings)
      (fits : Fits jansson size (merged jansson counters timings system.storage))
      (room : ∀ key, storageCount jansson system.storage key +
        localCount (system.processes i).counters key ≤ metricsIntMax) :
      Step jansson size permits system
        { system.setProcess i { system.processes i with flushed := true } with
          storage := Metrics.store jansson size counters timings system.storage }
  /-- `oidc_util_apr_hash_clear` at the end of a flush. -/
  | clear (i : ι) (held : (system.processes i).flushed = true) :
      Step jansson size permits system (system.setProcess i {})
  /-- `oidc_metrics_handle_request`. -/
  | read (reset : Bool)
      (fits : reset = true →
        Fits jansson size (mapMembers (resetServer jansson) (document jansson system.storage))) :
      Step jansson size permits system
        { system with
          storage := (handleRequest jansson size reset system.storage).2
          handedOut := fun key => system.handedOut key +
            if reset then ((handleRequest jansson size reset system.storage).1.elim 0
              (storageCount jansson · key)) else 0 }

/-- A run from the start. -/
inductive Run (jansson : Jansson) (size : Nat) (permits : Key → Prop) : System ι → Prop
  | start : Run jansson size permits start
  | step {system after : System ι} (run : Run jansson size permits system)
      (step : Step jansson size permits system after) : Run jansson size permits after

/-- Every increment of a counter is accounted for. -/
def Conserved [Fintype ι] (jansson : Jansson) (system : System ι) (key : Key) : Prop :=
  ∑ i, (system.processes i).unflushed key + storageCount jansson system.storage key +
    system.handedOut key = system.made key

end System

/-! ## What a run keeps -/

section Kept

variable {jansson : Jansson} {named : Nat → Bool} {valued : String → Nat → Option String → Bool}
  {size : Nat}

/-- The keys that fit the types with and without names. -/
abbrev NamedKey (named : Nat → Bool) := { key : Key // named key.type = key.name.isSome }

/-- What is written to the segment is read again. -/
theorem document_storageSet (documented : jansson.Documented) {servers : Object} {storage : String}
    (fits : Fits jansson size (.obj servers)) :
    document jansson (storageSet size storage (jansson.dumps (.obj servers))) = .obj servers := by
  obtain ⟨text, dumped, small⟩ := fits
  obtain ⟨filled, loaded⟩ := documented.loads_dumps servers text dumped
  rw [dumped, storageSet, if_neg (by omega), document, storageGet, if_neg filled, Option.getD_some,
    loaded, Option.getD_some]

theorem storageCount_of_document {storage : String} {servers : Object}
    (held : document jansson storage = .obj servers) (key : Key) :
    storageCount jansson storage key = documentCount servers key := by
  rw [storageCount, held]

/-- The text in shared memory is a document whose counters have their shapes. -/
def Stored (jansson : Jansson) (named : Nat → Bool) (valued : String → Nat → Option String → Bool)
    (storage : String) : Prop :=
  ∃ servers, document jansson storage = .obj servers ∧ DocumentShape named valued servers

/-- A flush adds the counts of the process and keeps the shapes. -/
theorem Stored.store (documented : jansson.Documented) {storage : String}
    (stored : Stored jansson named valued storage) {table counters : Hash (Hash Values)}
    {timings : Hash (Hash Timing)} (kept : Table jansson named valued table)
    (arranged : CountersArranged table counters)
    (fits : Fits jansson size (merged jansson counters timings storage))
    (room : ∀ key, storageCount jansson storage key + localCount table key ≤ metricsIntMax) :
    Stored jansson named valued (store jansson size counters timings storage) ∧
      ∀ key : Key, named key.type = key.name.isSome →
        storageCount jansson (store jansson size counters timings storage) key =
          storageCount jansson storage key + localCount table key := by
  obtain ⟨servers, held, shape⟩ := stored
  obtain ⟨between, first, middle, counts⟩ := storeCounters_merged documented shape
    (kept.arranged arranged) fun key _ => by
      rw [arranged.count, ← storageCount_of_document held]
      exact room key
  obtain ⟨after, last, final, same⟩ :=
    @storeTimings_counters jansson named valued between middle timings
  have whole : merged jansson counters timings storage = .obj after := by
    rw [merged, held, first, last]
  have count (key : Key) (naming : named key.type = key.name.isSome) :
      documentCount after key = storageCount jansson storage key + localCount table key := by
    rw [documentCount, same, storageCount_of_document held, ← arranged.count key]
    exact counts key naming
  unfold Metrics.store
  split
  · next nothing =>
      refine ⟨⟨servers, held, shape⟩, fun key naming => ?_⟩
      have empty : localCount table key = 0 := by
        rw [← arranged.count key, List.length_eq_zero_iff.mp nothing.1]
        rfl
      rw [empty, add_zero]
  · rw [whole] at fits ⊢
    have written : document jansson
      (storageSet size storage (jansson.dumps (.obj after))) = .obj after :=
      document_storageSet documented fits
    refine ⟨⟨after, written, final⟩, fun key naming => ?_⟩
    rw [storageCount_of_document written]
    exact count key naming

/-- A reset leaves no counts and keeps the shapes. -/
theorem Stored.reset (documented : jansson.Documented) {storage : String}
    (stored : Stored jansson named valued storage)
    (fits : Fits jansson size (mapMembers (resetServer jansson) (document jansson storage))) :
    Stored jansson named valued (storageReset jansson size storage) ∧
      ∀ key : Key, named key.type = key.name.isSome →
        storageCount jansson (storageReset jansson size storage) key = 0 := by
  obtain ⟨servers, held, shape⟩ := stored
  obtain ⟨after, zeroed, final, none_left⟩ :=
    @DocumentShape.reset jansson named valued servers shape
  rw [held, zeroed] at fits
  have written : document jansson (storageReset jansson size storage) = .obj after := by
    rw [storageReset, held, zeroed]
    exact document_storageSet documented fits
  refine ⟨⟨after, written, final⟩, fun key naming => ?_⟩
  rw [storageCount_of_document written]
  exact none_left key naming

variable {ι : Type} [DecidableEq ι]

/-- The tables of all processes and the document have their shapes. -/
structure Kept (jansson : Jansson) (named : Nat → Bool)
    (valued : String → Nat → Option String → Bool)
    (system : System ι) : Prop where
  table : ∀ i, Table jansson named valued (system.processes i).counters
  stored : Stored jansson named valued system.storage

/-- The processes as accounts, shared memory as the pool. -/
def System.ledger (jansson : Jansson) (named : Nat → Bool) (system : System ι) :
    Ledger ι (NamedKey named) where
  held := fun i key => (system.processes i).unflushed key
  pooled := fun key => storageCount jansson system.storage key
  drawn := fun key => system.handedOut key
  earned := fun key => system.made key

theorem table_nil : Table jansson named valued [] := by
  refine ⟨⟨fun entry member => ?_, fun entry member => ?_⟩, List.nodup_nil, fun entry member => ?_⟩
  all_goals cases member

theorem Kept.setProcess {system : System ι} (kept : Kept jansson named valued system) (i : ι)
    {process : Process} (table : Table jansson named valued process.counters) :
    ∀ j, Table jansson named valued ((system.setProcess i process).processes j).counters := by
  intro j
  rw [System.setProcess]
  dsimp only
  rw [Function.update_apply]
  split
  · exact table
  · exact kept.table j

/-- The accounts after a change of one process. -/
theorem unflushed_setProcess (system : System ι) (i : ι) (process : Process) :
    (fun j (key : NamedKey named) => ((system.setProcess i process).processes j).unflushed key) =
      Function.update (fun j (key : NamedKey named) => (system.processes j).unflushed key) i
        fun key => process.unflushed key := by
  funext j key
  rw [System.setProcess]
  dsimp only
  by_cases same : j = i
  · subst same
    rw [Function.update_self, Function.update_self]
  · rw [Function.update_of_ne same, Function.update_of_ne same]

/-- A step keeps the shapes and moves the counts in the ledger. -/
theorem Kept.step (documented : jansson.Documented) {system after : System ι}
    (kept : Kept jansson named valued system)
    (step : system.Step jansson size (Uniform jansson named valued) after) :
    Kept jansson named valued after ∧
      (system.ledger jansson named).Move (after.ledger jansson named) := by
  cases step with
  | inc i hostname type name value free uniform room =>
      obtain ⟨table, counts⟩ := (kept.table i).inc uniform room
      refine ⟨⟨kept.setProcess i table, kept.stored⟩, ?_⟩
      let own : NamedKey named := ⟨incKey hostname type name value, uniform.naming⟩
      have account : (fun key : NamedKey named =>
          ({ system.processes i with
            counters := counterInc (system.processes i).counters hostname type name value } :
              Process).unflushed key) =
          Function.update (fun key : NamedKey named => (system.processes i).unflushed key) own
            ((system.processes i).unflushed own + 1) := by
        funext key
        rw [Process.unflushed, free, if_neg Bool.false_ne_true, counts, Function.update_apply,
          Process.unflushed, Process.unflushed, free, if_neg Bool.false_ne_true,
          if_neg Bool.false_ne_true]
        by_cases same : key = own
        · rw [same, if_pos rfl, if_pos rfl]
        · rw [if_neg fun equal => same (Subtype.ext equal), if_neg same, add_zero]
      have earned : (fun key : NamedKey named => Function.update system.made
          (incKey hostname type name value)
              (system.made (incKey hostname type name value) + 1) key) =
          Function.update (fun key : NamedKey named => system.made key) own
              (system.made own + 1) := by
        funext key
        rw [Function.update_apply, Function.update_apply]
        by_cases same : key = own
        · rw [same, if_pos rfl, if_pos rfl]
        · rw [if_neg fun equal => same (Subtype.ext equal), if_neg same]
      have moved : System.ledger jansson named
          { system.setProcess i { system.processes i with
              counters := counterInc (system.processes i).counters hostname type name value } with
            made := Function.update system.made (incKey hostname type name value)
              (system.made (incKey hostname type name value) + 1) } =
          (system.ledger jansson named).earn i own :=
        Ledger.ext ((unflushed_setProcess system i _).trans (congrArg _ account)) rfl rfl earned
      rw [moved]
      exact .earn i own
  | timing i hostname type elapsed free =>
      refine ⟨⟨kept.setProcess i (kept.table i), kept.stored⟩, ?_⟩
      have moved : (system.setProcess i { system.processes i with
          timings := timingAdd (system.processes i).timings hostname type elapsed }).ledger
            jansson named = system.ledger jansson named :=
        Ledger.ext ((unflushed_setProcess system i _).trans (Function.update_eq_self i _)) rfl rfl
            rfl
      rw [moved]
      exact .stay
  | store i counters timings free arranged arrangedTimings fits room =>
      obtain ⟨stored, counts⟩ := kept.stored.store documented (kept.table i) arranged fits room
      refine ⟨⟨kept.setProcess i (kept.table i), stored⟩, ?_⟩
      have pooled : (fun key : NamedKey named => storageCount jansson
          (Metrics.store jansson size counters timings system.storage) key) =
          fun key : NamedKey named => storageCount jansson system.storage key +
            (system.processes i).unflushed key := by
        funext key
        rw [Process.unflushed, free, if_neg Bool.false_ne_true]
        exact counts key key.2
      have moved : System.ledger jansson named
          { system.setProcess i { system.processes i with flushed := true } with
            storage := Metrics.store jansson size counters timings system.storage } =
          (system.ledger jansson named).pay i :=
        Ledger.ext (unflushed_setProcess system i _) pooled rfl rfl
      rw [moved]
      exact .pay i
  | clear i held =>
      refine ⟨⟨kept.setProcess i table_nil, kept.stored⟩, ?_⟩
      have account : (fun key : NamedKey named => ({} : Process).unflushed key) =
          fun key : NamedKey named => (system.processes i).unflushed key := by
        funext key
        rw [Process.unflushed, Process.unflushed, held, if_pos rfl]
        rfl
      have moved : (system.setProcess i {}).ledger jansson named = system.ledger jansson named :=
        Ledger.ext ((unflushed_setProcess system i _).trans
          ((congrArg _ account).trans (Function.update_eq_self i _))) rfl rfl rfl
      rw [moved]
      exact .stay
  | read reset fits =>
      have handed (key : Key) : (storageGet system.storage).elim 0 (storageCount jansson · key) =
          storageCount jansson system.storage key := by
        rw [storageGet]
        split
        · next empty =>
            obtain ⟨servers, held, -⟩ := kept.stored
            have nothing : servers = [] := by
              rw [document, storageGet, if_pos empty, Option.getD_none,
                documented.loads_empty] at held
              exact (Json.obj.inj held).symm
            rw [storageCount_of_document held, nothing, documentCount]
            cases key.name <;> rfl
        · rfl
      cases reset with
      | false =>
          refine ⟨⟨kept.table, kept.stored⟩, ?_⟩
          have moved : System.ledger jansson named
              { system with
                storage := (handleRequest jansson size false system.storage).2
                handedOut := fun key => system.handedOut key +
                  if false then ((handleRequest jansson size false system.storage).1.elim 0
                    (storageCount jansson · key)) else 0 } = system.ledger jansson named :=
            Ledger.ext rfl rfl (funext fun key => add_zero _) rfl
          rw [moved]
          exact .stay
      | true =>
          obtain ⟨stored, zeroed⟩ := kept.stored.reset documented (fits rfl)
          refine ⟨⟨kept.table, stored⟩, ?_⟩
          have moved : System.ledger jansson named
              { system with
                storage := (handleRequest jansson size true system.storage).2
                handedOut := fun key => system.handedOut key +
                  if true then ((handleRequest jansson size true system.storage).1.elim 0
                    (storageCount jansson · key)) else 0 } = (system.ledger jansson named).draw :=
            Ledger.ext rfl (funext fun key => zeroed key key.2)
              (funext fun key => congrArg (system.handedOut key + ·) (handed key)) rfl
          rw [moved]
          exact .draw

/-- A run keeps the shapes and its ledger balanced. -/
theorem Kept.run [Fintype ι] (documented : jansson.Documented) {system : System ι}
    (run : System.Run jansson size (Uniform jansson named valued) system) :
    Kept jansson named valued system ∧ (system.ledger jansson named).Balanced := by
  induction run with
  | start =>
      have held : document jansson "" = .obj [] := by
        rw [document, storageGet, if_pos rfl, Option.getD_none, documented.loads_empty,
          Option.getD_some]
      have nothing : (System.start : System ι).ledger jansson named = Ledger.empty :=
        Ledger.ext rfl (funext fun key => (storageCount_of_document held key).trans
          (by rw [documentCount]; cases key.1.name <;> rfl)) rfl rfl
      refine ⟨⟨fun _ => table_nil, [], held, ⟨fun server entry found => by cases found⟩⟩, ?_⟩
      rw [nothing]
      exact Ledger.balanced_empty
  | step run step ih =>
      obtain ⟨kept, balanced⟩ := ih
      obtain ⟨after, moved⟩ := kept.step documented step
      exact ⟨after, balanced.move moved⟩

/-- In every run in which no counter gets both the default value and another one, and all keys are
valid UTF-8, every increment is in the table of a process, in shared memory, or has been handed out.
-/
theorem counts_conserved [Fintype ι] (documented : jansson.Documented) {system : System ι}
    (run : System.Run jansson size (Uniform jansson named valued) system) {key : Key}
    (naming : named key.type = key.name.isSome) : system.Conserved jansson key :=
  (Kept.run documented run).2 ⟨key, naming⟩

end Kept

/-! ## A claim with an empty value -/

/-- A document that counts the values of one claim of id_tokens. -/
def nicknames (counter : Json) : Json :=
  .obj [("host", .obj [("counters", .obj [("18", .obj [("nickname", counter)])]),
      ("timings", .obj [])])]

/-- A library that knows a few documents. -/
def Jansson.ofTable (table : List (Json × String)) : Jansson where
  loads text := if text = "\x7b\x7d" then some (.obj [])
      else (table.find? fun row => row.2 = text).map Prod.fst
  dumps json := (table.find? fun row => row.1 = json).map Prod.snd
  utf8 := fun _ => true

/-- It keeps to the documentation if the texts differ from each other and from those of nothing. -/
theorem Jansson.documented_ofTable {table : List (Json × String)}
    (distinct : (table.map Prod.snd).Nodup)
    (others : ∀ row ∈ table, row.2 ≠ "" ∧ row.2 ≠ "\x7b\x7d") : (ofTable table).Documented := by
  refine ⟨fun members text dumped => ?_, rfl, fun _ _ => rfl⟩
  obtain ⟨row, found, rfl⟩ := Option.map_eq_some_iff.mp dumped
  have member := List.mem_of_find?_eq_some found
  have own : row.1 = .obj members := by simpa using List.find?_some found
  refine ⟨(others row member).1, ?_⟩
  cases again : table.find? fun other => other.2 = row.2 with
  | none => exact absurd (List.find?_eq_none.mp again row member) (by simp)
  | some other =>
      have same : other.2 = row.2 := by simpa using List.find?_some again
      have equal : other = row :=
        List.inj_on_of_nodup_map distinct (List.mem_of_find?_eq_some again) member same
      simp only [ofTable, (others row member).2, if_false, again, Option.map_some, equal, own]

/-- The documents of the example. -/
def nicknameTable : List (Json × String) :=
  [(nicknames (.int 1), "default"), (nicknames (.obj [("al", .int 1)]), "one"),
    (nicknames (.obj [("al", .int 0)]), "none")]

/-- The type of claims of id_tokens always has a name. -/
def claimNamed (type : Nat) : Bool := type = 18

/-- The nickname `al`. -/
def nicknameKey : Key where
  server := "host"
  type := 18
  name := some "nickname"
  value := "al"

theorem arranged_refl {α : Type} {stands : α → α → Prop} (reflexive : ∀ value, stands value value)
    (table : Hash α) : Arranged stands table table :=
  ⟨table, .refl _, List.forall₂_same.mpr fun entry _ => ⟨rfl, reflexive entry.2⟩⟩

theorem countersArranged_refl (table : Hash (Hash Values)) : CountersArranged table table :=
  arranged_refl (arranged_refl (arranged_refl fun _ => rfl)) table

/-- The table of a process with values of that claim. -/
def nicknameCounts (values : Values) : Hash (Hash Values) := [("host", [("18.nickname", values)])]

/-- A few values have room in an empty segment. -/
theorem nickname_room {values : Values} (few : ∀ value, valuesCount values value ≤ 1) (key : Key) :
    storageCount (.ofTable nicknameTable) "" key + localCount (nicknameCounts values) key ≤
      metricsIntMax := by
  have nothing : storageCount (.ofTable nicknameTable) "" key = 0 := by
    have held : document (.ofTable nicknameTable) "" = .obj [] := rfl
    rw [storageCount_of_document held, documentCount]
    cases key.name <;> rfl
  have small : localCount (nicknameCounts values) key ≤ 1 := by
    rw [nicknameCounts, localCount, List.map_singleton, List.sum_singleton]
    split
    · rw [serverCount, List.map_singleton, List.sum_singleton]
      split
      · exact few key.value
      · decide
    · decide
  rw [nothing, metricsIntMax]
  omega

theorem valuesCount_singleton_le (value : String) : valuesCount [("al", 1)] value ≤ 1 := by
  rw [valuesCount, List.map_singleton, List.sum_singleton]
  split <;> decide

theorem valuesCount_pair_le (value : String) : valuesCount [("al", 1), ("_", 1)] value ≤ 1 := by
  rw [valuesCount_cons, valuesCount, List.map_singleton, List.sum_singleton]
  by_cases first : "al" = value
  · subst first
    decide
  · rw [if_neg first]
    split <;> decide

/-- One nickname is counted, flushed and handed out. -/
theorem nickname_conserved : ∃ system : System Unit,
    system.handedOut nicknameKey = 1 ∧ system.Conserved (.ofTable nicknameTable) nicknameKey := by
  have documented : (Jansson.ofTable nicknameTable).Documented :=
    Jansson.documented_ofTable (by decide) (by decide)
  refine ⟨_, ?_, @counts_conserved (.ofTable nicknameTable) claimNamed
    (fun _ type _ => type = 18) 100 Unit _ _
    documented _ (.step (.step (.step (.step .start
      (.inc () (some "host") 18 (some "nickname") (some "al") rfl
          ⟨rfl, by decide, rfl, fun _ _ => rfl, rfl⟩
        (by decide +kernel)))
      (.store () (nicknameCounts [("al", 1)]) [] rfl (countersArranged_refl _)
        (arranged_refl (arranged_refl fun _ => rfl) _) ⟨"one", by decide +kernel, by decide +kernel⟩
        (nickname_room valuesCount_singleton_le)))
      (.clear () rfl)) (.read true fun _ => ⟨"none", by decide +kernel, by decide +kernel⟩))
    nicknameKey rfl⟩
  decide +kernel

/-- A nickname is lost when the same claim of another token is empty. -/
theorem nickname_lost : ∃ system : System Unit,
    system.Run (.ofTable nicknameTable) 100 (fun key => claimNamed key.type = key.name.isSome) ∧
      system.made nicknameKey = 1 ∧ ¬system.Conserved (.ofTable nicknameTable) nicknameKey := by
  refine ⟨_, .step (.step (.step (.step .start
    (.inc () (some "host") 18 (some "nickname") (some "al") rfl rfl (by decide +kernel)))
    (.inc () (some "host") 18 (some "nickname") (some "") rfl rfl (by decide +kernel)))
    (.store () (nicknameCounts [("al", 1), ("_", 1)]) [] rfl (countersArranged_refl _)
      (arranged_refl (arranged_refl fun _ => rfl) _)
          ⟨"default", by decide +kernel, by decide +kernel⟩
      (nickname_room valuesCount_pair_le)))
    (.clear () rfl), by decide +kernel, ?_⟩
  unfold System.Conserved
  decide +kernel

end Metrics

end ModAuthOpenidc
