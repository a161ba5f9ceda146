import ModAuthOpenidc.Metrics.Conservation
import ModAuthOpenidc.Metrics.Histogram
import ModAuthOpenidc.Metrics.TimingDocument

/-!
# Samples in all processes

Processes record samples on their own and flush them into shared memory in any order, while requests
read the document and may reset it. Every entry, in a process or in the document, keeps counting the
samples that went into it since it was created or cleared.
-/

namespace ModAuthOpenidc

namespace Metrics

/-- The entry of a timing in the document. -/
def sharedAt (jansson : Jansson) (storage server key : String) : Option Json :=
  (((document jansson storage).member server).bind (Json.member · "timings")).bind
    (Json.member · key)

/-! ## Processes and shared memory -/

/-- The processes and the shared memory, with the samples that their entries have recorded. -/
structure Recorder (ι : Type) where
  processes : ι → Process
  storage : String
  recorded : ι → String → String → List Int
  pooled : String → String → List Int

/-- What stands for the storage after `_oidc_metrics_storage_set`: what stood for it before, for the
new text, or for nothing. -/
def storedAs {α : Type} (size : Nat) (value : Option String) (before after nothing : α) : α :=
  match value with
  | some text => if size < text.utf8ByteSize + 1 then before else after
  | none => nothing

/-- The samples of an entry after `oidc_metrics_timing_add`, which starts anew when the sum
overflows. -/
def recordedBy (timings : Hash (Hash Timing)) (hostname : Option String) (type : Nat)
    (elapsed : Int) (samples : List Int) : List Int :=
  if elapsed < 0 then samples
  else
    let timing := (timingAt timings (serverName hostname) (typeName2key type none)).getD .clear
    (if 0 < timing.count ∧ isOverflow timing.sum elapsed then [] else samples) ++ [elapsed]

namespace Recorder

variable {ι : Type} [DecidableEq ι]

/-- After the start of the server. -/
def start : Recorder ι where
  processes := fun _ => {}
  storage := ""
  recorded := fun _ _ _ => []
  pooled := fun _ _ => []

/-- What happens under the mutexes, with the samples that are permitted. -/
inductive Step (jansson : Jansson) (size : Nat) (permits : Int → Prop) (system : Recorder ι) :
    Recorder ι → Prop
  /-- `oidc_metrics_counter_inc`. -/
  | inc (i : ι) (hostname : Option String) (type : Nat) (name value : Option String)
      (free : (system.processes i).flushed = false) :
      Step jansson size permits system
        { system with
          processes := Function.update system.processes i { system.processes i with
            counters := counterInc (system.processes i).counters hostname type name value } }
  /-- `oidc_metrics_timing_add`. -/
  | timing (i : ι) (hostname : Option String) (type : Nat) (elapsed : Int)
      (free : (system.processes i).flushed = false) (permitted : permits elapsed) :
      Step jansson size permits system
        { system with
          processes := Function.update system.processes i { system.processes i with
            timings := timingAdd (system.processes i).timings hostname type elapsed }
          recorded := Function.update system.recorded i
            (Function.update (system.recorded i) (serverName hostname)
              (Function.update (system.recorded i (serverName hostname)) (typeName2key type none)
                (recordedBy (system.processes i).timings hostname type elapsed
                  (system.recorded i (serverName hostname) (typeName2key type none))))) }
  /-- `oidc_metrics_store` in a flush. -/
  | store (i : ι) (counters : Hash (Hash Values)) (timings : Hash (Hash Timing))
      (free : (system.processes i).flushed = false)
      (arranged : CountersArranged (system.processes i).counters counters)
      (arrangedTimings : Arranged (Arranged Eq) (system.processes i).timings timings) :
      Step jansson size permits system
        { system with
          processes := Function.update system.processes i
            { system.processes i with flushed := true }
          storage := Metrics.store jansson size counters timings system.storage
          pooled :=
            if counters.length = 0 ∧ timings.length = 0 then system.pooled
            else storedAs size (jansson.dumps (merged jansson counters timings system.storage))
              system.pooled
              (fun server key => if jansson.utf8 server then
                system.pooled server key ++ system.recorded i server key
                else system.pooled server key)
              fun _ _ => [] }
  /-- `oidc_util_apr_hash_clear` at the end of a flush. -/
  | clear (i : ι) (held : (system.processes i).flushed = true) :
      Step jansson size permits system
        { system with
          processes := Function.update system.processes i {}
          recorded := Function.update system.recorded i fun _ _ => [] }
  /-- `oidc_metrics_handle_request`. -/
  | read (reset : Bool) :
      Step jansson size permits system
        { system with
          storage := (handleRequest jansson size reset system.storage).2
          pooled := if reset then storedAs size (jansson.dumps
            (mapMembers (resetServer jansson) (document jansson system.storage)))
              system.pooled (fun _ _ => []) (fun _ _ => []) else system.pooled }

/-- A run from the start. -/
inductive Run (jansson : Jansson) (size : Nat) (permits : Int → Prop) : Recorder ι → Prop
  | start : Run jansson size permits start
  | step {system after : Recorder ι} (run : Run jansson size permits system)
      (step : Step jansson size permits system after) : Run jansson size permits after

/-- All entries are cumulative, and their labels are right. -/
structure Histograms (jansson : Jansson) (system : Recorder ι) : Prop where
  processes : ∀ i server key timing,
    timingAt (system.processes i).timings server key = some timing →
      Cumulative timing.buckets timing.count ∧
        Labelled timing.buckets (system.recorded i server key)
  shared : ∀ server key entry, sharedAt jansson system.storage server key = some entry →
    Cumulative (sharedBuckets entry) (sharedCount entry) ∧
      Labelled (sharedBuckets entry) (system.pooled server key)

/-- No entry has recorded a sample that equals a threshold. -/
structure Clear (system : Recorder ι) : Prop where
  processes : ∀ i server key, ∀ elapsed ∈ system.recorded i server key, elapsed ∉ thresholds
  shared : ∀ server key, ∀ elapsed ∈ system.pooled server key, elapsed ∉ thresholds

end Recorder

/-! ## The table of a process -/

section Table

variable {jansson : Jansson} {table : Hash (Hash Timing)}
  {recorded : String → String → List Int}

/-- The table of a process has counted the samples of the process. -/
structure TimingTable (jansson : Jansson) (table : Hash (Hash Timing))
    (recorded : String → String → List Int) : Prop where
  servers : (table.map Prod.fst).Nodup
  entries : ∀ entry ∈ table, (entry.2.map Prod.fst).Nodup ∧
    ∀ inner ∈ entry.2, jansson.utf8 inner.1 = true
  counts : ∀ server key, (timingAt table server key).elim (recorded server key = [])
    (LocalEntry · (recorded server key))

theorem timingTable_nil (jansson : Jansson) : TimingTable jansson [] fun _ _ => [] := by
  refine ⟨List.nodup_nil, fun entry member => ?_, fun _ _ => rfl⟩
  cases member

/-- The timings of a server in the table of a process. -/
theorem timingAt_getD (table : Hash (Hash Timing)) (server key : String) :
    ((table.get server).getD []).get key = timingAt table server key := by
  rw [timingAt]
  cases table.get server <;> rfl

theorem timingAt_set (table : Hash (Hash Timing)) (server key : String) (timing : Timing)
    (server' key' : String) :
    timingAt (table.set server (((table.get server).getD []).set key timing)) server' key' =
      if server' = server ∧ key' = key then some timing else timingAt table server' key' := by
  rw [timingAt, Hash.get_set]
  by_cases same : server' = server
  · subst same
    rw [if_pos rfl, Option.bind_some, Hash.get_set, timingAt_getD]
    simp only [true_and]
  · rw [if_neg same, if_neg fun both => same both.1, timingAt]

/-- The entries of a server, whether the table has it or not. -/
theorem TimingTable.server (kept : TimingTable jansson table recorded) (server : String) :
    (((table.get server).getD []).map Prod.fst).Nodup ∧
      ∀ inner ∈ (table.get server).getD [], jansson.utf8 inner.1 = true := by
  rw [Hash.get]
  cases found : KeyedList.lookup Prod.fst table server with
  | none => exact ⟨List.nodup_nil, List.forall_mem_nil _⟩
  | some pair => exact kept.entries pair (KeyedList.mem_of_lookup Prod.fst found)

/-- An entry is stored under a name that is valid. -/
theorem TimingTable.set (kept : TimingTable jansson table recorded) (server : String)
    {key : String} (valid : jansson.utf8 key = true) {timing : Timing} {samples : List Int}
    (entry : LocalEntry timing samples) :
    TimingTable jansson (table.set server (((table.get server).getD []).set key timing))
      (Function.update recorded server (Function.update (recorded server) key samples)) := by
  obtain ⟨distinct, names⟩ := kept.server server
  refine ⟨KeyedList.nodup_upsert Prod.fst kept.servers _, fun other member => ?_,
    fun server' key' => ?_⟩
  · rcases KeyedList.mem_of_mem_upsert Prod.fst member with rfl | older
    · refine ⟨KeyedList.nodup_upsert Prod.fst distinct _, fun inner inside => ?_⟩
      rcases KeyedList.mem_of_mem_upsert Prod.fst inside with rfl | older
      · exact valid
      · exact names inner older
    · exact kept.entries other older
  · rw [timingAt_set]
    by_cases here : server' = server
    · subst here
      rw [Function.update_self]
      by_cases own : key' = key
      · subst own
        rw [if_pos ⟨rfl, rfl⟩, Function.update_self]
        exact entry
      · rw [if_neg fun both => own both.2, Function.update_of_ne own]
        exact kept.counts server' key'
    · rw [if_neg fun both => here both.1, Function.update_of_ne here]
      exact kept.counts server' key'

/-- A sample is recorded. -/
theorem TimingTable.add (documented : jansson.Documented)
    (kept : TimingTable jansson table recorded) (hostname : Option String) (type : Nat)
    (elapsed : Int) :
    TimingTable jansson (timingAdd table hostname type elapsed)
      (Function.update recorded (serverName hostname)
        (Function.update (recorded (serverName hostname)) (typeName2key type none)
          (recordedBy table hostname type elapsed
            (recorded (serverName hostname) (typeName2key type none))))) := by
  have before := kept.counts (serverName hostname) (typeName2key type none)
  unfold timingAdd recordedBy
  by_cases negative : elapsed < 0
  · rw [if_pos negative, if_pos negative, Function.update_eq_self, Function.update_eq_self]
    exact kept
  · rw [if_neg negative, if_neg negative]
    dsimp only
    rw [timingAt_getD]
    refine kept.set (serverName hostname) (utf8_type documented type) (LocalEntry.add ?_ elapsed)
    split
    · exact localEntry_clear
    · revert before
      cases timingAt table (serverName hostname) (typeName2key type none) with
      | none =>
          intro none_left
          rw [Option.elim_none] at none_left
          rw [none_left]
          exact localEntry_clear
      | some timing => exact id

/-- The entries of a server in another order, or none. -/
theorem Arranged.get {α : Type} {stands : α → α → Prop} {table order : Hash α}
    (arranged : Arranged stands table order) (distinct : (table.map Prod.fst).Nodup)
    (key : String) : Option.Rel stands (table.get key) (order.get key) := by
  cases found : order.get key with
  | none =>
      have absent : key ∉ table.map Prod.fst := by
        intro listed
        obtain ⟨other, member, rfl⟩ := List.mem_map.mp (arranged.keys.mem_iff.mpr listed)
        rw [Hash.get_of_mem (arranged.keys.nodup_iff.mpr distinct) member] at found
        cases found
      rw [Hash.get_of_notMem absent]
      exact .none
  | some value =>
      obtain ⟨pair, listed, rfl⟩ := Option.map_eq_some_iff.mp found
      obtain ⟨entry, source, same, stands⟩ :=
        arranged.source (KeyedList.mem_of_lookup Prod.fst listed)
      have own : entry.1 = key := same.trans (KeyedList.key_of_lookup Prod.fst listed)
      rw [← own, Hash.get_of_mem distinct source]
      exact .some stands

/-- The table of a process in any order. -/
theorem TimingTable.arranged (kept : TimingTable jansson table recorded)
    {order : Hash (Hash Timing)} (arranged : Arranged (Arranged Eq) table order) :
    TimingTable jansson order recorded := by
  refine ⟨arranged.keys.nodup_iff.mpr kept.servers, fun other member => ?_, fun server key => ?_⟩
  · obtain ⟨entry, source, -, inner⟩ := arranged.source member
    obtain ⟨distinct, valid⟩ := kept.entries entry source
    refine ⟨inner.keys.nodup_iff.mpr distinct, fun timing inside => ?_⟩
    obtain ⟨origin, known, same, -⟩ := inner.source inside
    exact same ▸ valid origin known
  · have same : timingAt order server key = timingAt table server key := by
      rw [timingAt, timingAt]
      have servers := arranged.get kept.servers server
      have inner := (kept.server server).1
      generalize table.get server = ours at servers inner ⊢
      generalize order.get server = theirs at servers ⊢
      cases servers with
      | none => rfl
      | some agree =>
          have timings := agree.get inner key
          rw [Option.bind_some, Option.bind_some]
          generalize Hash.get _ key = one at timings ⊢
          generalize Hash.get _ key = other at timings ⊢
          cases timings with
          | none => rfl
          | some equal => rw [equal]
    rw [same]
    exact kept.counts server key

end Table

/-! ## The document -/

section Pooled

variable {jansson : Jansson} {size : Nat} {servers : Object} {storage : String}
  {pooled : String → String → List Int}

/-- The entries of all servers have counted the samples that were flushed into them. -/
structure Pooled (jansson : Jansson) (servers : Object) (pooled : String → String → List Int) :
    Prop where
  shape : ServersShape jansson servers
  entries : ∀ server key, (Object.get (timingsOf servers server) key).elim (pooled server key = [])
    (SharedEntry · (pooled server key))

/-- The same for the text in shared memory. -/
def PooledText (jansson : Jansson) (storage : String) (pooled : String → String → List Int) :
    Prop :=
  ∃ servers, document jansson storage = .obj servers ∧ Pooled jansson servers pooled

theorem pooledText_nothing (documented : jansson.Documented) :
    PooledText jansson "" fun _ _ => [] := by
  refine ⟨[], ?_, serversShape_nil jansson, fun _ _ => rfl⟩
  rw [document, storageGet, if_pos rfl, Option.getD_none, documented.loads_empty, Option.getD_some]

/-- The entries are found in the document. -/
theorem sharedAt_eq (held : document jansson storage = .obj servers)
    (shape : ServersShape jansson servers) (server key : String) :
    sharedAt jansson storage server key = Object.get (timingsOf servers server) key := by
  rw [sharedAt, held, Json.member_obj]
  cases found : Object.get servers server with
  | none =>
      rw [timingsOf, groupsOf, found]
      rfl
  | some entry =>
      obtain ⟨-, groups, rfl, kept⟩ := shape server entry found
      obtain ⟨timings, timed⟩ := kept.timings
      rw [timingsOf, groupsOf_of_get found, timed, Option.bind_some, Json.member_obj, timed]
      rfl

/-- The text is replaced, kept or cleared. -/
theorem PooledText.set (documented : jansson.Documented)
    (before : PooledText jansson storage pooled) {after : Object}
    {flushed : String → String → List Int} (now : Pooled jansson after flushed) :
    PooledText jansson (storageSet size storage (jansson.dumps (.obj after)))
      (storedAs size (jansson.dumps (.obj after)) pooled flushed fun _ _ => []) := by
  cases dumped : jansson.dumps (.obj after) with
  | none => exact pooledText_nothing documented
  | some text =>
      dsimp only [storageSet, storedAs]
      split
      · exact before
      · obtain ⟨filled, loaded⟩ := documented.loads_dumps after text dumped
        refine ⟨after, ?_, now⟩
        rw [document, storageGet, if_neg filled, Option.getD_some, loaded, Option.getD_some]

/-- A flush adds the samples of the process. -/
theorem Pooled.merge (before : Pooled jansson servers pooled)
    (counters : Hash (Hash Values)) {timings : Hash (Hash Timing)}
    {recorded : String → String → List Int} (table : TimingTable jansson timings recorded) :
    ∃ after, storeTimings jansson (storeCounters jansson (.obj servers) counters) timings =
        .obj after ∧
      Pooled jansson after fun server key =>
        if jansson.utf8 server then pooled server key ++ recorded server key
        else pooled server key := by
  obtain ⟨between, first, middle, same⟩ := storeCounters_timings before.shape counters
  obtain ⟨after, last, final, merged⟩ := storeTimings_merged middle table.servers table.entries
  refine ⟨after, by rw [first, last], final, fun server key => ?_⟩
  rw [merged, same]
  have shared := before.entries server key
  have counted := table.counts server key
  split
  · generalize Object.get (timingsOf servers server) key = entry at shared ⊢
    generalize timingAt timings server key = timing at counted ⊢
    cases timing with
    | none =>
        rw [Option.elim_none] at counted
        rw [counted, List.append_nil]
        exact shared
    | some timing =>
        cases entry with
        | none =>
            rw [Option.elim_none] at shared
            rw [shared]
            exact timingsNew_shared counted
        | some entry => exact SharedEntry.update shared counted
  · exact shared

/-- A reset clears all samples. -/
theorem Pooled.reset (documented : jansson.Documented) (before : Pooled jansson servers pooled) :
    ∃ after, mapMembers (resetServer jansson) (.obj servers) = .obj after ∧
      Pooled jansson after fun _ _ => [] := by
  obtain ⟨after, reset, final, cleared⟩ := resetServers_timings before.shape
  refine ⟨after, reset, final, fun server key => ?_⟩
  rw [cleared]
  have shared := before.entries server key
  generalize Object.get (timingsOf servers server) key = entry at shared ⊢
  cases entry with
  | none => rfl
  | some entry => exact SharedEntry.reset documented shared

end Pooled

/-! ## Runs -/

namespace Recorder

variable {ι : Type} [DecidableEq ι] {jansson : Jansson} {size : Nat} {permits : Int → Prop}

/-- All entries have counted the samples that went into them, and all samples were permitted. -/
structure Kept (jansson : Jansson) (permits : Int → Prop) (system : Recorder ι) : Prop where
  tables : ∀ i, TimingTable jansson (system.processes i).timings (system.recorded i)
  text : PooledText jansson system.storage system.pooled
  recorded : ∀ i server key, ∀ elapsed ∈ system.recorded i server key, permits elapsed
  pooled : ∀ server key, ∀ elapsed ∈ system.pooled server key, permits elapsed

omit [DecidableEq ι] in
theorem kept_start (documented : jansson.Documented) :
    Kept jansson permits (start : Recorder ι) := by
  refine ⟨fun _ => timingTable_nil jansson, pooledText_nothing documented, ?_, ?_⟩
  · intro i server key elapsed member
    cases member
  · intro server key elapsed member
    cases member

/-- The samples after one more was recorded. -/
theorem mem_recordedBy {timings : Hash (Hash Timing)} {hostname : Option String} {type : Nat}
    {elapsed sample : Int} {samples : List Int}
    (member : sample ∈ recordedBy timings hostname type elapsed samples) :
    sample ∈ samples ∨ sample = elapsed := by
  unfold recordedBy at member
  split at member
  · exact .inl member
  · rcases List.mem_append.mp member with older | newer
    · split at older
      · cases older
      · exact .inl older
    · exact .inr (List.mem_singleton.mp newer)

/-- What stands for the text in shared memory has a property if all candidates have it. -/
theorem storedAs_of {α : Type} {holds : α → Prop} {value : Option String} {before after nothing : α}
    (old : holds before) (new : holds after) (none_left : holds nothing) :
    holds (storedAs size value before after nothing) := by
  unfold storedAs
  split
  · split
    · exact old
    · exact new
  · exact none_left

/-- A step of a process leaves the entries of the other processes alone. -/
theorem update_tables {system : Recorder ι}
    (tables : ∀ i, TimingTable jansson (system.processes i).timings (system.recorded i)) (i : ι)
    {process : Process} {recorded : String → String → List Int}
    (own : TimingTable jansson process.timings recorded) (j : ι) :
    TimingTable jansson (Function.update system.processes i process j).timings
      (Function.update system.recorded i recorded j) := by
  by_cases same : j = i
  · subst same
    rw [Function.update_self, Function.update_self]
    exact own
  · rw [Function.update_of_ne same, Function.update_of_ne same]
    exact tables j

/-- Every step keeps the counts. -/
theorem Kept.step (documented : jansson.Documented) {system after : Recorder ι}
    (kept : Kept jansson permits system) (step : system.Step jansson size permits after) :
    Kept jansson permits after := by
  have untouched (i : ι) {process : Process}
      (same : process.timings = (system.processes i).timings) (j : ι) :
      TimingTable jansson (Function.update system.processes i process j).timings
        (system.recorded j) := by
    have updated := @update_tables ι _ jansson system kept.tables i process (system.recorded i)
      (same ▸ kept.tables i) j
    rwa [Function.update_eq_self] at updated
  cases step with
  | inc i hostname type name value free =>
      exact ⟨untouched i rfl, kept.text, kept.recorded, kept.pooled⟩
  | timing i hostname type elapsed free permitted =>
      refine ⟨update_tables kept.tables i ((kept.tables i).add documented hostname type elapsed),
        kept.text, fun j server key sample member => ?_, kept.pooled⟩
      dsimp only at member
      rw [Function.update_apply] at member
      split at member
      · rw [Function.update_apply] at member
        split at member
        · rw [Function.update_apply] at member
          split at member
          · rcases mem_recordedBy member with older | rfl
            · exact kept.recorded i _ _ sample older
            · exact permitted
          · exact kept.recorded i _ _ sample member
        · exact kept.recorded i _ _ sample member
      · exact kept.recorded j _ _ sample member
  | store i counters timings free arranged arrangedTimings =>
      obtain ⟨servers, held, before⟩ := kept.text
      obtain ⟨after, whole, now⟩ :=
        before.merge counters ((kept.tables i).arranged arrangedTimings)
      refine ⟨untouched i rfl, ?_, kept.recorded, ?_⟩
      · dsimp only
        unfold Metrics.store
        split
        · exact kept.text
        · rw [merged, held, whole]
          exact kept.text.set documented now
      · dsimp only
        split
        · exact kept.pooled
        · refine @storedAs_of size _ (fun pooled : String → String → List Int =>
            ∀ server key, ∀ elapsed ∈ pooled server key, permits elapsed) _ _ _ _ kept.pooled
            (fun server key sample member => ?_) fun _ _ _ member => by cases member
          split at member
          · rcases List.mem_append.mp member with older | newer
            · exact kept.pooled server key sample older
            · exact kept.recorded i server key sample newer
          · exact kept.pooled server key sample member
  | clear i held =>
      refine ⟨update_tables kept.tables i (timingTable_nil jansson), kept.text,
        fun j server key sample member => ?_, kept.pooled⟩
      dsimp only at member
      rw [Function.update_apply] at member
      split at member
      · cases member
      · exact kept.recorded j server key sample member
  | read reset =>
      cases reset with
      | false => exact ⟨kept.tables, kept.text, kept.recorded, kept.pooled⟩
      | true =>
          obtain ⟨servers, held, before⟩ := kept.text
          obtain ⟨after, whole, now⟩ := before.reset documented
          refine ⟨kept.tables, ?_, kept.recorded, ?_⟩
          · dsimp only [handleRequest]
            rw [if_pos rfl, if_pos rfl, storageReset, held, whole]
            exact kept.text.set documented now
          · dsimp only
            rw [if_pos rfl]
            exact @storedAs_of size _ (fun pooled : String → String → List Int =>
              ∀ server key, ∀ elapsed ∈ pooled server key, permits elapsed) _ _ _ _ kept.pooled
              (fun _ _ _ member => by cases member) fun _ _ _ member => by cases member

/-- A run keeps the counts. -/
theorem Kept.run (documented : jansson.Documented) {system : Recorder ι}
    (run : Run jansson size permits system) : Kept jansson permits system := by
  induction run with
  | start => exact kept_start documented
  | step run step ih => exact ih.step documented step

omit [DecidableEq ι] in
/-- In all entries that have counted their samples, the labels are right if and only if no sample
equals a threshold. -/
theorem Kept.histograms_iff {system : Recorder ι} (kept : Kept jansson permits system) :
    system.Histograms jansson ↔ system.Clear := by
  obtain ⟨servers, held, shape, shared⟩ := kept.text
  have place (server key : String) := sharedAt_eq held shape server key
  constructor
  · intro histograms
    refine ⟨fun i server key elapsed member => ?_, fun server key elapsed member => ?_⟩
    · have counted := (kept.tables i).counts server key
      cases found : timingAt (system.processes i).timings server key with
      | none =>
          rw [found, Option.elim_none] at counted
          rw [counted] at member
          cases member
      | some timing =>
          rw [found] at counted
          have labelled := (histograms.processes i server key timing found).2
          exact (LocalEntry.spec counted).2.mp labelled elapsed member
    · have counted := shared server key
      cases found : Object.get (timingsOf servers server) key with
      | none =>
          rw [found, Option.elim_none] at counted
          rw [counted] at member
          cases member
      | some entry =>
          rw [found] at counted
          have labelled := (histograms.shared server key entry ((place server key).trans found)).2
          exact (SharedEntry.spec counted).2.mp labelled elapsed member
  · intro clear
    refine ⟨fun i server key timing found => ?_, fun server key entry found => ?_⟩
    · have counted := (kept.tables i).counts server key
      rw [found] at counted
      obtain ⟨cumulative, labelled⟩ := LocalEntry.spec counted
      exact ⟨cumulative, labelled.mpr (clear.processes i server key)⟩
    · have counted := shared server key
      rw [← place, found] at counted
      obtain ⟨cumulative, labelled⟩ := SharedEntry.spec counted
      exact ⟨cumulative, labelled.mpr (clear.shared server key)⟩

/-- In every run, all entries are cumulative and have right labels if and only if no entry has
recorded a sample that equals a threshold, and so in every run without such samples. -/
theorem histograms_of_run (documented : jansson.Documented) {system : Recorder ι}
    (run : Run jansson size permits system) :
    (system.Histograms jansson ↔ system.Clear) ∧
      ((∀ elapsed, permits elapsed → elapsed ∉ thresholds) → system.Histograms jansson) := by
  have kept := Kept.run documented run
  refine ⟨kept.histograms_iff, fun avoided => kept.histograms_iff.mpr ⟨?_, ?_⟩⟩
  · intro i server key elapsed member
    exact avoided elapsed (kept.recorded i server key elapsed member)
  · intro server key elapsed member
    exact avoided elapsed (kept.pooled server key elapsed member)

end Recorder

/-! ## A sample on a threshold -/

/-- A document with one timing of one sample. -/
def sampled : Json :=
  .obj [("host", .obj [("counters", .obj []), ("timings", .obj [("0", timingsNew
    { buckets := bucketCounts [300], sum := 300, count := 1 })])])]

/-- A sample between two thresholds is counted and flushed. -/
theorem sample_labelled : ∃ system : Recorder Unit,
    system.pooled "host" "0" = [300] ∧ system.Histograms (.ofTable [(sampled, "one")]) := by
  have documented : (Jansson.ofTable [(sampled, "one")]).Documented :=
    Jansson.documented_ofTable (by decide) (by decide)
  refine ⟨_, ?_, (@Recorder.histograms_of_run Unit _ (.ofTable [(sampled, "one")]) 100
    (· = 300) documented _ (.step (.step .start (.timing () (some "host") 0 300 rfl rfl))
      (.store () [] (timingAdd [] (some "host") 0 300) rfl (countersArranged_refl _)
        (arranged_refl (arranged_refl fun _ => rfl) _)))).2 ?_⟩
  · decide +kernel
  · rintro _ rfl
    decide

/-- A sample on the first threshold is missing in the first bucket. -/
theorem threshold_sample_missing : ∃ system : Recorder Unit,
    Recorder.Run (.ofTable []) 100 (fun _ => True) system ∧
      ¬system.Histograms (.ofTable []) := by
  refine ⟨_, .step .start (.timing () (some "host") 0 100 rfl trivial), fun histograms => ?_⟩
  have labelled := (histograms.processes () "host" "0"
    { buckets := [0, 1, 1, 1, 1, 1, 1, 1, 1, 1, 1], sum := 100, count := 1 }
    (by decide +kernel)).2 (("le01", 100), 0) (by decide) (by decide)
  revert labelled
  decide +kernel

end Metrics

end ModAuthOpenidc
