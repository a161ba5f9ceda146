import ModAuthOpenidc.Metrics.Counters

/-!
# Merging the tables of a process

All counters of a process are added to the document server by server, timings leave the counters
alone, and a reset sets every counter to zero without changing its shape.
-/

namespace ModAuthOpenidc

namespace Metrics

/-! ## The counters of one server -/

/-- The table of a process holds counters that fit their shape for a server. -/
structure ServerPlain (jansson : Jansson) (named : Nat → Bool) (valued : Nat → Option String → Bool)
    (entries : Hash Values) : Prop where
  counter : ∀ entry ∈ entries, ∃ type name, entry.1 = typeName2key type name ∧
      named type = name.isSome ∧
    (∀ text, name = some text → jansson.utf8 text = true) ∧
        Plain jansson (valued type name) entry.2 ∧
    (entry.2.map Prod.fst).Nodup

/-- What the table of a process counts for one server. -/
def serverCount (entries : Hash Values) (type : Nat) (name : Option String) (value : String) :
    Int :=
  (entries.map fun entry =>
      if entry.1 = typeName2key type name then valuesCount entry.2 value else 0).sum

section Server

variable {jansson : Jansson} {named : Nat → Bool} {valued : Nat → Option String → Bool}
  {counters : Object} {entries : Hash Values}

theorem serverCount_cons (entry : String × Values) (entries : Hash Values) (type : Nat)
    (name : Option String) (value : String) :
    serverCount (entry :: entries) type name value =
      (if entry.1 = typeName2key type name then valuesCount entry.2 value else 0) +
        serverCount entries type name value := by
  rw [serverCount, List.map_cons, List.sum_cons, serverCount]

theorem ServerPlain.tail {entry : String × Values}
    (plain : ServerPlain jansson named valued (entry :: entries)) :
    ServerPlain jansson named valued entries :=
  ⟨fun other member => plain.counter other (List.mem_cons_of_mem _ member)⟩

theorem ServerPlain.count_nonneg (plain : ServerPlain jansson named valued entries) (type : Nat)
    (name : Option String) (value : String) : 0 ≤ serverCount entries type name value := by
  refine List.sum_nonneg fun n member => ?_
  obtain ⟨entry, present, rfl⟩ := List.mem_map.mp member
  obtain ⟨_, _, -, -, -, counts, -⟩ := plain.counter entry present
  split
  · exact counts.count_nonneg value
  · exact le_rfl

/-- The counters of a process for one server are merged one after the other. -/
theorem storeServerCounters_merged (documented : jansson.Documented)
    (shape : CountersShape named valued counters) (plain : ServerPlain jansson named valued entries)
    (bounded : ∀ type name value, named type = name.isSome →
      countOr (counterAt counters type name) value + serverCount entries type name value ≤
          metricsIntMax) :
    ∃ after, storeServerCounters jansson (.obj counters) entries = .obj after ∧
      Merged named valued (serverCount entries) counters after := by
  induction entries generalizing counters with
  | nil => exact ⟨counters, rfl, shape, fun _ _ _ _ => (add_zero _).symm⟩
  | cons entry entries ih =>
      obtain ⟨type, name, key, naming, utf8, counts, distinct⟩ :=
        plain.counter entry List.mem_cons_self
      have added (type' : Nat) (name' : Option String) (value : String) :
          addedBy type name entry.2 type' name' value =
            if entry.1 = typeName2key type' name' then valuesCount entry.2 value else 0 := by
        rw [addedBy, key]
        by_cases same : type' = type ∧ name' = name
        · rw [if_pos same, if_pos (by rw [same.1, same.2])]
        · rw [if_neg same, if_neg fun equal => same ⟨(typeName2key_inj equal).1.symm,
            (typeName2key_inj equal).2.symm⟩]
      obtain ⟨between, first, merged⟩ :=
        storeCounterEntry_merged documented shape naming utf8 counts
        distinct fun value => by
          have total := bounded type name value naming
          rw [serverCount_cons, if_pos key] at total
          have rest := plain.tail.count_nonneg type name value
          omega
      obtain ⟨after, last, final⟩ := ih merged.shape plain.tail fun type' name' value isNamed => by
        rw [merged.counts type' name' value isNamed, added, add_assoc, ← serverCount_cons]
        exact bounded type' name' value isNamed
      refine ⟨after, ?_, final.shape, fun type' name' value isNamed => ?_⟩
      · rw [storeServerCounters, List.foldl_cons, key, first]
        exact last
      · rw [final.counts type' name' value isNamed, merged.counts type' name' value isNamed, added,
          add_assoc, ← serverCount_cons]

end Server

/-! ## The document -/

/-- A counter of a server, with one of its values. -/
structure Key where
  server : String
  type : Nat
  name : Option String
  value : String
  deriving DecidableEq

/-- The counters of a server in the document. -/
def countersOf (servers : Object) (server : String) : Object :=
  match (Object.get servers server).bind (Json.member · "counters") with
  | some (.obj counters) => counters
  | _ => []

/-- What the document says of a counter. -/
def documentCount (servers : Object) (key : Key) : Int :=
  countOr (counterAt (countersOf servers key.server) key.type key.name) key.value

/-- What the table of a process says of a counter. -/
def localCount (table : Hash (Hash Values)) (key : Key) : Int :=
  (table.map fun entry =>
    if entry.1 = key.server then serverCount entry.2 key.type key.name key.value else 0).sum

/-- All counters in the document have their shape. -/
structure DocumentShape (named : Nat → Bool) (valued : String → Nat → Option String → Bool)
    (servers : Object) : Prop where
  server : ∀ server entry, Object.get servers server = some entry →
    ∃ members counters, entry = .obj members ∧
        Object.get members "counters" = some (.obj counters) ∧
      CountersShape named (valued server) counters

/-- The table of a process holds counters that fit their shape. -/
structure LocalPlain (jansson : Jansson) (named : Nat → Bool)
    (valued : String → Nat → Option String → Bool) (table : Hash (Hash Values)) : Prop where
  utf8 : ∀ entry ∈ table, jansson.utf8 entry.1 = true
  server : ∀ entry ∈ table, ServerPlain jansson named (valued entry.1) entry.2

section Document

variable {jansson : Jansson} {named : Nat → Bool} {valued : String → Nat → Option String → Bool}
  {servers : Object}

theorem countersOf_of_get {server : String} {members counters : Object}
    (found : Object.get servers server = some (.obj members))
    (present : Object.get members "counters" = some (.obj counters)) :
    countersOf servers server = counters := by
  rw [countersOf, found, Option.bind_some, Json.member_obj, present]

theorem countersOf_of_none {server : String} (absent : Object.get servers server = none) :
    countersOf servers server = [] := by
  rw [countersOf, absent]
  rfl

theorem countersShape_nil (named : Nat → Bool) (valued : Nat → Option String → Bool) :
    CountersShape named valued [] := by
  refine ⟨fun type entry _ found => ?_, fun type name counter _ found => ?_⟩
  · cases found
  · cases name <;> cases found

theorem DocumentShape.counters (shape : DocumentShape named valued servers) (server : String) :
    CountersShape named (valued server) (countersOf servers server) := by
  cases found : Object.get servers server with
  | none =>
      rw [countersOf_of_none found]
      exact countersShape_nil _ _
  | some entry =>
      obtain ⟨members, counters, rfl, present, kept⟩ := shape.server server entry found
      rw [countersOf_of_get found present]
      exact kept

/-- The entry of a new server. -/
theorem get_newServer :
    Object.get [("counters", Json.obj []), ("timings", Json.obj [])] "counters" = some (.obj []) ∧
      Object.get [("counters", Json.obj []), ("timings", Json.obj [])] "timings" = some
          (.obj []) := by
  decide

/-- A change of the counters of one server. -/
theorem updateServer_counters {name : String} {change : Json → Json} {after : Object}
    (shape : DocumentShape named valued servers) (valid : jansson.utf8 name = true)
    (changed : change (.obj (countersOf servers name)) = .obj after)
    (kept : CountersShape named (valued name) after) :
    ∃ servers', updateServer jansson (.obj servers) name "counters" change = .obj servers' ∧
      DocumentShape named valued servers' ∧ countersOf servers' name = after ∧
      ∀ other, other ≠ name → countersOf servers' other = countersOf servers other := by
  have stores (before members : Object)
      (others : ∀ other, other ≠ name → Object.get before other = Object.get servers other)
      (present : Object.get members "counters" = some (.obj after)) :
      DocumentShape named valued (Object.set before name (.obj members)) ∧
        countersOf (Object.set before name (.obj members)) name = after ∧
        ∀ other, other ≠ name →
          countersOf (Object.set before name (.obj members)) other = countersOf servers other := by
    refine ⟨⟨fun server entry found => ?_⟩, ?_, fun other different => ?_⟩
    · rw [Object.get_set] at found
      split at found
      · next same =>
          cases found
          subst same
          exact ⟨members, after, rfl, present, kept⟩
      · next different =>
          rw [others server different] at found
          exact shape.server server entry found
    · exact countersOf_of_get (Object.get_set_self _ _ _) present
    · rw [countersOf, Object.get_set_of_ne _ _ different, others other different, countersOf]
  cases found : Object.get servers name with
  | some entry =>
      obtain ⟨members, counters, rfl, present, -⟩ := shape.server name entry found
      rw [countersOf_of_get found present] at changed
      refine ⟨_, ?_, stores servers (Object.set members "counters" (.obj after)) (fun _ _ => rfl)
        (Object.get_set_self _ _ _)⟩
      simp only [updateServer, serverGet, Json.member_obj, found, present, changed]
      rw [Json.updateMember_obj present, Json.updateMember_obj found]
  | none =>
      rw [countersOf_of_none found] at changed
      refine ⟨_, ?_, stores
        (Object.set servers name (.obj [("counters", .obj []), ("timings", .obj [])]))
        (Object.set [("counters", .obj []), ("timings", .obj [])] "counters" (.obj after))
        (fun other different => Object.get_set_of_ne _ _ different) (Object.get_set_self _ _ _)⟩
      simp only [updateServer, serverGet, Json.member_obj, found, get_newServer.1, changed]
      rw [Json.setNew_obj valid, Json.updateMember_obj get_newServer.1,
        Json.updateMember_obj (Object.get_set_self _ _ _)]

/-- A change of the timings of one server. -/
theorem updateServer_timings (name : String) (change : Json → Json)
    (shape : DocumentShape named valued servers) :
    ∃ servers', updateServer jansson (.obj servers) name "timings" change = .obj servers' ∧
      DocumentShape named valued servers' ∧
      ∀ other, countersOf servers' other = countersOf servers other := by
  have stores (before : Object) {members counters : Object} (timings : Json)
      (others : ∀ other, other ≠ name → Object.get before other = Object.get servers other)
      (present : Object.get members "counters" = some (.obj counters))
      (same : countersOf servers name = counters)
      (kept : CountersShape named (valued name) counters) :
      DocumentShape named valued
          (Object.set before name (.obj (Object.set members "timings" timings))) ∧
        ∀ other, countersOf (Object.set before name (.obj (Object.set members "timings" timings)))
            other =
          countersOf servers other := by
    have still : Object.get (Object.set members "timings" timings) "counters" = some
      (.obj counters) := by
      rw [Object.get_set_of_ne _ _ (by decide), present]
    refine ⟨⟨fun server entry found => ?_⟩, fun other => ?_⟩
    · rw [Object.get_set] at found
      split at found
      · next equal =>
          cases found
          subst equal
          exact ⟨_, counters, rfl, still, kept⟩
      · next different =>
          rw [others server different] at found
          exact shape.server server entry found
    · by_cases equal : other = name
      · subst equal
        rw [countersOf_of_get (Object.get_set_self _ _ _) still, same]
      · rw [countersOf, Object.get_set_of_ne _ _ equal, others other equal, countersOf]
  cases found : Object.get servers name with
  | some entry =>
      obtain ⟨members, counters, rfl, present, kept⟩ := shape.server name entry found
      simp only [updateServer, serverGet, Json.member_obj, found]
      cases timed : Object.get members "timings" with
      | none => exact ⟨servers, rfl, shape, fun _ => rfl⟩
      | some timings =>
          refine ⟨_, ?_, stores servers (change timings) (fun _ _ => rfl) present
            (countersOf_of_get found present) kept⟩
          dsimp only
          rw [Json.updateMember_obj timed, Json.updateMember_obj found]
  | none =>
      simp only [updateServer, serverGet, Json.member_obj, found, get_newServer.2]
      cases valid : jansson.utf8 name with
      | false =>
          refine ⟨servers, ?_, shape, fun _ => rfl⟩
          simp only [Json.setNew, valid, Bool.false_eq_true, if_false, Json.updateMember, found,
            Option.isSome_none]
      | true =>
          refine ⟨_, ?_, stores
            (Object.set servers name (.obj [("counters", .obj []), ("timings", .obj [])]))
                (change (.obj []))
            (fun other different => Object.get_set_of_ne _ _ different) get_newServer.1
            (countersOf_of_none found) (countersShape_nil _ _)⟩
          rw [Json.setNew_obj valid, Json.updateMember_obj get_newServer.2,
            Json.updateMember_obj (Object.get_set_self _ _ _)]

/-! ## A whole table -/

theorem localCount_cons (entry : String × Hash Values) (table : Hash (Hash Values)) (key : Key) :
    localCount (entry :: table) key =
      (if entry.1 = key.server then serverCount entry.2 key.type key.name key.value else 0) +
        localCount table key := by
  rw [localCount, List.map_cons, List.sum_cons, localCount]

theorem LocalPlain.tail {entry : String × Hash Values} {table : Hash (Hash Values)}
    (plain : LocalPlain jansson named valued (entry :: table)) :
    LocalPlain jansson named valued table :=
  ⟨fun other member => plain.utf8 other (List.mem_cons_of_mem _ member),
    fun other member => plain.server other (List.mem_cons_of_mem _ member)⟩

theorem LocalPlain.count_nonneg {table : Hash (Hash Values)}
    (plain : LocalPlain jansson named valued table) (key : Key) : 0 ≤ localCount table key := by
  refine List.sum_nonneg fun n member => ?_
  obtain ⟨entry, present, rfl⟩ := List.mem_map.mp member
  split
  · exact (plain.server entry present).count_nonneg _ _ _
  · exact le_rfl

/-- All counters of a process are merged. -/
theorem storeCounters_merged (documented : jansson.Documented)
    (shape : DocumentShape named valued servers) {table : Hash (Hash Values)}
    (plain : LocalPlain jansson named valued table)
    (bounded : ∀ key : Key, named key.type = key.name.isSome →
      documentCount servers key + localCount table key ≤ metricsIntMax) :
    ∃ servers', storeCounters jansson (.obj servers) table = .obj servers' ∧
      DocumentShape named valued servers' ∧
      ∀ key : Key, named key.type = key.name.isSome →
        documentCount servers' key = documentCount servers key + localCount table key := by
  induction table generalizing servers with
  | nil => exact ⟨servers, rfl, shape, fun _ _ => (add_zero _).symm⟩
  | cons entry table ih =>
      obtain ⟨after, stored, merged⟩ :=
        storeServerCounters_merged documented (shape.counters entry.1)
        (plain.server entry List.mem_cons_self) fun type name value isNamed => by
          have total := bounded ⟨entry.1, type, name, value⟩ isNamed
          rw [localCount_cons, if_pos rfl] at total
          have rest := plain.tail.count_nonneg ⟨entry.1, type, name, value⟩
          rw [documentCount] at total
          dsimp only at total
          omega
      obtain ⟨between, first, kept, own, others⟩ :=
        @updateServer_counters jansson named valued servers
        entry.1 (fun counters => storeServerCounters jansson counters entry.2) after shape
        (plain.utf8 entry List.mem_cons_self) stored merged.shape
      have added (key : Key) (isNamed : named key.type = key.name.isSome) :
          documentCount between key = documentCount servers key +
            if entry.1 = key.server then serverCount entry.2 key.type key.name key.value
                else 0 := by
        rw [documentCount, documentCount]
        by_cases same : entry.1 = key.server
        · rw [← same, own, if_pos rfl]
          exact merged.counts key.type key.name key.value isNamed
        · rw [others key.server (Ne.symm same), if_neg same, add_zero]
      obtain ⟨servers', last, final, counts⟩ := ih kept plain.tail fun key isNamed => by
        rw [added key isNamed, add_assoc, ← localCount_cons]
        exact bounded key isNamed
      refine ⟨servers', ?_, final, fun key isNamed => ?_⟩
      · rw [storeCounters, List.foldl_cons, first]
        exact last
      · rw [counts key isNamed, added key isNamed, add_assoc, ← localCount_cons]

/-- Timings leave all counters alone. -/
theorem storeTimings_counters (shape : DocumentShape named valued servers)
    (timings : Hash (Hash Timing)) :
    ∃ servers', storeTimings jansson (.obj servers) timings = .obj servers' ∧
      DocumentShape named valued servers' ∧
      ∀ other, countersOf servers' other = countersOf servers other := by
  induction timings generalizing servers with
  | nil => exact ⟨servers, rfl, shape, fun _ => rfl⟩
  | cons entry timings ih =>
      obtain ⟨between, first, kept, same⟩ := @updateServer_timings jansson named valued servers
        entry.1 (fun timings => entry.2.foldl
          (fun timings entry => storeTimingEntry jansson timings entry.1 entry.2) timings) shape
      obtain ⟨servers', last, final, still⟩ := ih kept
      refine ⟨servers', ?_, final, fun other => (still other).trans (same other)⟩
      rw [storeTimings, List.foldl_cons, first]
      exact last

end Document

/-! ## Resets -/

theorem get_resetMembers (members : Object) (key : String) :
    Object.get (resetMembers members) key = (Object.get members key).map resetValue := by
  induction members with
  | nil => rfl
  | cons member members ih =>
      obtain ⟨name, value⟩ := member
      rw [Object.get, Object.get, resetMembers, KeyedList.lookup_cons, KeyedList.lookup_cons]
      split
      · rfl
      · exact ih

theorem get_mapMembers (change : Json → Json) (members : Object) (key : String) :
    Object.get (members.map fun member => (member.1, change member.2)) key =
      (Object.get members key).map change := by
  induction members with
  | nil => rfl
  | cons member members ih =>
      rw [List.map_cons, Object.get, Object.get, KeyedList.lookup_cons, KeyedList.lookup_cons]
      split
      · rfl
      · exact ih

theorem member_resetValue (entry : Json) (key : String) :
    (resetValue entry).member key = (entry.member key).map resetValue := by
  cases entry with
  | obj members => exact get_resetMembers members key
  | _ => rfl

section Reset

variable {jansson : Jansson} {named : Nat → Bool}

/-- A counter of its shape is reset to zero and keeps its shape. -/
theorem CounterShape.reset {valued : Bool} {counter : Json} (shape : CounterShape valued counter) :
    CounterShape valued (resetValue counter) ∧
        ∀ value, valueCount (resetValue counter) value = 0 := by
  cases valued with
  | false =>
      obtain ⟨n, rfl⟩ := shape
      refine ⟨⟨0, rfl⟩, fun value => ?_⟩
      rw [valueCount]
      split <;> rfl
  | true =>
      obtain ⟨members, rfl, integers⟩ := shape
      refine ⟨⟨resetMembers members, rfl, fun value entry found => ?_⟩, fun value => ?_⟩
      · rw [get_resetMembers] at found
        obtain ⟨before, stored, rfl⟩ := Option.map_eq_some_iff.mp found
        obtain ⟨n, rfl⟩ := integers value before stored
        exact ⟨0, rfl⟩
      · by_cases default : value = valueDefault
        · subst default
          rfl
        · rw [resetValue, valueCount_obj _ _ default, get_resetMembers]
          cases stored : Object.get members value with
          | none => rfl
          | some entry =>
              obtain ⟨n, rfl⟩ := integers value entry stored
              rfl

theorem counterAt_resetMembers (counters : Object) (type : Nat) (name : Option String) :
    counterAt (resetMembers counters) type name =
        (counterAt counters type name).map resetValue := by
  cases name with
  | none => exact get_resetMembers counters _
  | some name =>
      rw [counterAt, counterAt, get_resetMembers]
      cases Object.get counters (toString type) with
      | none => rfl
      | some entry => exact member_resetValue entry name

/-- All counters of a server are reset to zero and keep their shapes. -/
theorem CountersShape.reset {valued : Nat → Option String → Bool} {counters : Object}
    (shape : CountersShape named valued counters) :
    CountersShape named valued (resetMembers counters) ∧
      ∀ type name value, named type = name.isSome →
        countOr (counterAt (resetMembers counters) type name) value = 0 := by
  refine ⟨⟨fun type entry isNamed found => ?_, fun type name counter isNamed found => ?_⟩,
    fun type name value isNamed => ?_⟩
  · rw [get_resetMembers] at found
    obtain ⟨before, stored, rfl⟩ := Option.map_eq_some_iff.mp found
    obtain ⟨names, rfl⟩ := shape.nested type before isNamed stored
    exact ⟨_, rfl⟩
  · rw [counterAt_resetMembers] at found
    obtain ⟨before, stored, rfl⟩ := Option.map_eq_some_iff.mp found
    exact (shape.shape type name before isNamed stored).reset.1
  · rw [counterAt_resetMembers]
    cases stored : counterAt counters type name with
    | none => rfl
    | some counter => exact (shape.shape type name counter isNamed stored).reset.2 value

/-- The document after a reset counts nothing and keeps its shapes. -/
theorem DocumentShape.reset {valued : String → Nat → Option String → Bool} {servers : Object}
    (shape : DocumentShape named valued servers) :
    ∃ servers', mapMembers (resetServer jansson) (.obj servers) = .obj servers' ∧
      DocumentShape named valued servers' ∧
      ∀ key : Key, named key.type = key.name.isSome → documentCount servers' key = 0 := by
  have resets {members counters : Object}
      (present : Object.get members "counters" = some (.obj counters)) :
      ∃ members', resetServer jansson (.obj members) = .obj members' ∧
        Object.get members' "counters" = some (.obj (resetMembers counters)) := by
    have first : (Json.obj members).updateMember "counters" (resetIntegerTree (.obj counters)) =
        .obj (Object.set members "counters" (.obj (resetMembers counters))) :=
      Json.updateMember_obj present _
    simp only [resetServer, Json.member_obj, present, first]
    cases timed : Object.get
      (Object.set members "counters" (.obj (resetMembers counters))) "timings" with
    | none => exact ⟨_, rfl, Object.get_set_self _ _ _⟩
    | some timings =>
        refine ⟨_, Json.updateMember_obj timed _, ?_⟩
        rw [Object.get_set_of_ne _ _ (by decide), Object.get_set_self]
  refine ⟨_, rfl, ⟨fun server entry found => ?_⟩, fun key isNamed => ?_⟩
  · rw [get_mapMembers] at found
    obtain ⟨before, stored, rfl⟩ := Option.map_eq_some_iff.mp found
    obtain ⟨members, counters, rfl, present, kept⟩ := shape.server server before stored
    obtain ⟨members', same, zeroed⟩ := resets present
    exact ⟨members', _, same, zeroed, kept.reset.1⟩
  · rw [documentCount]
    cases found : Object.get servers key.server with
    | none =>
        rw [countersOf_of_none (by rw [get_mapMembers, found]; rfl)]
        cases key.name <;> rfl
    | some before =>
        obtain ⟨members, counters, rfl, present, kept⟩ := shape.server key.server before found
        obtain ⟨members', same, zeroed⟩ := resets present
        rw [countersOf_of_get (by rw [get_mapMembers, found, Option.map_some, same]) zeroed]
        exact kept.reset.2 key.type key.name key.value isNamed

end Reset

end Metrics

end ModAuthOpenidc
