import ModAuthOpenidc.Metrics.Merge
import ModAuthOpenidc.Metrics.Timings

/-!
# Timings in the document

The timings of a server are read off the document. Merging the table of a process changes the
entries that the process has, merging counters changes no timings, and a reset clears all entries.
-/

namespace ModAuthOpenidc

namespace Metrics

variable {jansson : Jansson} {servers : Object}

/-! ## Servers -/

/-- The groups of a server, those of a new one if the document does not have it. -/
def groupsOf (servers : Object) (server : String) : Object :=
  match Object.get servers server with
  | some (.obj groups) => groups
  | _ => [("counters", .obj []), ("timings", .obj [])]

/-- The timings of a server. -/
def timingsOf (servers : Object) (server : String) : Object :=
  match Object.get (groupsOf servers server) "timings" with
  | some (.obj timings) => timings
  | _ => []

/-- Both groups of a server, the timings among them as an object. -/
structure GroupsShape (groups : Object) : Prop where
  counters : (Object.get groups "counters").isSome = true
  timings : ∃ timings, Object.get groups "timings" = some (.obj timings)

/-- All servers have valid names and both groups. -/
def ServersShape (jansson : Jansson) (servers : Object) : Prop :=
  ∀ server entry, Object.get servers server = some entry →
    jansson.utf8 server = true ∧ ∃ groups, entry = .obj groups ∧ GroupsShape groups

theorem groupsOf_of_get {server : String} {groups : Object}
    (found : Object.get servers server = some (.obj groups)) :
    groupsOf servers server = groups := by
  rw [groupsOf, found]

theorem groupsOf_congr {after : Object} {server : String}
    (same : Object.get after server = Object.get servers server) :
    groupsOf after server = groupsOf servers server := by
  rw [groupsOf, same, groupsOf]

theorem timingsOf_congr {after : Object} {server : String}
    (same : groupsOf after server = groupsOf servers server) :
    timingsOf after server = timingsOf servers server := by
  rw [timingsOf, same, timingsOf]

theorem groupsShape_fresh : GroupsShape [("counters", .obj []), ("timings", .obj [])] :=
  ⟨rfl, [], rfl⟩

theorem ServersShape.groups (shape : ServersShape jansson servers) (server : String) :
    GroupsShape (groupsOf servers server) := by
  cases found : Object.get servers server with
  | none =>
      rw [groupsOf, found]
      exact groupsShape_fresh
  | some entry =>
      obtain ⟨-, groups, rfl, kept⟩ := shape server entry found
      rw [groupsOf_of_get found]
      exact kept

theorem ServersShape.timings_eq (shape : ServersShape jansson servers) (server : String) :
    Object.get (groupsOf servers server) "timings" = some (.obj (timingsOf servers server)) := by
  obtain ⟨timings, found⟩ := (shape.groups server).timings
  rw [timingsOf, found]

theorem serversShape_nil (jansson : Jansson) : ServersShape jansson [] := by
  intro server entry found
  cases found

/-- A group of one server is changed, if the name of the server is valid. -/
theorem updateServer_spec (shape : ServersShape jansson servers) (name : String) {group : String}
    {old : Json} (held : Object.get (groupsOf servers name) group = some old)
    (change : Json → Json)
    (kept : GroupsShape (Object.set (groupsOf servers name) group (change old))) :
    ∃ after, updateServer jansson (.obj servers) name group change = .obj after ∧
      ServersShape jansson after ∧
      (∀ other, other ≠ name → groupsOf after other = groupsOf servers other) ∧
      groupsOf after name =
        if jansson.utf8 name then Object.set (groupsOf servers name) group (change old)
        else groupsOf servers name := by
  have stores (before : Object) (valid : jansson.utf8 name = true)
      (others : ∀ other, other ≠ name → Object.get before other = Object.get servers other) :
      let after := Object.set before name
        (.obj (Object.set (groupsOf servers name) group (change old)))
      ServersShape jansson after ∧
        (∀ other, other ≠ name → groupsOf after other = groupsOf servers other) ∧
        groupsOf after name =
          if jansson.utf8 name then Object.set (groupsOf servers name) group (change old)
          else groupsOf servers name := by
    refine ⟨fun server entry found => ?_, fun other different => groupsOf_congr ?_, ?_⟩
    · rw [Object.get_set] at found
      split at found
      · next same =>
          cases found
          exact ⟨same ▸ valid, _, rfl, kept⟩
      · next different => exact shape server entry ((others server different) ▸ found)
    · rw [Object.get_set_of_ne _ _ different, others other different]
    · rw [if_pos valid, groupsOf_of_get (Object.get_set_self _ _ _)]
  cases found : Object.get servers name with
  | some entry =>
      obtain ⟨valid, groups, rfl, -⟩ := shape name entry found
      refine ⟨_, ?_, stores servers valid fun _ _ => rfl⟩
      rw [groupsOf_of_get found] at held ⊢
      simp only [updateServer, serverGet, Json.member_obj, found, held]
      rw [Json.updateMember_obj held, Json.updateMember_obj found]
  | none =>
      have fresh : groupsOf servers name = [("counters", .obj []), ("timings", .obj [])] := by
        rw [groupsOf, found]
      rw [fresh] at held
      by_cases valid : jansson.utf8 name = true
      · refine ⟨_, ?_, stores (Object.set servers name
          (.obj [("counters", .obj []), ("timings", .obj [])])) valid fun other different =>
            Object.get_set_of_ne _ _ different⟩
        rw [fresh]
        simp only [updateServer, serverGet, Json.member_obj, found, held]
        rw [Json.setNew_obj valid, Json.updateMember_obj held,
          Json.updateMember_obj (Object.get_set_self _ _ _)]
      · refine ⟨servers, ?_, shape, fun _ _ => rfl, (if_neg valid).symm⟩
        simp only [updateServer, serverGet, Json.member_obj, found, held, Json.setNew, valid,
          Bool.false_eq_true, if_false, Json.updateMember, Option.isSome_none]

/-! ## Merging -/

/-- An entry of the document after the one of a process has been merged into it. -/
def mergedEntry (timing : Option Timing) (entry : Option Json) : Option Json :=
  match timing with
  | none => entry
  | some timing => some (entry.elim (timingsNew timing) (timingsUpdate · timing))

theorem Hash.get_cons {α : Type} (key : String) (value : α) (table : Hash α) (other : String) :
    Hash.get ((key, value) :: table) other =
      if key = other then some value else table.get other := by
  rw [Hash.get, KeyedList.lookup_cons, Hash.get]
  split <;> rfl

theorem Hash.get_of_notMem {α : Type} {table : Hash α} {key : String}
    (absent : key ∉ table.map Prod.fst) : table.get key = none := by
  rw [Hash.get, KeyedList.lookup_of_notMem Prod.fst absent]
  rfl

theorem Hash.get_of_mem {α : Type} {table : Hash α} (distinct : (table.map Prod.fst).Nodup)
    {key : String} {value : α} (inside : (key, value) ∈ table) : table.get key = some value := by
  have found := KeyedList.lookup_of_mem Prod.fst distinct inside
  rw [Hash.get, found]
  rfl

theorem Hash.get_set {α : Type} (table : Hash α) (key : String) (value : α) (other : String) :
    (table.set key value).get other = if other = key then some value else table.get other := by
  rw [Hash.get, Hash.set, KeyedList.lookup_upsert, Hash.get]
  split <;> rfl

/-- One entry is merged. -/
theorem storeTimingEntry_obj {key : String} (valid : jansson.utf8 key = true) (timing : Timing)
    (timings : Object) :
    ∃ after, storeTimingEntry jansson (.obj timings) key timing = .obj after ∧
      ∀ other, Object.get after other =
        if other = key then mergedEntry (some timing) (Object.get timings key)
        else Object.get timings other := by
  unfold storeTimingEntry
  rw [Json.member_obj]
  cases found : Object.get timings key with
  | none => exact ⟨_, Json.setNew_obj valid _, fun other => Object.get_set _ _ _ _⟩
  | some entry => exact ⟨_, Json.updateMember_obj found _, fun other => Object.get_set _ _ _ _⟩

/-- The entries of one server are merged. -/
theorem foldl_storeTimingEntry {entries : Hash Timing} (distinct : (entries.map Prod.fst).Nodup)
    (valid : ∀ entry ∈ entries, jansson.utf8 entry.1 = true) (timings : Object) :
    ∃ after, entries.foldl (fun timings entry =>
        storeTimingEntry jansson timings entry.1 entry.2) (.obj timings) = .obj after ∧
      ∀ key, Object.get after key = mergedEntry (entries.get key) (Object.get timings key) := by
  induction entries generalizing timings with
  | nil => exact ⟨timings, rfl, fun _ => rfl⟩
  | cons entry entries ih =>
      obtain ⟨own, timing⟩ := entry
      obtain ⟨absent, distinct⟩ := List.nodup_cons.mp distinct
      obtain ⟨first, valid⟩ := List.forall_mem_cons.mp valid
      obtain ⟨middle, stored, changed⟩ := storeTimingEntry_obj first timing timings
      obtain ⟨after, folded, merged⟩ := ih distinct valid middle
      refine ⟨after, by rw [List.foldl_cons, stored, folded], fun key => ?_⟩
      rw [merged, changed, Hash.get_cons]
      by_cases same : key = own
      · subst same
        rw [Hash.get_of_notMem absent, if_pos rfl, if_pos rfl]
        rfl
      · rw [if_neg same, if_neg (Ne.symm same)]

/-- Counters leave the timings alone. -/
theorem storeCounters_timings (shape : ServersShape jansson servers)
    (counters : Hash (Hash Values)) :
    ∃ after, storeCounters jansson (.obj servers) counters = .obj after ∧
      ServersShape jansson after ∧
      ∀ server, timingsOf after server = timingsOf servers server := by
  induction counters generalizing servers with
  | nil => exact ⟨servers, rfl, shape, fun _ => rfl⟩
  | cons entry counters ih =>
      obtain ⟨held, timings, timed⟩ := shape.groups entry.1
      obtain ⟨old, held⟩ := Option.isSome_iff_exists.mp held
      have other (value : Json) : Object.get (Object.set (groupsOf servers entry.1) "counters"
          value) "timings" = some (.obj timings) := by
        rw [Object.get_set_of_ne _ _ (by decide), timed]
      obtain ⟨middle, stored, kept, others, own⟩ := @updateServer_spec jansson servers shape
        entry.1 "counters" old held
        (fun counters => storeServerCounters jansson counters entry.2)
        ⟨by rw [Object.get_set_self]; rfl, timings, other _⟩
      obtain ⟨after, folded, final, same⟩ := ih kept
      refine ⟨after, by rw [storeCounters, List.foldl_cons, stored]; exact folded, final,
        fun server => (same server).trans ?_⟩
      by_cases here : server = entry.1
      · subst here
        have still : Object.get (groupsOf middle entry.1) "timings" = some (.obj timings) := by
          rw [own]
          split
          · exact other _
          · exact timed
        rw [timingsOf, still, timingsOf, timed]
      · exact timingsOf_congr (others server here)

/-- What the table of a process has for a timing. -/
def timingAt (table : Hash (Hash Timing)) (server key : String) : Option Timing :=
  (table.get server).bind (Hash.get · key)

/-- All entries of a process are merged. -/
theorem storeTimings_merged (shape : ServersShape jansson servers) {table : Hash (Hash Timing)}
    (distinct : (table.map Prod.fst).Nodup)
    (entries : ∀ entry ∈ table, (entry.2.map Prod.fst).Nodup ∧
      ∀ inner ∈ entry.2, jansson.utf8 inner.1 = true) :
    ∃ after, storeTimings jansson (.obj servers) table = .obj after ∧
      ServersShape jansson after ∧
      ∀ server key, Object.get (timingsOf after server) key =
        if jansson.utf8 server then
          mergedEntry (timingAt table server key) (Object.get (timingsOf servers server) key)
        else Object.get (timingsOf servers server) key := by
  induction table generalizing servers with
  | nil => exact ⟨servers, rfl, shape, fun _ _ => (ite_self _).symm⟩
  | cons entry table ih =>
      obtain ⟨name, inner⟩ := entry
      obtain ⟨absent, distinct⟩ := List.nodup_cons.mp distinct
      obtain ⟨⟨nodup, valid⟩, entries⟩ := List.forall_mem_cons.mp entries
      have held := shape.timings_eq name
      obtain ⟨changed, folded, merged⟩ :=
        foldl_storeTimingEntry nodup valid (timingsOf servers name)
      obtain ⟨middle, stored, kept, others, own⟩ := @updateServer_spec jansson servers shape
        name "timings" _ held
        (fun timings => inner.foldl (fun timings entry =>
          storeTimingEntry jansson timings entry.1 entry.2) timings)
        ⟨by rw [Object.get_set_of_ne _ _ (by decide)]; exact (shape.groups name).counters,
          changed, by rw [Object.get_set_self, folded]⟩
      obtain ⟨after, last, final, counts⟩ := ih kept distinct entries
      refine ⟨after, by rw [storeTimings, List.foldl_cons, stored]; exact last, final,
        fun server key => ?_⟩
      rw [counts, timingAt, timingAt, Hash.get_cons]
      by_cases here : server = name
      · subst here
        rw [Hash.get_of_notMem absent, if_pos rfl]
        by_cases valid : jansson.utf8 server = true
        · have now : timingsOf middle server = changed := by
            rw [timingsOf, own, if_pos valid, Object.get_set_self, folded]
          rw [if_pos valid, if_pos valid, now, merged]
          rfl
        · have now : timingsOf middle server = timingsOf servers server :=
            timingsOf_congr (own.trans (if_neg valid))
          rw [if_neg valid, if_neg valid, now]
      · rw [if_neg (Ne.symm here), timingsOf_congr (others server here)]

/-! ## Resets -/

/-- A reset clears the entries of a server. -/
theorem resetServer_timings {groups timings : Object} (shape : GroupsShape groups)
    (timed : Object.get groups "timings" = some (.obj timings)) :
    ∃ after, resetServer jansson (.obj groups) = .obj after ∧ GroupsShape after ∧
      Object.get after "timings" = some (mapMembers (resetTimer jansson) (.obj timings)) := by
  obtain ⟨counters, held⟩ := Option.isSome_iff_exists.mp shape.counters
  have first : (Json.obj groups).updateMember "counters" (resetIntegerTree counters) =
      .obj (Object.set groups "counters" (resetIntegerTree counters)) :=
    Json.updateMember_obj held _
  have still : Object.get (Object.set groups "counters" (resetIntegerTree counters)) "timings" =
      some (.obj timings) := by
    rw [Object.get_set_of_ne _ _ (by decide), timed]
  simp only [resetServer, Json.member_obj, held, first, still]
  refine ⟨_, Json.updateMember_obj still _, ⟨?_, _, Object.get_set_self _ _ _⟩,
    Object.get_set_self _ _ _⟩
  rw [Object.get_set_of_ne _ _ (by decide), Object.get_set_self]
  rfl

/-- A reset clears the entries of all servers. -/
theorem resetServers_timings (shape : ServersShape jansson servers) :
    ∃ after, mapMembers (resetServer jansson) (.obj servers) = .obj after ∧
      ServersShape jansson after ∧
      ∀ server key, Object.get (timingsOf after server) key =
        (Object.get (timingsOf servers server) key).map (resetTimer jansson) := by
  have found (server : String) := get_mapMembers (resetServer jansson) servers server
  refine ⟨_, rfl, fun server entry here => ?_, fun server key => ?_⟩
  · rw [found] at here
    obtain ⟨before, present, rfl⟩ := Option.map_eq_some_iff.mp here
    obtain ⟨valid, groups, rfl, kept⟩ := shape server before present
    obtain ⟨timings, timed⟩ := kept.timings
    obtain ⟨after, reset, final, -⟩ := @resetServer_timings jansson groups timings kept timed
    exact ⟨valid, after, reset, final⟩
  · cases present : Object.get servers server with
    | none =>
        have absent := found server
        rw [present] at absent
        rw [timingsOf, groupsOf, absent, timingsOf, groupsOf, present]
        rfl
    | some entry =>
        obtain ⟨-, groups, rfl, kept⟩ := shape server entry present
        obtain ⟨timings, timed⟩ := kept.timings
        obtain ⟨after, reset, -, cleared⟩ := @resetServer_timings jansson groups timings kept timed
        have now := found server
        rw [present, Option.map_some, reset] at now
        rw [timingsOf, groupsOf_of_get now, cleared, timingsOf, groupsOf_of_get present, timed]
        exact get_mapMembers _ _ _

end Metrics

end ModAuthOpenidc
