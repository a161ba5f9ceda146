import ModAuthOpenidc.Json

/-!
# The metrics document

Processes collect counters and timings in tables of their own and merge them into one JSON document
in shared memory. A counter without values is an integer there, one with values an object, and
counters with names are nested once more under their type.
-/

namespace ModAuthOpenidc

namespace Json

/-- `json_object_get`. -/
def member (json : Json) (key : String) : Option Json :=
  match json with
  | obj members => Object.get members key
  | _ => none

/-- The object after its member has been changed where it stands. -/
def updateMember (json : Json) (key : String) (value : Json) : Json :=
  match json with
  | obj members => if (Object.get members key).isSome then obj
      (Object.set members key value) else json
  | _ => json

/-- `json_object_set_new`, which refuses keys that are not valid UTF-8. -/
def setNew (utf8 : String → Bool) (json : Json) (key : String) (value : Json) : Json :=
  match json with
  | obj members => if utf8 key then obj (Object.set members key value) else json
  | _ => json

/-- `json_integer_value`. -/
def integerValue : Json → Int
  | int value => value
  | _ => 0

/-- `json_integer_set`. -/
def integerSet (json : Json) (value : Int) : Json :=
  match json with
  | int _ => int value
  | _ => json

end Json

namespace Metrics

/-- What `libjansson` does for the document. -/
structure Jansson where
  /-- `json_loads`. -/
  loads : String → Option Json
  /-- `json_dumps`. -/
  dumps : Json → Option String
  /-- Whether the bytes of a string are valid UTF-8. -/
  utf8 : String → Bool

/-- What its documentation says. -/
structure Jansson.Documented (jansson : Jansson) : Prop where
  /-- What was written is read again. -/
  loads_dumps : ∀ members text, jansson.dumps (.obj members) = some text →
    text ≠ "" ∧ jansson.loads text = some (.obj members)
  /-- An empty object is read as one. -/
  loads_empty : jansson.loads "\x7b\x7d" = some (.obj [])
  /-- ASCII is UTF-8. -/
  ascii : ∀ text, (∀ c ∈ text.toList, c.toNat < 128) → jansson.utf8 text = true

/-- An `apr_hash_t`, in the order of an iteration. -/
abbrev Hash (α : Type) := List (String × α)

/-- The counts of one counter by value. -/
abbrev Values := Hash Int

/-- `OIDC_METRICS_INT_MAX`. -/
def metricsIntMax : Int := 2 ^ 63 - 1

/-- `_is_overflow`. -/
def isOverflow (cur add : Int) : Bool := metricsIntMax - cur < add

/-- `OIDC_METRICS_VALUE_DEFAULT`. -/
def valueDefault : String := "_"

/-- `_metrics_value2key`. -/
def value2key (value : Option String) : String :=
  match value with
  | some value => if value ≠ "" then value else valueDefault
  | none => valueDefault

/-- `_oidc_metrics_type_name2key`. -/
def typeName2key (type : Nat) (name : Option String) : String :=
  match name with
  | none => toString type
  | some name => toString type ++ "." ++ name

section Documents

variable (jansson : Jansson)

/-! ## Counters -/

/-- `oidc_metrics_counter_new`: the default value replaces what was there, and any other value needs
an object. -/
def counterNew (values : Values) : Option Json :=
  values.foldl (fun counter entry =>
    if entry.1 = valueDefault then some (.int entry.2)
    else some ((counter.getD (.obj [])).setNew jansson.utf8 entry.1 (.int entry.2))) none

/-- A count is added where it stands. -/
def addCount (counter : Json) (count : Int) : Json :=
  let v := counter.integerValue
  let v := if isOverflow v count then 0 else v
  counter.integerSet (v + count)

/-- The part of `oidc_metrics_counter_update` for one value. -/
def counterUpdateValue (counter : Json) (entry : String × Int) : Json :=
  if entry.1 = valueDefault then addCount counter entry.2
  else
    match counter.member entry.1 with
    | none => counter.setNew jansson.utf8 entry.1 (.int entry.2)
    | some value => counter.updateMember entry.1 (addCount value entry.2)

/-- `oidc_metrics_counter_update`. -/
def counterUpdate (counter : Json) (values : Values) : Json :=
  values.foldl (counterUpdateValue jansson) counter

/-- `oidc_json_object_set_new` of what `oidc_metrics_counter_new` returns. -/
def setCounterNew (parent : Json) (key : String) (values : Values) : Json :=
  match counterNew jansson values with
  | some counter => parent.setNew jansson.utf8 key counter
  | none => parent

/-- `oidc_metrics_counter_set_or_update`. -/
def counterSetOrUpdate (parent : Json) (key : String) (values : Values) : Json :=
  match parent.member key with
  | some counter => parent.updateMember key (counterUpdate jansson counter values)
  | none => setCounterNew jansson parent key values

/-- A key is cut at its first dot. -/
def splitKey (key : String) : String × Option String :=
  (String.ofList (key.toList.takeWhile (· ≠ '.')),
    match key.toList.dropWhile (· ≠ '.') with
    | [] => none
    | _ :: name => some (String.ofList name))

/-- `oidc_metrics_store_counter_entry`. -/
def storeCounterEntry (counters : Json) (key : String) (values : Values) : Json :=
  match splitKey key with
  | (className, none) => counterSetOrUpdate jansson counters className values
  | (className, some name) =>
      match counters.member className with
      | none => counters.setNew jansson.utf8 className (setCounterNew jansson (.obj []) name values)
      | some names => counters.updateMember className (counterSetOrUpdate jansson names name values)

/-- The counters of one server. -/
def storeServerCounters (counters : Json) (entries : Hash Values) : Json :=
  entries.foldl (fun counters entry => storeCounterEntry jansson counters entry.1 entry.2) counters

/-- `oidc_metrics_server_get`: the document and the entry of the server in it. -/
def serverGet (json : Json) (name : String) : Json × Json :=
  match json.member name with
  | some server => (json, server)
  | none =>
      let server := Json.obj [("counters", .obj []), ("timings", .obj [])]
      (json.setNew jansson.utf8 name server, server)

/-- One group of metrics of one server is changed where it stands. -/
def updateServer (json : Json) (name group : String) (change : Json → Json) : Json :=
  match serverGet jansson json name with
  | (json, server) =>
      match server.member group with
      | none => json
      | some entries => json.updateMember name (server.updateMember group (change entries))

/-- `oidc_metrics_store_counters`. -/
def storeCounters (json : Json) (counters : Hash (Hash Values)) : Json :=
  counters.foldl (fun json entry =>
    updateServer jansson json entry.1 "counters" fun counters =>
      storeServerCounters jansson counters entry.2) json

/-! ## Timings -/

/-- `_oidc_metric_buckets`: names and thresholds in microseconds, zero for the last one. -/
def metricBuckets : List (String × Int) :=
  [("le01", 100), ("le05", 500), ("le1", 1000), ("le5", 5000), ("le10", 10000), ("le50", 50000),
    ("le100", 100000), ("le500", 500000), ("le1000", 1000000), ("le5000", 5000000), ("inf", 0)]

/-- `oidc_metrics_timing_t`. -/
structure Timing where
  buckets : List Int
  sum : Int
  count : Int
  deriving DecidableEq

/-- `_oidc_metrics_timing_clear`. -/
def Timing.clear : Timing where
  buckets := metricBuckets.map fun _ => 0
  sum := 0
  count := 0

/-- `oidc_metrics_timings_new`; the sum is kept in milliseconds. -/
def timingsNew (timing : Timing) : Json :=
  .obj (List.zipWith (fun bucket n => (bucket.1, Json.int n)) metricBuckets timing.buckets ++
    [("sum", .int (timing.sum / 1000)), ("count", .int timing.count)])

/-- A member of a timings entry is increased. -/
def addMember (entry : Json) (name : String) (n : Int) : Json :=
  match entry.member name with
  | some value => entry.updateMember name (value.integerSet (value.integerValue + n))
  | none => entry

/-- `oidc_metrics_timings_update`. -/
def timingsUpdate (entry : Json) (timing : Timing) : Json :=
  let entry := (List.zip metricBuckets timing.buckets).foldl
    (fun entry bucket => addMember entry bucket.1.1 bucket.2) entry
  let entry :=
    match entry.member "sum" with
    | some sum => entry.updateMember "sum" (addCount sum (timing.sum / 1000))
    | none => entry
  addMember entry "count" timing.count

/-- The part of `oidc_metrics_store_timings` for one timing. -/
def storeTimingEntry (timings : Json) (key : String) (timing : Timing) : Json :=
  match timings.member key with
  | some entry => timings.updateMember key (timingsUpdate entry timing)
  | none => timings.setNew jansson.utf8 key (timingsNew timing)

/-- `oidc_metrics_store_timings`. -/
def storeTimings (json : Json) (timings : Hash (Hash Timing)) : Json :=
  timings.foldl (fun json entry =>
    updateServer jansson json entry.1 "timings" fun timings =>
      entry.2.foldl (fun timings entry => storeTimingEntry jansson timings entry.1 entry.2) timings)
          json

/-! ## Resets -/

mutual

/-- `oidc_metrics_reset_integer_tree` on the members of an object. -/
def resetMembers : List (String × Json) → List (String × Json)
  | [] => []
  | (name, value) :: members => (name, resetValue value) :: resetMembers members

/-- `oidc_metrics_reset_integer_tree` on one value. -/
def resetValue : Json → Json
  | .int _ => .int 0
  | .obj members => .obj (resetMembers members)
  | value => value

end

/-- `oidc_metrics_reset_integer_tree`. -/
def resetIntegerTree : Json → Json
  | .obj members => .obj (resetMembers members)
  | json => json

/-- `oidc_metrics_reset_timer`. -/
def resetTimer (entry : Json) : Json :=
  (metricBuckets.map Prod.fst ++ ["sum", "count"]).foldl
    (fun entry name => entry.setNew jansson.utf8 name (.int 0)) entry

/-- The entries of an object are changed one by one. -/
def mapMembers (change : Json → Json) : Json → Json
  | .obj members => .obj (members.map fun member => (member.1, change member.2))
  | json => json

/-- `oidc_metrics_reset_server`. -/
def resetServer (server : Json) : Json :=
  let server :=
    match server.member "counters" with
    | some counters => server.updateMember "counters" (resetIntegerTree counters)
    | none => server
  match server.member "timings" with
  | some timings => server.updateMember "timings" (mapMembers (resetTimer jansson) timings)
  | none => server

/-! ## Shared memory -/

/-- `_oidc_metrics_storage_get`. -/
def storageGet (storage : String) : Option String := if storage = "" then none else some storage

/-- `_oidc_metrics_storage_set` for a segment of a certain size. -/
def storageSet (size : Nat) (storage : String) (value : Option String) : String :=
  match value with
  | some text => if size < text.utf8ByteSize + 1 then storage else text
  | none => ""

/-- `oidc_metrics_json_parse_s`, and an empty object for a text that cannot be parsed. -/
def document (storage : String) : Json :=
  (jansson.loads ((storageGet storage).getD "\x7b\x7d")).getD (.obj [])

/-- The document after the tables of a process have been merged into it. -/
def merged (counters : Hash (Hash Values)) (timings : Hash (Hash Timing)) (storage : String) :
    Json :=
  storeTimings jansson (storeCounters jansson (document jansson storage) counters) timings

/-- `oidc_metrics_store`. -/
def store (size : Nat) (counters : Hash (Hash Values)) (timings : Hash (Hash Timing))
    (storage : String) :
    String :=
  if counters.length = 0 ∧ timings.length = 0 then storage
  else storageSet size storage (jansson.dumps (merged jansson counters timings storage))

/-- `oidc_metrics_storage_reset`. -/
def storageReset (size : Nat) (storage : String) : String :=
  storageSet size storage
      (jansson.dumps (mapMembers (resetServer jansson) (document jansson storage)))

/-- `oidc_metrics_handle_request` for a format that is known: the text for the content handler, and
what is left. -/
def handleRequest (size : Nat) (reset : Bool) (storage : String) : Option String × String :=
  (storageGet storage, if reset then storageReset jansson size storage else storage)

end Documents

/-! ## The tables of a process -/

/-- `apr_hash_get`. -/
def Hash.get {α : Type} (table : Hash α) (key : String) : Option α :=
  (KeyedList.lookup Prod.fst table key).map Prod.snd

/-- `apr_hash_set`. -/
def Hash.set {α : Type} (table : Hash α) (key : String) (value : α) : Hash α :=
  KeyedList.upsert Prod.fst table (key, value)

/-- The name of a server. -/
def serverName (hostname : Option String) : String := hostname.getD "_default_"

/-- The next count of a counter. -/
def nextCount (count : Int) : Int :=
  if count ≤ 0 then 1 else (if isOverflow count 1 then 0 else count) + 1

/-- `oidc_metrics_counter_inc` on the counters of the process. -/
def counterInc (counters : Hash (Hash Values)) (hostname : Option String) (type : Nat)
    (name value : Option String) : Hash (Hash Values) :=
  let server := (counters.get (serverName hostname)).getD []
  let values := (server.get (typeName2key type name)).getD []
  let count := (values.get (value2key value)).getD 0
  counters.set (serverName hostname)
    (server.set (typeName2key type name) (values.set (value2key value) (nextCount count)))

/-- `_oidc_metrics_timing_buckets_inc`. -/
def timingBucketsInc (elapsed : Int) : List (String × Int) → List Int → List Int
  | (_, threshold) :: thresholds, count :: counts =>
      if elapsed < threshold ∨ threshold = 0 then (count :: counts).map (· + 1)
      else count :: timingBucketsInc elapsed thresholds counts
  | _, counts => counts

/-- `oidc_metrics_timing_add` on the timings of the process. -/
def timingAdd (timings : Hash (Hash Timing)) (hostname : Option String) (type : Nat)
    (elapsed : Int) :
    Hash (Hash Timing) :=
  if elapsed < 0 then timings
  else
    let server := (timings.get (serverName hostname)).getD []
    let timing := (server.get (typeName2key type none)).getD .clear
    let timing := if 0 < timing.count ∧ isOverflow timing.sum elapsed then .clear else timing
    timings.set (serverName hostname)
      (server.set (typeName2key type none)
        { buckets := timingBucketsInc elapsed metricBuckets timing.buckets
          sum := timing.sum + elapsed
          count := timing.count + 1 })

end Metrics

end ModAuthOpenidc
