import ModAuthOpenidc.Metrics.Produced

/-!
# Stored numbers and their samples

A document stores a number for every counter value and every timing member. Sorting the entries of
the servers by type keeps every one of them, so each stored number is one row of the output. The row
is the sample of the number, except that the name of a counter without values stands in the place of
a value.
-/

namespace ModAuthOpenidc

namespace Metrics

open Json (ObjectOf)
open Exposition (Row Family)

/-! ## Stored numbers -/

/-- What a number of a document is about. -/
inductive Entry
  /-- A counter of a type, with a name if the type has names, and with a value or without one. -/
  | counter (server : String) (type : Nat) (name value : Option String)
  /-- A member of a timing. -/
  | timing (server : String) (type : Nat) (member : String)
  deriving DecidableEq

/-- Go down in a document. -/
def memberAt (json : Json) : List String → Option Json
  | [] => some json
  | key :: path => (json.member key).bind (memberAt · path)

/-- Where a number stands. -/
def Entry.path : Entry → List String
  | counter server type name value =>
      [server, "counters", toString type] ++ name.toList ++ value.toList
  | timing server type member => [server, "timings", toString type, member]

/-- Counters have names if their type has. -/
def Entry.Fits : Entry → Prop
  | counter _ type name _ => counterNamed type = name.isSome
  | timing _ _ _ => True

/-- A number is stored. -/
def HasNumber (json : Json) (entry : Entry) (n : Int) : Prop :=
  entry.Fits ∧ memberAt json entry.path = some (.int n)

/-- The row for a number. -/
def Entry.row : Entry → Int → Row
  | counter server type name value, n =>
      counterRow (counterLabel type) server
        (name.toList.map (("name", ·)) ++ value.toList.map (("value", ·))) n
  | timing server type member, n => timingRow (timingLabel type) server member n

/-- The row that is printed for a number. The name of a counter without values is printed as a
value. -/
def Entry.printed : Entry → Int → Row
  | counter server type (some name) none, n =>
      counterRow (counterLabel type) server [("value", name)] n
  | entry, n => entry.row n

/-- The texts of an entry that become label values. -/
def Entry.texts : Entry → List String
  | counter server _ name value => server :: (name.toList ++ value.toList)
  | timing server _ _ => [server]

/-- A counter with a name has a value as well. -/
def Entry.Valued : Entry → Prop
  | counter _ _ name value => name = none ∨ value ≠ none
  | timing _ _ _ => True

/-! ## Entries that are printed -/

/-- The entries of one counter. -/
def counterEntries (server : String) (type : Nat) : Json → List (Entry × Int)
  | .int n => [(.counter server type none none, n)]
  | counter =>
      counter.iterated.flatMap fun member =>
        match member.2 with
        | .int n =>
            [(if counterNamed type then .counter server type (some member.1) none
              else .counter server type none (some member.1), n)]
        | names =>
            names.iterated.map fun value =>
              (.counter server type (some member.1) (some value.1), value.2.integerValue)

/-- The entries of one timing. -/
def timingEntries (server : String) (type : Nat) (timing : Json) : List (Entry × Int) :=
  timing.iterated.map fun member => (.timing server type member.1, member.2.integerValue)

/-- The entries of a type. -/
def typeEntries (entries : String → Nat → Json → List (Entry × Int)) (type : String × Json) :
    List (Entry × Int) :=
  type.2.iterated.flatMap fun server => entries server.1 (key2type type.1) server.2

/-- The entries in the order of the output. -/
def printedEntries (utf8 : String → Bool) (iteration : Iteration) (json : Json) :
    List (Entry × Int) :=
  (iteration.order (byType utf8 json "counters")).flatMap (typeEntries counterEntries) ++
    (iteration.order (byType utf8 json "timings")).flatMap (typeEntries timingEntries)

theorem counterRows_eq (server : String) (type : Nat) (counter : Json) :
    counterRows (counterLabel type) server counter =
      (counterEntries server type counter).map fun entry => entry.1.printed entry.2 := by
  have members (counter : Json) : (counter.iterated.flatMap fun member =>
        match member.2 with
        | .int n => [counterRow (counterLabel type) server [("value", member.1)] n]
        | names =>
            names.iterated.map fun value =>
              counterRow (counterLabel type) server [("name", member.1), ("value", value.1)]
                value.2.integerValue) =
      (counter.iterated.flatMap fun member =>
        match member.2 with
        | .int n =>
            [(if counterNamed type then Entry.counter server type (some member.1) none
              else .counter server type none (some member.1), n)]
        | names =>
            names.iterated.map fun value =>
              (Entry.counter server type (some member.1) (some value.1),
                value.2.integerValue)).map fun entry => entry.1.printed entry.2 := by
    rw [List.map_flatMap]
    refine List.flatMap_congr fun member _ => ?_
    obtain ⟨key, value⟩ := member
    cases value with
    | int n =>
        dsimp only
        cases counterNamed type <;> rfl
    | _ =>
        dsimp only
        rw [List.map_map]
        rfl
  cases counter with
  | int n => rfl
  | _ => exact members _

theorem timingRows_eq (server : String) (type : Nat) (timing : Json) :
    timingRows (timingLabel type) server timing =
      (timingEntries server type timing).map fun entry => entry.1.printed entry.2 := by
  rw [timingRows, timingEntries, List.map_map]
  rfl

/-- The rows of all families are those of the entries. -/
theorem rows_prometheusFamilies (utf8 : String → Bool) (iteration : Iteration) (json : Json) :
    (prometheusFamilies utf8 iteration json).flatMap Family.rows =
      (printedEntries utf8 iteration json).map fun entry => entry.1.printed entry.2 := by
  rw [prometheusFamilies, printedEntries, List.flatMap_append, List.map_append, List.flatMap_map,
    List.flatMap_map, List.map_flatMap, List.map_flatMap]
  congr 1
  · refine List.flatMap_congr fun type _ => ?_
    rw [typeEntries, List.map_flatMap]
    exact List.flatMap_congr fun server _ => counterRows_eq server.1 _ server.2
  · refine List.flatMap_congr fun type _ => ?_
    rw [typeEntries, List.map_flatMap]
    exact List.flatMap_congr fun server _ => timingRows_eq server.1 _ server.2

/-- Printing under another label changes no value. -/
theorem Entry.printed_values (entry : Entry) (n : Int) :
    (entry.printed n).labels.map Prod.snd = (entry.row n).labels.map Prod.snd := by
  cases entry with
  | counter server type name value => cases name <;> cases value <;> rfl
  | timing server type member => rfl

theorem Entry.Valued.printed_eq {entry : Entry} (valued : entry.Valued) (n : Int) :
    entry.printed n = entry.row n := by
  cases entry with
  | counter server type name value =>
      rcases valued with rfl | some
      · rfl
      · obtain ⟨value, rfl⟩ := Option.ne_none_iff_exists'.mp some
        cases name <;> rfl
  | timing server type member => rfl

/-! ## Sorting by type loses nothing -/

section Types

variable {utf8 : String → Bool} {hash : Hash Json} {group : String} {known : String → Prop}

/-- What a table by type has for a type and a server. -/
def foundIn (hash : Hash Json) (key server : String) : Option Json :=
  (hash.get key).bind (·.member server)

/-- A table by type has every type once, with an object for it. -/
structure ByType (known : String → Prop) (hash : Hash Json) : Prop where
  distinct : (hash.map Prod.fst).Nodup
  objects : ∀ type ∈ hash, known type.1 ∧ ObjectOf (fun _ _ => True) type.2

theorem byType_nil : ByType known [] :=
  ⟨List.nodup_nil, fun _ member => absurd member List.not_mem_nil⟩

/-- What the table has for a type, or an empty object. -/
theorem ByType.getD (sorted : ByType known hash) (key : String) :
    ∃ members, (hash.get key).getD (.obj []) = .obj members ∧ Object.Distinct members ∧
      ∀ server, Object.get members server = foundIn hash key server := by
  simp only [foundIn, Hash.get]
  cases listed : KeyedList.lookup Prod.fst hash key with
  | none => exact ⟨[], rfl, List.nodup_nil, fun _ => rfl⟩
  | some type =>
      obtain ⟨-, members, same, distinct, -⟩ :=
        sorted.objects type (KeyedList.mem_of_lookup Prod.fst listed)
      refine ⟨members, same, distinct, fun server => ?_⟩
      rw [Option.map_some, Option.bind_some, same]
      rfl

/-- One entry of a server is put under its type. -/
theorem ByType.set (sorted : ByType known hash) {server : String} (valid : utf8 server = true)
    (entry : String × Json) (own : known entry.1) :
    ByType known (hash.set entry.1
        (((hash.get entry.1).getD (.obj [])).setNew utf8 server entry.2)) ∧
      ∀ key other, foundIn (hash.set entry.1
          (((hash.get entry.1).getD (.obj [])).setNew utf8 server entry.2)) key other =
        if key = entry.1 ∧ other = server then some entry.2 else foundIn hash key other := by
  obtain ⟨members, same, distinct, found⟩ := sorted.getD entry.1
  rw [same, Json.setNew_obj valid]
  refine ⟨⟨nodup_set sorted.distinct _ _, fun type member => ?_⟩, fun key other => ?_⟩
  · rcases KeyedList.mem_of_mem_upsert Prod.fst member with rfl | old
    · exact ⟨own, Json.objectOf_set distinct (fun _ _ => trivial) trivial⟩
    · exact sorted.objects type old
  · rw [foundIn, get_set]
    by_cases own : key = entry.1
    · subst own
      rw [if_pos rfl, Option.bind_some, Json.member_obj, Object.get_set, found]
      simp only [true_and]
    · rw [if_neg own, if_neg fun both => own both.1]
      rfl

/-- All entries of a server are put under their types. -/
theorem ByType.convert {server : String} (valid : utf8 server = true) {entries : Object}
    (distinct : Object.Distinct entries) (each : ∀ entry ∈ entries, known entry.1)
    (sorted : ByType known hash) :
    ByType known (prometheusConvert utf8 hash server (some (.obj entries))) ∧
      ∀ key other, foundIn (prometheusConvert utf8 hash server (some (.obj entries))) key other =
        if other = server then (Object.get entries key).or (foundIn hash key other)
        else foundIn hash key other := by
  rw [prometheusConvert, Option.map_some, Option.getD_some, Json.iterated]
  induction entries generalizing hash with
  | nil => exact ⟨sorted, fun key other => (ite_self _).symm⟩
  | cons entry entries ih =>
      obtain ⟨absent, distinct⟩ := List.nodup_cons.mp distinct
      obtain ⟨first, found⟩ := sorted.set valid entry (each entry List.mem_cons_self)
      obtain ⟨later, others⟩ :=
        ih distinct (fun entry member => each entry (List.mem_cons_of_mem _ member)) first
      refine ⟨later, fun key other => ?_⟩
      rw [List.foldl_cons, others, found, Object.get_cons]
      by_cases own : other = server
      · rw [if_pos own, if_pos own]
        by_cases same : entry.1 = key
        · subst same
          rw [Object.get_of_notMem absent, if_pos rfl, if_pos ⟨rfl, own⟩]
          rfl
        · rw [if_neg same, if_neg fun both => same both.1.symm]
      · rw [if_neg own, if_neg own, if_neg fun both => own both.2]

/-- The entries of one group of a server. -/
def HasGroup (known : String → Prop) (group : String) (groups : Json) : Prop :=
  ∃ entries, groups.member group = some (.obj entries) ∧ Object.Distinct entries ∧
    ∀ entry ∈ entries, known entry.1

/-- The entries of all servers are put under their types. -/
theorem byType_found {servers : Object} (distinct : Object.Distinct servers)
    (each : ∀ server ∈ servers, utf8 server.1 = true ∧ HasGroup known group server.2) :
    ByType known (byType utf8 (.obj servers) group) ∧
      ∀ key server, foundIn (byType utf8 (.obj servers) group) key server =
        memberAt (.obj servers) [server, group, key] := by
  have every : ∀ hash, ByType known hash →
      ByType known (servers.foldl (fun hash server =>
        prometheusConvert utf8 hash server.1 (server.2.member group)) hash) ∧
      ∀ key server, foundIn (servers.foldl (fun hash server =>
        prometheusConvert utf8 hash server.1 (server.2.member group)) hash) key server =
        (memberAt (.obj servers) [server, group, key]).or (foundIn hash key server) := by
    induction servers with
    | nil => exact fun hash sorted => ⟨sorted, fun key server => rfl⟩
    | cons first servers ih =>
        intro hash sorted
        obtain ⟨absent, distinct⟩ := List.nodup_cons.mp distinct
        obtain ⟨valid, entries, own, unique, keys⟩ := each first List.mem_cons_self
        obtain ⟨next, found⟩ := sorted.convert valid unique keys
        rw [List.foldl_cons, own]
        obtain ⟨final, others⟩ := ih distinct
          (fun server member => each server (List.mem_cons_of_mem _ member)) _ next
        refine ⟨final, fun key server => ?_⟩
        rw [others, found, memberAt, memberAt, Json.member_obj, Json.member_obj, Object.get_cons]
        by_cases same : first.1 = server
        · subst same
          rw [Object.get_of_notMem absent, if_pos rfl, if_pos rfl, Option.bind_some,
            memberAt, own, Option.bind_some, memberAt, Json.member_obj]
          cases Object.get entries key <;> rfl
        · rw [if_neg same, if_neg (Ne.symm same)]
  obtain ⟨sorted, found⟩ := every [] byType_nil
  refine ⟨sorted, fun key server => (found key server).trans ?_⟩
  exact Option.or_none

end Types

/-! ## Entries are the stored numbers -/

theorem key2type_toString {type : Nat} (small : type < 2 ^ 32) :
    key2type (toString type) = type := by
  have digits : (toString type).toList = Nat.toDigits 10 type := Nat.toList_repr
  have every : ∀ c ∈ Nat.toDigits 10 type, c.isDigit = true := fun c => Exposition.toDigits_digit
  have noSpace : (Nat.toDigits 10 type).dropWhile isSpace = Nat.toDigits 10 type := by
    cases start : Nat.toDigits 10 type with
    | nil => rfl
    | cons c rest =>
        refine List.dropWhile_cons_of_neg fun space => ?_
        have digit := every c (start ▸ List.mem_cons_self)
        simp only [isSpace, Bool.or_eq_true, decide_eq_true_eq] at space
        rcases space with ((((rfl | rfl) | rfl) | rfl) | rfl) | rfl <;>
          exact absurd digit (by decide)
  have minus : (Nat.toDigits 10 type).head? ≠ some '-' := fun same =>
    absurd (every '-' (List.mem_of_head? same)) (by decide)
  have plus : (Nat.toDigits 10 type).head? ≠ some '+' := fun same =>
    absurd (every '+' (List.mem_of_head? same)) (by decide)
  unfold key2type
  simp only [digits, noSpace, minus, plus, or_self, if_false,
    List.takeWhile_eq_self_iff.mpr every, Nat.ofDigitChars_ten_toDigits]
  omega

/-- The members of what stands at a name. -/
theorem memberAt_cons (members : Object) (key : String) (path : List String) :
    memberAt (.obj members) (key :: path) = (Object.get members key).bind (memberAt · path) := rfl

theorem memberAt_int (n : Int) (key : String) (path : List String) :
    memberAt (.int n) (key :: path) = none := rfl

/-- The entries of a counter whose type has no names. -/
theorem mem_counterEntries_plain {server : String} {type : Nat}
    (plain : counterNamed type = false) {counter : Json} (count : IsCount counter) {entry : Entry}
    {n : Int} :
    (entry, n) ∈ counterEntries server type counter ↔
      ∃ value, entry = .counter server type none value ∧
        memberAt counter value.toList = some (.int n) := by
  rcases count with ⟨m, rfl⟩ | ⟨members, rfl, distinct, ints⟩
  · constructor
    · intro member
      cases List.mem_singleton.mp member
      exact ⟨none, rfl, rfl⟩
    · rintro ⟨value, rfl, found⟩
      cases value with
      | none =>
          cases found
          exact List.mem_singleton_self _
      | some value => cases found
  · constructor
    · intro member
      obtain ⟨⟨key, value⟩, inside, same⟩ := List.mem_flatMap.mp member
      obtain ⟨m, rfl⟩ := ints _ inside
      cases List.mem_singleton.mp same
      refine ⟨some key, by rw [if_neg (by simp [plain])], ?_⟩
      rw [Option.toList_some, memberAt_cons, (Object.get_eq_some_iff distinct).mpr inside]
      rfl
    · rintro ⟨value, rfl, found⟩
      cases value with
      | none => cases found
      | some key =>
          obtain ⟨value, present, same⟩ := Option.bind_eq_some_iff.mp found
          cases same
          refine List.mem_flatMap.mpr
            ⟨(key, .int n), (Object.get_eq_some_iff distinct).mp present, ?_⟩
          dsimp only
          rw [if_neg (by simp [plain])]
          exact List.mem_singleton_self _

/-- The entries of the counters by name, if the type has names. -/
theorem mem_counterEntries_named {server : String} {type : Nat}
    (named : counterNamed type = true) {names : Json}
    (counters : ObjectOf (fun _ counter => IsCount counter) names) {entry : Entry} {n : Int} :
    (entry, n) ∈ counterEntries server type names ↔
      ∃ name value, entry = .counter server type (some name) value ∧
        memberAt names (name :: value.toList) = some (.int n) := by
  obtain ⟨members, rfl, distinct, counts⟩ := counters
  constructor
  · intro member
    obtain ⟨⟨name, counter⟩, inside, same⟩ := List.mem_flatMap.mp member
    have present := (Object.get_eq_some_iff distinct).mpr inside
    rcases counts _ inside with ⟨m, whole⟩ | ⟨values, whole, apart, ints⟩
    · obtain rfl : counter = .int m := whole
      cases List.mem_singleton.mp same
      refine ⟨name, none, by rw [if_pos named], ?_⟩
      rw [memberAt_cons, present]
      rfl
    · obtain rfl : counter = .obj values := whole
      obtain ⟨⟨value, number⟩, among, equal⟩ := List.mem_map.mp same
      obtain ⟨m, whole⟩ := ints _ among
      obtain rfl : number = .int m := whole
      cases equal
      refine ⟨name, some value, rfl, ?_⟩
      rw [memberAt_cons, present, Option.bind_some, Option.toList_some, memberAt_cons,
        (Object.get_eq_some_iff apart).mpr among]
      rfl
  · rintro ⟨name, value, rfl, found⟩
    obtain ⟨counter, present, inner⟩ := Option.bind_eq_some_iff.mp found
    have inside := (Object.get_eq_some_iff distinct).mp present
    refine List.mem_flatMap.mpr ⟨(name, counter), inside, ?_⟩
    rcases counts _ inside with ⟨m, whole⟩ | ⟨values, whole, apart, ints⟩
    · obtain rfl : counter = .int m := whole
      cases value with
      | none =>
          cases inner
          dsimp only
          rw [if_pos named]
          exact List.mem_singleton_self _
      | some value => cases inner
    · obtain rfl : counter = .obj values := whole
      cases value with
      | none => cases inner
      | some value =>
          obtain ⟨number, among, same⟩ := Option.bind_eq_some_iff.mp inner
          cases same
          exact List.mem_map.mpr
            ⟨(value, .int n), (Object.get_eq_some_iff apart).mp among, rfl⟩

theorem mem_counterEntries {server : String} {type : Nat} (known : type < countersInfo.length)
    {counter : Json} (shape : CounterOf (toString type) counter) {entry : Entry} {n : Int} :
    (entry, n) ∈ counterEntries server type counter ↔
      ∃ name value, entry = .counter server type name value ∧
        counterNamed type = name.isSome ∧
        memberAt counter (name.toList ++ value.toList) = some (.int n) := by
  cases naming : counterNamed type with
  | false =>
      rw [mem_counterEntries_plain naming ((counterOf_plain known naming counter).mp shape)]
      constructor
      · rintro ⟨value, same, found⟩
        exact ⟨none, value, same, rfl, found⟩
      · rintro ⟨name, value, same, noName, found⟩
        obtain rfl : name = none := Option.not_isSome_iff_eq_none.mp (by rw [← noName]; decide)
        exact ⟨value, same, found⟩
  | true =>
      rw [mem_counterEntries_named naming ((counterOf_named known naming counter).mp shape)]
      constructor
      · rintro ⟨name, value, same, found⟩
        exact ⟨some name, value, same, rfl, found⟩
      · rintro ⟨name, value, same, hasName, found⟩
        obtain ⟨name, rfl⟩ := Option.isSome_iff_exists.mp hasName.symm
        exact ⟨name, value, same, found⟩

theorem mem_timingEntries {server : String} {type : Nat} {timing : Json} (shape : IsTiming timing)
    {entry : Entry} {n : Int} :
    (entry, n) ∈ timingEntries server type timing ↔
      ∃ name, entry = .timing server type name ∧ memberAt timing [name] = some (.int n) := by
  obtain ⟨members, rfl, names, ints⟩ := shape
  have distinct : Object.Distinct members := by
    rw [Object.Distinct, names]
    exact metricBuckets_names
  constructor
  · intro member
    obtain ⟨⟨name, value⟩, inside, same⟩ := List.mem_map.mp member
    obtain ⟨m, whole⟩ := ints _ inside
    obtain rfl : value = .int m := whole
    cases same
    refine ⟨name, rfl, ?_⟩
    rw [memberAt_cons, (Object.get_eq_some_iff distinct).mpr inside]
    rfl
  · rintro ⟨name, rfl, found⟩
    obtain ⟨value, present, same⟩ := Option.bind_eq_some_iff.mp found
    cases same
    exact List.mem_map.mpr ⟨(name, .int n), (Object.get_eq_some_iff distinct).mp present, rfl⟩

section Printed

variable {utf8 : String → Bool} {json : Json} {group : String} {known : String → Prop}

theorem memberAt_append (json : Json) (path rest : List String) :
    memberAt json (path ++ rest) = (memberAt json path).bind (memberAt · rest) := by
  induction path generalizing json with
  | nil => rfl
  | cons key path ih =>
      rw [List.cons_append, memberAt, memberAt]
      cases json.member key with
      | none => rfl
      | some value => exact ih value

/-- What the output goes through is what the table by type has. -/
theorem mem_types {hash : Hash Json} (sorted : ByType known hash) (iteration : Iteration)
    (key server : String) (value : Json) :
    (∃ type ∈ iteration.order hash, type.1 = key ∧ (server, value) ∈ type.2.iterated) ↔
      foundIn hash key server = some value := by
  constructor
  · rintro ⟨⟨key, types⟩, member, rfl, inside⟩
    have among := (iteration.perm hash).mem_iff.mp member
    obtain ⟨-, members, whole, distinct, -⟩ := sorted.objects _ among
    obtain rfl : types = .obj members := whole
    rw [foundIn, Hash.get_of_mem sorted.distinct among]
    exact (Object.get_eq_some_iff distinct).mpr inside
  · intro found
    obtain ⟨types, listed, present⟩ := Option.bind_eq_some_iff.mp found
    obtain ⟨type, own, rfl⟩ := Option.map_eq_some_iff.mp listed
    have among := KeyedList.mem_of_lookup Prod.fst own
    obtain ⟨-, members, whole, distinct, -⟩ := sorted.objects _ among
    refine ⟨type, (iteration.perm hash).mem_iff.mpr among, KeyedList.key_of_lookup Prod.fst own, ?_⟩
    rw [whole] at present ⊢
    exact (Object.get_eq_some_iff distinct).mp present

theorem mem_typeEntries {hash : Hash Json} (sorted : ByType known hash) (iteration : Iteration)
    {entries : String → Nat → Json → List (Entry × Int)} {found : Entry × Int} :
    found ∈ (iteration.order hash).flatMap (typeEntries entries) ↔
      ∃ key server value, foundIn hash key server = some value ∧
        found ∈ entries server (key2type key) value := by
  constructor
  · intro member
    obtain ⟨type, listed, inner⟩ := List.mem_flatMap.mp member
    obtain ⟨server, inside, own⟩ := List.mem_flatMap.mp inner
    exact ⟨type.1, server.1, server.2,
      (mem_types sorted iteration _ _ _).mp ⟨type, listed, rfl, inside⟩, own⟩
  · rintro ⟨key, server, value, present, own⟩
    obtain ⟨type, listed, rfl, inside⟩ := (mem_types sorted iteration _ _ _).mpr present
    exact List.mem_flatMap.mpr ⟨type, listed, List.mem_flatMap.mpr ⟨_, inside, own⟩⟩

/-- A table by type has the entries of one group of all servers. -/
theorem Shaped.sorted (shaped : Shaped utf8 json) {fits : String → Json → Prop}
    (each : ∀ counters timings, ServerOf counters timings → ∃ entries,
      (serverGroups counters timings).member group = some entries ∧ ObjectOf fits entries) :
    ByType (fun key => ∃ value, fits key value) (byType utf8 json group) ∧
      (∀ key server, foundIn (byType utf8 json group) key server =
        memberAt json [server, group, key]) ∧
      ∀ key server value, memberAt json [server, group, key] = some value → fits key value := by
  obtain ⟨servers, rfl, distinct, inside⟩ := shaped
  have groups (server : String) (value : Json) (member : (server, value) ∈ servers) :
      utf8 server = true ∧
        ∃ entries, value.member group = some entries ∧ ObjectOf fits entries := by
    obtain ⟨valid, counters, timings, whole, shape⟩ := inside _ member
    obtain rfl : value = serverGroups counters timings := whole
    exact ⟨valid, each counters timings shape⟩
  obtain ⟨sorted, found⟩ := @byType_found utf8 group (fun key => ∃ value, fits key value) servers
    distinct fun server member => by
      obtain ⟨valid, entries, present, members, rfl, unique, keys⟩ := groups _ _ member
      exact ⟨valid, members, present, unique, fun entry listed => ⟨_, keys entry listed⟩⟩
  refine ⟨sorted, found, fun key server value present => ?_⟩
  obtain ⟨content, listed, inner⟩ := Option.bind_eq_some_iff.mp present
  obtain ⟨-, entries, own, object⟩ :=
    groups _ _ ((Object.get_eq_some_iff distinct).mp listed)
  obtain ⟨entries', same, last⟩ := Option.bind_eq_some_iff.mp inner
  obtain rfl := Option.some.inj (own.symm.trans same)
  obtain ⟨value', member, final⟩ := Option.bind_eq_some_iff.mp last
  cases final
  exact object.member member

theorem Shaped.counters (shaped : Shaped utf8 json) :
    ByType (fun key => ∃ value, CounterOf key value) (byType utf8 json "counters") ∧
      (∀ key server, foundIn (byType utf8 json "counters") key server =
        memberAt json [server, "counters", key]) ∧
      ∀ key server value, memberAt json [server, "counters", key] = some value →
        CounterOf key value :=
  shaped.sorted fun counters _ shape => ⟨counters, rfl, shape.counters⟩

theorem Shaped.timings (shaped : Shaped utf8 json) :
    ByType (fun key => ∃ value, TimingOf key value) (byType utf8 json "timings") ∧
      (∀ key server, foundIn (byType utf8 json "timings") key server =
        memberAt json [server, "timings", key]) ∧
      ∀ key server value, memberAt json [server, "timings", key] = some value →
        TimingOf key value :=
  shaped.sorted fun _ timings shape => ⟨timings, rfl, shape.timings⟩

theorem counter_small {type : Nat} (known : type < countersInfo.length) : type < 2 ^ 32 :=
  known.trans (by decide)

theorem timing_small {type : Nat} (known : type < timingsInfo.length) : type < 2 ^ 32 :=
  known.trans (by decide)

/-- The counters that are printed are the stored ones. -/
theorem mem_counterPart (shaped : Shaped utf8 json) (iteration : Iteration) {entry : Entry}
    {n : Int} :
    (entry, n) ∈ (iteration.order (byType utf8 json "counters")).flatMap
        (typeEntries counterEntries) ↔
      ∃ server type name value,
        entry = .counter server type name value ∧ HasNumber json entry n := by
  obtain ⟨sorted, found, shapes⟩ := shaped.counters
  rw [mem_typeEntries sorted]
  constructor
  · rintro ⟨key, server, counter, present, own⟩
    rw [found] at present
    have shape := shapes key server counter present
    obtain ⟨type, known, rfl, -⟩ := id shape
    rw [key2type_toString (counter_small known), mem_counterEntries known shape] at own
    obtain ⟨name, value, rfl, naming, inner⟩ := own
    refine ⟨server, type, name, value, rfl, naming, ?_⟩
    rw [Entry.path, List.append_assoc, memberAt_append, present]
    exact inner
  · rintro ⟨server, type, name, value, rfl, naming, path⟩
    rw [Entry.path, List.append_assoc, memberAt_append] at path
    obtain ⟨counter, present, inner⟩ := Option.bind_eq_some_iff.mp path
    have shape := shapes _ server counter present
    obtain ⟨other, known, same, -⟩ := id shape
    obtain rfl := Nat.repr_inj.mp same
    refine ⟨toString type, server, counter, (found _ _).trans present, ?_⟩
    rw [key2type_toString (counter_small known), mem_counterEntries known shape]
    exact ⟨name, value, rfl, naming, inner⟩

/-- The timings that are printed are the stored ones. -/
theorem mem_timingPart (shaped : Shaped utf8 json) (iteration : Iteration) {entry : Entry}
    {n : Int} :
    (entry, n) ∈ (iteration.order (byType utf8 json "timings")).flatMap
        (typeEntries timingEntries) ↔
      ∃ server type member, entry = .timing server type member ∧ HasNumber json entry n := by
  obtain ⟨sorted, found, shapes⟩ := shaped.timings
  rw [mem_typeEntries sorted]
  constructor
  · rintro ⟨key, server, timing, present, own⟩
    rw [found] at present
    obtain ⟨type, known, rfl, shape⟩ := shapes key server timing present
    rw [key2type_toString (timing_small known), mem_timingEntries shape] at own
    obtain ⟨member, rfl, inner⟩ := own
    refine ⟨server, type, member, rfl, trivial, ?_⟩
    have path : (Entry.timing server type member).path =
        [server, "timings", toString type] ++ [member] := rfl
    rw [path, memberAt_append, present]
    exact inner
  · rintro ⟨server, type, member, rfl, -, path⟩
    have split : (Entry.timing server type member).path =
        [server, "timings", toString type] ++ [member] := rfl
    rw [split, memberAt_append] at path
    obtain ⟨timing, present, inner⟩ := Option.bind_eq_some_iff.mp path
    obtain ⟨other, known, same, shape⟩ := shapes _ server timing present
    obtain rfl := Nat.repr_inj.mp same
    refine ⟨toString type, server, timing, (found _ _).trans present, ?_⟩
    rw [key2type_toString (timing_small known), mem_timingEntries shape]
    exact ⟨member, rfl, inner⟩

/-- The entries that are printed are the stored numbers. -/
theorem mem_printedEntries (shaped : Shaped utf8 json) (iteration : Iteration) {entry : Entry}
    {n : Int} :
    (entry, n) ∈ printedEntries utf8 iteration json ↔ HasNumber json entry n := by
  rw [printedEntries, List.mem_append, mem_counterPart shaped, mem_timingPart shaped]
  constructor
  · rintro (⟨server, type, name, value, -, holds⟩ | ⟨server, type, member, -, holds⟩)
    · exact holds
    · exact holds
  · intro holds
    cases entry with
    | counter server type name value => exact .inl ⟨server, type, name, value, rfl, holds⟩
    | timing server type member => exact .inr ⟨server, type, member, rfl, holds⟩

end Printed

/-! ## No entry is printed twice -/

section Distinct

variable {utf8 : String → Bool} {json : Json} {known : String → Prop}

/-- The server of an entry. -/
def Entry.server : Entry → String
  | counter server _ _ _ => server
  | timing server _ _ => server

/-- The type of an entry. -/
def Entry.type : Entry → Nat
  | counter _ type _ _ => type
  | timing _ type _ => type

/-- The name of an entry, if it has one. -/
def Entry.name : Entry → Option String
  | counter _ _ name _ => name
  | timing _ _ member => some member

/-- The value of an entry, if it has one. -/
def Entry.value : Entry → Option String
  | counter _ _ _ value => value
  | timing _ _ _ => none

/-- Lists for different keys have nothing in common if their items show the key. -/
theorem nodup_flatMap_of_tag {α β κ : Type} {items : List α} {f : α → List β} (key : α → κ)
    (tag : β → κ) (keys : (items.map key).Nodup) (each : ∀ item ∈ items, (f item).Nodup)
    (shows : ∀ item ∈ items, ∀ b ∈ f item, tag b = key item) : (items.flatMap f).Nodup := by
  refine List.nodup_flatMap.mpr ⟨each, ?_⟩
  refine (List.pairwise_map.mp keys).imp_of_mem fun {item other} inside among different => ?_
  intro b here there
  exact different ((shows item inside b here).symm.trans (shows other among b there))

/-- The entries without their numbers. -/
def entriesOf (entries : List (Entry × Int)) : List Entry := entries.map Prod.fst

theorem counterEntries_server {server : String} {type : Nat} {counter : Json}
    {entry : Entry × Int} (member : entry ∈ counterEntries server type counter) :
    entry.1.server = server ∧ entry.1.type = type := by
  have members {counter : Json} (inside : entry ∈ counter.iterated.flatMap fun member =>
        match member.2 with
        | .int n =>
            [(if counterNamed type then Entry.counter server type (some member.1) none
              else .counter server type none (some member.1), n)]
        | names =>
            names.iterated.map fun value =>
              (Entry.counter server type (some member.1) (some value.1), value.2.integerValue)) :
      entry.1.server = server ∧ entry.1.type = type := by
    obtain ⟨⟨key, value⟩, -, own⟩ := List.mem_flatMap.mp inside
    cases value with
    | int n =>
        cases List.mem_singleton.mp own
        dsimp only
        split <;> exact ⟨rfl, rfl⟩
    | _ =>
        obtain ⟨value, -, rfl⟩ := List.mem_map.mp own
        exact ⟨rfl, rfl⟩
  cases counter with
  | int n =>
      cases List.mem_singleton.mp member
      exact ⟨rfl, rfl⟩
  | _ => exact members member

theorem entriesOf_flatMap {α : Type} (items : List α) (f : α → List (Entry × Int)) :
    entriesOf (items.flatMap f) = items.flatMap fun item => entriesOf (f item) :=
  List.map_flatMap

theorem some_keys {members : Object} (distinct : Object.Distinct members) :
    (members.map fun member => some member.1).Nodup := by
  have keys : (members.map fun member => some member.1) = (members.map Prod.fst).map some := by
    rw [List.map_map]
    rfl
  rw [keys]
  exact distinct.map (Option.some_injective _)

/-- The members of a counter have different names, and so have their members. -/
theorem nodup_members {server : String} {type : Nat} {members : Object}
    (distinct : Object.Distinct members) (counts : ∀ member ∈ members, IsCount member.2) :
    (entriesOf (counterEntries server type (.obj members))).Nodup := by
  rw [counterEntries, entriesOf_flatMap]
  · refine nodup_flatMap_of_tag (fun member => some member.1)
      (fun entry => entry.name.or entry.value) (some_keys distinct) ?_ ?_
    · intro member inside
      obtain ⟨key, value⟩ := member
      rcases counts _ inside with ⟨n, whole⟩ | ⟨values, whole, apart, -⟩
      · obtain rfl : value = .int n := whole
        exact List.nodup_singleton _
      · obtain rfl : value = .obj values := whole
        refine List.Nodup.of_map Entry.value ?_
        rw [entriesOf, List.map_map, List.map_map]
        exact some_keys apart
    · intro member inside entry own
      obtain ⟨key, value⟩ := member
      rcases counts _ inside with ⟨n, whole⟩ | ⟨values, whole, apart, -⟩
      · obtain rfl : value = .int n := whole
        cases List.mem_singleton.mp own
        dsimp only
        split <;> rfl
      · obtain rfl : value = .obj values := whole
        obtain ⟨row, among, rfl⟩ := List.mem_map.mp own
        obtain ⟨value, -, rfl⟩ := List.mem_map.mp among
        rfl
  · rintro n whole
    cases whole

theorem nodup_counterEntries {server : String} {type : Nat} (known : type < countersInfo.length)
    {counter : Json} (shape : CounterOf (toString type) counter) :
    (entriesOf (counterEntries server type counter)).Nodup := by
  cases naming : counterNamed type with
  | false =>
      rcases (counterOf_plain known naming counter).mp shape with
        ⟨n, rfl⟩ | ⟨members, rfl, distinct, ints⟩
      · exact List.nodup_singleton _
      · exact nodup_members distinct fun member inside => .inl (ints member inside)
  | true =>
      obtain ⟨members, rfl, distinct, counts⟩ := (counterOf_named known naming counter).mp shape
      exact nodup_members distinct counts

theorem nodup_timingEntries {server : String} {type : Nat} {timing : Json}
    (shape : IsTiming timing) : (entriesOf (timingEntries server type timing)).Nodup := by
  obtain ⟨members, rfl, names, -⟩ := shape
  have distinct : Object.Distinct members := by
    rw [Object.Distinct, names]
    exact metricBuckets_names
  refine List.Nodup.of_map Entry.name ?_
  rw [entriesOf, timingEntries, List.map_map, List.map_map]
  exact some_keys distinct

/-- Types and servers are gone through once each. -/
theorem nodup_types {hash : Hash Json} (sorted : ByType known hash) (iteration : Iteration)
    {entries : String → Nat → Json → List (Entry × Int)} (limit : Nat) (small : limit ≤ 2 ^ 32)
    (each : ∀ key server value, foundIn hash key server = some value →
      ∃ type < limit, key = toString type ∧ (entriesOf (entries server type value)).Nodup)
    (shows : ∀ server type value, ∀ entry ∈ entries server type value,
      entry.1.server = server ∧ entry.1.type = type) :
    (entriesOf ((iteration.order hash).flatMap (typeEntries entries))).Nodup := by
  have found (type : String × Json) (listed : type ∈ iteration.order hash)
      (server : String × Json) (inside : server ∈ type.2.iterated) :
      type.1 = toString (key2type type.1) ∧
        (entriesOf (entries server.1 (key2type type.1) server.2)).Nodup := by
    obtain ⟨known, bound, key, distinct⟩ := each type.1 server.1 server.2
      ((mem_types sorted iteration _ _ _).mp ⟨type, listed, rfl, inside⟩)
    have own : key2type type.1 = known := by
      rw [key, key2type_toString (Nat.lt_of_lt_of_le bound small)]
    exact ⟨own ▸ key, own ▸ distinct⟩
  rw [entriesOf_flatMap]
  refine nodup_flatMap_of_tag Prod.fst (fun entry => toString entry.type) ?_ ?_ ?_
  · exact ((iteration.perm hash).map Prod.fst).nodup_iff.mpr sorted.distinct
  · intro type listed
    obtain ⟨-, members, whole, distinct, -⟩ :=
      sorted.objects type ((iteration.perm hash).mem_iff.mp listed)
    rw [typeEntries, entriesOf_flatMap, whole]
    refine nodup_flatMap_of_tag Prod.fst Entry.server distinct ?_ ?_
    · intro server inside
      exact (found type listed server (whole ▸ inside)).2
    · intro server inside entry own
      obtain ⟨pair, among, rfl⟩ := List.mem_map.mp own
      exact (shows _ _ _ pair among).1
  · intro type listed entry own
    obtain ⟨pair, among, rfl⟩ := List.mem_map.mp own
    obtain ⟨server, inside, last⟩ := List.mem_flatMap.mp among
    rw [(shows _ _ _ pair last).2]
    exact (found type listed server inside).1.symm

/-- No entry is printed twice. -/
theorem nodup_printedEntries (shaped : Shaped utf8 json) (iteration : Iteration) :
    (entriesOf (printedEntries utf8 iteration json)).Nodup := by
  obtain ⟨sorted, found, shapes⟩ := shaped.counters
  obtain ⟨sorted', found', shapes'⟩ := shaped.timings
  rw [printedEntries, entriesOf, List.map_append]
  refine List.nodup_append.mpr ⟨?_, ?_, ?_⟩
  · refine nodup_types sorted iteration countersInfo.length (by decide) ?_
      fun _ _ _ entry member => counterEntries_server member
    intro key server value present
    have shape := shapes key server value ((found key server).symm.trans present)
    obtain ⟨type, known, rfl, -⟩ := id shape
    exact ⟨type, known, rfl, nodup_counterEntries known shape⟩
  · refine nodup_types sorted' iteration timingsInfo.length (by decide) ?_ ?_
    · intro key server value present
      obtain ⟨type, known, rfl, shape⟩ :=
        shapes' key server value ((found' key server).symm.trans present)
      exact ⟨type, known, rfl, nodup_timingEntries shape⟩
    · intro server type value entry member
      obtain ⟨name, -, rfl⟩ := List.mem_map.mp member
      exact ⟨rfl, rfl⟩
  · intro entry counter other timing same
    obtain ⟨⟨entry, n⟩, first, rfl⟩ := List.mem_map.mp counter
    obtain ⟨⟨other, m⟩, second, rfl⟩ := List.mem_map.mp timing
    obtain ⟨server, type, name, value, whole, -⟩ := (mem_counterPart shaped iteration).mp first
    obtain ⟨server', type', member, whole', -⟩ := (mem_timingPart shaped iteration).mp second
    dsimp only at same
    rw [whole, whole'] at same
    cases same

end Distinct

end Metrics

end ModAuthOpenidc
