import ModAuthOpenidc.Metrics.Document

/-!
# Counters in the document

What a counter stands at is read off the document. As long as a counter gets default values only or
other values only, and all keys are valid, merging the table of a process adds its counts and
changes nothing else.
-/

namespace ModAuthOpenidc

namespace Json

theorem member_obj (members : Object) (key : String) :
    (obj members).member key = Object.get members key := rfl

theorem member_setNew {utf8 : String → Bool} {members : Object} {key : String}
    (valid : utf8 key = true)
    (value : Json) (other : String) :
    ((obj members).setNew utf8 key value).member other =
      if other = key then some value else Object.get members other := by
  rw [setNew, if_pos valid, member, Object.get_set]

theorem member_updateMember {members : Object} {key : String} {old : Json}
    (present : Object.get members key = some old) (value : Json) (other : String) :
    ((obj members).updateMember key value).member other =
      if other = key then some value else Object.get members other := by
  rw [updateMember, present, Option.isSome_some, if_pos rfl, member, Object.get_set]

theorem updateMember_obj {members : Object} {key : String} {old : Json}
    (present : Object.get members key = some old) (value : Json) :
    (obj members).updateMember key value = obj (Object.set members key value) := by
  rw [updateMember, present, Option.isSome_some, if_pos rfl]

theorem setNew_obj {utf8 : String → Bool} {members : Object} {key : String}
    (valid : utf8 key = true)
    (value : Json) : (obj members).setNew utf8 key value = obj (Object.set members key value) := by
  rw [setNew, if_pos valid]

end Json

namespace Metrics

/-! ## Reading counts -/

/-- What a counter stands at for one value. -/
def valueCount (counter : Json) (value : String) : Int :=
  if value = valueDefault then counter.integerValue
  else ((counter.member value).map Json.integerValue).getD 0

/-- A counter is an object of integers, or an integer. -/
def CounterShape (valued : Bool) (counter : Json) : Prop :=
  match valued with
  | true => ∃ members, counter = .obj members ∧
      ∀ value entry, Object.get members value = some entry → ∃ n, entry = .int n
  | false => ∃ n, counter = .int n

/-- What a missing counter stands at, or one that is there. -/
def countOr (counter : Option Json) (value : String) : Int := counter.elim 0 (valueCount · value)

/-- What the table of a process counts for one value. -/
def valuesCount (values : Values) (value : String) : Int :=
  (values.map fun entry => if entry.1 = value then entry.2 else 0).sum

section Values

variable {jansson : Jansson} {valued : Bool} {counter : Json} {values : Values}

/-- The values of a counter in the table of a process fit its shape. -/
structure Plain (jansson : Jansson) (valued : Bool) (values : Values) : Prop where
  kind : ∀ entry ∈ values, valued = decide (entry.1 ≠ valueDefault)
  utf8 : ∀ entry ∈ values, jansson.utf8 entry.1 = true
  nonneg : ∀ entry ∈ values, 0 ≤ entry.2

theorem Plain.tail {entry : String × Int} (plain : Plain jansson valued (entry :: values)) :
    Plain jansson valued values :=
  ⟨fun other member => plain.kind other (List.mem_cons_of_mem _ member),
    fun other member => plain.utf8 other (List.mem_cons_of_mem _ member),
    fun other member => plain.nonneg other (List.mem_cons_of_mem _ member)⟩

theorem valuesCount_cons (entry : String × Int) (values : Values) (value : String) :
    valuesCount (entry :: values) value =
      (if entry.1 = value then entry.2 else 0) + valuesCount values value := by
  rw [valuesCount, List.map_cons, List.sum_cons, valuesCount]

theorem Plain.count_nonneg (plain : Plain jansson valued values) (value : String) :
    0 ≤ valuesCount values value := by
  refine List.sum_nonneg fun n member => ?_
  obtain ⟨entry, present, rfl⟩ := List.mem_map.mp member
  split
  · exact plain.nonneg entry present
  · exact le_rfl

theorem addCount_int {n count : Int} (bounded : n + count ≤ metricsIntMax) :
    addCount (.int n) count = .int (n + count) := by
  have fits : isOverflow n count = false := by
    rw [isOverflow]
    exact decide_eq_false (by omega)
  simp only [addCount, Json.integerValue, fits, Bool.false_eq_true, if_false, Json.integerSet]

/-- What an object of integers stands at for its values. -/
theorem valueCount_obj (members : Object) (value : String) (other : value ≠ valueDefault) :
    valueCount (.obj members) value =
        ((Object.get members value).map Json.integerValue).getD 0 := by
  rw [valueCount, if_neg other, Json.member]

theorem valueCount_obj_default (members : Object) :
    valueCount (.obj members) valueDefault = 0 := rfl

/-- A member that is set to an integer counts for its own value. -/
theorem valueCount_set (members : Object) {key : String} (n : Int) (named : key ≠ valueDefault)
    (value : String) :
    valueCount (.obj (Object.set members key (.int n))) value =
      if value = key then n else valueCount (.obj members) value := by
  by_cases default : value = valueDefault
  · subst default
    rw [valueCount_obj_default, valueCount_obj_default, if_neg (Ne.symm named)]
  · rw [valueCount_obj _ _ default, valueCount_obj _ _ default, Object.get_set]
    split <;> rfl

/-- One value is added to a counter of its shape. -/
theorem counterUpdateValue_adds {entry : String × Int} (shape : CounterShape valued counter)
    (kind : valued = decide (entry.1 ≠ valueDefault)) (utf8 : jansson.utf8 entry.1 = true)
    (bounded : valueCount counter entry.1 + entry.2 ≤ metricsIntMax) :
    CounterShape valued (counterUpdateValue jansson counter entry) ∧
      ∀ value, valueCount (counterUpdateValue jansson counter entry) value =
        valueCount counter value + if entry.1 = value then entry.2 else 0 := by
  cases valued with
  | false =>
      have default : entry.1 = valueDefault := by simpa using kind
      obtain ⟨n, rfl⟩ := shape
      rw [default, valueCount, if_pos rfl, Json.integerValue] at bounded
      rw [counterUpdateValue, if_pos default, addCount_int bounded]
      refine ⟨⟨_, rfl⟩, fun value => ?_⟩
      rw [default, valueCount, valueCount]
      by_cases same : value = valueDefault
      · rw [if_pos same, if_pos same, if_pos same.symm]
        rfl
      · rw [if_neg same, if_neg same, if_neg (Ne.symm same)]
        rfl
  | true =>
      have named : entry.1 ≠ valueDefault := by simpa using kind
      obtain ⟨members, rfl, integers⟩ := shape
      rw [counterUpdateValue, if_neg named, Json.member]
      have stores (n : Int) (sum : n = valueCount (.obj members) entry.1 + entry.2) :
          CounterShape true (.obj (Object.set members entry.1 (.int n))) ∧
            ∀ value, valueCount (.obj (Object.set members entry.1 (.int n))) value =
              valueCount (.obj members) value + if entry.1 = value then entry.2 else 0 := by
        refine ⟨⟨_, rfl, fun value stored found => ?_⟩, fun value => ?_⟩
        · rw [Object.get_set] at found
          split at found
          · cases found
            exact ⟨n, rfl⟩
          · exact integers value stored found
        · rw [valueCount_set _ _ named]
          by_cases same : value = entry.1
          · subst same
            rw [if_pos rfl, if_pos rfl, sum]
          · rw [if_neg same, if_neg (Ne.symm same), add_zero]
      cases found : Object.get members entry.1 with
      | none =>
          dsimp only
          rw [Json.setNew_obj utf8]
          refine stores entry.2 ?_
          rw [valueCount_obj _ _ named, found, Option.map_none, Option.getD_none, zero_add]
      | some stored =>
          obtain ⟨n, rfl⟩ := integers entry.1 stored found
          have stands : valueCount (.obj members) entry.1 = n := by
            rw [valueCount_obj _ _ named, found]
            rfl
          rw [stands] at bounded
          dsimp only
          rw [addCount_int bounded, Json.updateMember_obj found]
          exact stores (n + entry.2) (by rw [stands])

/-- The values of a process are added to a counter that is there. -/
theorem counterUpdate_adds (shape : CounterShape valued counter)
    (plain : Plain jansson valued values)
    (bounded : ∀ value, valueCount counter value + valuesCount values value ≤ metricsIntMax) :
    CounterShape valued (counterUpdate jansson counter values) ∧
      ∀ value, valueCount (counterUpdate jansson counter values) value =
        valueCount counter value + valuesCount values value := by
  induction values generalizing counter with
  | nil => exact ⟨shape,
      fun value => by rw [valuesCount, List.map_nil, List.sum_nil, add_zero]; rfl⟩
  | cons entry values ih =>
      have first := bounded entry.1
      rw [valuesCount_cons, if_pos rfl] at first
      have rest := plain.tail.count_nonneg entry.1
      obtain ⟨kept, added⟩ := counterUpdateValue_adds shape (plain.kind entry List.mem_cons_self)
        (plain.utf8 entry List.mem_cons_self) (by omega)
      obtain ⟨final, total⟩ := ih kept plain.tail fun value => by
        rw [added, add_assoc, ← valuesCount_cons]
        exact bounded value
      refine ⟨final, fun value => ?_⟩
      rw [valuesCount_cons, ← add_assoc, ← added]
      exact total value

/-- A new object collects all values, as long as they differ. -/
theorem counterNew_collects {members : Object} (plain : Plain jansson true values)
    (distinct : (values.map Prod.fst).Nodup)
    (fresh : ∀ entry ∈ values, Object.get members entry.1 = none)
    (integers : ∀ value entry, Object.get members value = some entry → ∃ n, entry = .int n) :
    ∃ counter, values.foldl (fun counter entry =>
        if entry.1 = valueDefault then some (Json.int entry.2)
        else some ((counter.getD (.obj [])).setNew jansson.utf8 entry.1 (.int entry.2)))
          (some (.obj members)) = some counter ∧ CounterShape true counter ∧
      ∀ value, valueCount counter value = valueCount
          (.obj members) value + valuesCount values value := by
  induction values generalizing members with
  | nil =>
      refine ⟨_, rfl, ⟨_, rfl, integers⟩, fun value => ?_⟩
      rw [valuesCount, List.map_nil, List.sum_nil, add_zero]
  | cons entry values ih =>
      have named : entry.1 ≠ valueDefault := by simpa using plain.kind entry List.mem_cons_self
      have valid := plain.utf8 entry List.mem_cons_self
      rw [List.map_cons, List.nodup_cons] at distinct
      have absent := fresh entry List.mem_cons_self
      rw [List.foldl_cons, if_neg named, Option.getD_some, Json.setNew_obj valid]
      obtain ⟨counter, collected, shape, total⟩ := @ih (Object.set members entry.1 (.int entry.2))
        plain.tail distinct.2
        (fun other member => by
          have differs : other.1 ≠ entry.1 := fun same =>
            distinct.1 (List.mem_map.mpr ⟨other, member, same⟩)
          rw [Object.get_set_of_ne _ _ differs]
          exact fresh other (List.mem_cons_of_mem _ member))
        (fun value stored found => by
          rw [Object.get_set] at found
          split at found
          · cases found
            exact ⟨_, rfl⟩
          · exact integers value stored found)
      refine ⟨counter, collected, shape, fun value => ?_⟩
      rw [total, valueCount_set _ _ named, valuesCount_cons]
      by_cases same : value = entry.1
      · subst same
        have nothing : valueCount (.obj members) entry.1 = 0 := by
          rw [valueCount_obj _ _ named, absent]
          rfl
        rw [if_pos rfl, if_pos rfl, nothing, zero_add]
      · rw [if_neg same, if_neg (Ne.symm same), zero_add]

/-- A new counter stands at the counts of the process. -/
theorem counterNew_counts (plain : Plain jansson valued values)
    (distinct : (values.map Prod.fst).Nodup)
    (some_value : values ≠ []) :
    ∃ counter, counterNew jansson values = some counter ∧ CounterShape valued counter ∧
      ∀ value, valueCount counter value = valuesCount values value := by
  cases values with
  | nil => exact absurd rfl some_value
  | cons entry values =>
      cases valued with
      | false =>
          have default : entry.1 = valueDefault := by
            simpa using plain.kind entry List.mem_cons_self
          have only : values = [] := by
            refine List.eq_nil_iff_forall_not_mem.mpr fun other member => ?_
            have again : other.1 = valueDefault := by
              simpa using plain.kind other (List.mem_cons_of_mem _ member)
            rw [List.map_cons, List.nodup_cons] at distinct
            exact distinct.1 (List.mem_map.mpr ⟨other, member, again.trans default.symm⟩)
          subst only
          refine ⟨.int entry.2, ?_, ⟨_, rfl⟩, fun value => ?_⟩
          · rw [counterNew, List.foldl_cons, if_pos default, List.foldl_nil]
          · rw [valuesCount, List.map_cons, List.map_nil, List.sum_cons, List.sum_nil,
              add_zero, default,
              valueCount]
            by_cases same : value = valueDefault
            · rw [if_pos same, if_pos same.symm]
              rfl
            · rw [if_neg same, if_neg (Ne.symm same)]
              rfl
      | true =>
          have named : entry.1 ≠ valueDefault := by simpa using plain.kind entry List.mem_cons_self
          obtain ⟨counter, collected, shape, total⟩ :=
            @counterNew_collects jansson _ [] plain distinct
            (fun _ _ => rfl) (fun _ _ found => by cases found)
          refine ⟨counter, ?_, shape, fun value => ?_⟩
          · rw [← collected, counterNew, List.foldl_cons, List.foldl_cons,
              if_neg named, if_neg named]
            rfl
          · rw [total]
            by_cases default : value = valueDefault
            · rw [default, valueCount_obj_default, zero_add]
            · rw [valueCount_obj _ _ default]
              exact zero_add _

/-- The values of one counter have been added under a key. -/
structure Added (valued : Bool) (key : String) (values : Values) (before after : Object) :
    Prop where
  frame : ∀ other, other ≠ key → Object.get after other = Object.get before other
  shape : ∀ counter, Object.get after key = some counter → CounterShape valued counter
  counts : ∀ value, countOr (Object.get after key) value =
    countOr (Object.get before key) value + valuesCount values value

/-- A counter that is missing is added. -/
theorem setCounterNew_added {members : Object} {key : String} (valid : jansson.utf8 key = true)
    (absent : Object.get members key = none) (plain : Plain jansson valued values)
    (distinct : (values.map Prod.fst).Nodup) :
    ∃ after, setCounterNew jansson (.obj members) key values = .obj after ∧
      Added valued key values members after := by
  by_cases nothing : values = []
  · subst nothing
    refine ⟨members, rfl, fun _ _ => rfl, fun counter found => ?_, fun value => ?_⟩
    · rw [absent] at found
      cases found
    · exact (add_zero _).symm
  · obtain ⟨counter, made, shape, counts⟩ := counterNew_counts plain distinct nothing
    refine ⟨Object.set members key counter, ?_, ?_⟩
    · rw [setCounterNew, made]
      exact Json.setNew_obj valid counter
    · refine ⟨fun other different => Object.get_set_of_ne _ _ different, fun found stored => ?_,
        fun value => ?_⟩
      · rw [Object.get_set_self] at stored
        cases stored
        exact shape
      · rw [Object.get_set_self, absent]
        exact (counts value).trans (zero_add _).symm

/-- A counter that may be there is added to. -/
theorem counterSetOrUpdate_added {members : Object} {key : String} (valid : jansson.utf8 key = true)
    (shape : ∀ counter, Object.get members key = some counter → CounterShape valued counter)
    (plain : Plain jansson valued values) (distinct : (values.map Prod.fst).Nodup)
    (bounded : ∀ value,
      countOr (Object.get members key) value + valuesCount values value ≤ metricsIntMax) :
    ∃ after, counterSetOrUpdate jansson (.obj members) key values = .obj after ∧
      Added valued key values members after := by
  unfold counterSetOrUpdate
  rw [Json.member]
  cases found : Object.get members key with
  | none => exact setCounterNew_added valid found plain distinct
  | some counter =>
      rw [found] at bounded
      obtain ⟨kept, counts⟩ := counterUpdate_adds (shape counter found) plain bounded
      refine ⟨Object.set members key (counterUpdate jansson counter values),
        Json.updateMember_obj found _, ?_⟩
      refine ⟨fun other different => Object.get_set_of_ne _ _ different, fun after stored => ?_,
        fun value => ?_⟩
      · rw [Object.get_set_self] at stored
        cases stored
        exact kept
      · rw [Object.get_set_self, found]
        exact counts value

end Values

/-! ## Keys of counters -/

theorem dot_notMem_repr (type : Nat) : '.' ∉ (toString type).toList := by
  intro member
  rw [Nat.toString_eq_repr, Nat.toList_repr] at member
  exact absurd (Nat.isDigit_of_mem_toDigits (by decide) (by decide) member) (by decide)

theorem splitKey_none (type : Nat) : splitKey (typeName2key type none) = (toString type, none) := by
  have all : ∀ c ∈ (toString type).toList, decide (c ≠ '.') = true := by
    intro c member
    exact decide_eq_true fun dot => dot_notMem_repr type (dot ▸ member)
  rw [typeName2key, splitKey, List.takeWhile_eq_self_iff.mpr all, List.dropWhile_eq_nil_iff.mpr all,
    String.ofList_toList]

theorem splitKey_some (type : Nat) (name : String) :
    splitKey (typeName2key type (some name)) = (toString type, some name) := by
  have all : ∀ c ∈ (toString type).toList, decide (c ≠ '.') = true := by
    intro c member
    exact decide_eq_true fun dot => dot_notMem_repr type (dot ▸ member)
  have text : (typeName2key type (some name)).toList = (toString type).toList ++ '.' ::
    name.toList := by
    rw [typeName2key, String.toList_append, String.toList_append, List.append_assoc]
    rfl
  rw [splitKey, text, List.takeWhile_append_of_pos all, List.dropWhile_append_of_pos all,
    List.takeWhile_cons_of_neg (by simp), List.dropWhile_cons_of_neg (by simp), List.append_nil,
    String.ofList_toList]
  dsimp only
  rw [String.ofList_toList]

theorem typeName2key_inj {type type' : Nat} {name name' : Option String}
    (same : typeName2key type name = typeName2key type' name') : type = type' ∧ name = name' := by
  have split : splitKey (typeName2key type name) = (toString type, name) := by
    cases name with
    | none => exact splitKey_none type
    | some name => exact splitKey_some type name
  have split' : splitKey (typeName2key type' name') = (toString type', name') := by
    cases name' with
    | none => exact splitKey_none type'
    | some name => exact splitKey_some type' name
  rw [same, split'] at split
  exact ⟨(Nat.repr_inj.mp (congrArg Prod.fst split)).symm, (congrArg Prod.snd split).symm⟩

theorem utf8_type {jansson : Jansson} (documented : jansson.Documented) (type : Nat) :
    jansson.utf8 (toString type) = true := by
  refine documented.ascii _ fun c member => ?_
  rw [Nat.toString_eq_repr, Nat.toList_repr] at member
  have digit := Nat.isDigit_of_mem_toDigits (by decide) (by decide) member
  rw [Char.isDigit, Bool.and_eq_true, decide_eq_true_eq, decide_eq_true_eq] at digit
  have bound := UInt32.le_iff_toNat_le.mp digit.2
  exact lt_of_le_of_lt bound (by decide)

/-! ## The counters of a server -/

/-- The entry of a counter among those of its server. -/
def counterAt (counters : Object) (type : Nat) (name : Option String) : Option Json :=
  match name with
  | none => Object.get counters (toString type)
  | some name => (Object.get counters (toString type)).bind (Json.member · name)

/-- Counters of types with names are nested, and all have their shape. -/
structure CountersShape (named : Nat → Bool) (valued : Nat → Option String → Bool)
    (counters : Object) :
    Prop where
  nested : ∀ type entry, named type = true → Object.get counters (toString type) = some entry →
    ∃ names, entry = .obj names
  shape : ∀ type name counter, named type = name.isSome →
      counterAt counters type name = some counter →
    CounterShape (valued type name) counter

section Server

variable {jansson : Jansson} {named : Nat → Bool} {valued : Nat → Option String → Bool}
  {counters : Object} {values : Values}

/-- The counters of a server after a change of one of them. -/
structure Merged (named : Nat → Bool) (valued : Nat → Option String → Bool)
    (added : Nat → Option String → String → Int) (before after : Object) : Prop where
  shape : CountersShape named valued after
  counts : ∀ type name value, named type = name.isSome →
    countOr (counterAt after type name) value =
      countOr (counterAt before type name) value + added type name value

/-- What one counter adds. -/
def addedBy (type : Nat) (name : Option String) (values : Values) (type' : Nat)
    (name' : Option String)
    (value : String) : Int :=
  if type' = type ∧ name' = name then valuesCount values value else 0

theorem toString_ne {type type' : Nat} (different : type' ≠ type) :
    toString type' ≠ toString type :=
  fun same => different (Nat.repr_inj.mp same)

/-- A counter of a type without names is added to. -/
theorem merged_of_added {after : Object} {type : Nat} (shape : CountersShape named valued counters)
    (naming : named type = false)
    (added : Added (valued type none) (toString type) values counters after) :
    Merged named valued (addedBy type none values) counters after := by
  have other {type' : Nat} (name' : Option String) (different : type' ≠ type) :
      counterAt after type' name' = counterAt counters type' name' := by
    unfold counterAt
    rw [added.frame _ (toString_ne different)]
  refine ⟨⟨fun type' entry isNamed found => ?_, fun type' name' counter isNamed found => ?_⟩,
    fun type' name' value isNamed => ?_⟩
  · have different : type' ≠ type := by
      rintro rfl
      cases naming.symm.trans isNamed
    rw [added.frame _ (toString_ne different)] at found
    exact shape.nested type' entry isNamed found
  · by_cases same : type' = type
    · subst same
      rw [naming] at isNamed
      cases name' with
      | none => exact added.shape counter found
      | some name => cases isNamed
    · rw [other name' same] at found
      exact shape.shape type' name' counter isNamed found
  · by_cases same : type' = type
    · subst same
      rw [naming] at isNamed
      cases name' with
      | none =>
          rw [addedBy, if_pos ⟨rfl, rfl⟩]
          exact added.counts value
      | some name => cases isNamed
    · rw [other name' same, addedBy, if_neg fun both => same both.1, add_zero]

/-- A counter of a type with names is added to. -/
theorem merged_of_nested {after names names' : Object} {type : Nat} {name : String}
    (shape : CountersShape named valued counters) (naming : named type = true)
    (before : Object.get counters (toString type) = some (.obj names) ∨
      Object.get counters (toString type) = none ∧ names = [])
    (stored : after = Object.set counters (toString type) (.obj names'))
    (added : Added (valued type (some name)) name values names names') :
    Merged named valued (addedBy type (some name) values) counters after := by
  subst stored
  have other {type' : Nat} (name' : Option String) (different : type' ≠ type) :
      counterAt (Object.set counters (toString type) (.obj names')) type' name' =
        counterAt counters type' name' := by
    unfold counterAt
    rw [Object.get_set_of_ne _ _ (toString_ne different)]
  have inside (name' : String) : counterAt (Object.set counters (toString type) (.obj names')) type
      (some name') = Object.get names' name' := by
    rw [counterAt, Object.get_set_self]
    rfl
  have earlier (name' : String) :
    counterAt counters type (some name') = Object.get names name' := by
    rw [counterAt]
    rcases before with found | ⟨absent, rfl⟩
    · rw [found]
      rfl
    · rw [absent]
      rfl
  refine ⟨⟨fun type' entry isNamed found => ?_, fun type' name' counter isNamed found => ?_⟩,
    fun type' name' value isNamed => ?_⟩
  · by_cases same : type' = type
    · subst same
      rw [Object.get_set_self] at found
      cases found
      exact ⟨names', rfl⟩
    · rw [Object.get_set_of_ne _ _ (toString_ne same)] at found
      exact shape.nested type' entry isNamed found
  · by_cases same : type' = type
    · subst same
      obtain ⟨name', rfl⟩ := Option.isSome_iff_exists.mp (isNamed.symm.trans naming)
      rw [inside] at found
      by_cases own : name' = name
      · subst own
        exact added.shape counter found
      · rw [added.frame name' own, ← earlier] at found
        exact shape.shape type' (some name') counter isNamed found
    · rw [other name' same] at found
      exact shape.shape type' name' counter isNamed found
  · by_cases same : type' = type
    · subst same
      obtain ⟨name', rfl⟩ := Option.isSome_iff_exists.mp (isNamed.symm.trans naming)
      rw [inside, earlier]
      by_cases own : name' = name
      · subst own
        rw [addedBy, if_pos ⟨rfl, rfl⟩]
        exact added.counts value
      · rw [added.frame name' own, addedBy, if_neg fun both =>
          own (Option.some.inj both.2), add_zero]
    · rw [other name' same, addedBy, if_neg fun both => same both.1, add_zero]

/-- The values of one counter of a process are merged. -/
theorem storeCounterEntry_merged (documented : jansson.Documented)
    (shape : CountersShape named valued counters) {type : Nat} {name : Option String}
    (naming : named type = name.isSome) (utf8 : ∀ text, name = some text → jansson.utf8 text = true)
    (plain : Plain jansson (valued type name) values) (distinct : (values.map Prod.fst).Nodup)
    (bounded : ∀ value,
      countOr (counterAt counters type name) value + valuesCount values value ≤ metricsIntMax) :
    ∃ after, storeCounterEntry jansson (.obj counters)
        (typeName2key type name) values = .obj after ∧
      Merged named valued (addedBy type name values) counters after := by
  have valid := utf8_type documented type
  unfold storeCounterEntry
  cases name with
  | none =>
      rw [splitKey_none]
      dsimp only
      obtain ⟨after, stored, added⟩ := counterSetOrUpdate_added valid
        (fun counter found => shape.shape type none counter naming found) plain distinct bounded
      exact ⟨after, stored, merged_of_added shape naming added⟩
  | some name =>
      rw [splitKey_some]
      dsimp only
      rw [Json.member_obj]
      cases found : Object.get counters (toString type) with
      | none =>
          obtain ⟨names, stored, added⟩ := setCounterNew_added (utf8 name rfl)
            (Object.get_nil name) plain distinct
          refine ⟨_, ?_, merged_of_nested shape naming (.inr ⟨found, rfl⟩) rfl added⟩
          dsimp only
          rw [stored]
          exact Json.setNew_obj valid _
      | some entry =>
          obtain ⟨names, rfl⟩ := shape.nested type entry naming found
          have nested : counterAt counters type (some name) = Object.get names name := by
            rw [counterAt, found]
            rfl
          rw [nested] at bounded
          obtain ⟨names', stored, added⟩ := counterSetOrUpdate_added (utf8 name rfl)
            (fun counter present => shape.shape type (some name) counter naming
              (nested.trans present)) plain distinct bounded
          refine ⟨_, ?_, merged_of_nested shape naming (.inl found) rfl added⟩
          dsimp only
          rw [stored]
          exact Json.updateMember_obj found _

end Server

end Metrics

end ModAuthOpenidc
