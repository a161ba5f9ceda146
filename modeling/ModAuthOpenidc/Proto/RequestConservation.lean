import ModAuthOpenidc.JsonMembers
import ModAuthOpenidc.Proto.RequestObject

/-!
# Nothing of an authorization request is lost

What is removed from an authorization request should be in the request object that goes with it, and
nothing should be removed if there is no request object. Parameters are removed under all spellings
of their names and before the object is signed, an object has one value for each name, and not every
text is a JSON value, so that this depends on the parameters and on what comes later.
-/

namespace ModAuthOpenidc

namespace Proto

namespace RequestObject

/-! ## What should be kept -/

/-- The request object that the provider gets to see. -/
def Outcome.delivered (library : Library) (outcome : Outcome) : Option Object :=
  match outcome.added with
  | some (parameter, value) =>
      if parameter = "request_uri" then outcome.cached.bind fun entry => library.opens entry.2
      else library.opens value
  | none => none

/-- The parameters other than the one that was added. -/
def Outcome.rest (outcome : Outcome) : Params :=
  match outcome.added with
  | some (parameter, _) => CaseTable.unset outcome.params parameter
  | none => outcome.params

/-- The JSON value of a parameter is in a request object. -/
def Represented (library : Library) (payload : Object) (param : String × String) : Prop :=
  ∃ json, paramJson library param.1 param.2 = some json ∧ payload.get param.1 = some json

/-- Whether the configuration lists a parameter under `copy_and_remove_from_request`. -/
def listed (library : Library) (provider : Provider) (name : String) : Bool :=
  (requestObjectConfig library provider).any (removes · name)

/-- A parameter was added, what is not listed is still there, and what was removed is in the request
object. -/
structure Moved (library : Library) (provider : Provider) (params : Params) (outcome : Outcome)
    (added : String × String) : Prop where
  present : CaseTable.get outcome.params added.1 = some added.2
  kept : (params.filter fun param => !listed library provider param.1).Sublist outcome.rest
  represented : ∀ param ∈ params, param ∉ outcome.rest →
    ∃ payload, outcome.delivered library = some payload ∧ Represented library payload param

/-- The parameters were moved into a request object, or they are as before. -/
def Conserved (library : Library) (provider : Provider) (env : Env) (params : Params) : Prop :=
  let outcome := paramAdd library provider env params
  match outcome.added with
  | some added => Moved library provider params outcome added
  | none => outcome.params = params

/-! ## Copying -/

section Copy

variable {library : Library} {config : Object}

/-- The last of the JSON values of a parameter. -/
def lastJson (library : Library) (params : Params) (name : String) : Option Json :=
  ((params.filter fun param => param.1 = name).filterMap fun param =>
    paramJson library param.1 param.2).getLast?

theorem lastJson_cons (library : Library) (param : String × String) (params : Params)
    (name : String) :
    lastJson library (param :: params) name =
      (lastJson library params name).or
        (if param.1 = name then paramJson library param.1 param.2 else none) := by
  rw [lastJson, List.filter_cons]
  by_cases same : param.1 = name
  · rw [if_pos (decide_eq_true same), if_pos same, List.filterMap_cons]
    cases paramJson library param.1 param.2 with
    | none => rw [Option.or_none, lastJson]
    | some json =>
        rw [List.getLast?_cons, lastJson]
        cases ((params.filter fun param => param.1 = name).filterMap fun param =>
          paramJson library param.1 param.2).getLast? <;> rfl
  · rw [if_neg (by simpa using same), if_neg same, Option.or_none, lastJson]

theorem get_setNew {name : String} (payload : Object) (key : String) (value : Option Json)
    (valid : library.utf8 name = true) :
    (setNew library payload key value).get name =
      (if key = name then value else none).or (payload.get name) := by
  unfold setNew
  by_cases same : key = name
  · subst same
    cases value with
    | none => rw [if_pos rfl, Option.none_or]
    | some value =>
        dsimp only
        rw [if_pos valid, Object.get_set_self, if_pos rfl, Option.some_or]
  · rw [if_neg same, Option.none_or]
    split
    · split
      · exact Object.get_set_of_ne _ _ (Ne.symm same)
      · rfl
    · rfl

/-- The payload has the last value of every parameter that is copied. -/
theorem get_copied {name : String} (copied : copies config name = true)
    (valid : library.utf8 name = true) (params : Params) (payload : Object) (removed : Params) :
    (params.foldl (copyFromRequest library config) (payload, removed)).1.get name =
      (lastJson library params name).or (payload.get name) := by
  induction params generalizing payload removed with
  | nil => rfl
  | cons param params ih =>
      rw [List.foldl_cons, lastJson_cons, Option.or_assoc, copyFromRequest]
      split
      · rw [ih, get_setNew payload param.1 _ valid]
      · next unlisted =>
          have other : param.1 ≠ name := fun same => unlisted (same ▸ copied)
          rw [ih, if_neg other, Option.none_or]

/-- Some parameter that is removed has a name, in some spelling. -/
def Collides (config : Object) (params : Params) (name : String) : Prop :=
  ∃ other ∈ params, removes config other.1 = true ∧ CaseTable.fold other.1 = CaseTable.fold name

instance (config : Object) (params : Params) (name : String) :
    Decidable (Collides config params name) :=
  inferInstanceAs (Decidable (∃ other ∈ params, _))

/-- The table of removed parameters has those that are listed and in the request. -/
theorem copied_removed (params : Params) (payload : Object) (removed : Params)
    (before : ∀ entry ∈ removed, removes config entry.1 = true) :
    let after := (params.foldl (copyFromRequest library config) (payload, removed)).2
    (∀ entry ∈ after, removes config entry.1 = true) ∧
      ∀ name, (CaseTable.get after name).isSome = true ↔
        (CaseTable.get removed name).isSome = true ∨ Collides config params name := by
  induction params generalizing payload removed with
  | nil => exact ⟨before, fun name => by simp [Collides]⟩
  | cons param params ih =>
      have collides (name : String) : Collides config (param :: params) name ↔
          (removes config param.1 = true ∧ CaseTable.fold param.1 = CaseTable.fold name) ∨
            Collides config params name := by
        unfold Collides
        rw [List.exists_mem_cons_iff]
      dsimp only
      rw [List.foldl_cons, copyFromRequest]
      by_cases own : removes config param.1 = true
      · have copied : copies config param.1 = true := by simp [copies, own]
        rw [if_pos copied, if_pos own]
        obtain ⟨all, found⟩ := ih (setNew library payload param.1
          (paramJson library param.1 param.2)) (CaseTable.set removed param.1 param.1)
          fun entry member => by
            rcases CaseTable.key_of_mem_set member with same | ⟨old, older, same⟩
            · rw [same]
              exact own
            · rw [← same]
              exact before old older
        refine ⟨all, fun name => ?_⟩
        rw [found, collides, CaseTable.get_set, ← or_assoc]
        refine or_congr_left ?_
        by_cases same : CaseTable.fold name = CaseTable.fold param.1
        · simp [same, own]
        · rw [if_neg same]
          simp [Ne.symm same]
      · obtain ⟨all, found⟩ := ih (if copies config param.1 then setNew library payload param.1
          (paramJson library param.1 param.2) else payload) removed before
        have step : (if copies config param.1 then
            (setNew library payload param.1 (paramJson library param.1 param.2),
              if removes config param.1 then CaseTable.set removed param.1 param.1 else removed)
            else (payload, removed)) =
            (if copies config param.1 then setNew library payload param.1
              (paramJson library param.1 param.2) else payload, removed) := by
          split <;> rfl
        rw [step]
        refine ⟨all, fun name => ?_⟩
        rw [found, collides]
        simp [own]

/-- Parameters are removed under all spellings of their names. -/
theorem deleted_eq_filter (removed params : Params)
    (all : ∀ entry ∈ removed, removes config entry.1 = true) :
    removed.foldl (deleteFromRequest config) params =
      params.filter fun param => (CaseTable.get removed param.1).isNone := by
  induction removed generalizing params with
  | nil => simp
  | cons entry removed ih =>
      obtain ⟨first, rest⟩ := List.forall_mem_cons.mp all
      rw [List.foldl_cons, deleteFromRequest, if_pos first, ih _ rest, CaseTable.unset,
        List.filter_filter]
      apply List.filter_congr
      intro param _
      rw [CaseTable.get_cons]
      by_cases same : CaseTable.fold param.1 = CaseTable.fold entry.1
      · simp [same]
      · simp [same, Ne.symm same]

/-- What is left of the parameters. -/
theorem paramsCopy_params (payload : Object) (params : Params) :
    (paramsCopy library config payload params).2 =
      params.filter fun param => ¬Collides config params param.1 := by
  obtain ⟨all, found⟩ := @copied_removed library config params payload []
    (List.forall_mem_nil _)
  rw [paramsCopy, deleted_eq_filter _ _ all]
  apply List.filter_congr
  intro param _
  have absent := found param.1
  rw [CaseTable.get_nil] at absent
  rw [Bool.eq_iff_iff, ← Option.not_isSome, Bool.not_eq_true', ← Bool.not_eq_true, absent]
  simp

end Copy

/-! ## Creating the object -/

section Creation

variable {library : Library} {provider : Provider} {env : Env} {config : Object} {params : Params}
  {parameter : String}

/-- The payload of the request object. -/
def objectPayload (library : Library) (provider : Provider) (env : Env) (config : Object)
    (params : Params) : Object :=
  (paramsCopy library config
    (claimsSet library provider env config [] (config.getInt "ttl" 30)) params).1

/-- The request object, unless a key is missing or signing or encrypting fails. -/
def sealed (library : Library) (provider : Provider) (env : Env) (config : Object)
    (params : Params) : Option String :=
  sealObject library provider config (objectPayload library provider env config params)

/-- The value of the parameter that is added, and the object if the provider gets to see it. -/
def passed (library : Library) (provider : Provider) (env : Env) (config : Object)
    (params : Params) (parameter : String) : Option (String × Option String) :=
  (sealed library provider env config params).bind fun object =>
    if parameter = "request_uri" then
      env.randStr.map fun ref =>
        ((match config.get "url" with
          | some url => url.stringValue.getD "(null)"
          | none => provider.redirectUri) ++ "?request_uri=" ++ Http.urlEncode ref,
          if env.cacheSet ref object (env.now 3 + config.getInt "ttl" 30) then some object
          else none)
    else some (object, some object)

/-- The parameters that are left before one is added. -/
def remaining (config : Object) (params : Params) : Params :=
  params.filter fun param => ¬Collides config params param.1

/-- A serialized object is read again. -/
theorem opens_jwtSerialize (documented : library.Documented) {alg text : String}
    {payload : Object} {header : Header} {signature : Option String}
    (signing : (if alg ≠ "none" then sign library provider header payload else none) = signature)
    (serialized : jwtSerialize library alg payload signature = some text) :
    library.opens text = some payload := by
  unfold jwtSerialize at serialized
  by_cases plain : alg = "none"
  · rw [if_pos plain] at serialized
    exact documented.opens_plain payload text serialized
  · rw [if_pos plain] at signing
    rw [if_neg plain, ← signing] at serialized
    obtain ⟨jws, signed, exported⟩ := Option.bind_eq_some_iff.mp serialized
    unfold sign at signed
    split at signed
    · cases signed
    · exact documented.opens_signed _ payload _ jws text signed exported

/-- The provider reads the payload. -/
theorem opens_sealed (documented : library.Documented) {object : String}
    (created : sealed library provider env config params = some object) :
    library.opens object = some (objectPayload library provider env config params) := by
  unfold sealed sealObject at created
  dsimp only at created
  generalize signing : (if (cryptoString config "sign_alg").getD "none" ≠ "none" then
    sign library provider { alg := some ((cryptoString config "sign_alg").getD "none") }
      (objectPayload library provider env config params) else none) = signature at created
  split at created
  · cases created
  · cases crypt : cryptoString config "crypt_alg" with
    | none =>
        rw [crypt] at created
        exact opens_jwtSerialize documented signing created
    | some alg =>
        rw [crypt] at created
        dsimp only [encrypt] at created
        split at created
        · cases created
        · obtain ⟨text, plain, same⟩ := documented.opens_encrypted _ _ _ object created
          rw [same]
          exact opens_jwtSerialize documented signing plain

/-- What `oidc_proto_request_object_param_add` does with a good configuration. -/
theorem paramAdd_eq (configured : requestObjectConfig library provider = some config)
    (named : parameterName config = some parameter) :
    let outcome := paramAdd library provider env params
    let passed := passed library provider env config params parameter
    outcome.added = passed.map (fun value => (parameter, value.1)) ∧
      outcome.params = passed.elim (remaining config params)
        (fun value => CaseTable.set (remaining config params) parameter value.1) ∧
      outcome.delivered library = passed.bind fun value => value.2.bind library.opens := by
  have created : create library provider env config params (config.getInt "ttl" 30) =
      (sealed library provider env config params, remaining config params) := by
    rw [create, remaining, ← paramsCopy_params]
    rfl
  dsimp only
  unfold paramAdd Outcome.delivered passed
  rw [configured]
  dsimp only
  rw [named]
  dsimp only
  by_cases reference : parameter = "request_uri"
  · subst reference
    rw [if_pos rfl, requestUriCreate, created]
    cases sealed library provider env config params with
    | none => exact ⟨rfl, rfl, rfl⟩
    | some object =>
        dsimp only
        cases env.randStr with
        | none => exact ⟨rfl, rfl, rfl⟩
        | some ref =>
            refine ⟨rfl, rfl, ?_⟩
            dsimp only
            rw [if_pos rfl, Option.bind_some, if_pos rfl, Option.map_some, Option.bind_some]
            split <;> rfl
  · rw [if_neg reference, created]
    cases sealed library provider env config params with
    | none => exact ⟨rfl, rfl, rfl⟩
    | some object =>
        refine ⟨?_, ?_, ?_⟩
        all_goals
          dsimp only
          rw [Option.bind_some, if_neg reference]
        · rfl
        · rfl
        · rw [if_neg reference]
          rfl

/-- Without a good configuration nothing happens. -/
theorem paramAdd_of_bad
    (bad : ∀ config, requestObjectConfig library provider = some config →
      parameterName config = none) :
    paramAdd library provider env params = { params } := by
  unfold paramAdd
  split
  · rfl
  · next config configured =>
      rw [bad config configured]

/-! ## When everything is kept -/

/-- There is a value for the parameter. -/
def Creatable (library : Library) (provider : Provider) (env : Env) (config : Object)
    (params : Params) (parameter : String) : Prop :=
  ∃ object, sealed library provider env config params = some object ∧
    (parameter = "request_uri" → env.randStr.isSome = true)

/-- The provider gets to see the object. -/
def Obtainable (library : Library) (provider : Provider) (env : Env) (config : Object)
    (params : Params) (parameter : String) : Prop :=
  ∃ object, sealed library provider env config params = some object ∧
    (parameter = "request_uri" → ∃ ref, env.randStr = some ref ∧
      env.cacheSet ref object (env.now 3 + config.getInt "ttl" 30) = true)

/-- The condition under which no parameter is lost. -/
structure Conservable (library : Library) (provider : Provider) (env : Env) (config : Object)
    (params : Params) (parameter : String) : Prop where
  /-- If parameters are removed, the object is created and the provider gets to see it. -/
  obtainable : (∃ param ∈ params, removes config param.1 = true) →
    Obtainable library provider env config params parameter
  /-- The other parameters have names of their own, in any spelling. -/
  apart : Creatable library provider env config params parameter →
    ∀ param ∈ params, removes config param.1 = false →
      ¬Collides config params param.1 ∧ CaseTable.fold param.1 ≠ CaseTable.fold parameter
  /-- The values of a parameter that is removed have the same JSON value. -/
  single : ∀ param ∈ params, removes config param.1 = true →
    ∃ json, paramJson library param.1 param.2 = some json ∧
      lastJson library params param.1 = some json

theorem passed_isSome_iff :
    (passed library provider env config params parameter).isSome = true ↔
      Creatable library provider env config params parameter := by
  unfold passed Creatable
  cases sealed library provider env config params with
  | none => simp
  | some object =>
      rw [Option.bind_some]
      by_cases reference : parameter = "request_uri"
      · simp [reference]
      · simp [reference]

theorem delivered_iff (documented : library.Documented) (payload : Object) :
    ((passed library provider env config params parameter).bind fun value =>
        value.2.bind library.opens) = some payload ↔
      Obtainable library provider env config params parameter ∧
        objectPayload library provider env config params = payload := by
  have reads {object : String}
      (created : sealed library provider env config params = some object) :=
    opens_sealed documented created
  unfold passed Obtainable
  cases created : sealed library provider env config params with
  | none => simp
  | some object =>
      rw [Option.bind_some]
      by_cases reference : parameter = "request_uri"
      · cases env.randStr with
        | none => simp [reference]
        | some ref =>
            by_cases stored : env.cacheSet ref object (env.now 3 + config.getInt "ttl" 30) = true
            · simp [reference, stored, reads created]
            · simp [reference, stored]
      · simp [reference, reads created]

/-- If a value of a parameter is a JSON value, then the parameter has a last one. -/
theorem exists_lastJson {param : String × String} (member : param ∈ params) {json : Json}
    (value : paramJson library param.1 param.2 = some json) :
    ∃ last, lastJson library params param.1 = some last := by
  have listed : json ∈ (params.filter fun other => other.1 = param.1).filterMap fun other =>
      paramJson library other.1 other.2 :=
    List.mem_filterMap.mpr ⟨param, List.mem_filter.mpr ⟨member, by simp⟩, value⟩
  exact ⟨_, List.getLast?_eq_some_getLast (List.ne_nil_of_mem listed)⟩

/-- The payload has what the last value of a removed parameter is. -/
theorem represented_iff (documented : library.Documented)
    (configured : requestObjectConfig library provider = some config)
    {param : String × String} (member : param ∈ params) (removed : removes config param.1 = true) :
    Represented library (objectPayload library provider env config params) param ↔
      ∃ json, paramJson library param.1 param.2 = some json ∧
        lastJson library params param.1 = some json := by
  have valid : library.utf8 param.1 = true := by
    unfold requestObjectConfig at configured
    split at configured
    · next loaded parsed =>
        cases configured
        obtain ⟨text, -, loads⟩ := Option.bind_eq_some_iff.mp parsed
        unfold removes needsAction at removed
        split at removed
        · next elements found =>
            obtain ⟨element, inside, same⟩ := List.any_eq_true.mp removed
            rw [of_decide_eq_true same] at inside
            exact documented.loads_utf8 text _ _ elements _ loads found inside
        · cases removed
    · cases configured
  have copied : copies config param.1 = true := by rw [copies, removed, Bool.or_true]
  unfold Represented objectPayload paramsCopy
  dsimp only
  rw [get_copied copied valid]
  constructor
  · rintro ⟨json, value, found⟩
    obtain ⟨last, present⟩ := exists_lastJson member value
    rw [present, Option.some_or] at found
    exact ⟨json, value, present.trans found⟩
  · rintro ⟨json, value, present⟩
    exact ⟨json, value, by rw [present, Option.some_or]⟩

theorem collides_self {param : String × String} (member : param ∈ params)
    (removed : removes config param.1 = true) : Collides config params param.1 :=
  ⟨param, member, removed, rfl⟩

/-- Nothing is removed if and only if nothing is listed. -/
theorem remaining_eq_self_iff :
    remaining config params = params ↔ ¬∃ param ∈ params, removes config param.1 = true := by
  rw [remaining, List.filter_eq_self]
  constructor
  · rintro free ⟨param, member, removed⟩
    have apart := of_decide_eq_true (free param member)
    exact apart (collides_self member removed)
  · intro free param member
    rw [decide_eq_true_iff]
    rintro ⟨other, inside, removed, -⟩
    exact free ⟨other, inside, removed⟩

/-- What is left beside the parameter that is added. -/
theorem mem_rest_iff {param : String × String} :
    param ∈ CaseTable.unset (remaining config params) parameter ↔
      param ∈ params ∧ ¬Collides config params param.1 ∧
        CaseTable.fold param.1 ≠ CaseTable.fold parameter := by
  rw [CaseTable.unset, remaining, List.mem_filter, List.mem_filter, decide_eq_true_iff,
    decide_eq_true_iff, and_assoc]

/-- The parameters that are not listed are kept if and only if their names are their own. -/
theorem kept_iff :
    (params.filter fun param => !removes config param.1).Sublist
        (CaseTable.unset (remaining config params) parameter) ↔
      ∀ param ∈ params, removes config param.1 = false →
        ¬Collides config params param.1 ∧
          CaseTable.fold param.1 ≠ CaseTable.fold parameter := by
  constructor
  · intro kept param member free
    have inside := kept.subset (List.mem_filter.mpr ⟨member, by rw [free]; rfl⟩)
    exact (mem_rest_iff.mp inside).2
  · intro apart
    have filtered : (params.filter fun param => !removes config param.1) =
        (CaseTable.unset (remaining config params) parameter).filter fun param =>
          !removes config param.1 := by
      rw [CaseTable.unset, remaining, List.filter_filter, List.filter_filter]
      apply List.filter_congr
      intro param member
      by_cases free : removes config param.1 = true
      · simp [free]
      · obtain ⟨alone, different⟩ := apart param member (by simpa using free)
        simp [free, alone, different]
    rw [filtered]
    exact List.filter_sublist

theorem Obtainable.creatable
    (obtainable : Obtainable library provider env config params parameter) :
    Creatable library provider env config params parameter := by
  obtain ⟨object, created, stored⟩ := obtainable
  refine ⟨object, created, fun reference => ?_⟩
  obtain ⟨ref, random, -⟩ := stored reference
  rw [random]
  rfl

/-- With a good configuration the request is conserved if and only if its parameters can be. -/
theorem conserved_iff_of_good (documented : library.Documented)
    (configured : requestObjectConfig library provider = some config)
    (named : parameterName config = some parameter) :
    Conserved library provider env params ↔
      Conservable library provider env config params parameter := by
  obtain ⟨added, after, delivered⟩ :=
    @paramAdd_eq library provider env config params parameter configured named
  have listed_eq (name : String) : listed library provider name = removes config name := by
    rw [listed, configured]
    rfl
  unfold Conserved
  dsimp only at added after delivered ⊢
  rw [added]
  cases found : passed library provider env config params parameter with
  | none =>
      have impossible : ¬Creatable library provider env config params parameter := by
        rw [← passed_isSome_iff, found]
        exact Bool.false_ne_true
      rw [found, Option.elim_none] at after
      rw [Option.map_none]
      dsimp only
      rw [after, remaining_eq_self_iff]
      constructor
      · intro free
        exact ⟨fun some_removed => absurd some_removed free,
          fun creatable => absurd creatable impossible,
          fun param member removed => absurd ⟨param, member, removed⟩ free⟩
      · intro conservable some_removed
        exact impossible (conservable.obtainable some_removed).creatable
  | some value =>
      have creatable : Creatable library provider env config params parameter := by
        rw [← passed_isSome_iff, found]
        rfl
      rw [found] at added after
      rw [Option.map_some] at added
      rw [Option.elim_some] at after
      have rest : (paramAdd library provider env params).rest =
          CaseTable.unset (remaining config params) parameter := by
        rw [Outcome.rest, added]
        dsimp only
        rw [after, CaseTable.unset_set]
      rw [Option.map_some]
      dsimp only
      constructor
      · intro moved
        have kept := moved.kept
        simp only [listed_eq, rest] at kept
        have shown (param : String × String) (member : param ∈ params)
            (removed : removes config param.1 = true) :
            Obtainable library provider env config params parameter ∧
              Represented library (objectPayload library provider env config params) param := by
          have gone : param ∉ (paramAdd library provider env params).rest := by
            rw [rest, mem_rest_iff]
            rintro ⟨-, alone, -⟩
            exact alone (collides_self member removed)
          obtain ⟨payload, seen, represented⟩ := moved.represented param member gone
          obtain ⟨obtainable, rfl⟩ := (delivered_iff documented payload).mp (delivered ▸ seen)
          exact ⟨obtainable, represented⟩
        refine ⟨fun some_removed => ?_, fun _ => kept_iff.mp kept, fun param member removed => ?_⟩
        · obtain ⟨param, member, removed⟩ := some_removed
          exact (shown param member removed).1
        · exact (represented_iff documented configured member removed).mp
            (shown param member removed).2
      · intro conservable
        have apart := conservable.apart creatable
        refine ⟨?_, ?_, fun param member gone => ?_⟩
        · dsimp only
          rw [after, CaseTable.get_set, if_pos rfl]
        · simp only [listed_eq, rest]
          exact kept_iff.mpr apart
        · have removed : removes config param.1 = true := by
            by_contra free
            rw [rest, mem_rest_iff] at gone
            exact gone ⟨member, apart param member (by simpa using free)⟩
          refine ⟨_, delivered.trans ((delivered_iff documented _).mpr
            ⟨conservable.obtainable ⟨param, member, removed⟩, rfl⟩), ?_⟩
          exact (represented_iff documented configured member removed).mpr
            (conservable.single param member removed)

end Creation

/-! ## A state that is removed -/

/-- The state is moved into an object with a signature algorithm. -/
def stateConfig (alg : String) : Object :=
  [("request_object_type", .str "request"), ("crypto", .obj [("sign_alg", .str alg)]),
    ("copy_and_remove_from_request", .arr [.str "state"])]

/-- The payload of the object. -/
def statePayload : Object :=
  [("iat", .int 0), ("nbf", .int 0), ("exp", .int 30), ("state", .str "abc")]

/-- A library that knows the configurations and the object, and has no keys. -/
def stateLibrary : Library where
  loads text := some (.obj (stateConfig text))
  loadsAny := fun _ => none
  utf8 := fun _ => true
  parseJwk := fun _ => none
  symmetricKey := fun _ _ _ => none
  jwtSign := fun _ _ _ => none
  jwsExport := fun _ => none
  plainSerialize payload := if payload = statePayload then some "object" else none
  jwtEncrypt := fun _ _ _ => none
  opens text := if text = "object" then some statePayload else none

theorem stateLibrary_documented : stateLibrary.Documented := by
  refine ⟨fun _ _ _ _ _ _ _ _ => rfl, fun _ _ _ _ _ signed => ?_, fun payload text plain => ?_,
    fun _ _ _ _ encrypted => ?_⟩
  · cases signed
  · dsimp only [stateLibrary] at plain ⊢
    split at plain
    · next same =>
        cases plain
        rw [if_pos rfl, same]
    · cases plain
  · cases encrypted

/-- A provider whose request objects have a signature algorithm. -/
def stateProvider (alg : String) : Provider where
  requestObject := some alg
  redirectUri := "https://host/redirect"

/-- A call at the beginning of time. -/
def stateEnv : Env where
  now := fun _ => 0
  randStr := some "ref"
  cacheSet := fun _ _ _ => true

end RequestObject

end Proto

end ModAuthOpenidc
