import ModAuthOpenidc.CaseTable
import ModAuthOpenidc.Util.Query

/-!
# Parameters of an authorization request

The module puts its own parameters into the table of an authorization request and then adds those
of two strings, one from the configuration and one that may come with the request. Whether a
parameter belongs to the module is told from the table and from a second one that records what the
strings have added.
-/

namespace ModAuthOpenidc

namespace Proto

namespace RequestParams

open Http Util

/-- Where a value comes from. -/
inductive Origin
  | module
  | configured
  | request
  | dynamic
  deriving DecidableEq, Repr

/-- A value of the table with its origin, which is read nowhere else than in specifications and in
the place of `from_request`. -/
structure Param where
  text : Option String
  origin : Origin
  deriving DecidableEq, Repr

/-! ## The parameters of the module -/

/-- What the module knows about an authorization request. -/
structure AuthRequest where
  responseType : String
  /-- `oidc_cfg_provider_scope_get`. -/
  providerScope : Option String := none
  pathScope : Option String := none
  clientId : String
  state : String
  redirectUri : String
  nonce : Option String := none
  codeChallenge : Option String := none
  /-- The method of the profile, nothing for `oidc_pkce_none`. -/
  pkceMethod : Option String := none
  responseMode : Option String := none
  loginHint : Option String := none
  idTokenHint : Option String := none
  prompt : Option String := none

namespace AuthRequest

/-- `oidc_proto_request_auth_scope_set`. -/
def scope (request : AuthRequest) : Option String :=
  match request.pathScope, request.providerScope with
  | none, scope => scope
  | some path, some scope => if scope ≠ "" then some (scope ++ " " ++ path) else some path
  | some path, none => some path

/-- The parameters in the order in which they are set. -/
def rows (request : AuthRequest) : List (String × Option String) :=
  let pkce := request.codeChallenge.isSome && request.pkceMethod.isSome
  [("response_type", some request.responseType), ("scope", request.scope),
    ("client_id", some request.clientId), ("state", some request.state),
    ("redirect_uri", some request.redirectUri), ("nonce", request.nonce),
    ("code_challenge", if pkce then request.codeChallenge else none),
    ("code_challenge_method", if pkce then request.pkceMethod else none),
    ("response_mode", request.responseMode), ("login_hint", request.loginHint),
    ("id_token_hint", request.idTokenHint), ("prompt", request.prompt)]

/-- One parameter is set if there is a value. -/
def setRow (params : List (String × Param)) (row : String × Option String) :
    List (String × Param) :=
  match row.2 with
  | none => params
  | some value => CaseTable.set params row.1 { text := some value, origin := .module }

/-- The table before the strings are added. -/
def own (request : AuthRequest) : List (String × Param) := request.rows.foldl setRow []

end AuthRequest

/-! ## Adding a string -/

/-- The parameters, and the keys that a string has added. -/
structure Tables where
  params : List (String × Param)
  added : List (String × String)

/-- The key and the value of a word, decoded by `ap_unescape_url`. -/
def wordEntry (unescape : String → String) (word : List Char) : String × String :=
  (unescape (String.ofList (getword '=' word).1), unescape (String.ofList (getword '=' word).2))

/-- The entries of a string, in order. -/
def entries (unescape : String → String) (params : Option String) : List (String × String) :=
  match params with
  | none => []
  | some params => (getwords '&' params.length params.toList).map (wordEntry unescape)

/-- The value of an entry: a `#` stands for the parameter of the request, if the request has it. -/
def entryParam (args : Option String) (configured : Bool) (entry : String × String) :
    Option Param :=
  if entry.2 = "#" then
    if hasParameter args entry.1 then
      some { text := parameterGet args entry.1, origin := .request }
    else none
  else some { text := some entry.2, origin := if configured then .configured else .dynamic }

/-- The part of `oidc_proto_request_auth_params_add` for one entry. -/
def authParamsAddEntry (args : Option String) (configured : Bool) (tables : Tables)
    (entry : String × String) : Tables :=
  match entryParam args configured entry with
  | none => tables
  | some param =>
      if ((CaseTable.get tables.params entry.1).bind Param.text).isSome ∧
          CaseTable.get tables.added entry.1 = none then
        if configured = false ∨ param.origin = .request then tables
        else
          { params := CaseTable.set tables.params entry.1 param
            added := CaseTable.set tables.added entry.1 "" }
      else
        { params := tables.params ++ [(entry.1, param)]
          added := CaseTable.set tables.added entry.1 "" }

/-- `oidc_proto_request_auth_params_add`. -/
def authParamsAdd (unescape : String → String) (args : Option String) (tables : Tables)
    (params : Option String) (configured : Bool) : Tables :=
  (entries unescape params).foldl (authParamsAddEntry args configured) tables

/-- `oidc_proto_request_auth_params_set` up to the request object. -/
def authParamsSet (unescape : String → String) (args : Option String) (request : AuthRequest)
    (configured dynamic : Option String) : List (String × Param) :=
  (authParamsAdd unescape args
    (authParamsAdd unescape args { params := request.own, added := [] } configured true)
    dynamic false).params

/-! ## What happens to one name -/

/-- The values that a string has for a name. -/
def namedParams (unescape : String → String) (args : Option String) (configured : Bool)
    (params : Option String) (name : String) : List Param :=
  (entries unescape params).filterMap fun entry =>
    if CaseTable.fold entry.1 = CaseTable.fold name then entryParam args configured entry else none

/-- The values of a name, and whether a string has added one of them. -/
abbrev View := List Param × Bool

/-- What the tables have for a name. -/
def Tables.view (tables : Tables) (name : String) : View :=
  (CaseTable.values tables.params name, (CaseTable.get tables.added name).isSome)

/-- The next value of a name. -/
def receive (configured : Bool) (view : View) (param : Param) : View :=
  if (view.1.head?.bind Param.text).isSome ∧ view.2 = false then
    if configured = false ∨ param.origin = .request then view else ([param], true)
  else (view.1 ++ [param], true)

variable {unescape : String → String} {args : Option String}

/-- Keys that differ by more than their case do not meet. -/
theorem view_addEntry (configured : Bool) (tables : Tables) (entry : String × String)
    (name : String) :
    (authParamsAddEntry args configured tables entry).view name =
      if CaseTable.fold entry.1 = CaseTable.fold name then
        (entryParam args configured entry).elim (tables.view name)
          (receive configured (tables.view name))
      else tables.view name := by
  unfold authParamsAddEntry
  cases entryParam args configured entry with
  | none => exact (ite_self _).symm
  | some param =>
      by_cases same : CaseTable.fold entry.1 = CaseTable.fold name
      · have values : CaseTable.values tables.params entry.1 =
            CaseTable.values tables.params name := by
          rw [CaseTable.values, same, CaseTable.values]
        have added : CaseTable.get tables.added entry.1 = CaseTable.get tables.added name := by
          rw [CaseTable.get, same, CaseTable.get]
        rw [if_pos same, Option.elim_some, CaseTable.get_eq_head?, values, added]
        unfold receive Tables.view
        simp only [Option.isSome_eq_false_iff, Option.isNone_iff_eq_none]
        split
        · split
          · rfl
          · rw [CaseTable.values_set, CaseTable.get_set, if_pos same.symm, if_pos same.symm]
            rfl
        · rw [CaseTable.values_append, CaseTable.values_cons, CaseTable.get_set, if_pos same,
            if_pos same.symm]
          rfl
      · have other : CaseTable.fold name ≠ CaseTable.fold entry.1 := Ne.symm same
        rw [if_neg same]
        dsimp only
        unfold Tables.view
        split
        · split
          · rfl
          · rw [CaseTable.values_set, CaseTable.get_set, if_neg other, if_neg other]
        · rw [CaseTable.values_append, CaseTable.values_cons, CaseTable.get_set, if_neg same,
            if_neg other, CaseTable.values_nil, List.append_nil]

/-- A string hands its values of a name over one by one. -/
theorem view_add (configured : Bool) (tables : Tables) (params : Option String) (name : String) :
    (authParamsAdd unescape args tables params configured).view name =
      (namedParams unescape args configured params name).foldl (receive configured)
        (tables.view name) := by
  unfold authParamsAdd namedParams
  induction entries unescape params generalizing tables with
  | nil => rfl
  | cons entry entries ih =>
      rw [List.foldl_cons, ih, view_addEntry, List.filterMap_cons]
      by_cases same : CaseTable.fold entry.1 = CaseTable.fold name
      · rw [if_pos same, if_pos same]
        cases entryParam args configured entry with
        | none => rfl
        | some param => rfl
      · rw [if_neg same, if_neg same]

/-- Once a string has added a value, all further ones are added. -/
theorem foldl_receive_added (configured : Bool) (params values : List Param) :
    params.foldl (receive configured) (values, true) = (values ++ params, true) := by
  induction params generalizing values with
  | nil => rw [List.foldl_nil, List.append_nil]
  | cons param params ih =>
      rw [List.foldl_cons, receive, if_neg (by simp), ih, List.append_assoc,
        List.singleton_append]

/-- A name without values takes all of them. -/
theorem foldl_receive_nil (configured : Bool) (params : List Param) :
    params.foldl (receive configured) ([], false) = (params, !params.isEmpty) := by
  cases params with
  | nil => rfl
  | cons param params =>
      rw [List.foldl_cons, receive, if_neg (by simp), foldl_receive_added]
      rfl

/-- The dynamic string adds nothing to a parameter of the module. -/
theorem foldl_receive_dynamic {view : View} (held : (view.1.head?.bind Param.text).isSome)
    (untouched : view.2 = false) (params : List Param) :
    params.foldl (receive false) view = view := by
  induction params with
  | nil => rfl
  | cons param params ih => rw [List.foldl_cons, receive, if_pos ⟨held, untouched⟩,
      if_pos (.inl rfl), ih]

/-- The first value of the configuration that is not from the request replaces a parameter of the
module, and the rest is added. -/
theorem foldl_receive_configured {view : View} (held : (view.1.head?.bind Param.text).isSome)
    (untouched : view.2 = false) (params : List Param) :
    params.foldl (receive true) view =
      match params.dropWhile fun param => param.origin = .request with
      | [] => view
      | replaced => (replaced, true) := by
  induction params with
  | nil => rfl
  | cons param params ih =>
      rw [List.foldl_cons, receive, if_pos ⟨held, untouched⟩, List.dropWhile_cons]
      by_cases forwarded : param.origin = .request
      · rw [if_pos (.inr forwarded), if_pos (decide_eq_true forwarded), ih]
      · rw [if_neg (by simpa using forwarded), if_neg (by simpa using forwarded),
          foldl_receive_added]
        rfl

/-! ## The parameters of the module stay its own -/

namespace AuthRequest

/-- The module sets texts of its own. -/
theorem own_text (request : AuthRequest) {entry : String × Param} (member : entry ∈ request.own) :
    entry.2.text.isSome = true ∧ entry.2.origin = .module := by
  have kept (rows : List (String × Option String)) (params : List (String × Param))
      (before : ∀ entry ∈ params, entry.2.text.isSome = true ∧ entry.2.origin = .module) :
      ∀ entry ∈ rows.foldl setRow params,
        entry.2.text.isSome = true ∧ entry.2.origin = .module := by
    induction rows generalizing params with
    | nil => exact before
    | cons row rows ih =>
        refine ih _ fun entry member => ?_
        unfold setRow at member
        split at member
        · exact before entry member
        · rcases CaseTable.mem_set member with same | older
          · rw [same]
            exact ⟨rfl, rfl⟩
          · exact before entry older
  exact kept request.rows [] (List.forall_mem_nil _) entry member

/-- The values of the module for a name. -/
abbrev ownValues (request : AuthRequest) (name : String) : List Param :=
  CaseTable.values request.own name

theorem mem_ownValues {request : AuthRequest} {name : String} {param : Param}
    (member : param ∈ request.ownValues name) :
    param.text.isSome = true ∧ param.origin = .module := by
  obtain ⟨entry, listed, rfl⟩ := List.mem_map.mp member
  exact request.own_text (List.mem_filter.mp listed).1

/-- The module sets a parameter of a name. -/
def Owns (request : AuthRequest) (name : String) : Prop := request.ownValues name ≠ []

instance (request : AuthRequest) (name : String) : Decidable (request.Owns name) :=
  inferInstanceAs (Decidable (request.ownValues name ≠ []))

theorem Owns.head {request : AuthRequest} {name : String} (owns : request.Owns name) :
    ((request.ownValues name).head?.bind Param.text).isSome = true := by
  obtain ⟨param, rest, values⟩ := List.exists_cons_of_ne_nil owns
  have member : param ∈ request.ownValues name := values ▸ List.mem_cons_self
  rw [values, List.head?_cons, Option.bind_some]
  exact (mem_ownValues member).1

end AuthRequest

section Owned

variable {request : AuthRequest} {configured dynamic : Option String} {name : String}

/-- What a parameter of the module ends up with: its own value unless the configuration has a value
that is not from the request, and otherwise everything from there on. -/
theorem values_of_owns (owns : request.Owns name) :
    CaseTable.values (authParamsSet unescape args request configured dynamic) name =
      match (namedParams unescape args true configured name).dropWhile fun param =>
        param.origin = .request with
      | [] => request.ownValues name
      | replaced => replaced ++ namedParams unescape args false dynamic name := by
  have start : ({ params := request.own, added := [] } : Tables).view name =
      (request.ownValues name, false) := rfl
  have whole : CaseTable.values (authParamsSet unescape args request configured dynamic) name =
      ((authParamsAdd unescape args
        (authParamsAdd unescape args { params := request.own, added := [] } configured true)
        dynamic false).view name).1 := rfl
  rw [whole, view_add, view_add, start, foldl_receive_configured owns.head rfl]
  split
  · rw [foldl_receive_dynamic owns.head rfl]
  · rw [foldl_receive_added]

/-- Any other name gets everything that both strings have. -/
theorem values_of_not_owns (free : ¬request.Owns name) :
    CaseTable.values (authParamsSet unescape args request configured dynamic) name =
      namedParams unescape args true configured name ++
        namedParams unescape args false dynamic name := by
  have start : ({ params := request.own, added := [] } : Tables).view name = ([], false) := by
    have nothing : CaseTable.values request.own name = [] := not_ne_iff.mp free
    rw [Tables.view, nothing]
    rfl
  have whole : CaseTable.values (authParamsSet unescape args request configured dynamic) name =
      ((authParamsAdd unescape args
        (authParamsAdd unescape args { params := request.own, added := [] } configured true)
        dynamic false).view name).1 := rfl
  rw [whole, view_add, view_add, start, foldl_receive_nil]
  cases namedParams unescape args true configured name with
  | nil => rw [List.isEmpty_nil, Bool.not_true, foldl_receive_nil, List.nil_append]
  | cons first rest => rw [List.isEmpty_cons, Bool.not_false, foldl_receive_added]

/-- A value of the configuration that is not from the request is written there. -/
theorem mem_namedParams_configured {param : Param}
    (member : param ∈ namedParams unescape args true configured name) :
    param.origin = .request ∨ ∃ entry ∈ entries unescape configured,
      CaseTable.fold entry.1 = CaseTable.fold name ∧ entry.2 ≠ "#" ∧
        param = { text := some entry.2, origin := .configured } := by
  obtain ⟨entry, listed, found⟩ := List.mem_filterMap.mp member
  split at found
  · next same =>
      unfold entryParam at found
      split at found
      · split at found
        · cases found
          exact .inl rfl
        · cases found
      · next literal =>
          cases found
          exact .inr ⟨entry, listed, same, literal, rfl⟩
  · cases found

/-- A value of the dynamic string is from the request, or is written in that string. -/
theorem mem_namedParams_dynamic {param : Param}
    (member : param ∈ namedParams unescape args false dynamic name) :
    param.origin = .request ∨ param.origin = .dynamic := by
  obtain ⟨entry, -, found⟩ := List.mem_filterMap.mp member
  split at found
  · unfold entryParam at found
    split at found
    · split at found
      · cases found
        exact .inl rfl
      · cases found
    · cases found
      exact .inr rfl
  · cases found

/-- A value of the module for a name, or one that is written in the configuration. -/
def Allowed (unescape : String → String) (request : AuthRequest) (configured : Option String)
    (name : String) (param : Param) : Prop :=
  param ∈ request.ownValues name ∨ ∃ entry ∈ entries unescape configured,
    CaseTable.fold entry.1 = CaseTable.fold name ∧ entry.2 ≠ "#" ∧
      param = { text := some entry.2, origin := .configured }

theorem Allowed.origin {param : Param} (allowed : Allowed unescape request configured name param) :
    param.origin = .module ∨ param.origin = .configured := by
  rcases allowed with own | ⟨entry, -, -, -, rfl⟩
  · exact .inl (AuthRequest.mem_ownValues own).2
  · exact .inr rfl

/-- All values of the parameters of the module are its own or written in the configuration. -/
def OwnedValues (unescape : String → String) (args : Option String) (request : AuthRequest)
    (configured dynamic : Option String) : Prop :=
  ∀ name, request.Owns name →
    ∀ param ∈ CaseTable.values (authParamsSet unescape args request configured dynamic) name,
      Allowed unescape request configured name param

/-- If the configuration has a value for a name, then nothing behind it is from the request and the
dynamic string has no values for the name. -/
def Settled (unescape : String → String) (args : Option String)
    (configured dynamic : Option String) (name : String) : Prop :=
  ∀ before literal after,
    namedParams unescape args true configured name = before ++ literal :: after →
    literal.origin = .configured →
    (∀ param ∈ after, param.origin ≠ .request) ∧ namedParams unescape args false dynamic name = []

theorem dropWhile_append_cons {before after : List Param} {literal : Param}
    (stays : literal.origin = .configured) :
    ∃ rest, (before ++ literal :: after).dropWhile (fun param => param.origin = .request) =
      rest ++ literal :: after := by
  induction before with
  | nil =>
      refine ⟨[], ?_⟩
      rw [List.nil_append, List.dropWhile_cons, if_neg (by simp [stays])]
  | cons first before ih =>
      rw [List.cons_append, List.dropWhile_cons]
      split
      · exact ih
      · exact ⟨first :: before, rfl⟩

/-- The parameters of the module are controlled by nothing but the module and the configuration if
and only if the configuration settles all of those that it replaces. -/
theorem ownedValues_iff (unescape : String → String) (args : Option String)
    (request : AuthRequest) (configured dynamic : Option String) :
    OwnedValues unescape args request configured dynamic ↔
      ∀ name, request.Owns name → Settled unescape args configured dynamic name := by
  refine forall_congr' fun name => forall_congr' fun owns => ?_
  rw [values_of_owns owns]
  generalize named : namedParams unescape args true configured name = static
  have whole : static.takeWhile (fun param => param.origin = .request) ++
      static.dropWhile (fun param => param.origin = .request) = static :=
    List.takeWhile_append_dropWhile
  have static_allowed {param : Param} (member : param ∈ static)
      (not_request : param.origin ≠ .request) :
      Allowed unescape request configured name param := by
    rw [← named] at member
    exact .inr ((mem_namedParams_configured member).resolve_left not_request)
  constructor
  · intro allowed before literal after parts stays
    rw [named] at parts
    obtain ⟨rest, dropped⟩ := @dropWhile_append_cons before after literal stays
    rw [parts, dropped] at allowed
    have listed : ∀ param ∈ (rest ++ literal :: after) ++
        namedParams unescape args false dynamic name,
        Allowed unescape request configured name param := by
      cases rest <;> exact allowed
    refine ⟨fun param member forwarded => ?_, List.eq_nil_iff_forall_not_mem.mpr fun param
      member => ?_⟩
    · have inside := List.mem_append_left (namedParams unescape args false dynamic name)
        (List.mem_append_right rest (List.mem_cons_of_mem literal member))
      have origin := (listed param inside).origin
      rw [forwarded] at origin
      simp at origin
    · have origin := (listed param (List.mem_append_right _ member)).origin
      rcases mem_namedParams_dynamic member with same | same
      all_goals
        rw [same] at origin
        simp at origin
  · intro settled
    cases dropped : static.dropWhile fun param => param.origin = .request with
    | nil =>
        intro param member
        exact .inl member
    | cons literal after =>
        rw [dropped] at whole
        have not_request : literal.origin ≠ .request := by
          have first := List.head?_dropWhile_not (fun param : Param => param.origin = .request)
            static
          rw [dropped] at first
          simpa using first
        have member : literal ∈ static := whole ▸ List.mem_append_right _ List.mem_cons_self
        have stays : literal.origin = .configured := by
          obtain ⟨entry, -, -, -, same⟩ :=
            (mem_namedParams_configured (named ▸ member)).resolve_left not_request
          rw [same]
        obtain ⟨rest, nothing⟩ := settled _ literal after (named.trans whole.symm) stays
        dsimp only
        rw [nothing, List.append_nil]
        refine List.forall_mem_cons.mpr ⟨static_allowed member not_request, fun param later => ?_⟩
        exact static_allowed (whole ▸ List.mem_append_right _ (List.mem_cons_of_mem _ later))
          (rest param later)

/-- A request for the scope of the provider. -/
def scopeRequest : AuthRequest where
  responseType := "code"
  providerScope := some "openid"
  clientId := "client"
  state := "state"
  redirectUri := "https://host/redirect"

/-- If the configuration replaces the scope and also forwards it, the scope of the request is sent.
-/
theorem forwarded_scope_sent :
    ¬OwnedValues id (some "scope=admin") scopeRequest (some "scope=openid&scope=#") none := by
  intro allowed
  have sent : CaseTable.values (authParamsSet id (some "scope=admin") scopeRequest
      (some "scope=openid&scope=#") none) "scope" =
        [{ text := some "openid", origin := .configured },
          { text := some "admin", origin := .request }] := by decide +kernel
  have forwarded := (allowed "scope" (by decide +kernel)
    { text := some "admin", origin := .request }
    (sent ▸ List.mem_cons_of_mem _ List.mem_cons_self)).origin
  revert forwarded
  decide

end Owned

end RequestParams

end Proto

end ModAuthOpenidc
