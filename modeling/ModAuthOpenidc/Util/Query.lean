import ModAuthOpenidc.Http.Form
import ModAuthOpenidc.Text
import ModAuthOpenidc.TextSearch

/-!
# Query parameters

A request to the redirect URI is dispatched on the parameter that its query has. Whether it has one
is found by a search for substrings, and the value is found by a loop over the segments of the
query.
-/

namespace ModAuthOpenidc

namespace Util

open Http

/-- The name of a parameter with the sign behind it. -/
def parameterKey (name : String) : List Char := name.toList ++ ['=']

/-- `oidc_util_url_has_parameter`. -/
def hasParameter (args : Option String) (param : String) : Bool :=
  match args with
  | none => false
  | some args =>
      strstr (parameterKey param) args.toList = some args.toList ||
        (strstr ('&' :: parameterKey param) args.toList).isSome

/-- The loop of `oidc_util_url_parameter_get` over the tokens. -/
def parameterLoop (key : List Char) : List (List Char) → Option String → Option String
  | [], value => value
  | token :: tokens, value =>
      match token.dropPrefix? key with
      | none => parameterLoop key tokens value
      | some rest => parameterLoop key tokens (some (urlDecode (String.ofList rest)))

/-- `oidc_util_url_parameter_get`: nothing stands for `FALSE`. -/
def parameterGet (args : Option String) (name : String) : Option String :=
  match args with
  | none => none
  | some args =>
      if args = "" then none
      else parameterLoop (parameterKey name) (strtok '&' args.toList) none

/-- The last segment of a query that begins with a parameter, decoded behind its sign. -/
def lastParameter (args : Option String) (name : String) : Option String :=
  ((((args.getD "").toList.splitOn '&').filter fun segment =>
    parameterKey name <+: segment).getLast?).map fun segment =>
      urlDecode (String.ofList (segment.drop (parameterKey name).length))

/-! ## Dispatch -/

/-- What serves a request to the redirect URI. -/
inductive Handler
  | responseRedirect
  | logout
  | responsePost
  | discoveryResponse
  | jwks
  | sessionManagement
  | refreshToken
  | requestUri
  | removeAtCache
  | revokeSession
  | dpop
  | info
  | implicit
  deriving DecidableEq, Repr

/-- The tests of a request that look at more than its query. -/
structure RequestTests where
  /-- `oidc_proto_response_is_redirect`. -/
  responseIsRedirect : Bool := false
  /-- `oidc_redirect_uri_match_response_post`. -/
  responsePost : Bool := false
  /-- `oidc_is_discovery_response`. -/
  discoveryResponse : Bool := false

/-- An entry of the dispatch table: a test of its own or a parameter. -/
structure DispatchEntry where
  test : Option (RequestTests → Option String → Bool) := none
  parameter : Option String := none
  requiresAuth : Bool := false
  handle : Handler

/-- `_oidc_redirect_uri_dispatch`. -/
def redirectUriDispatch : List DispatchEntry :=
  [{ test := some fun tests _ => tests.responseIsRedirect, handle := .responseRedirect },
    { parameter := some "logout", handle := .logout },
    { test := some fun tests _ => tests.responsePost, handle := .responsePost },
    { test := some fun tests _ => tests.discoveryResponse, handle := .discoveryResponse },
    { parameter := some "jwks", handle := .jwks },
    { parameter := some "session", handle := .sessionManagement },
    { parameter := some "refresh", handle := .refreshToken },
    { parameter := some "request_uri", handle := .requestUri },
    { parameter := some "remove_at_cache", handle := .removeAtCache },
    { parameter := some "revoke_session", handle := .revokeSession },
    { parameter := some "dpop", handle := .dpop },
    { parameter := some "info", requiresAuth := true, handle := .info },
    { test := some fun _ args => args.all (· = ""), handle := .implicit }]

/-- Whether an entry takes a request. -/
def DispatchEntry.takes (entry : DispatchEntry) (tests : RequestTests) (args : Option String) :
    Bool :=
  match entry.test with
  | some test => test tests args
  | none => entry.parameter.any (hasParameter args)

/-- What becomes of a request to the redirect URI: a handler with the parameter it was selected by,
`401` or an error page. -/
inductive Routed
  | handled (handler : Handler) (parameter : Option String)
  | unauthorized
  | invalid
  deriving DecidableEq, Repr

/-- `oidc_handle_redirect_uri_request`, with whether the session has a user. -/
def handleRedirectUriRequest (tests : RequestTests) (remoteUser : Bool) (args : Option String) :
    Routed :=
  match redirectUriDispatch.find? fun entry => entry.takes tests args with
  | some entry =>
      if entry.requiresAuth && !remoteUser then .unauthorized
      else .handled entry.handle entry.parameter
  | none =>
      if hasParameter args "error" then .handled .responseRedirect (some "error") else .invalid

/-! ## Agreement -/

theorem hasParameter_some (args param : String) :
    hasParameter (some args) param = true ↔
      parameterKey param <+: args.toList ∨ '&' :: parameterKey param <:+: args.toList := by
  rw [hasParameter, Bool.or_eq_true, decide_eq_true_iff, strstr_eq_self_iff, isSome_strstr_iff]

theorem notMem_parameterKey {name : String} (clean : '&' ∉ name.toList) :
    '&' ∉ parameterKey name := by
  rw [parameterKey, List.mem_append, not_or]
  exact ⟨clean, by decide⟩

/-- The loop ends with the last token that has the key. -/
theorem parameterLoop_eq (key : List Char) (tokens : List (List Char)) (value : Option String) :
    parameterLoop key tokens value =
      (((tokens.filter fun token => key <+: token).getLast?).map fun token =>
        urlDecode (String.ofList (token.drop key.length))).or value := by
  induction tokens generalizing value with
  | nil => rfl
  | cons token tokens ih =>
      rw [parameterLoop, List.filter_cons]
      by_cases front : key <+: token
      · obtain ⟨rest, rfl⟩ := front
        rw [dropPrefix?_eq_some_iff_append.mpr rfl,
          if_pos (decide_eq_true (List.prefix_append _ _)),
          List.getLast?_cons]
        dsimp only
        rw [ih]
        cases (tokens.filter fun token => key <+: token).getLast? with
        | none => simp
        | some last => rfl
      · rw [dropPrefix?_eq_none_iff_not_front.mpr front, if_neg (by simpa using front)]
        exact ih value

/-- Empty segments have no parameter, so the tokens have the same ones. -/
theorem filter_strtok (name : String) (text : List Char) :
    (strtok '&' text).filter (fun token => parameterKey name <+: token) =
      (text.splitOn '&').filter fun segment => parameterKey name <+: segment := by
  rw [strtok, List.filter_filter]
  apply List.filter_congr
  intro segment _
  rw [Bool.and_eq_left_iff_imp]
  intro front
  rw [decide_eq_true_iff] at front ⊢
  rintro rfl
  rw [parameterKey, List.prefix_nil, List.append_eq_nil_iff] at front
  exact List.cons_ne_nil _ _ front.2

/-- The value that is found is that of the last segment with the name. -/
theorem parameterGet_eq (args : Option String) (name : String) :
    parameterGet args name = lastParameter args name := by
  have none_of_nil : ((([] : List Char).splitOn '&').filter fun segment =>
      parameterKey name <+: segment) = [] := by
    rw [← filter_strtok name []]
    rfl
  cases args with
  | none =>
      rw [lastParameter, Option.getD_none, String.toList_empty, none_of_nil]
      rfl
  | some args =>
      rw [lastParameter, Option.getD_some, parameterGet.eq_2]
      split
      · rename_i empty
        rw [empty, String.toList_empty, none_of_nil]
        rfl
      · rw [parameterLoop_eq, filter_strtok, Option.or_none]

/-- A parameter is detected if and only if a value is found for it. -/
theorem hasParameter_eq (args : Option String) {name : String} (clean : '&' ∉ name.toList) :
    hasParameter args name = (parameterGet args name).isSome := by
  rw [parameterGet_eq, lastParameter, Option.isSome_map, Bool.eq_iff_iff, List.getLast?_isSome,
    ← List.isEmpty_eq_false_iff, List.isEmpty_eq_false_iff_exists_mem]
  simp only [List.mem_filter, decide_eq_true_eq]
  rw [← begins_segment_iff (notMem_parameterKey clean)]
  cases args with
  | none =>
      rw [Option.getD_none, String.toList_empty, List.prefix_nil, List.infix_nil, parameterKey]
      simp [hasParameter]
  | some args => exact hasParameter_some args name

theorem parameter_clean {entry : DispatchEntry} (listed : entry ∈ redirectUriDispatch)
    {name : String} (selects : entry.parameter = some name) :
    entry.test = none ∧ '&' ∉ name.toList := by
  have every : ∀ entry ∈ redirectUriDispatch, entry.parameter.all fun name =>
      entry.test.isNone && !name.toList.contains '&' := by
    decide
  have single := every entry listed
  rw [selects, Option.all_some, Bool.and_eq_true, Option.isNone_iff_eq_none] at single
  exact ⟨single.1, by simpa using single.2⟩

/-- A handler that was selected by a parameter finds it. -/
theorem handled_finds {tests : RequestTests} {remoteUser : Bool} {args : Option String}
    {handler : Handler}
    {name : String}
    (handled : handleRedirectUriRequest tests remoteUser args = .handled handler (some name)) :
    (parameterGet args name).isSome = true := by
  rw [handleRedirectUriRequest] at handled
  split at handled
  · rename_i entry found
    split at handled
    · cases handled
    · injection handled with _ selects
      obtain ⟨untested, clean⟩ := parameter_clean (List.mem_of_find?_eq_some found) selects
      have takes := List.find?_some found
      rw [DispatchEntry.takes, untested, selects] at takes
      rw [← hasParameter_eq args clean]
      exact takes
  · split at handled
    · rename_i failed
      injection handled with _ selects
      injection selects with same
      rw [← same, ← hasParameter_eq args (by decide)]
      exact failed
    · cases handled

/-- Detection and retrieval agree for every query, and a handler that was selected by a parameter
finds it. -/
theorem query_parameters_agree (args : Option String) :
    (∀ name : String, '&' ∉ name.toList → '=' ∉ name.toList →
      hasParameter args name = (parameterGet args name).isSome ∧
        parameterGet args name = lastParameter args name) ∧
    ∀ tests remoteUser handler name,
      handleRedirectUriRequest tests remoteUser args = .handled handler (some name) →
        (parameterGet args name).isSome = true := by
  constructor
  · intro name clean _
    exact ⟨hasParameter_eq args clean, parameterGet_eq args name⟩
  · intro tests remoteUser handler name handled
    exact handled_finds handled

/-- A logout whose query repeats the parameter, with an empty segment between. -/
theorem query_parameters_agree_logout :
    hasParameter (some "xlogout=0&logout=a&&logout=b%20c") "logout" = true ∧
      parameterGet (some "xlogout=0&logout=a&&logout=b%20c") "logout" = some "b c" ∧
      (parameterGet (some "xlogout=0&logout=a&&logout=b%20c") "logout").isSome = true := by
  have agree := query_parameters_agree (some "xlogout=0&logout=a&&logout=b%20c")
  have detected := agree.1 "logout" (by decide) (by decide)
  refine ⟨by decide +kernel, ?_, ?_⟩
  · rw [detected.2]
    decide +kernel
  · exact agree.2 {} false .logout "logout" (by decide +kernel)

end Util

end ModAuthOpenidc
