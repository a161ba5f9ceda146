import ModAuthOpenidc.TextSearch

/-!
# Redaction of form bodies

A body is written to the log with the values of its sensitive parameters masked. What is written
does not depend on these values, and it fits into the buffer that is allocated beforehand. A `char`
of the source is a character here.
-/

namespace ModAuthOpenidc

namespace Http

/-! ## One parameter -/

/-- `_oidc_http_sensitive_params`. -/
def sensitiveParams : List String :=
  ["client_secret", "client_assertion", "code", "code_verifier", "refresh_token", "access_token",
    "id_token", "logout_token"]

/-- `oidc_http_param_name_is_sensitive`. -/
def paramNameIsSensitive (name : List Char) : Bool := sensitiveParams.any (·.toList = name)

/-- The mask of a value. -/
def logMask : List Char := ['*', '*', '*']

/-- What is written for a parameter: a sensitive one is kept up to its first equal sign. -/
def redactParam (param : List Char) : List Char :=
  let name := param.takeWhile (· ≠ '=')
  if '=' ∈ param ∧ paramNameIsSensitive name then name ++ '=' :: logMask else param

/-! ## The body -/

/-- The loop of `oidc_http_redact_body_for_log` over the parameters, with what is written already.
-/
def redactBodyLoop : List (List Char) → List Char → List Char
  | [], out => out
  | [param], out => out ++ redactParam param
  | param :: params, out => redactBodyLoop params (out ++ redactParam param ++ ['&'])

/-- `oidc_http_redact_body_for_log`, with `OIDCDebugMaskSecrets`. -/
def redactBodyForLog (maskSecrets : Bool) (data : Option String) : Option String :=
  match data with
  | none => none
  | some data =>
      if maskSecrets then some (String.ofList (redactBodyLoop (data.toList.splitOn '&') []))
      else some data

/-- The parameters that are counted for the size of the buffer. -/
def bodyParams (data : String) : Nat := 1 + data.toList.count '&'

/-- The bytes that are allocated, that of the final null included. -/
def redactBodySize (data : String) : Nat := data.length + 3 * bodyParams data + 1

/-! ## Secrets -/

/-- Two parameters are the same except for the value of a sensitive one. -/
inductive SameButSecret : List Char → List Char → Prop
  | same (param : List Char) : SameButSecret param param
  | secret {name : String} (listed : name ∈ sensitiveParams) (first second : List Char) :
      SameButSecret (name.toList ++ '=' :: first) (name.toList ++ '=' :: second)

theorem sign_notMem {name : String} (listed : name ∈ sensitiveParams) : '=' ∉ name.toList := by
  revert name
  decide

/-- The value of a sensitive parameter is masked. -/
theorem redactParam_sensitive {name : String} (listed : name ∈ sensitiveParams)
    (value : List Char) :
    redactParam (name.toList ++ '=' :: value) = name.toList ++ '=' :: logMask := by
  have known : paramNameIsSensitive name.toList = true :=
    List.any_eq_true.mpr ⟨name, listed, decide_eq_true rfl⟩
  rw [redactParam, takeWhile_ne_append (sign_notMem listed)]
  exact if_pos ⟨List.mem_append_right _ List.mem_cons_self, known⟩

/-- A parameter is copied, or it is sensitive and its value is masked. -/
theorem redactParam_cases (param : List Char) :
    redactParam param = param ∨
      ∃ name ∈ sensitiveParams, ∃ value, param = name.toList ++ '=' :: value ∧
        redactParam param = name.toList ++ '=' :: logMask := by
  by_cases sensitive : '=' ∈ param ∧ paramNameIsSensitive (param.takeWhile (· ≠ '='))
  · obtain ⟨front, value, rfl, clean⟩ := List.eq_append_cons_of_mem sensitive.1
    obtain ⟨name, listed, same⟩ := List.any_eq_true.mp sensitive.2
    rw [takeWhile_ne_append clean, decide_eq_true_iff] at same
    subst same
    exact .inr ⟨name, listed, value, rfl, redactParam_sensitive listed value⟩
  · exact .inl (if_neg sensitive)

/-- A parameter that is not sensitive is copied. -/
theorem redactParam_other {param : List Char}
    (other : ∀ name ∈ sensitiveParams, ¬name.toList ++ ['='] <+: param) :
    redactParam param = param := by
  rcases redactParam_cases param with same | ⟨name, listed, value, rfl, -⟩
  · exact same
  · refine absurd ⟨value, ?_⟩ (other name listed)
    rw [List.append_assoc, List.singleton_append]

theorem redactParam_congr {first second : List Char} (same : SameButSecret first second) :
    redactParam first = redactParam second := by
  cases same with
  | same param => rfl
  | secret listed first second => rw [redactParam_sensitive listed, redactParam_sensitive listed]

theorem map_redactParam_congr {first second : List (List Char)}
    (same : List.Forall₂ SameButSecret first second) :
    first.map redactParam = second.map redactParam := by
  induction same with
  | nil => rfl
  | cons one _ ih => rw [List.map_cons, List.map_cons, redactParam_congr one, ih]

theorem redactParam_length (param : List Char) : (redactParam param).length ≤ param.length + 3 := by
  rcases redactParam_cases param with same | ⟨name, -, value, rfl, masked⟩
  · rw [same]
    exact Nat.le_add_right _ 3
  · rw [masked, List.length_append, List.length_cons, List.length_append, List.length_cons, logMask,
      List.length_cons, List.length_cons, List.length_singleton]
    omega

/-- The mask has no separator. -/
theorem separator_notMem_redactParam {param : List Char} (clean : '&' ∉ param) :
    '&' ∉ redactParam param := by
  rcases redactParam_cases param with same | ⟨name, -, value, rfl, masked⟩
  · rwa [same]
  · rw [List.mem_append, not_or] at clean
    rw [masked, List.mem_append, not_or]
    exact ⟨clean.1, by decide⟩

/-! ## The loop -/

theorem redactBodyLoop_eq {params : List (List Char)} (nonempty : params ≠ []) (out : List Char) :
    redactBodyLoop params out = out ++ ['&'].intercalate (params.map redactParam) := by
  induction params generalizing out with
  | nil => exact absurd rfl nonempty
  | cons param params ih =>
      cases params with
      | nil => rw [redactBodyLoop, List.map_singleton, List.intercalate_singleton]
      | cons next params =>
          rw [redactBodyLoop, ih (List.cons_ne_nil _ _), List.map_cons,
            List.map_cons, List.map_cons,
            List.intercalate_cons_cons, List.append_assoc, List.append_assoc, List.append_assoc]
          exact List.cons_ne_nil _ _

/-- A body is written parameter by parameter. -/
theorem redactBodyForLog_eq (data : String) :
    redactBodyForLog true (some data) =
      some (String.ofList (['&'].intercalate ((data.toList.splitOn '&').map redactParam))) := by
  rw [redactBodyForLog, redactBodyLoop_eq (List.splitOn_ne_nil _ _)]
  rfl

theorem redactBody_length (text : List Char) :
    (['&'].intercalate ((text.splitOn '&').map redactParam)).length ≤
      text.length + 3 * (1 + text.count '&') := by
  induction text using segmentInduction '&' with
  | last text clean =>
      rw [List.splitOn_eq_singleton clean, List.map_singleton, List.intercalate_singleton,
        List.count_eq_zero_of_not_mem clean]
      exact redactParam_length text
  | more first rest clean ih =>
      have bound := redactParam_length first
      have later : (rest.splitOn '&').map redactParam ≠ [] := by
        rw [ne_eq, List.map_eq_nil_iff]
        exact List.splitOn_ne_nil _ _
      rw [List.splitOn_append_cons_self_of_not_mem clean, List.map_cons,
        List.intercalate_cons_of_ne_nil later, List.length_append, List.length_append,
        List.length_singleton, List.count_append, List.count_eq_zero_of_not_mem clean,
        List.count_cons_self, List.length_append, List.length_cons]
      omega

/-- With masking on, bodies that differ in the values of sensitive parameters only are logged alike.
All other parameters are copied, and the buffer is not overrun. -/
theorem redactBodyForLog_hides :
    (∀ first second : String,
      List.Forall₂ SameButSecret (first.toList.splitOn '&') (second.toList.splitOn '&') →
        redactBodyForLog true (some first) = redactBodyForLog true (some second)) ∧
      ∀ data : String, ∃ result, redactBodyForLog true (some data) = some result ∧
        result.toList.splitOn '&' = (data.toList.splitOn '&').map redactParam ∧
        (∀ param ∈ data.toList.splitOn '&',
          (∀ name ∈ sensitiveParams, ¬name.toList ++ ['='] <+: param) → redactParam param = param) ∧
        result.length + 1 ≤ redactBodySize data := by
  constructor
  · intro first second same
    rw [redactBodyForLog_eq, redactBodyForLog_eq, map_redactParam_congr same]
  · intro data
    refine ⟨_, redactBodyForLog_eq data, ?_, fun param _ => redactParam_other, ?_⟩
    · rw [String.toList_ofList, List.splitOn_intercalate]
      · intro param member
        obtain ⟨segment, split, rfl⟩ := List.mem_map.mp member
        exact separator_notMem_redactParam (notMem_of_mem_splitOn split)
      · rw [ne_eq, List.map_eq_nil_iff]
        exact List.splitOn_ne_nil _ _
    · rw [String.length_ofList, redactBodySize, bodyParams]
      exact Nat.succ_le_succ (redactBody_length data.toList)

/-- Two authorization codes, in a body with empty segments and a parameter that merely ends in the
name. -/
theorem redactBodyForLog_hides_code :
    redactBodyForLog true (some "code=a=1&&xcode=b&code=") = some "code=***&&xcode=b&code=***" ∧
      redactBodyForLog true (some "code=a=1&&xcode=b&code=") =
        redactBodyForLog true (some "code=c&&xcode=b&code=d%26") := by
  refine ⟨by decide +kernel, redactBodyForLog_hides.1 _ _ ?_⟩
  have first : "code=a=1&&xcode=b&code=".toList.splitOn '&' =
      ["code".toList ++ '=' :: "a=1".toList, [], "xcode=b".toList, "code".toList ++ '=' :: []] := by
    decide +kernel
  have second : "code=c&&xcode=b&code=d%26".toList.splitOn '&' =
      ["code".toList ++ '=' :: "c".toList, [], "xcode=b".toList,
        "code".toList ++ '=' :: "d%26".toList] := by
    decide +kernel
  rw [first, second]
  exact .cons (.secret (by decide) _ _) (.cons (.same _) (.cons (.same _)
    (.cons (.secret (by decide) _ _) .nil)))

end Http

end ModAuthOpenidc
