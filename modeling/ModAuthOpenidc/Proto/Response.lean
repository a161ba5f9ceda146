import ModAuthOpenidc.CaseTable
import ModAuthOpenidc.Proto.IdToken

/-!
# Authorization responses

The six flows of `src/proto/response.c` with the parsing of token-endpoint responses from
`src/proto/token.c`, and what `src/handle/response.c` stores afterwards.  A parameter carries a mark
that tells whether the browser or the token endpoint has supplied it; the code reads the text only.
-/

namespace ModAuthOpenidc

namespace Proto

/-! ## Parameters -/

/-- The channel that supplied a parameter. -/
inductive Origin
  | browser
  | tokenEndpoint
  deriving DecidableEq, Repr

/-- A parameter with its origin. -/
structure Param where
  value : String
  origin : Origin
  deriving DecidableEq, Repr

/-- The parameter table of a response. -/
abbrev Params := List (String × Param)

/-- `apr_table_get`. -/
def Params.text (params : Params) (name : String) : Option String :=
  (CaseTable.get params name).map Param.value

/-- `apr_table_set` with a value from the token endpoint, if there is one. -/
def Params.resolve (params : Params) (name : String) (value : Option String) : Params :=
  match value with
  | none => params
  | some value => CaseTable.set params name { value, origin := .tokenEndpoint }

/-! ## The token endpoint -/

/-- What `oidc_proto_token_endpoint_request` returns. -/
structure TokenResponse where
  idToken : Option String
  accessToken : Option String
  tokenType : Option String
  expiresIn : Int
  refreshToken : Option String
  scope : Option String
  deriving DecidableEq, Repr

/-- `_oidc_strnatcasecmp(a, b) == 0` for a word `b` without digits: the comparison skips blanks and
ignores case. -/
def strnatcaseEquals (a b : String) : Bool :=
  (a.toList.filter fun c => !isSpace c).map Char.toLower = b.toList.map Char.toLower

/-- `oidc_proto_validate_token_type`. -/
def validateTokenType (provider : Provider) (tokenType : String) : Bool :=
  strnatcaseEquals tokenType "Bearer" || strnatcaseEquals tokenType "DPoP" ||
    provider.userinfoEndpointUrl.isNone || provider.userinfoEndpointUrl = some ""

/-- The lifetime of an access token: a string or an integer, clamped to `int`. -/
def parseExpiresIn (response : Object) : Int :=
  match response.get "expires_in" with
  | some (.str text) => strToInt (some text) (-1)
  | some (.int _) => response.getInt "expires_in" (-1)
  | _ => -1

/-- `oidc_proto_token_endpoint_response_parse`. -/
def tokenEndpointResponseParse (provider : Provider) (response : Object) : Option TokenResponse :=
  let accessToken := response.getString "access_token"
  let tokenType := response.getString "token_type"
  if provider.dpopRequired && !tokenType.any (fun kind => strnatcaseEquals kind "DPoP") then none
  else
    -- a token of an unusable type is dropped together with its type
    let usable := tokenType.all (validateTokenType provider)
    some
      { idToken := response.getString "id_token"
        accessToken := if usable then accessToken else none
        tokenType := if usable then tokenType else none
        expiresIn := parseExpiresIn response
        refreshToken := response.getString "refresh_token"
        scope := response.getString "scope" }

/-! ## Validation against the response type -/

/-- What a flow works with, apart from the parameters. -/
structure Context where
  provider : Provider
  jose : Jose
  env : Env
  /-- The restored state of the request. -/
  protoState : Object
  responseMode : String
  /-- The JSON response of the token endpoint for a code, nothing when the call fails. -/
  tokenEndpoint : Option String → Option Object

/-- `oidc_proto_validate_code_response`. -/
def validateCodeResponse (responseType : String) (response : TokenResponse) : Bool :=
  (spacedStringContains (some responseType) "id_token" || response.idToken.isSome) &&
    (spacedStringContains (some responseType) "token" ||
      response.accessToken.isSome && response.tokenType.isSome)

/-- `oidc_proto_validate_response_type`. -/
def validateResponseType (responseType : String) (code idToken accessToken : Option String) :
    Bool :=
  decide (code.isSome = spacedStringContains (some responseType) "code") &&
    decide (idToken.isSome = spacedStringContains (some responseType) "id_token") &&
    decide (accessToken.isSome = spacedStringContains (some responseType) "token")

/-- `oidc_proto_validate_response_mode`. -/
def validateResponseMode (ctx : Context) (defaultResponseMode : String) : Bool :=
  (ctx.protoState.getString "rm").getD defaultResponseMode = ctx.responseMode

/-- `oidc_proto_validate_issuer_client_id`. -/
def validateIssuerClientId (provider : Provider) (issuer clientId : Option String) : Bool :=
  (match issuer with
    | some issuer => decide (provider.issuer = issuer)
    | none => !provider.responseRequireIss) &&
  clientId.all fun clientId => provider.clientId = clientId

/-- `oidc_proto_validate_response_type_mode_issuer`. -/
def validateResponseTypeModeIssuer (ctx : Context) (responseType : String) (params : Params)
    (defaultResponseMode : String) : Bool :=
  validateIssuerClientId ctx.provider (params.text "iss") (params.text "client_id") &&
    validateResponseType responseType (params.text "code") (params.text "id_token")
      (params.text "access_token") &&
    validateResponseMode ctx defaultResponseMode

/-- The code-flow flag of `oidc_proto_parse_idtoken_and_validate_code`. -/
def isCodeFlow (responseType : String) : Bool :=
  spacedStringContains (some responseType) "code" &&
    !spacedStringContains (some responseType) "id_token"

/-- `oidc_proto_parse_idtoken_and_validate_code`. -/
def parseIdtokenAndValidateCode (ctx : Context) (responseType : String) (params : Params)
    (mustValidateCode : Bool) : Flow Jwt := do
  let jwt ← idtokenParse ctx.jose ctx.env ctx.provider (params.text "id_token")
    (ctx.protoState.getString "n") (isCodeFlow responseType)
  check (!mustValidateCode || idtokenValidateCode ctx.jose jwt responseType (params.text "code"))
  pure jwt

/-- `oidc_proto_resolve_code`. -/
def resolveCode (ctx : Context) (code : Option String) : Option TokenResponse :=
  (ctx.tokenEndpoint code).bind (tokenEndpointResponseParse ctx.provider)

/-- The parameters set by `oidc_proto_resolve_code_and_validate_response`. -/
def mergeTokenResponse (params : Params) (response : TokenResponse) : Params :=
  let params := if (params.text "id_token").isNone then params.resolve "id_token" response.idToken
    else params
  let params :=
    if response.accessToken.isSome then
      let params := params.resolve "access_token" response.accessToken
      let params := params.resolve "token_type" response.tokenType
      if response.expiresIn ≠ -1 then
        params.resolve "expires_in" (some (toString response.expiresIn))
      else params
    else params
  (params.resolve "refresh_token" response.refreshToken).resolve "scope" response.scope

/-- `oidc_proto_resolve_code_and_validate_response`. -/
def resolveCodeAndValidateResponse (ctx : Context) (responseType : String) (params : Params) :
    Option Params :=
  match resolveCode ctx (params.text "code") with
  | none => none
  | some response =>
      if validateCodeResponse responseType response then some (mergeTokenResponse params response)
      else none

/-- The table of `oidc_proto_response_strip_params`. -/
def stripList : List (String × List String) :=
  [("code", ["access_token", "token_type", "expires_in", "id_token", "refresh_token", "scope"]),
    ("code id_token", ["access_token", "token_type", "expires_in", "refresh_token", "scope"]),
    ("code token", ["id_token", "refresh_token", "scope"]),
    ("code id_token token", ["refresh_token", "scope"]),
    ("id_token token", ["refresh_token"]),
    ("id_token", ["token_type", "expires_in", "refresh_token"])]

/-- `oidc_proto_response_strip_params`. -/
def stripParams (params : Params) (responseType : String) : Params :=
  ((stripList.lookup responseType).getD []).foldl CaseTable.unset params

/-! ## The flows -/

/-- `oidc_proto_response_code_idtoken`. -/
def responseCodeIdtoken (ctx : Context) (params : Params) : Flow (Params × Jwt) := do
  let responseType := "code id_token"
  check (validateResponseTypeModeIssuer ctx responseType params "fragment")
  let jwt ← parseIdtokenAndValidateCode ctx responseType params true
  let params := stripParams params responseType
  let params ← require (resolveCodeAndValidateResponse ctx responseType params)
  pure (params, jwt)

/-- `oidc_proto_response_code_token`. -/
def responseCodeToken (ctx : Context) (params : Params) : Flow (Params × Jwt) := do
  let responseType := "code token"
  check (validateResponseTypeModeIssuer ctx responseType params "fragment")
  let params := stripParams params responseType
  let params ← require (resolveCodeAndValidateResponse ctx responseType params)
  let jwt ← parseIdtokenAndValidateCode ctx responseType params false
  pure (params, jwt)

/-- `oidc_proto_response_code`. -/
def responseCode (ctx : Context) (params : Params) : Flow (Params × Jwt) := do
  let responseType := "code"
  check (validateResponseTypeModeIssuer ctx responseType params "query")
  let params := stripParams params responseType
  let params ← require (resolveCodeAndValidateResponse ctx responseType params)
  let jwt ← parseIdtokenAndValidateCode ctx responseType params true
  check ((params.text "access_token").isNone ||
    idtokenValidateAccessToken ctx.jose jwt responseType (params.text "access_token"))
  pure (params, jwt)

/-- `oidc_proto_handle_implicit_flow`. -/
def handleImplicitFlow (ctx : Context) (responseType : String) (params : Params) : Flow Jwt := do
  check (validateResponseTypeModeIssuer ctx responseType params "fragment")
  parseIdtokenAndValidateCode ctx responseType params true

/-- `oidc_proto_response_code_idtoken_token`. -/
def responseCodeIdtokenToken (ctx : Context) (params : Params) : Flow (Params × Jwt) := do
  let responseType := "code id_token token"
  let jwt ← handleImplicitFlow ctx responseType params
  check (idtokenValidateAccessToken ctx.jose jwt responseType (params.text "access_token"))
  let params := stripParams params responseType
  let params ← require (resolveCodeAndValidateResponse ctx responseType params)
  pure (params, jwt)

/-- `oidc_proto_response_idtoken_token`. -/
def responseIdtokenToken (ctx : Context) (params : Params) : Flow (Params × Jwt) := do
  let responseType := "id_token token"
  let jwt ← handleImplicitFlow ctx responseType params
  check (idtokenValidateAccessToken ctx.jose jwt responseType (params.text "access_token"))
  pure (stripParams params responseType, jwt)

/-- `oidc_proto_response_idtoken`. -/
def responseIdtoken (ctx : Context) (params : Params) : Flow (Params × Jwt) := do
  let responseType := "id_token"
  let jwt ← handleImplicitFlow ctx responseType params
  pure (stripParams params responseType, jwt)

/-- `oidc_response_flows`. -/
def responseFlows (ctx : Context) (params : Params) : Flow (Params × Jwt) :=
  let requested := ctx.protoState.getString "rt"
  if spacedStringEquals requested (some "code id_token token") then
    responseCodeIdtokenToken ctx params
  else if spacedStringEquals requested (some "code id_token") then
    responseCodeIdtoken ctx params
  else if spacedStringEquals requested (some "code token") then
    responseCodeToken ctx params
  else if spacedStringEquals requested (some "code") then
    responseCode ctx params
  else if spacedStringEquals requested (some "id_token token") then
    responseIdtokenToken ctx params
  else if spacedStringEquals requested (some "id_token") then
    responseIdtoken ctx params
  else
    failure

/-! ## What is stored -/

/-- The parameters kept in the session after a login. -/
structure Stored where
  accessToken : Option Param
  tokenType : Option Param
  expiresIn : Option (Int × Origin)
  refreshToken : Option Param
  scope : Option Param
  idToken : Option Param

/-- A lifetime as `oidc_session_set_access_token_expires` accepts it. -/
def storedExpiresIn (param : Param) : Option (Int × Origin) :=
  let expiresIn := strToInt (some param.value) (-1)
  if -1 < expiresIn then some (expiresIn, param.origin) else none

/-- The part of `oidc_response_save_in_session` that stores parameters, in a session that has just
been reset. -/
def saveInSession (storeIdToken : Bool) (params : Params) : Stored :=
  let accessToken := CaseTable.get params "access_token"
  { accessToken
    tokenType := if accessToken.isSome then CaseTable.get params "token_type" else none
    expiresIn :=
      if accessToken.isSome then (CaseTable.get params "expires_in").bind storedExpiresIn else none
    refreshToken := CaseTable.get params "refresh_token"
    scope := CaseTable.get params "scope"
    idToken := if storeIdToken then CaseTable.get params "id_token" else none }

/-! ## What a completed flow has done -/

/-- An id_token was taken from a parameter table and passed its checks. -/
def Parsed (ctx : Context) (responseType : String) (params : Params) (mustValidateCode : Bool)
    (jwt : Jwt) : Prop :=
  ∃ cache cache',
    (parseIdtokenAndValidateCode ctx responseType params mustValidateCode).exec cache =
      (some jwt, cache')

/-- The steps of a flow that succeeded, by kind: the implicit flows, the hybrid flows with an
id_token from the browser, and the flows with an id_token from the token endpoint. -/
inductive Completed (ctx : Context) (params : Params) : String → Params → Jwt → Prop
  | implicit {responseType : String} {jwt : Jwt}
      (kind : responseType = "id_token" ∨ responseType = "id_token token")
      (parsed : Parsed ctx responseType params true jwt)
      (hashed : responseType = "id_token token" →
      idtokenValidateAccessToken ctx.jose jwt responseType
        (params.text "access_token") = true) :
      Completed ctx params responseType (stripParams params responseType) jwt
  | hybrid {responseType : String} {final : Params} {jwt : Jwt}
      (kind : responseType = "code id_token" ∨ responseType = "code id_token token")
      (parsed : Parsed ctx responseType params true jwt)
      (hashed : responseType = "code id_token token" → idtokenValidateAccessToken ctx.jose jwt
        responseType (params.text "access_token") = true)
      (resolved : resolveCodeAndValidateResponse ctx responseType
      (stripParams params responseType) =
        some final) :
      Completed ctx params responseType final jwt
  | code {responseType : String} {final : Params} {mustValidateCode : Bool} {jwt : Jwt}
      (kind : responseType = "code" ∨ responseType = "code token")
      (resolved : resolveCodeAndValidateResponse ctx responseType
      (stripParams params responseType) =
        some final)
      (parsed : Parsed ctx responseType final mustValidateCode jwt) :
      Completed ctx params responseType final jwt

section Completed

variable {ctx : Context} {params final : Params} {jwt : Jwt} {cache cache' : NonceCache}

/-- The parameters that arrived fit a response type. -/
def Fits (ctx : Context) (params : Params) (responseType : String) : Prop :=
  ∃ mode, validateResponseTypeModeIssuer ctx responseType params mode = true

theorem responseCodeIdtoken_completed
    (ran : (responseCodeIdtoken ctx params).exec cache = (some (final, jwt), cache')) :
    Fits ctx params "code id_token" ∧ Completed ctx params "code id_token" final jwt := by
  obtain ⟨_, _, checked, ran⟩ := exec_bind ran
  obtain ⟨token, _, parsed, ran⟩ := exec_bind ran
  obtain ⟨table, _, required, ran⟩ := exec_bind ran
  obtain ⟨same, -⟩ := exec_pure ran
  obtain ⟨rfl, rfl⟩ := Prod.mk.inj same
  refine ⟨⟨_, (exec_check checked).1⟩, .hybrid (.inl rfl) ⟨_, _, parsed⟩ ?_
    (exec_require required).1⟩
  intro different
  exact absurd different (by decide)

theorem responseCodeToken_completed
    (ran : (responseCodeToken ctx params).exec cache = (some (final, jwt), cache')) :
    Fits ctx params "code token" ∧ Completed ctx params "code token" final jwt := by
  obtain ⟨_, _, checked, ran⟩ := exec_bind ran
  obtain ⟨table, _, required, ran⟩ := exec_bind ran
  obtain ⟨token, _, parsed, ran⟩ := exec_bind ran
  obtain ⟨same, -⟩ := exec_pure ran
  obtain ⟨rfl, rfl⟩ := Prod.mk.inj same
  exact ⟨⟨_, (exec_check checked).1⟩, .code (.inr rfl) (exec_require required).1 ⟨_, _, parsed⟩⟩

theorem responseCode_completed
    (ran : (responseCode ctx params).exec cache = (some (final, jwt), cache')) :
    Fits ctx params "code" ∧ Completed ctx params "code" final jwt := by
  obtain ⟨_, _, checked, ran⟩ := exec_bind ran
  obtain ⟨table, _, required, ran⟩ := exec_bind ran
  obtain ⟨token, _, parsed, ran⟩ := exec_bind ran
  obtain ⟨_, _, -, ran⟩ := exec_bind ran
  obtain ⟨same, -⟩ := exec_pure ran
  obtain ⟨rfl, rfl⟩ := Prod.mk.inj same
  exact ⟨⟨_, (exec_check checked).1⟩, .code (.inl rfl) (exec_require required).1 ⟨_, _, parsed⟩⟩

theorem handleImplicitFlow_parsed {responseType : String}
    (ran : (handleImplicitFlow ctx responseType params).exec cache = (some jwt, cache')) :
    Fits ctx params responseType ∧ Parsed ctx responseType params true jwt := by
  obtain ⟨_, _, checked, parsed⟩ := exec_bind ran
  exact ⟨⟨_, (exec_check checked).1⟩, _, _, parsed⟩

theorem responseCodeIdtokenToken_completed
    (ran : (responseCodeIdtokenToken ctx params).exec cache = (some (final, jwt), cache')) :
    Fits ctx params "code id_token token" ∧
        Completed ctx params "code id_token token" final jwt := by
  obtain ⟨token, _, handled, ran⟩ := exec_bind ran
  obtain ⟨_, _, hashed, ran⟩ := exec_bind ran
  obtain ⟨table, _, required, ran⟩ := exec_bind ran
  obtain ⟨same, -⟩ := exec_pure ran
  obtain ⟨rfl, rfl⟩ := Prod.mk.inj same
  obtain ⟨fits, parsed⟩ := handleImplicitFlow_parsed handled
  exact ⟨fits, .hybrid (.inr rfl) parsed (fun _ => (exec_check hashed).1) (exec_require required).1⟩

theorem responseIdtokenToken_completed
    (ran : (responseIdtokenToken ctx params).exec cache = (some (final, jwt), cache')) :
    Fits ctx params "id_token token" ∧ Completed ctx params "id_token token" final jwt := by
  obtain ⟨token, _, handled, ran⟩ := exec_bind ran
  obtain ⟨_, _, hashed, ran⟩ := exec_bind ran
  obtain ⟨same, -⟩ := exec_pure ran
  obtain ⟨rfl, rfl⟩ := Prod.mk.inj same
  obtain ⟨fits, parsed⟩ := handleImplicitFlow_parsed handled
  exact ⟨fits, .implicit (.inr rfl) parsed fun _ => (exec_check hashed).1⟩

theorem responseIdtoken_completed
    (ran : (responseIdtoken ctx params).exec cache = (some (final, jwt), cache')) :
    Fits ctx params "id_token" ∧ Completed ctx params "id_token" final jwt := by
  obtain ⟨token, _, handled, ran⟩ := exec_bind ran
  obtain ⟨same, -⟩ := exec_pure ran
  obtain ⟨rfl, rfl⟩ := Prod.mk.inj same
  obtain ⟨fits, parsed⟩ := handleImplicitFlow_parsed handled
  refine ⟨fits, .implicit (.inl rfl) parsed ?_⟩
  intro different
  exact absurd different (by decide)

/-- A successful response went through the flow of its response type. -/
theorem responseFlows_completed
    (ran : (responseFlows ctx params).exec cache = (some (final, jwt), cache')) :
    ∃ responseType, spacedStringEquals (ctx.protoState.getString "rt") (some responseType) = true ∧
      Fits ctx params responseType ∧ Completed ctx params responseType final jwt := by
  unfold responseFlows at ran
  dsimp only at ran
  split at ran
  · next requested => exact ⟨_, requested, responseCodeIdtokenToken_completed ran⟩
  · split at ran
    · next requested => exact ⟨_, requested, responseCodeIdtoken_completed ran⟩
    · split at ran
      · next requested => exact ⟨_, requested, responseCodeToken_completed ran⟩
      · split at ran
        · next requested => exact ⟨_, requested, responseCode_completed ran⟩
        · split at ran
          · next requested => exact ⟨_, requested, responseIdtokenToken_completed ran⟩
          · split at ran
            · next requested => exact ⟨_, requested, responseIdtoken_completed ran⟩
            · cases (Prod.mk.inj ran).1

end Completed

end Proto

end ModAuthOpenidc
