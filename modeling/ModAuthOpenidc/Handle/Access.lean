import ModAuthOpenidc.Handle.Authz
import ModAuthOpenidc.Handle.Requests
import ModAuthOpenidc.OAuth.Token
import ModAuthOpenidc.Scrub
import ModAuthOpenidc.Util.Query

/-!
# From a request to the application

A request goes through three phases of the server: `oidc_check_user_id` finds out who sends it,
`oidc_authz_24_checker` decides whether the claims of the user satisfy what the location requires,
and `oidc_content_handler` answers what the module answers by itself. What it declines, the
application answers. The phases share the fields of the request and the state that the module keeps
with it.
-/

namespace ModAuthOpenidc

namespace Access

open Handle (Status ok)

/-! ## Requests -/

/-- The keys of the request state under which one phase leaves a page to the next ones. -/
inductive Prepared
  | discovery
  | authnPost
  | authnPreserve
  | http
  | html
  deriving DecidableEq, Repr

/-- What the phases share: fields of `request_rec`, and the request state. -/
structure Record where
  user : Option String := none
  headersIn : List Scrub.Header := []
  prepared : List Prepared := []
  /-- Whether the response has a `Location` header. -/
  location : Bool := false
  idToken : Option Json := none
  claims : Option Json := none
  scope : Option String := none

/-- `r->method_number`, as far as it is asked for. -/
inductive Method
  | options
  | other
  deriving DecidableEq, Repr

/-- What `oidc_response_post_preserve_javascript` did: nothing, a page from a template, or a script
for a page. -/
inductive Preserve
  | no
  | template
  | script
  deriving DecidableEq, Repr

/-- `oidc_auth_request_method_t`. -/
inductive AuthRequestMethod
  | post
  | par
  | get
  deriving DecidableEq, Repr

/-- What an authentication request meets. -/
structure AuthnAnswers where
  /-- `oidc_provider_static_config`. -/
  provider : Bool := true
  /-- The nonce and the code verifier could be drawn. -/
  challenge : Bool := true
  /-- The original URL could be stored in the state. -/
  originalUrl : Bool := true
  /-- `oidc_request_authorization_set_cookie`. -/
  cookie : Status := ok
  /-- `oidc_request_check_cookie_domain`. -/
  cookieDomain : Bool := true
  /-- The provider has a client identifier. -/
  clientId : Bool := true
  method : AuthRequestMethod := .get
  /-- Whether `oidc_proto_request_auth_push` got a reference. -/
  pushed : Bool := true
  preserve : Preserve := .no

/-- A request. -/
structure Incoming where
  /-- `ap_auth_type`. -/
  authType : Option String
  /-- The user of the main request, if this is a sub-request. -/
  main : Option (Option String) := none
  /-- The previous request, if this is an internal redirect. -/
  prev : Option Record := none
  method : Method := .other
  /-- `oidc_util_url_matches_redirect_uri`. -/
  matchesRedirectUri : Bool := false
  /-- Whether the path is that of `OIDCMetricsPublish`. -/
  metricsPath : Bool := false
  /-- `r->args`. -/
  args : Option String := none
  /-- The tests of the redirect URI that look at more than the query. -/
  tests : Util.RequestTests := {}
  /-- `oidc_is_auth_capable_request`. -/
  authCapable : Bool := true
  /-- `oidc_oauth_get_bearer_token`. -/
  bearer : Option String := none
  session : Session.Request
  page : Handle.PageAnswers
  authn : AuthnAnswers := {}
  /-- What a request with a token meets at the authorization server. -/
  token : String → OAuth.Request

/-- `ap_is_initial_req`. -/
def Incoming.initial (incoming : Incoming) : Bool := incoming.main.isNone && incoming.prev.isNone

/-! ## Settings -/

/-- `OIDCUnAuthAction`. -/
inductive UnauthAction
  | authenticate
  | pass
  | return401
  | return407
  | return410
  deriving DecidableEq, Repr

/-- `OIDCUnAutzAction`. -/
inductive UnautzAction
  | return401
  | return403
  | return302
  | authenticate
  deriving DecidableEq, Repr

/-- What the phases keep between requests. -/
structure Server where
  world : Session.World
  tokens : OAuth.TokenCache

/-- What a phase says, `none` for `DECLINED`, and what it leaves. -/
structure Outcome where
  verdict : Option Status
  record : Record
  server : Server

/-- The settings of a server and of the location that is accessed. -/
structure Settings where
  scrub : Scrub.Config
  handle : Handle.Settings
  loc : Handle.Location := {}
  oauth : OAuth.Config
  /-- Whether `OIDCRedirectURI` is set. -/
  redirectUri : Bool := true
  /-- Whether `OIDCMetadataDir` is set. -/
  metadataDir : Bool := false
  unauthAction : UnauthAction := .authenticate
  /-- Whether `OIDCUnAuthAction` has an expression. -/
  unauthExpr : Bool := false
  unautzAction : UnautzAction := .return401
  /-- Whether there is a URL to go to after a logout. -/
  defaultSloUrl : Bool := true
  /-- `oidc_get_remote_user` on the claims of a token. -/
  tokenUser : Json → Option String
  /-- The headers with which tokens and claims of a session are passed on. -/
  sessionInfo : Session → List Scrub.Header := fun _ => []
  /-- The headers with which the claims of an access token are passed on. -/
  tokenInfo : Json → String → List Scrub.Header := fun _ _ => []
  library : Authz.Library

/-! ## Headers -/

/-- The names of two headers are the same without regard to case. -/
def sameName (first second : Scrub.Header) : Bool :=
  first.name.map Scrub.toUpper = second.name.map Scrub.toUpper

/-- `oidc_http_hdr_in_set` through `apr_table_set`: the first header of the name gets the value, and
others of the name go. -/
def hdrInSet : List Scrub.Header → Scrub.Header → List Scrub.Header
  | [], header => [header]
  | first :: rest, header =>
      if sameName first header then
        { first with value := header.value } :: rest.filter fun other => !sameName other header
      else first :: hdrInSet rest header

/-- The bytes of a text. -/
def bytes (text : String) : List UInt8 := text.toUTF8.toList

section Phases

variable (settings : Settings)

/-- `oidc_scrub_headers`. -/
def scrubHeaders (r : Record) : Record :=
  { r with headersIn := Scrub.scrubHeaders settings.scrub r.headersIn }

/-- The header of `OIDCAuthNHeader`, if the user is known, and others. -/
def passHeaders (r : Record) (info : List Scrub.Header) : Record :=
  let authn : List Scrub.Header :=
    match r.user, settings.scrub.authnHeader with
    | some user, some name => [⟨name, bytes user⟩]
    | _, _ => []
  { r with headersIn := (authn ++ info).foldl hdrInSet r.headersIn }

/-! ## Pages of the module -/

/-- `oidc_util_html_content_prep` and `oidc_util_http_content_prep`. -/
def contentPrep (kind : Prepared) (r : Record) : Status × Record :=
  (ok, { r with user := some "", prepared := kind :: r.prepared })

/-- `oidc_request_auth_send_get`. -/
def requestAuthSendGet (preserve : Preserve) (r : Record) : Status × Record :=
  match preserve with
  | .no => (302, { r with location := true })
  | .template => contentPrep .http r
  | .script => if .http ∈ r.prepared then (ok, r) else contentPrep .authnPreserve r

/-- `oidc_request_auth`. -/
def requestAuth (answers : AuthnAnswers) (r : Record) : Status × Record :=
  if answers.clientId = false then (500, r)
  else
    match answers.method with
    | .post => contentPrep .authnPost r
    | .par => if answers.pushed then (302, { r with location := true }) else (500, r)
    | .get => requestAuthSendGet answers.preserve r

/-- `oidc_request_authenticate_user` without a provider: discovery is left to the content handler.
-/
def requestAuthenticateUser (answers : AuthnAnswers) (r : Record) : Status × Record :=
  if settings.metadataDir then
    (ok, { r with user := some "", prepared := .discovery :: r.prepared })
  else if answers.provider = false then (500, r)
  else if answers.challenge = false then (500, r)
  else if answers.originalUrl = false then (500, r)
  else if answers.cookie ≠ ok then (answers.cookie, r)
  else if answers.cookieDomain = false then (500, r)
  else requestAuth answers r

/-- `oidc_handle_unauthenticated_user`. -/
def handleUnauthenticatedUser (incoming : Incoming) (r : Record) : Status × Record :=
  match settings.unauthAction with
  | .return410 => (410, r)
  | .return407 => (407, r)
  | .return401 => (401, r)
  | .pass => (ok, scrubHeaders settings { r with user := some "" })
  | .authenticate =>
      if settings.unauthExpr = false ∧ incoming.authCapable = false then (401, r)
      else requestAuthenticateUser settings incoming.authn r

/-- `oidc_logout_request` after a failed refresh, as far as the request is concerned. -/
def logoutRequest (r : Record) : Status × Record :=
  if settings.defaultSloUrl then (302, { r with location := true }) else contentPrep .html r

/-! ## Sessions -/

/-- `oidc_handle_session_refresh_error`. -/
def handleSessionRefreshError (incoming : Incoming) (action : Handle.OnErrorAction)
    (x : Handle.Exchange) (r : Record) : Status × Record × Handle.Exchange :=
  match action with
  | .logout =>
      let (status, r) := logoutRequest settings r
      (status, r, x.kill settings.handle incoming.session)
  | .auth =>
      let (status, r) := handleUnauthenticatedUser settings incoming r
      (status, r, x.kill settings.handle incoming.session)
  | .badGateway => (502, r, x)

/-- `oidc_copy_tokens_to_request_state`. -/
def copyTokensToRequestState (z : Session) (r : Record) : Record :=
  { r with
    idToken := z.getIdtokenClaims <|> r.idToken
    claims := z.jsonGet "uic" <|> r.claims
    scope := z.getText "scp" <|> r.scope }

/-- What is passed on of a session in the end of `oidc_handle_existing_session`. -/
def passSession (extendSession needsSave : Bool) (incoming : Incoming) (x : Handle.Exchange)
    (r : Record) : Status × Record × Bool × Handle.Exchange :=
  let (needsSave, z) :=
    Handle.sessionPassTokens settings.handle incoming.session extendSession needsSave x.session
  let r := copyTokensToRequestState x.session r
  (ok, passHeaders settings r (settings.sessionInfo z), needsSave, { x with session := z })

/-- `oidc_handle_existing_session`; the flag says whether the session is to be saved. -/
def handleExistingSession (extendSession : Bool) (incoming : Incoming) (x : Handle.Exchange)
    (r : Record) : Status × Record × Bool × Handle.Exchange :=
  let r := { r with user := x.session.remoteUser }
  if Handle.checkCookieDomain settings.handle x.session = false then (401, r, false, x)
  else
    let r := scrubHeaders settings r
    if x.session.getSessionExpires < incoming.session.now then
      let (status, r) := handleUnauthenticatedUser settings incoming r
      (status, r, false, x.kill settings.handle incoming.session)
    else if extendSession then
      match Handle.refreshAccessTokenBeforeExpiry settings.handle incoming.session
        incoming.page.grant settings.loc.refreshAccessTokenBeforeExpiry false x with
      | (false, _, x) =>
          let (status, r, x) :=
            handleSessionRefreshError settings incoming settings.loc.actionOnErrorRefresh x r
          (status, r, false, x)
      | (true, needsSave, x) =>
          match Handle.userinfoRefreshClaims settings.handle incoming.session
            incoming.page.userinfo needsSave x with
          | (false, _, x) =>
              let (status, r, x) :=
                handleSessionRefreshError settings incoming settings.loc.actionOnUserinfoError x r
              (status, r, false, x)
          | (true, needsSave, x) => passSession settings extendSession needsSave incoming x r
    else passSession settings extendSession false incoming x r

/-- `oidc_check_userid_openidc_existing_session`. -/
def checkUseridExistingSession (incoming : Incoming) (x : Handle.Exchange) (r : Record) :
    Status × Record × Handle.Exchange :=
  match handleExistingSession settings true incoming x r with
  | (status, r, needsSave, x) =>
      if status = ok ∧ needsSave = true then
        match x.save settings.handle incoming.session with
        | (true, x) => (status, r, x)
        | (false, x) => (500, r, x)
      else (status, r, x)

/-! ## Sub-requests -/

/-- `oidc_subrequest_recycle_user`. -/
def subrequestRecycleUser (incoming : Incoming) (r : Record) : Bool × Record :=
  let user :=
    match incoming.main, incoming.prev with
    | some user, _ => user
    | none, some prev => prev.user
    | none, none => r.user
  (user.isSome, { r with user })

/-- `oidc_copy_tokens_from_prev_request_state`. -/
def copyTokensFromPrevRequestState (incoming : Incoming) (r : Record) : Option Record :=
  match incoming.prev with
  | none => none
  | some prev =>
      match prev.idToken with
      | none => none
      | some idToken =>
          some { r with
            idToken := some idToken
            claims := prev.claims <|> r.claims
            scope := prev.scope <|> r.scope }

/-- `oidc_session_load`. -/
def sessionLoad (incoming : Incoming) (server : Server) : Session × Server :=
  let (world, z, _) :=
    Session.load settings.handle.codec settings.handle.session incoming.session server.world
  (z, { server with world })

/-- The tokens that `oidc_check_userid_openidc_subreq` restores. -/
def restoreTokens (incoming : Incoming) (server : Server) (r : Record) : Record × Server :=
  if r.idToken.isSome then (r, server)
  else
    match copyTokensFromPrevRequestState incoming r with
    | some r => (r, server)
    | none =>
        let (z, server) := sessionLoad settings incoming server
        (copyTokensToRequestState z r, server)

end Phases

/-! ## The phase of authentication -/

/-- The handlers of the redirect URI that are not modelled here. -/
abbrev Handlers := Util.Handler → Incoming → Session → Record → Server → Outcome

section Authentication

variable (settings : Settings) (handlers : Handlers)

/-- `oidc_redirect_uri_handle_in_content_handler`, and what becomes of a CORS preflight: the request
is let through without a user. -/
def anonymous (r : Record) : Record := { scrubHeaders settings r with user := some "" }

/-- `oidc_redirect_uri_handle_info`. -/
def handleInfo (incoming : Incoming) (z : Session) (r : Record) (server : Server) : Outcome :=
  let extendSession := Util.parameterGet incoming.args "extend_session" ≠ some "false"
  match handleExistingSession settings extendSession incoming ⟨z, server.world, []⟩ r with
  | (status, r, _, x) => ⟨some status, r, { server with world := x.world }⟩

/-- `oidc_handle_redirect_uri_request`. -/
def handleRedirectUriRequest (incoming : Incoming) (z : Session) (r : Record) (server : Server) :
    Outcome :=
  match Util.handleRedirectUriRequest incoming.tests z.remoteUser.isSome incoming.args with
  | .unauthorized => ⟨some 401, r, server⟩
  | .invalid => ⟨some 500, r, server⟩
  | .handled .jwks _ => ⟨some ok, anonymous settings r, server⟩
  | .handled .dpop _ => ⟨some ok, anonymous settings r, server⟩
  | .handled .info _ => handleInfo settings incoming z r server
  | .handled handler _ => handlers handler incoming z r server

/-- The rest of `oidc_check_userid_openidc`, for a request whose user is not that of another one. -/
def checkUseridOpenidcLoad (incoming : Incoming) (r : Record) (server : Server) : Outcome :=
  let (z, server) := sessionLoad settings incoming server
  if incoming.matchesRedirectUri then
    handleRedirectUriRequest settings handlers incoming z r server
  else if z.remoteUser.isSome then
    match checkUseridExistingSession settings incoming ⟨z, server.world, []⟩ r with
    | (status, r, x) => ⟨some status, r, { server with world := x.world }⟩
  else
    let (status, r) := handleUnauthenticatedUser settings incoming r
    ⟨some status, r, server⟩

/-- `oidc_check_userid_openidc`. -/
def checkUseridOpenidc (incoming : Incoming) (r : Record) (server : Server) : Outcome :=
  if settings.redirectUri = false then ⟨some 500, r, server⟩
  else if incoming.initial then checkUseridOpenidcLoad settings handlers incoming r server
  else
    match subrequestRecycleUser incoming r with
    | (true, r) =>
        let (r, server) := restoreTokens settings incoming server r
        ⟨some ok, r, server⟩
    | (false, r) => checkUseridOpenidcLoad settings handlers incoming r server

/-- The requests that `oidc_oauth_check_userid` is done with before it looks for a token. -/
def oauthCheckUseridEarly (incoming : Incoming) (r : Record) (server : Server) : Outcome :=
  if incoming.initial = false then
    let (recycled, r) := subrequestRecycleUser incoming r
    ⟨if recycled then some ok else none, r, server⟩
  else if incoming.matchesRedirectUri = false then ⟨none, r, server⟩
  else if Util.hasParameter incoming.args "jwks" then ⟨some ok, anonymous settings r, server⟩
  else if Util.hasParameter incoming.args "remove_at_cache" then
    handlers .removeAtCache incoming {} r server
  else ⟨none, r, server⟩

/-- The rest of `oidc_oauth_check_userid`, for a token. -/
def oauthCheckToken (incoming : Incoming) (accessToken : String) (r : Record) (server : Server) :
    Outcome :=
  match OAuth.validateToken settings.handle.codec settings.oauth (incoming.token accessToken)
    server.tokens with
  | (none, tokens) => ⟨some 401, r, { server with tokens }⟩
  | (some claims, tokens) =>
      let server := { server with tokens }
      let r := { r with claims := some claims }
      match settings.tokenUser claims with
      | none => ⟨some 401, r, server⟩
      | some user =>
          let r := scrubHeaders settings { r with user := some user }
          ⟨some ok, passHeaders settings r (settings.tokenInfo claims accessToken), server⟩

/-- The part of `oidc_oauth_check_userid` that looks for a token. -/
def oauthCheckBearer (incoming : Incoming) (accessToken : Option String) (r : Record)
    (server : Server) : Outcome :=
  match accessToken.orElse fun _ => incoming.bearer with
  | none =>
      if incoming.method = .options then ⟨some ok, anonymous settings r, server⟩
      else ⟨some 401, r, server⟩
  | some accessToken => oauthCheckToken settings incoming accessToken r server

/-- `oidc_oauth_check_userid`. -/
def oauthCheckUserid (incoming : Incoming) (accessToken : Option String) (r : Record)
    (server : Server) : Outcome :=
  match oauthCheckUseridEarly settings handlers incoming r server with
  | ⟨none, r, server⟩ => oauthCheckBearer settings incoming accessToken r server
  | outcome => outcome

/-- `oidc_check_mixed_userid_oauth`. -/
def checkMixedUseridOauth (incoming : Incoming) (r : Record) (server : Server) : Outcome :=
  match incoming.bearer with
  | some accessToken => oauthCheckUserid settings handlers incoming (some accessToken) r server
  | none =>
      if incoming.method = .options then ⟨some ok, anonymous settings r, server⟩
      else checkUseridOpenidc settings handlers incoming r server

/-- The authentication types of the module. -/
inductive AuthType
  | openidConnect
  | oauth20
  | authOpenidc
  deriving DecidableEq, Repr

/-- The authentication type of a location, if it is one of the module: `oidc_enabled` asks whether.
-/
def Incoming.moduleType (incoming : Incoming) : Option AuthType :=
  incoming.authType.bind fun authType =>
    if Proto.strnatcaseEquals authType "openid-connect" then some .openidConnect
    else if Proto.strnatcaseEquals authType "oauth20" then some .oauth20
    else if Proto.strnatcaseEquals authType "auth-openidc" then some .authOpenidc
    else none

/-- `oidc_check_user_id`. -/
def checkUserId (incoming : Incoming) (r : Record) (server : Server) : Outcome :=
  match incoming.moduleType with
  | none => ⟨none, r, server⟩
  | some .openidConnect => checkUseridOpenidc settings handlers incoming r server
  | some .oauth20 => oauthCheckUserid settings handlers incoming none r server
  | some .authOpenidc => checkMixedUseridOauth settings handlers incoming r server

end Authentication

/-! ## The phase of authorization -/

/-- `authz_status`. -/
inductive AuthzStatus
  | denied
  | deniedNoUser
  | granted
  deriving DecidableEq, Repr

/-- `oidc_authz_merge_claims`: the claims of the id_token come before those of the userinfo
endpoint, and these before the scope. -/
def mergeClaims (r : Record) : Object :=
  let result : Object :=
    match r.scope with
    | none => []
    | some scope => Object.set [] "scope" (.str scope)
  let result := Object.merge ((r.claims.map OAuth.members).getD []) result
  Object.merge ((r.idToken.map OAuth.members).getD []) result

section Authorization

variable (settings : Settings)

/-- `oidc_authz_24_worker`, for the words that `ap_getword_conf` finds in what is required, if the
expression that it may be has a value. -/
def authz24Worker (claims : Object) (required : Option (List String)) (r : Record) : AuthzStatus :=
  if r.user.isNone then .deniedNoUser
  else
    match required with
    | none => .denied
    | some words =>
        if (words.takeWhile (· ≠ "")).any fun word =>
            Authz.matchClaim settings.library (.obj claims) word.toList then .granted
        else .denied

/-- `oidc_authz_skip_to_content_handler`. -/
def skipToContentHandler (r : Record) : Bool := r.prepared ≠ []

/-- `oidc_authz_24_unauthorized_user`. -/
def authz24UnauthorizedUser (incoming : Incoming) (r : Record) : AuthzStatus × Record :=
  if incoming.moduleType = some .oauth20 then (.denied, r)
  else
    match settings.unautzAction with
    | .return401 | .return403 | .return302 => (.denied, r)
    | .authenticate =>
        if settings.unauthExpr = true ∧ settings.unauthAction ≠ .authenticate then (.denied, r)
        else if settings.unauthExpr = false ∧ incoming.authCapable = false then (.denied, r)
        else
          let (_, r) := requestAuthenticateUser settings incoming.authn r
          if .discovery ∈ r.prepared ∧ r.location = false then (.granted, r)
          else (.denied, { r with location := false })

/-- `oidc_authz_24_checker` for `Require claim`. -/
def authz24Checker (incoming : Incoming) (required : Option (List String)) (r : Record) :
    AuthzStatus × Record :=
  if r.user = some "" ∧ (settings.unauthAction = .pass ∨ skipToContentHandler r = true ∨
      incoming.method = .options) then (.granted, r)
  else
    match authz24Worker settings (mergeClaims r) required r with
    | .denied =>
        if incoming.authType.isSome then authz24UnauthorizedUser settings incoming r
        else (.denied, r)
    | status => (status, r)

end Authorization

/-! ## The phase of content -/

/-- What answers a request in the phase of content. -/
inductive Content
  | metrics
  | http
  | html
  | info
  | dpop
  | jwks
  | discovery
  | nothing
  deriving DecidableEq, Repr

/-- `oidc_content_handle_redirect_uri_request`. -/
def contentHandleRedirectUriRequest (incoming : Incoming) (r : Record) : Content :=
  if .http ∈ r.prepared then .http
  else if .html ∈ r.prepared then .html
  else if Util.hasParameter incoming.args "info" then .info
  else if Util.hasParameter incoming.args "dpop" then .dpop
  else if Util.hasParameter incoming.args "jwks" then .jwks
  else .nothing

/-- `oidc_content_handler`, which declines what is left to the application. -/
def contentHandler (incoming : Incoming) (r : Record) : Option Content :=
  if incoming.metricsPath then some .metrics
  else if incoming.moduleType.isNone then none
  else if incoming.matchesRedirectUri then some (contentHandleRedirectUriRequest incoming r)
  else if .discovery ∈ r.prepared then some .discovery
  else if .authnPost ∈ r.prepared then some .html
  else if .authnPreserve ∈ r.prepared then some .html
  else if .http ∈ r.prepared then some .http
  else if .html ∈ r.prepared then some .html
  else none

/-! ## The phases together -/

/-- What the application gets of a request that begins with some record, if it gets the request. -/
def application (settings : Settings) (handlers : Handlers) (incoming : Incoming)
    (required : Option (List String)) (r : Record) (server : Server) : Option Record :=
  let outcome := checkUserId settings handlers incoming r server
  if outcome.verdict = some ok then
    match authz24Checker settings incoming required outcome.record with
    | (.granted, r) => if (contentHandler incoming r).isNone then some r else none
    | _ => none
  else none

end Access

end ModAuthOpenidc
