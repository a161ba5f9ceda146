import ModAuthOpenidc.Handle.Userinfo

/-!
# Requests on an existing session

The handlers that work on a session that was loaded: pages of the application
(`oidc_check_userid_openidc_existing_session`), the info hook of `src/handle/info.c`, and the
refresh request of `src/handle/refresh.c`. Each decides in the end whether the session is saved.
-/

namespace ModAuthOpenidc

namespace Handle

open Proto

/-! ## Surroundings -/

/-- An HTTP status, or `OK`. -/
abbrev Status := Nat

/-- `OK`. -/
def ok : Status := 0

/-- `oidc_on_error_action_t`. -/
inductive OnErrorAction
  | badGateway
  | logout
  | auth
  deriving DecidableEq, Repr

/-- The settings of the location that is accessed. -/
structure Location where
  /-- `OIDCRefreshAccessTokenBeforeExpiry` in seconds, `-1` for never. -/
  refreshAccessTokenBeforeExpiry : Int := -1
  /-- What follows a failed refresh of the access token. -/
  actionOnErrorRefresh : OnErrorAction := .badGateway
  /-- `OIDCUserInfoRefreshInterval`: what follows a failed refresh of the userinfo claims. -/
  actionOnUserinfoError : OnErrorAction := .badGateway
  /-- What `oidc_handle_unauthenticated_user` answers. -/
  unauthenticatedStatus : Status := 302
  /-- What `oidc_logout_request` answers. -/
  logoutStatus : Status := 302
  /-- Whether `OIDCInfoHook` names any data. -/
  infoHook : Bool := false
  /-- `oidc_validate_redirect_url` for the same host. -/
  validRedirectUrl : String → Bool := fun _ => true

/-- `oidc_session_save` for an update. -/
def Exchange.save (x : Exchange) (settings : Settings) (request : Session.Request) :
    Bool × Exchange :=
  let (world, z, rc) := Session.save settings.codec settings.session request x.world x.session false
  (rc, Exchange.record { x with session := z, world } [.saved z.state])

/-- `oidc_session_kill`. -/
def Exchange.kill (x : Exchange) (settings : Settings) (request : Session.Request) : Exchange :=
  let (world, z) := Session.kill settings.codec settings.session request x.world x.session
  Exchange.record { x with session := z, world } [.killed]

theorem Exchange.save_effects (x : Exchange) (settings : Settings) (request : Session.Request) :
    (x.save settings request).2.effects = x.effects ++ [.saved (Session.save settings.codec
      settings.session request x.world x.session false).2.1.state] := rfl

theorem Exchange.kill_effects (x : Exchange) (settings : Settings) (request : Session.Request) :
    (x.kill settings request).effects = x.effects ++ [.killed] := rfl

/-! ## Pages of the application -/

/-- The inactivity timeout. -/
def inactivityInterval (settings : Settings) : Int := settings.sessionInactivityTimeout * 1000000

/-- `oidc_session_pass_tokens`, as far as the session is concerned: its expiry is moved when a tenth
of the timeout, at most a minute, has gone by, and a new session is written again. -/
def sessionPassTokens (settings : Settings) (request : Session.Request) (extendSession : Bool)
    (needsSave : Bool) (z : Session) : Bool × Session :=
  let interval := inactivityInterval settings
  let slack := min (interval / 10) (60 * 1000000)
  let (needsSave, z) :=
    if extendSession && z.expiry - request.now < interval - slack then
      (true, { z with expiry := request.now + interval })
    else
      (needsSave, z)
  if z.getSessionNew then (true, z.setSessionNew false) else (needsSave, z)

/-- `oidc_check_cookie_domain`, for domains, which hold no blanks. -/
def checkCookieDomain (settings : Settings) (z : Session) : Bool :=
  z.getCookieDomain.any fun domain =>
    domain.toList.map Char.toLower = settings.cookieDomain.toList.map Char.toLower

/-- `oidc_handle_session_refresh_error`. -/
def handleSessionRefreshError (settings : Settings) (loc : Location) (request : Session.Request)
    (action : OnErrorAction) (x : Exchange) : Status × Exchange :=
  match action with
  | .logout => (loc.logoutStatus, x.kill settings request)
  | .auth => (loc.unauthenticatedStatus, x.kill settings request)
  | .badGateway => (502, x)

/-- What the refreshes of `oidc_handle_existing_session` meet. -/
structure PageAnswers where
  grant : GrantAnswers
  userinfo : RetrievalAnswers

/-- The refreshes of `oidc_handle_existing_session`: a status if one of them failed. -/
def refreshExistingSession (settings : Settings) (loc : Location) (request : Session.Request)
    (answers : PageAnswers) (needsSave : Bool) (x : Exchange) : Option Status × Bool × Exchange :=
  match refreshAccessTokenBeforeExpiry settings request answers.grant
    loc.refreshAccessTokenBeforeExpiry needsSave x with
  | (false, _, x) =>
      let (status, x) := handleSessionRefreshError settings loc request loc.actionOnErrorRefresh x
      (some status, false, x)
  | (true, needsSave, x) =>
      match userinfoRefreshClaims settings request answers.userinfo needsSave x with
      | (false, _, x) =>
          let (status, x) :=
            handleSessionRefreshError settings loc request loc.actionOnUserinfoError x
          (some status, false, x)
      | (true, needsSave, x) => (none, needsSave, x)

/-- `oidc_handle_existing_session`; the flag says whether the session is to be saved. -/
def handleExistingSession (settings : Settings) (loc : Location) (request : Session.Request)
    (extendSession : Bool) (answers : PageAnswers) (x : Exchange) : Status × Bool × Exchange :=
  if checkCookieDomain settings x.session = false then (401, false, x)
  else if x.session.getSessionExpires < request.now then
    (loc.unauthenticatedStatus, false, x.kill settings request)
  else
    let (failure, needsSave, x) :=
      if extendSession then refreshExistingSession settings loc request answers false x
      else (none, false, x)
    match failure with
    | some status => (status, false, x)
    | none =>
        let (needsSave, z) := sessionPassTokens settings request extendSession needsSave x.session
        (ok, needsSave, { x with session := z })

/-- `oidc_check_userid_openidc_existing_session`. -/
def checkUseridExistingSession (settings : Settings) (loc : Location) (request : Session.Request)
    (answers : PageAnswers) (x : Exchange) : Status × Exchange :=
  match handleExistingSession settings loc request true answers x with
  | (status, needsSave, x) =>
      if status = ok ∧ needsSave = true then
        match x.save settings request with
        | (true, x) => (status, x)
        | (false, x) => (500, x)
      else
        (status, x)

/-! ## The info hook -/

/-- The query parameters of the info hook. -/
structure InfoParameters where
  format : Option String
  accessTokenRefreshInterval : Option String := none
  extendSession : Option String := none

/-- Only `extend_session=false` leaves the session alone. -/
def InfoParameters.extends (parameters : InfoParameters) : Bool :=
  parameters.extendSession ≠ some "false"

/-- The formats of the info hook. -/
def InfoParameters.supported (parameters : InfoParameters) : Bool :=
  parameters.format = some "json" || parameters.format = some "html"

/-- `oidc_info_refresh_access_token`; the flag says whether the session is to be saved. -/
def infoRefreshAccessToken (settings : Settings) (request : Session.Request)
    (answers : GrantAnswers) (interval : Option String) (needsSave : Bool) (x : Exchange) :
    Status × Bool × Exchange :=
  match interval with
  | none => (ok, needsSave, x)
  | some text =>
      if x.session.getRefreshToken.isNone then (ok, needsSave, x)
      else if strToTime text (-1) ≤ -1 then (ok, needsSave, x)
      else if request.now ≤ x.session.getAccessTokenLastRefresh + strToTime text (-1) * 1000000 then
        (ok, needsSave, x)
      else
        match getProviderFromSession settings x.session with
        | none => (500, needsSave, x)
        | some provider =>
            match refreshTokenGrant settings request provider answers x with
            | (false, x) => (500, needsSave, x)
            | (true, x) => (ok, true, x)

/-- `oidc_info_request`.  The document it sends is left out. -/
def infoRequest (settings : Settings) (loc : Location) (request : Session.Request)
    (parameters : InfoParameters) (answers : PageAnswers) (needsSave : Bool) (x : Exchange) :
    Status × Exchange :=
  if parameters.supported = false then (415, x)
  else if x.session.remoteUser.isNone then (401, x)
  else if loc.infoHook = false then (404, x)
  else
    match infoRefreshAccessToken settings request answers.grant
      parameters.accessTokenRefreshInterval needsSave x with
    | (status, needsSave, x) =>
        if status ≠ ok then (status, x)
        else
          let (refreshed, needsSave, x) :=
            if parameters.extends then
              userinfoRefreshClaims settings request answers.userinfo needsSave x
            else (true, needsSave, x)
          if refreshed = false then (500, x)
          else
            let (needsSave, z) :=
              sessionPassTokens settings request parameters.extends needsSave x.session
            let x := { x with session := z }
            if parameters.extends && needsSave then
              match x.save settings request with
              | (true, x) => (ok, x)
              | (false, x) => (500, x)
            else
              (ok, x)

/-- A request to the info hook: `oidc_redirect_uri_handle_info` in the phase of authentication, and
`oidc_content_handle_info_request` with the session it has retained. -/
def infoHookRequest (settings : Settings) (loc : Location) (request : Session.Request)
    (parameters : InfoParameters) (answers content : PageAnswers) (x : Exchange) :
    Status × Exchange :=
  match handleExistingSession settings loc request parameters.extends answers x with
  | (status, needsSave, x) =>
      if status = ok then infoRequest settings loc request parameters content needsSave x
      else (status, x)

/-! ## The refresh request -/

/-- `oidc_refresh_token_request`: the status, and the code that is passed to the page in the case of
an error. -/
def refreshTokenRequest (settings : Settings) (loc : Location) (request : Session.Request)
    (returnTo accessToken : Option String) (answers : GrantAnswers) (x : Exchange) :
    Status × Option String × Exchange :=
  if returnTo.any loc.validRedirectUrl = false then (500, none, x)
  else if accessToken.isNone then (302, some "no_access_token", x)
  else if x.session.getAccessToken.isNone then (302, some "no_access_token_exists", x)
  else if x.session.getAccessToken ≠ accessToken then (302, some "no_access_token_match", x)
  else
    match getProviderFromSession settings x.session with
    | none => (302, some "session_corruption", x)
    | some provider =>
        match refreshTokenGrant settings request provider answers x with
        | (false, x) => (302, some "refresh_failed", x)
        | (true, x) =>
            let (_, z) := sessionPassTokens settings request true true x.session
            match Exchange.save { x with session := z } settings request with
            | (true, x) => (302, none, x)
            | (false, x) => (302, some "error saving session", x)

end Handle

end ModAuthOpenidc
