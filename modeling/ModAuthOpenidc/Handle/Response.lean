import ModAuthOpenidc.Handle.Userinfo

/-!
# Logging in

The last part of `src/handle/response.c`: the outcome of a flow becomes a session.
-/

namespace ModAuthOpenidc

namespace Handle

open Proto

/-- The arguments of `oidc_response_save_in_session`. -/
structure LoginData where
  remoteUser : String
  idToken : Option String
  jwt : Jwt
  userinfo : UserinfoReply
  accessToken : Option String
  tokenType : Option String
  expiresIn : Int
  refreshToken : Option String
  scope : Option String
  sessionState : Option String
  state : Option String
  originalUrl : Option String

/-- `oidc_response_make_sid_iss_unique`. -/
def makeSidIssUnique (sid : Option String) (issuer : String) : String :=
  Session.keyText sid ++ "@" ++ issuer

/-- The `sid` claim of an id_token, else its subject. -/
def loginSid (jwt : Jwt) : Option String := (jwt.claims.getString "sid").or jwt.sub

/-- The key that indexes a session by its subject, if it differs from the first one. -/
def loginSub (provider : Provider) (jwt : Jwt) : Option String :=
  if provider.backchannelLogoutSupported && jwt.sub.isSome && loginSid jwt ≠ jwt.sub then
    some (makeSidIssUnique jwt.sub provider.issuer)
  else
    none

/-- The members of a new session that do not depend on the tokens. -/
def storeLogin (settings : Settings) (provider : Provider) (login : LoginData) (z : Session) :
    Session :=
  let z := z.setIdtokenClaims settings.filter settings.dontStoreIdTokenClaims login.jwt.claims
  let z := if settings.storeIdToken then z.setIdtoken login.idToken else z
  let z := z.setIssuer (some provider.issuer)
  let z := z.setRequestState login.state
  let z := z.setOriginalUrl login.originalUrl
  let z := if login.sessionState.isSome ∧ provider.checkSessionIframe.isSome then
    z.setSessionState login.sessionState else z
  z.setUserinfoRefreshInterval provider.userinfoRefreshInterval

/-- The tokens of a new session. -/
def storeLoginTokens (request : Session.Request) (login : LoginData) (z : Session) : Session :=
  let z := if login.accessToken.isSome then
      (((z.setAccessToken login.accessToken).setAccessTokenType
          login.tokenType).setAccessTokenExpires
        request.now login.expiresIn).setAccessTokenLastRefresh request.now
    else z
  let z := if login.refreshToken.isSome then z.setRefreshToken login.refreshToken else z
  if login.scope.isSome then z.setScope login.scope else z

theorem storeLoginTokens_writes (request : Session.Request) (login : LoginData) (z : Session) :
    Session.Writes ["at", "att", "ate", "atlr", "rt", "scp"] z
      (storeLoginTokens request login z) := by
  have start := Session.Writes.refl ["at", "att", "ate", "atlr", "rt", "scp"] z
  have typed := (start.setText "at" login.accessToken).setText "att" login.tokenType
  have dated := (Session.Writes.ite (-1 < login.expiresIn)
    (typed.setTimestamp "ate" (request.now + login.expiresIn * 1000000)) typed).setTimestamp "atlr"
      request.now
  have issued := Session.Writes.ite (login.accessToken.isSome = true) dated start
  have refreshable := Session.Writes.ite (login.refreshToken.isSome = true)
    (issued.setText "rt" login.refreshToken) issued
  exact .ite _ (refreshable.setText "scp" login.scope) refreshable

/-- The end of a new session. -/
def loginExpires (request : Session.Request) (provider : Provider) (jwt : Jwt) : Int :=
  if provider.sessionMaxDuration = 0 then Session.aprTimeFromSec ⌊jwt.exp⌋
  else request.now + provider.sessionMaxDuration * 1000000

/-- `oidc_response_save_in_session` up to the save, for the session that `oidc_session_reset`
leaves. -/
def responseSaveInSession (settings : Settings) (request : Session.Request) (provider : Provider)
    (login : LoginData) (z : Session) : Session :=
  let z := { z with
    remoteUser := some login.remoteUser
    expiry := request.now + settings.sessionInactivityTimeout * 1000000 }
  let z := storeLogin settings provider login z
  let z := userinfoStoreClaims settings request provider login.userinfo.claims login.userinfo.jwt z
  let z := storeLoginTokens request login z
  let z := z.setSessionExpires (loginExpires request provider login.jwt)
  let z := z.setCookieDomain (some settings.cookieDomain)
  let z := { z with
    sid := some (makeSidIssUnique (loginSid login.jwt) provider.issuer)
    sub := loginSub provider login.jwt }
  z.setSessionNew true

/-- `oidc_session_reset` on the session itself. -/
def sessionReset (request : Session.Request) (z : Session) : Session :=
  { Session.clear z with sid := none, sub := none, uuid := some request.freshId }

/-- `prompt=none` does not switch users. -/
def promptNoneKeepsUser (protoState : Object) (prior : Session) (user : String) : Bool :=
  protoState.getString "pr" ≠ some "none" || prior.remoteUser.all fun current => current = user

/-- The part of `oidc_response_process` behind the match of the state: the flow, the userinfo
claims, the user and the session. The session is returned as it is handed to `oidc_session_save`,
with the id_token that was accepted. -/
def responseProcess (settings : Settings) (request : Session.Request) (ctx : Context)
    (params : Params) (answers : UserinfoAnswers) (cache : NonceCache) (prior : Session) :
    Option (Session × Jwt × UserinfoReply) :=
  match (responseFlows ctx params).exec cache with
  | (none, _) => none
  | (some (params, jwt), _) =>
      let userinfo := userinfoRetrieveInitial settings ctx.provider (params.text "access_token")
        (params.text "token_type") jwt.sub answers
      match settings.requestUser jwt userinfo.claims with
      | none => none
      | some user =>
          if promptNoneKeepsUser ctx.protoState prior user then
            let z := sessionReset request prior
            let z := if ctx.provider.checkSessionIframe.isSome then
                (z.setText "parp" (ctx.protoState.getString "arp")).setText "psc"
                  (ctx.protoState.getString "psc")
              else z
            let login : LoginData :=
              { remoteUser := user
                idToken := params.text "id_token"
                jwt
                userinfo
                accessToken := params.text "access_token"
                tokenType := params.text "token_type"
                expiresIn := strToInt (params.text "expires_in") (-1)
                refreshToken := params.text "refresh_token"
                scope := params.text "scope"
                sessionState := params.text "session_state"
                state := params.text "state"
                originalUrl := ctx.protoState.getString "ou" }
            some (responseSaveInSession settings request ctx.provider login z, jwt, userinfo)
          else
            none

end Handle

end ModAuthOpenidc
