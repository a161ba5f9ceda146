import ModAuthOpenidc.Handle.Refresh

/-!
# Userinfo claims of a session

`src/handle/userinfo.c`: the claims of the userinfo endpoint are fetched with the access token of
the session, after a refresh of the token if the endpoint turns it down, and replace the stored
ones.
-/

namespace ModAuthOpenidc

namespace Handle

open Proto

/-- What a retrieval of userinfo claims meets: a request, a refresh of the access token, and a
second request. -/
structure RetrievalAnswers where
  first : UserinfoAnswers
  grant : GrantAnswers
  second : UserinfoAnswers

/-- A userinfo endpoint is set and not disabled. -/
def userinfoEnabled (provider : Provider) : Bool :=
  provider.userinfoEndpointUrl.isSome && provider.userinfoEndpointUrl ≠ some ""

/-- `oidc_userinfo_store_claims`. -/
def userinfoStoreClaims (settings : Settings) (request : Session.Request) (provider : Provider)
    (claims : Option Object) (jwt : Option String) (z : Session) : Session :=
  let z := z.setUserinfoClaims settings.filter claims
  let z := match claims with
    | some _ => if settings.session.sessionType = .clientCookie then z else z.setUserinfoJwt jwt
    | none => z.setUserinfoJwt none
  if -1 < provider.userinfoRefreshInterval then z.resetUserinfoLastRefresh request.now else z

theorem userinfoStoreClaims_writes (settings : Settings) (request : Session.Request)
    (provider : Provider) (claims : Option Object) (jwt : Option String) (z : Session) :
    Session.Writes ["uic", "uij", "uilr"] z
      (userinfoStoreClaims settings request provider claims jwt z) := by
  have stored := (Session.Writes.refl ["uic", "uij", "uilr"] z).jsonSet "uic"
    ((settings.filter.apply claims).map .obj)
  cases claims with
  | none =>
      have dropped := stored.setText "uij" none
      exact .ite _ (dropped.setTimestamp "uilr" request.now) dropped
  | some claims =>
      have kept := Session.Writes.ite (settings.session.sessionType = .clientCookie) stored
        (stored.setText "uij" jwt)
      exact .ite _ (kept.setTimestamp "uilr" request.now) kept

/-- Store the outcome of a retrieval and record the claims it has found. -/
def Exchange.storeUserinfo (x : Exchange) (settings : Settings) (request : Session.Request)
    (provider : Provider) (reply : UserinfoReply) : Exchange :=
  Exchange.record
    { x with
      session := userinfoStoreClaims settings request provider reply.claims reply.jwt x.session }
    (reply.claims.toList.map Effect.userinfo)

/-- `oidc_userinfo_retrieve_claims` upon an authorization response, when there is no session yet. -/
def userinfoRetrieveInitial (settings : Settings) (provider : Provider)
    (accessToken tokenType idTokenSub : Option String) (answers : UserinfoAnswers) :
    UserinfoReply :=
  if userinfoEnabled provider && accessToken.isSome then
    userinfoRequest settings.jose provider settings.noUserinfoSub idTokenSub tokenType answers {}
  else
    {}

/-- `oidc_userinfo_retrieve_claims` for an existing session. -/
def userinfoRetrieveClaims (settings : Settings) (request : Session.Request) (provider : Provider)
    (answers : RetrievalAnswers) (x : Exchange) : UserinfoReply × Exchange :=
  if userinfoEnabled provider && x.session.getAccessToken.isSome then
    let idTokenSub := x.session.idtokenSub
    let reply := userinfoRequest settings.jose provider settings.noUserinfoSub idTokenSub
      x.session.getAccessTokenType answers.first {}
    -- only a 401 says that a fresh token may help
    if reply.claims.isSome || reply.responseCode ≠ 401 then (reply, x)
    else
      match refreshTokenGrant settings request provider answers.grant x with
      | (false, x) => (reply, x)
      | (true, x) =>
          (userinfoRequest settings.jose provider settings.noUserinfoSub idTokenSub
            x.session.getAccessTokenType answers.second reply, x)
  else
    ({}, x)

/-- The claims were fetched long enough ago to be fetched again. -/
def userinfoDue (request : Session.Request) (z : Session) : Bool :=
  z.getUserinfoLastRefresh + z.getUserinfoRefreshInterval * 1000000 < request.now

/-- `oidc_userinfo_refresh_claims`; the second flag says whether the session is to be saved. -/
def userinfoRefreshClaims (settings : Settings) (request : Session.Request)
    (answers : RetrievalAnswers) (needsSave : Bool) (x : Exchange) : Bool × Bool × Exchange :=
  if x.session.getUserinfoRefreshInterval ≤ -1 then (true, needsSave, x)
  else
    match getProviderFromSession settings x.session with
    | none => (false, true, x)
    | some provider =>
        if userinfoEnabled provider = false then (true, needsSave, x)
        else if userinfoDue request x.session = false then (true, needsSave, x)
        else
          let (reply, x) := userinfoRetrieveClaims settings request provider answers x
          let x := x.storeUserinfo settings request provider reply
          if reply.claims.isSome then (true, true, x) else (false, false, x)

end Handle

end ModAuthOpenidc
