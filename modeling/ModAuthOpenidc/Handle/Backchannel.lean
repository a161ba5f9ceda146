import ModAuthOpenidc.Proto.Acceptance

/-!
# Back-channel logout

`oidc_logout_backchannel` of `src/handle/logout.c`, up to the removal of the sessions. The logout
token is checked like an id_token, but for its expiry, and its `jti` must not have been used before.
-/

namespace ModAuthOpenidc

namespace Handle

open Proto

/-! ## The handler -/

/-- `OIDC_EVENTS_BLOGOUT_KEY`. -/
def eventsBlogoutKey : String := "http://schemas.openid.net/event/backchannel-logout"

/-- `oidc_proto_validate_exp` for an optional claim. -/
def validateOptionalExp (env : Env) (jwt : Jwt) : Bool :=
  jwt.exp = -1 || (0 ≤ jwt.exp && (env.second : Rat) ≤ jwt.exp)

/-- `oidc_proto_jwt_validate` with an optional `exp` and a mandatory `iat`. -/
def logoutJwtValidate (env : Env) (jwt : Jwt) (iss : Option String) (slack : Int) : Bool :=
  (match iss with
    | none => true
    | some iss => jwt.iss.any (issuerMatch iss)) &&
  validateOptionalExp env jwt && validateIat env jwt slack

/-- The section of the cache with the logout tokens that have been used. -/
abbrev JtiCache := NonceCache

/-- `oidc_cache_get_jti`. -/
def cacheGetJti (env : Env) (cache : JtiCache) (jti : String) : Option String :=
  cacheGetNonce env cache jti

/-- `oidc_cache_set_jti`. -/
def cacheSetJti (env : Env) (cache : JtiCache) (jti : String) (expiry : Int) : JtiCache :=
  cacheSetNonce env cache jti expiry

/-- `oidc_logout_backchannel_parse_jwt`. -/
def logoutBackchannelParseJwt (jose : Jose) (logoutToken : String) : Flow Jwt := do
  let jwt ← require (jose.jwtParse (some logoutToken))
  check (jwt.alg.isSome && jwt.alg ≠ some "none")
  pure jwt

/-- `oidc_logout_backchannel_get_provider`. -/
def logoutBackchannelGetProvider (providerForIssuer : Option String → Option Provider) (jwt : Jwt) :
    Flow Provider := do
  let provider ← require (providerForIssuer jwt.iss)
  check (provider.idTokenSignedResponseAlg.isNone || provider.idTokenSignedResponseAlg = jwt.alg)
  pure provider

/-- `oidc_logout_backchannel_verify_jwt`. -/
def logoutBackchannelVerifyJwt (jose : Jose) (env : Env) (jwt : Jwt) (provider : Provider) :
    Flow Unit := do
  check (jwtVerify jose jwt provider.idTokenSignedResponseAlg)
  check (logoutJwtValidate env jwt (if provider.validateIssuer then some provider.issuer else none)
    provider.idtokenIatSlack)
  check (idtokenValidateAudAndAzp provider jwt.claims)

/-- `oidc_logout_backchannel_check_jti_replay`. -/
def logoutBackchannelCheckJtiReplay (env : Env) (provider : Provider) (jwt : Jwt) : Flow Unit := do
  let jti ← require (jwt.claims.getString "jti")
  let cache ← get
  check (cacheGetJti env cache jti).isNone
  set (cacheSetJti env cache jti (env.now + (provider.idtokenIatSlack * 2 + 10) * 1000000))

/-- Whether a token asks for a logout: the checks of its events. -/
def asksForLogout (claims : Object) : Bool :=
  match claims.get "events" with
  | some (.obj events) => (Object.get events eventsBlogoutKey).any Json.isObject
  | _ => false

/-- `oidc_logout_backchannel_validate_claims`: the key under which the sessions are looked up. -/
def logoutBackchannelValidateClaims (env : Env) (provider : Provider) (jwt : Jwt) :
    Flow String := do
  check (asksForLogout jwt.claims)
  check (jwt.claims.getString "nonce").isNone
  logoutBackchannelCheckJtiReplay env provider jwt
  require ((jwt.claims.getString "sid").or jwt.sub)

/-- `oidc_logout_backchannel`, up to the removal of the sessions. -/
def logoutBackchannel (jose : Jose) (env : Env)
    (providerForIssuer : Option String → Option Provider)
    (logoutToken : String) : Flow String := do
  let jwt ← logoutBackchannelParseJwt jose logoutToken
  let provider ← logoutBackchannelGetProvider providerForIssuer jwt
  logoutBackchannelVerifyJwt jose env jwt provider
  logoutBackchannelValidateClaims env provider jwt

end Handle

end ModAuthOpenidc
