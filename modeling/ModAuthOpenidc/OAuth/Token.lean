import ModAuthOpenidc.Handle.Refresh
import ModAuthOpenidc.Session.Caches

/-!
# Bearer tokens

The OAuth 2.0 resource server of `src/oauth.c`. An access token is introspected at the authorization
server, or validated as a JWT if no introspection endpoint is configured. What was found valid is
kept in the cache for a while, so that later requests with the same token need not ask again.
-/

namespace ModAuthOpenidc

namespace OAuth

open Proto

/-- The settings of the virtual host. -/
structure Config where
  /-- Whether `OIDCOAuthIntrospectionEndpoint` is set. -/
  introspectionEndpoint : Bool
  /-- `OIDCOAuthTokenExpiryClaim`: its name, its format, and whether it is required. -/
  expiryClaimName : String := "expires_in"
  expiryFormatAbsolute : Bool := false
  expiryClaimIsMandatory : Bool := true
  /-- `OIDCOAuthVerifyAudience`. -/
  verifyAudValues : Option (List String) := none
  /-- `OIDCOAuthVerifyIssuer`. -/
  verifyIssuer : Option String := none
  /-- `oidc_jwt_parse` with the decryption keys of the virtual host. -/
  jwtParse : String → Option Jwt

/-- A request with a bearer token. -/
structure Request where
  accessToken : String
  /-- `apr_time_now`. -/
  now : Int
  /-- The first second of 1970 is over. -/
  now_pos : 1000000 ≤ now
  /-- `OIDCOAuthTokenIntrospectionInterval` of the location, `-1` for no caching. -/
  tokenIntrospectionInterval : Int := 0
  /-- The response of the introspection endpoint, if it is an object without an error. -/
  introspection : Option Object := none
  /-- `oidc_proto_jwt_verify` with the keys of the moment. -/
  jwtVerify : Jwt → Bool := fun _ => false

/-- The section of the cache with the results for access tokens. -/
abbrev TokenCache := Session.Section

/-! ## The cache -/

/-- `OIDC_OAUTH_CACHE_DEFAULT_EXPIRY_SECONDS`. -/
def cacheDefaultExpirySeconds : Int := 60

/-- `oidc_util_apr_time_add`. -/
def aprTimeAdd (a b : Int) : Int :=
  if a < 0 ∨ b < 0 then max a b
  else if 2 ^ 63 - 1 - b < a then 2 ^ 63 - 1
  else a + b

/-- `oidc_oauth_parse_and_cache_token_expiry`: until when a result may be cached. -/
def parseAndCacheTokenExpiry (response : Object) (name : String) (absolute mandatory : Bool)
    (now cacheUntil : Int) : Option Int :=
  match (response.get name).bind Json.numberValue with
  | none => if mandatory then none else some cacheUntil
  | some value =>
      if 0 < value then
        some (if absolute then Session.aprTimeFromSec ⌊value⌋
          else aprTimeAdd (Session.aprTimeFromSec ⌊value⌋) now)
      else some cacheUntil

/-- The entry that `oidc_oauth_cache_access_token` encodes. -/
def cacheEntry (response : Object) (now : Int) : Object :=
  Object.set (Object.set [] "r" (.obj response)) "t" (.int (now / 1000000))

/-- `oidc_oauth_cache_access_token`. -/
def cacheAccessToken (codec : Session.Codec) (request : Request) (cache : TokenCache)
    (cacheUntil : Int) (response : Object) : TokenCache :=
  if request.tokenIntrospectionInterval = -1 then cache
  else
    Function.update cache request.accessToken
      ((codec.jsonEncode (cacheEntry response request.now)).map fun text => (text, cacheUntil))

/-- The second at which a cached result was validated. -/
def cachedSecond (entry : Object) : Int :=
  match entry.get "t" with
  | none => 0
  | some value => Handle.integerValue value

/-- `oidc_oauth_get_cached_access_token`. -/
def getCachedAccessToken (codec : Session.Codec) (request : Request) (cache : TokenCache) :
    Option Json :=
  if request.tokenIntrospectionInterval = -1 then none
  else
    match (ExpiringMap.live request.now (cache request.accessToken)).bind
        codec.jsonDecodeObject with
    | none => none
    | some entry =>
        if 0 < request.tokenIntrospectionInterval ∧
            cachedSecond entry + request.tokenIntrospectionInterval < request.now / 1000000 then
          none
        else
          entry.get "r"

/-! ## Introspection -/

/-- `oidc_oauth_introspection_active_is_valid`. -/
def introspectionActiveIsValid : Json → Bool
  | .bool value => value
  | .str text => strnatcaseEquals text "true"
  | _ => false

/-- The checks of `oidc_oauth_introspection_validate_and_cache`: until when the result may be
cached. -/
def introspectionValidate (cfg : Config) (now : Int) (response : Object) : Option Int :=
  let cacheUntil := now + cacheDefaultExpirySeconds * 1000000
  match response.get "active" with
  | some active =>
      if introspectionActiveIsValid active then
        parseAndCacheTokenExpiry response "exp" true false now cacheUntil
      else none
  | none =>
      parseAndCacheTokenExpiry response cfg.expiryClaimName cfg.expiryFormatAbsolute
        cfg.expiryClaimIsMandatory now cacheUntil

/-- `oidc_oauth_introspect`. -/
def introspect (codec : Session.Codec) (cfg : Config) (request : Request) (cache : TokenCache) :
    Option Object × TokenCache :=
  match request.introspection with
  | none => (none, cache)
  | some response =>
      match introspectionValidate cfg request.now response with
      | none => (none, cache)
      | some cacheUntil => (some response, cacheAccessToken codec request cache cacheUntil response)

/-- Copy a member, if there is one. -/
def copyMember (source : Object) (name : String) (target : Object) : Object :=
  match source.get name with
  | none => target
  | some value => target.set name value

/-- The members of a value, none unless it is an object. -/
def members : Json → Object
  | .obj object => object
  | _ => []

/-- `oidc_oauth_shape_introspection_token`. -/
def shapeIntrospectionToken (result : Json) : Json :=
  match (members result).get "access_token" with
  | some (.obj token) =>
      .obj (copyMember (members result) "scope" (copyMember (members result) "client_id" token))
  | _ => result

/-- `oidc_oauth_resolve_access_token`. -/
def resolveAccessToken (codec : Session.Codec) (cfg : Config) (request : Request)
    (cache : TokenCache) : Option Json × TokenCache :=
  match getCachedAccessToken codec request cache with
  | some result => (some (shapeIntrospectionToken result), cache)
  | none =>
      match introspect codec cfg request cache with
      | (none, cache) => (none, cache)
      | (some response, cache) => (some (shapeIntrospectionToken (.obj response)), cache)

/-! ## JWTs -/

/-- `oidc_oauth_validate_jwt_aud`. -/
def validateJwtAud (cfg : Config) (claims : Object) : Bool :=
  match cfg.verifyAudValues with
  | none => true
  | some [] => true
  | some values =>
      match claims.get "aud" with
      | some (.str aud) => aud ∈ values
      | some (.arr elements) => values.any fun value => elements.any fun element =>
          element.stringValue = some value
      | _ => false

/-- `oidc_oauth_validate_jwt_iss`. -/
def validateJwtIss (cfg : Config) (claims : Object) : Bool :=
  match cfg.verifyIssuer with
  | none => true
  | some issuer => (claims.getString "iss").any (issuerMatch issuer)

/-- `oidc_oauth_validate_jwt_claims`. -/
def validateJwtClaims (cfg : Config) (claims : Object) : Bool :=
  validateJwtIss cfg claims && validateJwtAud cfg claims

/-- `oidc_proto_jwt_validate` as the resource server calls it: `exp` is mandatory, `iat` is not and
has no window. -/
def jwtValidate (now : Int) (jwt : Jwt) : Bool :=
  validateExp { now } jwt && (jwt.iat = -1 || 0 ≤ jwt.iat)

/-- The JWT that `oidc_oauth_validate_jwt_access_token` accepts, if it is not cached. -/
def acceptedJwt (cfg : Config) (request : Request) : Option Jwt :=
  (cfg.jwtParse request.accessToken).filter fun jwt =>
    jwtValidate request.now jwt && request.jwtVerify jwt && validateJwtClaims cfg jwt.claims

/-- `oidc_oauth_validate_jwt_access_token`. -/
def validateJwtAccessToken (codec : Session.Codec) (cfg : Config) (request : Request)
    (cache : TokenCache) : Option Json × TokenCache :=
  match getCachedAccessToken codec request cache with
  | some cached =>
      (if validateJwtClaims cfg (members cached) then some cached else none, cache)
  | none =>
      match acceptedJwt cfg request with
      | none => (none, cache)
      | some jwt =>
          let cacheUntil := request.now + cacheDefaultExpirySeconds * 1000000
          match parseAndCacheTokenExpiry jwt.claims "exp" true false request.now cacheUntil with
          | none => (some (.obj jwt.claims), cache)
          | some cacheUntil =>
              (some (.obj jwt.claims), cacheAccessToken codec request cache cacheUntil jwt.claims)

/-- `oidc_oauth_validate_token`: the claims of a token that is accepted. -/
def validateToken (codec : Session.Codec) (cfg : Config) (request : Request) (cache : TokenCache) :
    Option Json × TokenCache :=
  if cfg.introspectionEndpoint then resolveAccessToken codec cfg request cache
  else validateJwtAccessToken codec cfg request cache

/-- `oidc_revoke_at_cache_remove`: whether there was an entry to delete. -/
def revokeAtCacheRemove (now : Int) (accessToken : String) (cache : TokenCache) :
    Bool × TokenCache :=
  match ExpiringMap.live now (cache accessToken) with
  | none => (false, cache)
  | some _ => (true, Function.update cache accessToken none)

end OAuth

end ModAuthOpenidc
