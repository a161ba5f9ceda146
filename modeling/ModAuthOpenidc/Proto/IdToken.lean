import ModAuthOpenidc.Session.Store

/-!
# Validation of id_tokens

The checks of `src/proto/id_token.c` and `src/proto/jwt.c`. Parsing and decryption of a compact JWT,
the verification of its signature with the keys of the provider, the digests and the base64url
decoder are parameters. Nonces that have been used are kept in a section of the cache.
-/

namespace ModAuthOpenidc

namespace Proto

/-! ## Surroundings -/

/-- `oidc_jwt_t`: the header members that are read, and the claims. -/
structure Jwt where
  alg : Option String
  claims : Object

/-- `oidc_jose_get_timestamp`, with `OIDC_JWT_CLAIM_TIME_EMPTY` for anything but a number. -/
def getTimestamp (claims : Object) (name : String) : Rat :=
  ((claims.get name).bind Json.numberValue).getD (-1)

namespace Jwt

/-- `payload.iss`. -/
def iss (jwt : Jwt) : Option String := jwt.claims.getString "iss"

/-- `payload.sub`. -/
def sub (jwt : Jwt) : Option String := jwt.claims.getString "sub"

/-- `payload.exp`. -/
def exp (jwt : Jwt) : Rat := getTimestamp jwt.claims "exp"

/-- `payload.iat`. -/
def iat (jwt : Jwt) : Rat := getTimestamp jwt.claims "iat"

end Jwt

/-- The default of `OIDCIDTokenIatSlack` is no negative number. -/
theorem defaultIatSlack_nonneg : (0 : Int) ≤ 600 := by decide

/-- The settings of a provider that the protocol functions read. -/
structure Provider where
  issuer : String
  clientId : String
  /-- `OIDCValidateIssuer`. -/
  validateIssuer : Bool := true
  /-- `OIDCIDTokenIatSlack`. -/
  idtokenIatSlack : Int := 600
  idtokenIatSlack_nonneg : 0 ≤ idtokenIatSlack := by decide
  /-- `OIDCIDTokenSignedResponseAlg`. -/
  idTokenSignedResponseAlg : Option String := none
  /-- `oidc_proto_profile_id_token_aud_values_get`. -/
  idTokenAudValues : Option (List String) := none
  /-- `oidc_proto_profile_response_require_iss_get`. -/
  responseRequireIss : Bool := false
  userinfoEndpointUrl : Option String := none
  /-- Whether `oidc_proto_profile_dpop_mode_get` is `OIDC_DPOP_MODE_REQUIRED`. -/
  dpopRequired : Bool := false
  /-- `OIDCUserInfoSignedResponseAlg`. -/
  userinfoSignedResponseAlg : Option String := none
  /-- `OIDCUserInfoEncryptedResponseAlg`. -/
  userinfoEncryptedResponseAlg : Option String := none
  /-- `OIDCUserInfoRefreshInterval` in seconds, `-1` for none. -/
  userinfoRefreshInterval : Int := -1
  /-- `OIDCSessionMaxDuration` in seconds, `0` to follow the id_token. -/
  sessionMaxDuration : Int := 28800
  /-- `check_session_iframe` of the provider metadata. -/
  checkSessionIframe : Option String := none
  /-- `backchannel_logout_supported` of the provider metadata. -/
  backchannelLogoutSupported : Bool := false

/-- The library functions of `src/jose.c`, with the keys of the provider. -/
structure Jose where
  /-- `oidc_jwt_parse` with the decryption keys. -/
  jwtParse : Option String → Option Jwt
  /-- `oidc_jwt_verify` with the static keys and those of the `jwks_uri`, refreshed if need be. -/
  jwtVerify : Jwt → Bool
  /-- `oidc_jose_hash_bytes` for a digest name. -/
  hashBytes : String → String → Option (List UInt8)
  /-- `oidc_util_base64url_decode`, nothing for a result that is not positive. -/
  base64urlDecode : String → Option (List UInt8)

/-- The clock and the state of the cache backend during a request. -/
structure Env where
  /-- `apr_time_now`. -/
  now : Int
  cacheAnswers : Bool := true

/-- `apr_time_sec(apr_time_now())`. -/
def Env.second (env : Env) : Int := env.now / 1000000

/-- The section of the cache with the used nonces. -/
abbrev NonceCache := Session.Section

/-- A computation which may fail and works on the nonce cache. -/
abbrev Flow := OptionT (StateM NonceCache)

/-- Run a computation: the result, if there is one, and the cache afterwards. -/
def Flow.exec {α : Type} (flow : Flow α) (cache : NonceCache) : Option α × NonceCache :=
  flow.run.run cache

/-- Fail unless a condition holds. -/
def check (condition : Bool) : Flow Unit := if condition then pure () else failure

/-- A result that may be missing, as a flow. -/
def require {α : Type} (result : Option α) : Flow α := OptionT.mk (pure result)

/-! ## Successful computations -/

section Exec

variable {α β : Type} {cache cache' : NonceCache}

/-- A sequence succeeds when both of its parts do. -/
theorem exec_bind {first : Flow α} {next : α → Flow β} {result : β}
    (ran : (first >>= next).exec cache = (some result, cache')) :
    ∃ value middle, first.exec cache = (some value, middle) ∧
      (next value).exec middle = (some result, cache') := by
  unfold Flow.exec at ran ⊢
  rw [OptionT.run_bind, Option.elimM, StateT.run_bind] at ran
  cases done : first.run.run cache with
  | mk outcome middle =>
      rw [done] at ran
      cases outcome with
      | none => cases ran
      | some value => exact ⟨value, middle, rfl, ran⟩

theorem exec_check {condition : Bool} {done : Unit}
    (ran : (check condition).exec cache = (some done, cache')) :
    condition = true ∧ cache' = cache := by
  cases condition with
  | true => exact ⟨rfl, (Prod.mk.inj ran).2.symm⟩
  | false => cases (Prod.mk.inj ran).1

theorem exec_require {result : Option α} {value : α}
    (ran : (require result).exec cache = (some value, cache')) :
    result = some value ∧ cache' = cache :=
  ⟨(Prod.mk.inj ran).1, (Prod.mk.inj ran).2.symm⟩

theorem exec_pure {value result : α}
    (ran : (pure value : Flow α).exec cache = (some result, cache')) :
    value = result ∧ cache' = cache :=
  ⟨Option.some.inj (Prod.mk.inj ran).1, (Prod.mk.inj ran).2.symm⟩

end Exec

/-! ## Single claims -/

/-- `oidc_cache_get_nonce`: a backend failure counts as not found. -/
def cacheGetNonce (env : Env) (cache : NonceCache) (nonce : String) : Option String :=
  if env.cacheAnswers then ExpiringMap.live env.now (cache nonce) else none

/-- `oidc_cache_set_nonce`. -/
def cacheSetNonce (env : Env) (cache : NonceCache) (nonce : String) (expiry : Int) : NonceCache :=
  if env.cacheAnswers then Function.update cache nonce (some (nonce, expiry)) else cache

/-- `oidc_proto_idtoken_validate_nonce`. -/
def idtokenValidateNonce (env : Env) (provider : Provider) (nonce : String) (jwt : Jwt) :
    Flow Unit := do
  let cache ← get
  check (cacheGetNonce env cache nonce).isNone
  check (jwt.claims.getString "nonce" = some nonce)
  set (cacheSetNonce env cache nonce
    (env.now + (provider.idtokenIatSlack * 2 + 10) * 1000000))

/-- `oidc_proto_idtoken_validate_azp`. -/
def idtokenValidateAzp (provider : Provider) (azp : Option String) : Bool :=
  azp.isNone || azp = some provider.clientId

/-- `oidc_proto_idtoken_aud_resolve`. -/
def idtokenAudResolve (provider : Provider) (aud : String) : String :=
  if aud = "@" then provider.clientId else aud

/-- `oidc_proto_idtoken_validate_aud_string`. -/
def idtokenValidateAudString (provider : Provider) (values : Option (List String)) (aud : String) :
    Bool :=
  match values with
  | none => aud = provider.clientId
  | some values => values.any fun value => aud = idtokenAudResolve provider value

/-- `oidc_json_array_has_value`. -/
def jsonArrayHasValue (elements : List Json) (needle : String) : Bool :=
  elements.any fun element => element.stringValue = some needle

/-- `oidc_proto_idtoken_validate_aud_array`. -/
def idtokenValidateAudArray (provider : Provider) (values : Option (List String))
    (aud : List Json) : Bool :=
  match values with
  | none => jsonArrayHasValue aud provider.clientId
  | some values =>
      values.all (fun value => jsonArrayHasValue aud (idtokenAudResolve provider value)) &&
        aud.length ≤ values.length

/-- The audience rule: the second half of `oidc_proto_idtoken_validate_aud_and_azp`. -/
def idtokenValidateAud (provider : Provider) (claims : Object) : Bool :=
  match claims.get "aud" with
  | some (.str aud) => idtokenValidateAudString provider provider.idTokenAudValues aud
  | some (.arr aud) => idtokenValidateAudArray provider provider.idTokenAudValues aud
  | _ => false

/-- `oidc_proto_idtoken_validate_aud_and_azp`. -/
def idtokenValidateAudAndAzp (provider : Provider) (claims : Object) : Bool :=
  idtokenValidateAzp provider (claims.getString "azp") && idtokenValidateAud provider claims

/-! ## Hashes of the code and of the access token -/

/-- `_oidc_jose_alg_to_sha2`: the digest of an algorithm and its length. -/
def algToSha2 (alg : Option String) : Option (String × Nat) :=
  match alg with
  | some alg =>
      if alg ∈ ["RS256", "PS256", "HS256", "ES256"] then some ("sha256", 32)
      else if alg ∈ ["RS384", "PS384", "HS384", "ES384"] then some ("sha384", 48)
      else if alg ∈ ["RS512", "PS512", "HS512", "ES512"] then some ("sha512", 64)
      else none
  | none => none

/-- `oidc_proto_validate_hash`: the claim decodes to the left half of the digest of the value. -/
def validateHash (jose : Jose) (alg : Option String) (hash : String) (value : Option String) :
    Bool :=
  match algToSha2 alg with
  | none => false
  | some (digest, length) =>
      match jose.hashBytes digest (value.getD ""), jose.base64urlDecode hash with
      | some computed, some decoded =>
          decoded.length = length / 2 && length / 2 ≤ computed.length &&
            decoded = computed.take (length / 2)
      | _, _ => false

/-- `oidc_proto_validate_hash_value`. -/
def validateHashValue (jose : Jose) (jwt : Jwt) (responseType : String) (value : Option String)
    (key : String) (requiredForFlows : List String) : Bool :=
  match jwt.claims.getString key with
  | none => !requiredForFlows.any fun flow => spacedStringEquals (some responseType) (some flow)
  | some hash => validateHash jose jwt.alg hash value

/-- `oidc_proto_idtoken_validate_access_token`. -/
def idtokenValidateAccessToken (jose : Jose) (jwt : Jwt) (responseType : String)
    (accessToken : Option String) : Bool :=
  validateHashValue jose jwt responseType accessToken "at_hash"
    ["id_token token", "code id_token token"]

/-- `oidc_proto_idtoken_validate_code`. -/
def idtokenValidateCode (jose : Jose) (jwt : Jwt) (responseType : String) (code : Option String) :
    Bool :=
  validateHashValue jose jwt responseType code "c_hash" ["code id_token", "code id_token token"]

/-! ## The token as a whole -/

/-- `oidc_util_issuer_match`: equal up to a trailing slash. -/
def issuerMatch (a b : String) : Bool :=
  a = b || (b ≠ "" && a.toList = b.toList ++ ['/']) || (a ≠ "" && b.toList = a.toList ++ ['/'])

/-- `oidc_proto_validate_exp` for a mandatory claim. -/
def validateExp (env : Env) (jwt : Jwt) : Bool :=
  jwt.exp ≠ -1 && 0 ≤ jwt.exp && (env.second : Rat) ≤ jwt.exp

/-- `oidc_proto_validate_iat` for a mandatory claim. -/
def validateIat (env : Env) (jwt : Jwt) (slack : Int) : Bool :=
  jwt.iat ≠ -1 && 0 ≤ jwt.iat &&
    (slack < 0 || (((env.second - slack : Int) : Rat) ≤ jwt.iat &&
      jwt.iat ≤ ((env.second + slack : Int) : Rat)))

/-- `oidc_proto_jwt_validate` with mandatory `exp` and `iat`. -/
def jwtValidate (env : Env) (jwt : Jwt) (iss : Option String) (slack : Int) : Bool :=
  (match iss with
    | none => true
    | some iss => jwt.iss.any (issuerMatch iss)) &&
  validateExp env jwt && validateIat env jwt slack

/-- `oidc_proto_jwt_verify` under an optional algorithm. -/
def jwtVerify (jose : Jose) (jwt : Jwt) (alg : Option String) : Bool :=
  (match alg with
    | some alg => jwt.alg = some alg
    | none => jwt.alg.isSome && jwt.alg ≠ some "none") &&
  jose.jwtVerify jwt

/-- `oidc_proto_validate_idtoken`. -/
def validateIdtoken (env : Env) (provider : Provider) (jwt : Jwt) (nonce : Option String) :
    Flow Unit := do
  (match nonce with
    | some nonce => idtokenValidateNonce env provider nonce jwt
    | none => pure ())
  check (jwtValidate env jwt (if provider.validateIssuer then some provider.issuer else none)
    provider.idtokenIatSlack)
  check jwt.sub.isSome
  check (idtokenValidateAudAndAzp provider jwt.claims)

/-- The signature of an id_token need not be verified: in a code flow, for the algorithm `none`,
unless another algorithm is pinned. -/
def signatureExempt (provider : Provider) (jwt : Jwt) (isCodeFlow : Bool) : Bool :=
  isCodeFlow && decide (jwt.alg = some "none") &&
    (provider.idTokenSignedResponseAlg.isNone ||
      decide (provider.idTokenSignedResponseAlg = some "none"))

/-- `oidc_proto_idtoken_parse`. -/
def idtokenParse (jose : Jose) (env : Env) (provider : Provider) (idToken nonce : Option String)
    (isCodeFlow : Bool) : Flow Jwt := do
  let jwt ← require (jose.jwtParse idToken)
  check (signatureExempt provider jwt isCodeFlow ||
    jwtVerify jose jwt provider.idTokenSignedResponseAlg)
  validateIdtoken env provider jwt nonce
  pure jwt

end Proto

end ModAuthOpenidc
