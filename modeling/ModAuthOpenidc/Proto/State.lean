import ModAuthOpenidc.Base64Url
import ModAuthOpenidc.Session.Store

/-!
# State between an authorization request and its response

An authorization request records what is needed to handle the response in an object, the proto
state, and leaves it sealed in a cookie of the browser. This file follows `src/proto/state.c`,
`src/state.c`, the request side in `src/handle/request.c` and the response side in
`src/handle/response.c`. The JSON library, the encryption of cookies and the hash are parameters.
-/

namespace ModAuthOpenidc

namespace State

open Http

/-! ## Configuration and surroundings -/

/-- `OIDC_STATE_TIMEOUT_MAX`. -/
def timeoutMax : Int := 3600 * 24 * 30

/-- The configuration read by the state functions. -/
structure Config where
  /-- `OIDCStateCookiePrefix`. -/
  cookiePrefix : String := "mod_auth_openidc_state_"
  cookiePrefixOk : NameOk cookiePrefix := by decide
  /-- Whether `OIDCStateInputHeaders` includes `X-Forwarded-For`. -/
  inputXForwardedFor : Bool := false
  /-- Whether `OIDCStateInputHeaders` includes `User-Agent`. -/
  inputUserAgent : Bool := true
  /-- `OIDCStateTimeout` in seconds. -/
  timeout : Int := 300
  timeout_le : timeout ≤ timeoutMax := by decide
  /-- `OIDCStateMaxNumberOfCookies`, `0` for no limit. -/
  maxNumberOfCookies : Int := 7
  deleteOldestCookies : Bool := false
  /-- `OIDCCookieSameSite` for state cookies. -/
  sameSite : Session.SameSite := .lax

/-- An object whose members are distinct strings and integers. -/
def Flat (object : Object) : Prop :=
  (object.map Prod.fst).Nodup ∧
    ∀ member ∈ object, (∃ text, member.2 = .str text) ∨ ∃ value, member.2 = .int value

/-- The libraries: JSON texts, opening of sealed texts, SHA-256. -/
structure Crypto where
  /-- `oidc_json_encode`. -/
  jsonEncode : Object → Option String
  /-- `oidc_json_decode_object`. -/
  jsonDecodeObject : String → Option Object
  /-- Plain objects survive the round trip. -/
  jsonDecodeObject_encode : ∀ object text, Flat object → jsonEncode object = some text →
    jsonDecodeObject text = some object
  /-- Whether `json_string` accepts a text. -/
  utf8 : String → Bool
  utf8_ascii : ∀ text : String, (∀ c ∈ text.toList, c.toNat < 128) → utf8 text = true
  /-- `oidc_util_jwt_verify`. -/
  jwtVerify : String → Option String
  /-- `oidc_jose_hash_bytes` with SHA-256. -/
  hashBytes : String → Option (List UInt8)
  hashBytes_length : ∀ input digest, hashBytes input = some digest → digest.length = 32

/-- What every HTTP exchange offers to the state functions, apart from the cookies. -/
structure Exchange where
  /-- `apr_time_now`. -/
  now : Int
  /-- The clock reads a later date than the first month of 1970. -/
  now_late : timeoutMax * 1000000 ≤ now := by decide
  /-- The `X-Forwarded-For` header. -/
  xForwardedFor : Option String := none
  /-- The `User-Agent` header. -/
  userAgent : Option String := none
  context : CookieContext := {}

/-- `OIDC_HTTP_COOKIE_SAMESITE_NONE`. -/
def sameSiteNone (exchange : Exchange) : Option String :=
  if exchange.context.secure then some "SameSite=None" else none

/-! ## The proto state -/

/-- `oidc_proto_state_get_string_value`. -/
def getStringValue (protoState : Object) (name : String) : Option String :=
  protoState.getString name

/-- `oidc_proto_state_set_string_value`: `json_string` gives nothing for `NULL` and for a text that
is not UTF-8, and then nothing is set. -/
def setStringValue (crypto : Crypto) (protoState : Object) (name : String) (value : Option String) :
    Object :=
  match value.filter crypto.utf8 with
  | none => protoState
  | some text => protoState.set name (.str text)

/-- `oidc_proto_state_get_timestamp`. -/
def getTimestamp (protoState : Object) : Int :=
  match protoState.get "t" with
  | none => -1
  | some (.int seconds) => seconds * 1000000
  | some _ => 0

/-- `oidc_proto_state_from_cookie`. -/
def fromCookie (crypto : Crypto) (cookieValue : String) : Option Object :=
  (crypto.jwtVerify cookieValue).bind crypto.jsonDecodeObject

/-! ## Names and fingerprints -/

/-- `oidc_state_cookie_name`. -/
def cookieName (cfg : Config) (state : Option String) : String :=
  cfg.cookiePrefix ++ Session.keyText state

/-- `oidc_util_base64url_encode` without padding. -/
def base64urlEncode (bytes : List UInt8) : Option String :=
  if bytes = [] then none else some (String.ofList (Base64Url.encode bytes))

/-- The text hashed by `oidc_state_browser_fingerprint`. -/
def fingerprintInput (cfg : Config) (exchange : Exchange) (nonce : Option String) : String :=
  (if cfg.inputXForwardedFor then
    (exchange.xForwardedFor.bind (leftMostToken [',', ' '])).getD "" else "") ++
  (if cfg.inputUserAgent then exchange.userAgent.getD "" else "") ++
  nonce.getD ""

/-- `oidc_state_browser_fingerprint`. -/
def browserFingerprint (crypto : Crypto) (cfg : Config) (exchange : Exchange)
    (nonce : Option String) : Option String :=
  (crypto.hashBytes (fingerprintInput cfg exchange nonce)).bind base64urlEncode

/-! ## State cookies -/

/-- `oidc_state_cookies_t`: a state cookie which is still valid. -/
structure ValidCookie where
  name : String
  timestamp : Int
  deriving DecidableEq, Repr

/-- Split off the first of the oldest cookies of a list. -/
def takeOldest : List ValidCookie → Option (ValidCookie × List ValidCookie)
  | [] => none
  | cookie :: rest =>
      match takeOldest rest with
      | none => some (cookie, [])
      | some (oldest, others) =>
          if oldest.timestamp < cookie.timestamp then some (oldest, cookie :: others)
          else some (cookie, rest)

/-- The loop of `oidc_state_cookies_delete_oldest`, run while the number of cookies is at least the
maximum: the headers and the number of cookies left. -/
def cookiesDeleteOldest (exchange : Exchange) :
    Nat → Int → List ValidCookie → List SetCookie × Int
  | 0, number, _ => ([], number)
  | rounds + 1, number, cookies =>
      match takeOldest cookies with
      | none => cookiesDeleteOldest exchange rounds (number - 1) []
      | some (oldest, others) =>
          let (sets, number) := cookiesDeleteOldest exchange rounds (number - 1) others
          (setCookie exchange.context oldest.name "" 0 (sameSiteNone exchange) :: sets, number)

/-- `oidc_state_cookies_process_one`: the headers and the cookie, if it was kept. -/
def cookiesProcessOne (crypto : Crypto) (cfg : Config) (exchange : Exchange) (name value : String)
    (currentCookieName : Option String) : List SetCookie × Option ValidCookie :=
  if currentCookieName = some name then ([], none)
  else
    match fromCookie crypto value with
    | none => ([setCookie exchange.context name "" 0 (sameSiteNone exchange)], none)
    | some protoState =>
        let ts := getTimestamp protoState
        if ts + cfg.timeout * 1000000 < exchange.now then
          ([setCookie exchange.context name "" 0 (sameSiteNone exchange)], none)
        else
          ([], some { name := name, timestamp := ts })

/-- `oidc_state_cookies_parse_token`. -/
def cookiesParseToken (crypto : Crypto) (cfg : Config) (exchange : Exchange) (token : List Char)
    (currentCookieName : Option String) : List SetCookie × Option ValidCookie :=
  let cookie := token.dropWhile (· = ' ')
  if cfg.cookiePrefix.toList.isPrefixOf cookie = false then ([], none)
  else
    match cookie.dropWhile (· ≠ '=') with
    | [] => ([], none)
    | _ :: value =>
        cookiesProcessOne crypto cfg exchange (String.ofList (cookie.takeWhile (· ≠ '=')))
          (String.ofList value) currentCookieName

/-- `oidc_state_cookies_clean_expired`: the headers and the number of valid cookies left. -/
def cookiesCleanExpired (crypto : Crypto) (cfg : Config) (exchange : Exchange)
    (cookies : Option String) (currentCookieName : Option String) (deleteOldest : Bool) :
    List SetCookie × Int :=
  let results := (strtok ';' ((cookies.getD "").toList)).map fun token =>
    cookiesParseToken crypto cfg exchange token currentCookieName
  let sets := results.flatMap Prod.fst
  let valid := results.filterMap Prod.snd
  if deleteOldest then
    let rounds := (valid.length - cfg.maxNumberOfCookies + 1).toNat
    let (deleted, number) := cookiesDeleteOldest exchange rounds valid.length valid
    (sets ++ deleted, number)
  else
    (sets, valid.length)

/-! ## The authorization request -/

/-- The settings of a provider which go into the proto state. -/
structure Provider where
  issuer : Option String
  responseType : Option String
  responseMode : Option String := none
  /-- Whether there is a `check_session_iframe`. -/
  checkSessionIframe : Bool := false

/-- `OIDC_PROTO_NONCE_LENGTH`. -/
def nonceLength : Nat := 32

/-- The arguments and surroundings of `oidc_request_authenticate_user`. -/
structure AuthRequest (crypto : Crypto) extends Exchange where
  /-- The selected provider, missing when discovery is needed or nothing is configured. -/
  provider : Option Provider
  /-- The random bytes of the nonce, missing when the generator fails. -/
  random : Option (List UInt8)
  random_length : ∀ bytes, random = some bytes → bytes.length = nonceLength
  /-- The code verifier: `none` for `oidc_pkce_none`, `some none` when it cannot be generated. -/
  pkce : Option (Option String) := none
  originalUrl : String
  /-- `oidc_original_request_method`. -/
  originalMethod : String := "get"
  prompt : Option String := none
  authRequestParams : Option String := none
  pathScope : Option String := none
  /-- `oidc_util_jwt_create` with the initialization vector of this request. -/
  jwtCreate : String → Option String
  /-- A sealed text opens to what was sealed. -/
  jwtVerify_create : ∀ payload text, jwtCreate payload = some text →
    crypto.jwtVerify text = some payload
  /-- A sealed text consists of base64url parts and dots. -/
  jwtCreate_clean : ∀ payload text, jwtCreate payload = some text → ';' ∉ text.toList

/-- `oidc_proto_nonce_gen`. -/
def AuthRequest.nonce {crypto : Crypto} (request : AuthRequest crypto) : Option String :=
  request.random.bind base64urlEncode

/-- The code verifier for a response type with a code; the outer `none` is a failure. -/
def AuthRequest.pkceState {crypto : Crypto} (request : AuthRequest crypto) (provider : Provider) :
    Option (Option String) :=
  if spacedStringContains provider.responseType "code" then
    match request.pkce with
    | none => some none
    | some verifier => verifier.map some
  else
    some none

/-- The proto state assembled by `oidc_request_authenticate_user`. -/
def newProtoState (crypto : Crypto) (request : AuthRequest crypto) (provider : Provider)
    (nonce : String) (pkceState : Option String) : Option Object :=
  let object := setStringValue crypto [] "ou" (some request.originalUrl)
  if getStringValue object "ou" = none then none
  else
    let object := setStringValue crypto object "om" (some request.originalMethod)
    let object := setStringValue crypto object "i" provider.issuer
    let object := setStringValue crypto object "rt" provider.responseType
    let object := setStringValue crypto object "n" (some nonce)
    let object := object.set "t" (.int (request.now / 1000000))
    let object := setStringValue crypto object "rm" provider.responseMode
    let object := setStringValue crypto object "pr" request.prompt
    let object := setStringValue crypto object "ps" pkceState
    if provider.checkSessionIframe then
      let object := setStringValue crypto object "arp" request.authRequestParams
      some (setStringValue crypto object "psc" request.pathScope)
    else
      some object

/-- `oidc_request_samesite_state_cookie`. -/
def samesiteStateCookie (cfg : Config) (exchange : Exchange) : Option String :=
  match cfg.sameSite with
  | .strict => some "SameSite=Lax"
  | .lax => some "SameSite=Lax"
  | .none => sameSiteNone exchange
  | .disabled => none

/-- `oidc_request_authorization_set_cookie`: the headers and whether the state cookie is among
them. -/
def authorizationSetCookie (crypto : Crypto) (cfg : Config) (request : AuthRequest crypto)
    (cookies : Option String) (state : Option String) (protoState : Object) :
    List SetCookie × Bool :=
  match (crypto.jsonEncode protoState).bind request.jwtCreate with
  | none => ([], false)
  | some cookieValue =>
      let (sets, number) := cookiesCleanExpired crypto cfg request.toExchange cookies none
        cfg.deleteOldestCookies
      if 0 < cfg.maxNumberOfCookies ∧ cfg.maxNumberOfCookies ≤ number then (sets, false)
      else
        (sets ++ [setCookie request.context (cookieName cfg state) cookieValue (-1)
          (samesiteStateCookie cfg request.toExchange)], true)

/-- What a request hands out: the state parameter with the proto state kept under it. -/
structure Issue (crypto : Crypto) where
  request : AuthRequest crypto
  nonce : String
  state : Option String
  protoState : Object

/-- `oidc_request_authenticate_user` up to the point where the browser is sent to the provider: the
headers, and the issued state if the state cookie was set. -/
def authenticateUser (crypto : Crypto) (cfg : Config) (request : AuthRequest crypto)
    (cookies : Option String) : List SetCookie × Option (Issue crypto) :=
  match request.provider with
  | none => ([], none)
  | some provider =>
      match request.nonce, request.pkceState provider with
      | some nonce, some pkceState =>
          match newProtoState crypto request provider nonce pkceState with
          | none => ([], none)
          | some protoState =>
              let state := browserFingerprint crypto cfg request.toExchange (some nonce)
              match authorizationSetCookie crypto cfg request cookies state protoState with
              | (sets, false) => (sets, none)
              | (sets, true) => (sets, some { request, nonce, state, protoState })
      | _, _ => ([], none)

/-! ## The authorization response -/

/-- The parts of an authorization response which decide whether its state matches. -/
structure AuthResponse extends Exchange where
  /-- The `state` parameter. -/
  state : Option String
  /-- The session of the browser. -/
  session : ModAuthOpenidc.Session := {}
  /-- Whether `oidc_get_provider_for_issuer` finds a provider. -/
  providerForIssuer : Option String → Bool := fun _ => true

/-- `oidc_response_browser_back`. -/
def browserBack (response : AuthResponse) : Bool :=
  response.session.remoteUser.isSome && response.state.isSome &&
    decide ((response.session.state.bind fun object => object.getString "rs") = response.state)

/-- `oidc_response_proto_state_restore`. -/
def protoStateRestore (crypto : Crypto) (cfg : Config) (exchange : Exchange)
    (cookies : Option String) (state : String) : List SetCookie × Option Object :=
  let name := cookieName cfg (some state)
  let sets := (cookiesCleanExpired crypto cfg exchange cookies (some name) false).1
  match getCookie cookies name with
  | none => (sets, none)
  | some cookieValue =>
      let sets := sets ++ [setCookie exchange.context name "" 0 (sameSiteNone exchange)]
      match fromCookie crypto cookieValue with
      | none => (sets, none)
      | some protoState =>
          if browserFingerprint crypto cfg exchange (getStringValue protoState "n") ≠ some state then
            (sets, none)
          else if getTimestamp protoState + cfg.timeout * 1000000 < exchange.now then
            (sets, none)
          else
            (sets, some (setStringValue crypto protoState "s" (some state)))

/-- `oidc_response_match_state`: the headers and the restored proto state on success. -/
def matchState (crypto : Crypto) (cfg : Config) (response : AuthResponse)
    (cookies : Option String) : List SetCookie × Option Object :=
  match response.state with
  | none => ([], none)
  | some state =>
      if state = "" then ([], none)
      else
        let (sets, restored) := protoStateRestore crypto cfg response.toExchange cookies state
        (sets, restored.filter fun protoState =>
          response.providerForIssuer (getStringValue protoState "i"))

/-- The start of `oidc_response_process`: the headers and the matched proto state. -/
def responseProcess (crypto : Crypto) (cfg : Config) (response : AuthResponse)
    (cookies : Option String) : List SetCookie × Option Object :=
  if browserBack response then ([], none) else matchState crypto cfg response cookies

end State

end ModAuthOpenidc
