import ModAuthOpenidc.ExpiringMap
import ModAuthOpenidc.Http.Browser

/-!
# Session storage

This file follows the first half of `src/session.c`. A session is a JSON object which is kept in the
server cache under its identifier, or in the browser in one cookie or a set of chunk cookies. The
JSON library and the encryption of cookies are parameters. Everything a request does outside its own
memory is collected in a `World`: the contents of the cache and the emitted `Set-Cookie` headers.
-/

namespace ModAuthOpenidc

/-- `oidc_session_t`. -/
structure Session where
  uuid : Option String := none
  remoteUser : Option String := none
  expiry : Int := 0
  sid : Option String := none
  sub : Option String := none
  state : Option Object := none
  deriving Inhabited

namespace Session

open Http

/-! ## Configuration and surroundings -/

/-- `OIDCSessionType`. -/
inductive SessionType
  | serverCache
  | clientCookie
  deriving DecidableEq, Repr

/-- `OIDCCookieSameSite` for session cookies. -/
inductive SameSite
  | disabled
  | none
  | lax
  | strict
  deriving DecidableEq, Repr

/-- The default of `OIDCCookie` can be found again in a `Cookie` header. -/
theorem nameOk_defaultCookie : NameOk "mod_auth_openidc_session" := by decide

/-- The configuration read by the session functions. -/
structure Config where
  sessionType : SessionType
  /-- `OIDCSessionCacheFallbackToCookie`. -/
  fallbackToCookie : Bool
  /-- `OIDCSessionCookieChunkSize`, `0` to switch chunking off. -/
  cookieChunkSize : Nat
  /-- `OIDCCookie`. -/
  cookieName : String := "mod_auth_openidc_session"
  cookieNameOk : NameOk cookieName := by decide
  /-- Whether `OIDCSessionType` asks for a persistent cookie. -/
  persistentCookie : Bool := false
  sameSite : SameSite := .lax
  /-- Whether `OIDCCryptoPassphrase` is set. -/
  cryptoPassphrase : Bool := true

/-- `libjansson` and the encrypted JWTs of `src/util/jwt.c`. -/
structure Codec where
  /-- `oidc_json_encode`. -/
  jsonEncode : Object → Option String
  /-- `oidc_json_decode_object`. -/
  jsonDecodeObject : String → Option Object
  /-- `oidc_util_jwt_create`. -/
  jwtCreate : String → Option String
  /-- `oidc_util_jwt_verify`. -/
  jwtVerify : String → Option String

/-- One section of the cache: values with their expiry. -/
abbrev Section := String → Option (String × Int)

/-- The two sections of the cache that sessions are kept in. -/
structure Caches where
  /-- Sessions by identifier. -/
  session : Section
  /-- Session identifiers by `sid` and by `sub`. -/
  sid : Section

/-- What a request can read. -/
structure Request where
  /-- The `Cookie` header. -/
  cookies : Option String
  /-- `apr_time_now`. -/
  now : Int
  now_nonneg : 0 ≤ now := by decide
  /-- Whether the cache backend works during this request. -/
  cacheAnswers : Bool := true
  /-- The identifier `oidc_session_id_new` draws. -/
  freshId : String := ""
  context : CookieContext := {}

/-- What a request changes. -/
structure World where
  caches : Caches
  emitted : List SetCookie := []

/-- A string argument as `%s` prints it. -/
def keyText (key : Option String) : String := key.getD "(null)"

/-- `oidc_cache_get_session`: fails when the backend does not answer. -/
def cacheGetSession (request : Request) (world : World) (key : Option String) :
    Option (Option String) :=
  if request.cacheAnswers then
    some (ExpiringMap.live request.now (world.caches.session (keyText key)))
  else
    none

/-- `oidc_cache_set_session`, deleting for `none`. -/
def cacheSetSession (request : Request) (world : World) (key : Option String)
    (value : Option String) (expiry : Int) : World × Bool :=
  if request.cacheAnswers then
    ({ world with
        caches := { world.caches with
          session := Function.update world.caches.session (keyText key)
            (value.map fun text => (text, expiry)) } }, true)
  else
    (world, false)

/-- `oidc_cache_get_sid`. -/
def cacheGetSid (request : Request) (world : World) (key : String) : Option (Option String) :=
  if request.cacheAnswers then
    some (ExpiringMap.live request.now (world.caches.sid key))
  else
    none

/-- `oidc_cache_set_sid`, deleting for `none`. -/
def cacheSetSid (request : Request) (world : World) (key : String) (value : Option String)
    (expiry : Int) : World :=
  if request.cacheAnswers then
    { world with
      caches := { world.caches with
        sid := Function.update world.caches.sid key (value.map fun text => (text, expiry)) } }
  else
    world

/-- Emit `Set-Cookie` headers. -/
def World.emit (world : World) (sets : List SetCookie) : World :=
  { world with emitted := world.emitted ++ sets }

/-! ## Encoding -/

/-- `OIDC_SESSION_FORMAT_VERSION`. -/
def formatVersion : Int := 1

/-- `oidc_session_encode`. -/
def encode (codec : Codec) (cfg : Config) (state : Object) (encrypt : Bool) : Option String :=
  if encrypt = false then codec.jsonEncode state
  else if cfg.cryptoPassphrase = false then none
  else (codec.jsonEncode state).bind codec.jwtCreate

/-- `oidc_session_version_supported`. -/
def versionSupported (state : Object) : Bool := state.getInt "v" 1 ≤ formatVersion

/-- `oidc_session_decode`: the state, or a failure which leaves none behind. -/
def decode (codec : Codec) (cfg : Config) (text : String) (encrypt : Bool) : Option Object :=
  (if encrypt = false then codec.jsonDecodeObject text
    else if cfg.cryptoPassphrase = false then none
    else (codec.jwtVerify text).bind codec.jsonDecodeObject).filter versionSupported

/-- `oidc_session_clear`: everything but the identifiers. -/
def clear (z : Session) : Session := { z with remoteUser := none, expiry := 0, state := none }

/-- `oidc_session_set` on the state: a missing value deletes the member. -/
def setMember (state : Object) (key : String) (value : Option String) : Object :=
  match value with
  | some text => state.set key (.str text)
  | none => state.del key

/-- `oidc_util_apr_time_from_sec` for whole seconds, saturating at the largest `apr_time_t`. -/
def aprTimeFromSec (seconds : Int) : Int :=
  if seconds ≤ 0 then 0
  else if (2 ^ 63 - 1) / 1000000 ≤ seconds then 2 ^ 63 - 1
  else seconds * 1000000

/-- `oidc_session_get_key2timestamp`. -/
def key2timestamp (state : Object) (key : String) : Int :=
  if -1 < state.getInt64 key (-1) then aprTimeFromSec (state.getInt64 key (-1)) else -1

/-! ## Saving -/

/-- `OIDC_HTTP_COOKIE_SAMESITE_NONE`. -/
def sameSiteNone (request : Request) : Option String :=
  if request.context.secure then some "SameSite=None" else none

/-- `oidc_session_cookie_samesite`. -/
def cookieSameSite (cfg : Config) (request : Request) (firstTime : Bool) : Option String :=
  match cfg.sameSite with
  | .strict => some (if firstTime then "SameSite=Lax" else "SameSite=Strict")
  | .lax => some "SameSite=Lax"
  | .none => sameSiteNone request
  | .disabled => none

/-- The expiry of a session cookie. -/
def cookieExpiry (cfg : Config) (z : Session) : Int :=
  if cfg.persistentCookie then z.expiry else -1

/-- Index the session under its `sid` or `sub` and note the index in the state. -/
def saveIndex (request : Request) (world : World) (z : Session) (state : Object) (key : String)
    (index : Option String) : World × Object :=
  match index with
  | none => (world, state)
  | some text =>
      (cacheSetSid request world text (some (keyText z.uuid)) z.expiry,
        state.set key (.str text))

/-- Drop the index under the `sid` of a terminated session. -/
def clearSid (request : Request) (world : World) (z : Session) : World :=
  match z.sid with
  | none => world
  | some sid => cacheSetSid request world sid none 0

/-- Drop the index under the `sub` of a terminated session, unless it points to another session. -/
def clearSub (request : Request) (world : World) (z : Session) : World :=
  match z.sub with
  | none => world
  | some sub =>
      match (cacheGetSid request world sub).getD none with
      | none => cacheSetSid request world sub none 0
      | some uuid => if some uuid = z.uuid then cacheSetSid request world sub none 0 else world

/-- `oidc_session_save_cache`. -/
def saveCache (codec : Codec) (cfg : Config) (request : Request) (world : World) (z : Session)
    (firstTime : Bool) : World × Session × Bool :=
  match z.state with
  | some state =>
      let (world, state) := saveIndex request world z state "sid" z.sid
      let (world, state) := saveIndex request world z state "sub" z.sub
      let z := { z with state := some state }
      match encode codec cfg state false with
      | none => (world, z, false)
      | some text =>
          match cacheSetSession request world z.uuid (some text) z.expiry with
          | (world, true) =>
              (world.emit [setCookie request.context cfg.cookieName (keyText z.uuid)
                (cookieExpiry cfg z) (cookieSameSite cfg request firstTime)], z, true)
          | (world, false) => (world, z, false)
  | none =>
      let world := clearSub request (clearSid request world z) z
      let world := world.emit [setCookie request.context cfg.cookieName "" 0 (sameSiteNone request)]
      let (world, rc) := cacheSetSession request world z.uuid none 0
      (world, z, rc)

/-- `oidc_session_save_cookie`. -/
def saveCookie (codec : Codec) (cfg : Config) (request : Request) (world : World) (z : Session)
    (firstTime : Bool) : World × Bool :=
  let encoded := match z.state with
    | none => some ""
    | some state => encode codec cfg state true
  match encoded with
  | none => (world, false)
  | some text =>
      let (sets, rc) := setChunkedCookie request.context request.cookies cfg.cookieName text
        (cookieExpiry cfg z) cfg.cookieChunkSize
        (if z.state.isNone then sameSiteNone request else cookieSameSite cfg request firstTime)
      (world.emit sets, rc)

/-- The members `oidc_session_save` writes into the state. -/
def stamp (z : Session) (state : Object) : Object :=
  let state := state.set "v" (.int formatVersion)
  let state := setMember state "r" z.remoteUser
  let state := if z.expiry ≤ -1 then state else state.set "e" (.int (z.expiry / 1000000))
  setMember state "i" z.uuid

/-- `oidc_session_save`. -/
def save (codec : Codec) (cfg : Config) (request : Request) (world : World) (z : Session)
    (firstTime : Bool) : World × Session × Bool :=
  let z := { z with state := z.state.map (stamp z) }
  let (world, z, rc) :=
    match cfg.sessionType with
    | .serverCache => saveCache codec cfg request world z firstTime
    | .clientCookie => (world, z, false)
  if cfg.sessionType = .clientCookie ∨ (rc = false ∧ cfg.fallbackToCookie = true) then
    let (world, rc) := saveCookie codec cfg request world z firstTime
    (world, z, rc)
  else
    (world, z, rc)

/-- `oidc_session_kill`. -/
def kill (codec : Codec) (cfg : Config) (request : Request) (world : World) (z : Session) :
    World × Session :=
  let (world, z, _) := save codec cfg request world { z with state := none } false
  (world, clear z)

/-! ## Loading -/

/-- `oidc_session_load_cache_by_uuid`. -/
def loadCacheByUuid (codec : Codec) (cfg : Config) (request : Request) (world : World)
    (uuid : String) (z : Session) : World × Session × Bool :=
  match cacheGetSession request world (some uuid) with
  | none => (world, z, false)
  | some none => (world, z, true)
  | some (some text) =>
      match decode codec cfg text false with
      | none => (world, { z with state := none }, false)
      | some state =>
          let z := { z with state := some state, uuid := some uuid }
          if state.getString "i" = some uuid then
            (world, z, true)
          else
            -- "cache corruption detected"
            ((cacheSetSession request world z.uuid none 0).1, clear z, false)

/-- `oidc_session_load_cache`. -/
def loadCache (codec : Codec) (cfg : Config) (request : Request) (world : World) (z : Session) :
    World × Session × Bool :=
  match getCookie request.cookies cfg.cookieName with
  | none => (world, z, false)
  | some uuid =>
      match loadCacheByUuid codec cfg request world uuid z with
      | (world, z, false) => (world, z, false)
      | (world, z, true) =>
          if z.state.isNone then
            if cfg.fallbackToCookie then
              (world, z, false)
            else
              (world.emit [setCookie request.context cfg.cookieName "" 0 (sameSiteNone request)],
                z, true)
          else
            (world, z, true)

/-- `oidc_session_load_cookie`. -/
def loadCookie (codec : Codec) (cfg : Config) (request : Request) (z : Session) : Session × Bool :=
  match getChunkedCookie request.cookies cfg.cookieName cfg.cookieChunkSize with
  | none => (z, true)
  | some text =>
      match decode codec cfg text true with
      | none => ({ z with state := none }, false)
      | some state => ({ z with state := some state }, true)

/-- The id_token claims of a session are missing or an object. -/
def claimsIntact (state : Object) : Bool :=
  match state.get "idc" with
  | none => true
  | some claims => claims.isObject

/-- `oidc_session_extract`: a corrupt or expired session is killed. -/
def extract (codec : Codec) (cfg : Config) (request : Request) (world : World) (z : Session) :
    World × Session × Bool :=
  match z.state with
  | none => (world, z, false)
  | some state =>
      if claimsIntact state = false then
        let (world, z) := kill codec cfg request world z
        (world, z, false)
      else
        let z := { z with expiry := key2timestamp state "e" }
        if z.expiry < request.now then
          let (world, z) := kill codec cfg request world z
          (world, z, false)
        else
          (world,
            { z with
              remoteUser := state.getString "r"
              sid := state.getString "sid"
              sub := state.getString "sub"
              uuid := state.getString "i" }, true)

/-- `oidc_session_load`. -/
def load (codec : Codec) (cfg : Config) (request : Request) (world : World) :
    World × Session × Bool :=
  let z : Session := { uuid := some request.freshId }
  let (world, z, rc) :=
    match cfg.sessionType with
    | .serverCache => loadCache codec cfg request world z
    | .clientCookie => (world, z, false)
  let (z, rc) :=
    if cfg.sessionType = .clientCookie ∨ (rc = false ∧ cfg.fallbackToCookie = true) then
      loadCookie codec cfg request z
    else
      (z, rc)
  if rc then extract codec cfg request world z else (world, z, rc)

end Session

end ModAuthOpenidc
