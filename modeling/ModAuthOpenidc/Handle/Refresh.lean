import ModAuthOpenidc.Session.State
import ModAuthOpenidc.Proto.Userinfo

/-!
# Refreshing tokens

The refresh token grant of `src/handle/refresh.c`. The result is taken from a recent grant of
another request if the cache holds one, else from the token endpoint; a new id_token is applied when
it passes its checks and names the subject of the session. What a request does is recorded along the
way, so that statements about a whole request can speak about it.
-/

namespace ModAuthOpenidc

namespace Handle

open Proto

/-! ## Surroundings -/

/-- The settings that the handlers read, and the libraries they call. -/
structure Settings where
  session : Session.Config
  codec : Session.Codec
  jose : UserinfoJose
  filter : Session.ClaimFilter := {}
  /-- `oidc_get_provider_for_issuer`. -/
  providerForIssuer : String → Option Provider
  /-- `oidc_response_set_request_user`: the user that an id_token and the userinfo claims stand for.
  -/
  requestUser : Jwt → Option Object → Option String
  /-- `OIDCCookieDomain`, else the host of the request. -/
  cookieDomain : String := "localhost"
  /-- `OIDCStoreIDToken`. -/
  storeIdToken : Bool := true
  /-- `OIDCSessionInactivityTimeout` in seconds. -/
  sessionInactivityTimeout : Int := 300
  /-- Whether `OIDC_NO_USERINFO_SUB` is set. -/
  noUserinfoSub : Bool := false
  /-- Whether `OIDC_DONT_STORE_ID_TOKEN_CLAIMS_IN_SESSION` is set. -/
  dontStoreIdTokenClaims : Bool := false

/-- The settings of a server that keeps its sessions in the cache, without any keys. -/
def Settings.bare (codec : Session.Codec) : Settings where
  session :=
    { sessionType := .serverCache
      fallbackToCookie := false
      cookieChunkSize := 0
      cookieNameOk := Session.nameOk_defaultCookie }
  codec := codec
  jose :=
    { jwtParse := fun _ => none
      jwtVerify := fun _ => false
      hashBytes := fun _ _ => none
      base64urlDecode := fun _ => none
      jwtHeaderPeek := fun _ => false
      jweDecrypt := fun _ => none
      jsonDecodeObject := fun _ => none }
  providerForIssuer := fun _ => none
  requestUser := fun jwt _ => jwt.sub

/-- A number of whole seconds is a time. -/
theorem seconds_nonneg (seconds : Nat) : (0 : Int) ≤ seconds * 1000000 :=
  Int.mul_nonneg (Int.natCast_nonneg seconds) (Int.natCast_nonneg 1000000)

/-- What a request does that others can notice later. -/
inductive Effect
  /-- The refresh cache is written, or an entry is deleted. -/
  | cached (refreshToken : String) (value : Option String) (expiry : Int)
  /-- `oidc_refresh_token_grant` has returned `TRUE`, with the refresh token it has stored. -/
  | granted (refreshToken : Option String)
  /-- A refreshed id_token is applied to the session. -/
  | applied (jwt : Jwt)
  /-- The claims of a userinfo response are stored. -/
  | userinfo (claims : Object)
  /-- `oidc_session_save` is called, for a session with this state. -/
  | saved (state : Option Object)
  /-- `oidc_session_kill` is called. -/
  | killed

/-- A request at work: its copy of the session, what it has changed, and the record of its effects.
-/
structure Exchange where
  session : Session
  world : Session.World
  effects : List Effect := []

/-- Add to the record. -/
def Exchange.record (x : Exchange) (effects : List Effect) : Exchange :=
  { x with effects := x.effects ++ effects }

/-- What one refresh grant meets. -/
structure GrantAnswers where
  /-- What the successive reads of the refresh cache find. -/
  reads : Nat → Option String := fun _ => none
  /-- The response of the token endpoint, if it is an object without an error. -/
  tokenEndpoint : Option Object
  /-- What the cache holds after a failure of the token endpoint. -/
  recovered : Option String := none

/-! ## The refresh cache -/

/-- `OIDC_REFRESH_LOCK_VALUE`. -/
def refreshLockValue : String := "needstobelargerthanafewcharacters"

/-- `OIDC_REFRESH_FAILED_LOCK_VALUE`. -/
def refreshFailedLockValue : String := "alsoneedstobelargerthanafewcharactersbutdifferent"

/-- `OIDC_REFRESH_LOCK_TTL` in seconds. -/
def refreshLockTtl : Nat := 5

/-- `OIDC_REFRESH_CACHE_TTL` in seconds. -/
def refreshCacheTtl : Nat := 30

/-- The out parameters of `oidc_refresh_token_grant_obtain_tokens`. -/
structure Tokens extends TokenResponse where
  ts : Int
  deriving DecidableEq, Repr

/-- The out parameters before anything was found. -/
def noTokens : Tokens where
  idToken := none
  accessToken := none
  tokenType := none
  expiresIn := -1
  refreshToken := none
  scope := none
  ts := 0

/-- A member of a cached result, unless it is absent. -/
def cachedText (json : Object) (name : String) (old : Option String) : Option String :=
  match json.get name with
  | none => old
  | some value => value.stringValue

/-- `oidc_json_integer_value`. -/
def integerValue : Json → Int
  | .int value => value
  | _ => 0

/-- `oidc_refresh_token_cache_parse`. -/
def refreshTokenCacheParse (codec : Session.Codec) (text : String) (tokens : Tokens) :
    Option Tokens :=
  (codec.jsonDecodeObject text).map fun json =>
    { idToken := cachedText json "id_token" tokens.idToken
      accessToken := cachedText json "access_token" tokens.accessToken
      tokenType := cachedText json "token_type" tokens.tokenType
      expiresIn := match json.get "expires_in" with
        | none => tokens.expiresIn
        | some value => max intMin (min intMax (integerValue value))
      refreshToken := cachedText json "refresh_token" tokens.refreshToken
      scope := tokens.scope
      ts := match json.get "ts" with
        | none => tokens.ts
        | some value => integerValue value * 1000000 }

/-- The result that `oidc_refresh_token_cache_set` stores. -/
def refreshTokenCacheObject (tokens : Tokens) : Object :=
  let json := Session.setMember [] "access_token" tokens.accessToken
  let json := Session.setMember json "token_type" tokens.tokenType
  let json := json.set "expires_in" (.int tokens.expiresIn)
  let json := Session.setMember json "id_token" tokens.idToken
  let json := Session.setMember json "refresh_token" tokens.refreshToken
  json.set "ts" (.int (tokens.ts / 1000000))

/-- `oidc_refresh_token_cache_result_t`. -/
inductive RefreshCacheResult
  | success (tokens : Tokens)
  | error
  | abort

/-- The polling loop of `oidc_refresh_token_cache_get`: read again while another caller holds the
lock. -/
def awaitRefresh (reads : Nat → Option String) : Nat → Nat → Option String
  | attempt, 0 => reads attempt
  | attempt, retries + 1 =>
      if reads attempt = some refreshLockValue then awaitRefresh reads (attempt + 1) retries
      else reads attempt

/-- `oidc_refresh_token_cache_get`; the lock is claimed when there is no result to use. -/
def refreshTokenCacheGet (codec : Session.Codec) (reads : Nat → Option String) :
    RefreshCacheResult :=
  match awaitRefresh reads 0 (refreshLockTtl * 2) with
  | none => .error
  | some text =>
      if text = refreshFailedLockValue then .abort
      else if text = refreshLockValue then .error
      else
        match refreshTokenCacheParse codec text noTokens with
        | none => .error
        | some tokens => .success tokens

/-! ## The grant -/

/-- What a response leaves in the out parameters when `oidc_proto_token_endpoint_response_parse`
rejects its token type. -/
def rejectedTokens (response : Option Object) : Tokens :=
  match response with
  | none => noTokens
  | some response =>
      { noTokens with
        idToken := response.getString "id_token"
        accessToken := response.getString "access_token"
        tokenType := response.getString "token_type" }

/-- The result of another caller, found after an own failure. -/
def recoverTokens (codec : Session.Codec) (answers : GrantAnswers) : Option Tokens :=
  match answers.recovered with
  | none => none
  | some text =>
      if text = refreshLockValue ∨ text = refreshFailedLockValue then none
      else refreshTokenCacheParse codec text (rejectedTokens answers.tokenEndpoint)

/-- `oidc_refresh_token_grant_obtain_tokens`, with its writes to the cache. -/
def refreshTokenGrantObtainTokens (codec : Session.Codec) (now : Int) (provider : Provider)
    (refreshToken : String) (answers : GrantAnswers) : Option Tokens × List Effect :=
  match refreshTokenCacheGet codec answers.reads with
  | .success tokens => (some tokens, [])
  | .abort => (none, [])
  | .error =>
      let locked := Effect.cached refreshToken (some refreshLockValue)
        (now + refreshLockTtl * 1000000)
      match answers.tokenEndpoint.bind (tokenEndpointResponseParse provider) with
      | some response =>
          let tokens : Tokens := { response with ts := now }
          (some tokens, [locked, .cached refreshToken
            (codec.jsonEncode (refreshTokenCacheObject tokens)) (now + refreshCacheTtl * 1000000)])
      | none =>
          match recoverTokens codec answers with
          | some tokens => (some tokens, [locked])
          | none => (none, [locked, .cached refreshToken (some refreshFailedLockValue)
              (now + refreshCacheTtl * 1000000)])

/-- `oidc_refresh_token_grant_id_token_sub_match`. -/
def refreshTokenGrantIdTokenSubMatch (z : Session) (jwt : Jwt) : Bool :=
  z.idtokenSub.all fun sub => jwt.sub = some sub

/-- The validation of a refreshed id_token.  Without a nonce the nonce cache is not consulted. -/
def refreshedIdTokenParse (settings : Settings) (request : Session.Request) (provider : Provider)
    (idToken : String) : Option Jwt :=
  ((idtokenParse settings.jose.toJose { now := request.now } provider (some idToken) none
    true).exec fun _ => none).1

/-- The session with the claims of an id_token that `oidc_refresh_token_grant_apply_id_token`
accepts. -/
def applyIdToken (settings : Settings) (provider : Provider) (z : Session) (idToken : String)
    (jwt : Jwt) : Session :=
  let z := if settings.storeIdToken then z.setIdtoken (some idToken) else z
  let z := z.setIdtokenClaims settings.filter settings.dontStoreIdTokenClaims jwt.claims
  if provider.sessionMaxDuration = 0 then z.setSessionExpires
      (Session.aprTimeFromSec ⌊jwt.exp⌋) else z

/-- `oidc_refresh_token_grant_apply_id_token`. -/
def refreshTokenGrantApplyIdToken (settings : Settings) (request : Session.Request)
    (provider : Provider) (idToken : String) (x : Exchange) : Exchange :=
  match refreshedIdTokenParse settings request provider idToken with
  | none => x
  | some jwt =>
      if refreshTokenGrantIdTokenSubMatch x.session jwt then
        Exchange.record { x with session := applyIdToken settings provider x.session idToken jwt }
          [.applied jwt]
      else
        x

/-- The access token that `oidc_refresh_token_grant` stores, with its attributes. -/
def storeAccessToken (now : Int) (tokens : Tokens) (z : Session) : Session :=
  let z := z.setAccessToken tokens.accessToken
  let z := z.setAccessTokenType tokens.tokenType
  let z := z.setAccessTokenExpires now tokens.expiresIn
  z.setAccessTokenLastRefresh tokens.ts

/-- Everything that `oidc_refresh_token_grant` stores before it looks at the id_token. -/
def storeTokens (now : Int) (tokens : Tokens) (z : Session) : Session :=
  let z := storeAccessToken now tokens z
  let z := if tokens.refreshToken.isSome then z.setRefreshToken tokens.refreshToken else z
  if tokens.scope.isSome then z.setScope tokens.scope else z

/-- `oidc_refresh_token_grant`. -/
def refreshTokenGrant (settings : Settings) (request : Session.Request) (provider : Provider)
    (answers : GrantAnswers) (x : Exchange) : Bool × Exchange :=
  match x.session.getRefreshToken with
  | none => (false, x)
  | some refreshToken =>
      match refreshTokenGrantObtainTokens settings.codec request.now provider refreshToken
        answers with
      | (none, writes) => (false, x.record writes)
      | (some tokens, writes) =>
          let x := Exchange.record { x with session := storeTokens request.now tokens x.session }
            (writes ++ [.granted tokens.refreshToken])
          match tokens.idToken with
          | none => (true, x)
          | some idToken =>
              (true, refreshTokenGrantApplyIdToken settings request provider idToken x)

/-! ## What a grant changes -/

section Grant

variable {settings : Settings} {request : Session.Request} {provider : Provider}
  {answers : GrantAnswers} {x x' : Exchange}

/-- Only the refresh cache is written. -/
def CacheOnly (effects : List Effect) : Prop :=
  ∀ effect ∈ effects, ∃ refreshToken value expiry, effect = .cached refreshToken value expiry

theorem refreshTokenGrantObtainTokens_writes {codec : Session.Codec} {now : Int}
    {refreshToken : String} {tokens : Option Tokens} {writes : List Effect}
    (obtained : refreshTokenGrantObtainTokens codec now provider refreshToken answers =
      (tokens, writes)) : CacheOnly writes := by
  have cached (a b : Effect) (first : ∃ token value expiry, a = .cached token value expiry)
      (second : ∃ token value expiry, b = .cached token value expiry) : CacheOnly [a, b] := by
    intro effect member
    rcases List.mem_cons.mp member with rfl | member
    · exact first
    · rw [List.mem_singleton.mp member]
      exact second
  unfold refreshTokenGrantObtainTokens at obtained
  split at obtained
  · cases obtained
    exact fun _ member => absurd member List.not_mem_nil
  · cases obtained
    exact fun _ member => absurd member List.not_mem_nil
  · dsimp only at obtained
    split at obtained
    · cases obtained
      exact cached _ _ ⟨_, _, _, rfl⟩ ⟨_, _, _, rfl⟩
    · split at obtained
      · cases obtained
        intro effect member
        exact ⟨_, _, _, List.mem_singleton.mp member⟩
      · cases obtained
        exact cached _ _ ⟨_, _, _, rfl⟩ ⟨_, _, _, rfl⟩

theorem storeAccessToken_writes (now : Int) (tokens : Tokens) (z : Session) :
    Session.Writes ["at", "att", "ate", "atlr"] z (storeAccessToken now tokens z) := by
  have typed := ((Session.Writes.refl ["at", "att", "ate", "atlr"] z).setText "at"
    tokens.accessToken).setText "att" tokens.tokenType
  exact (Session.Writes.ite (-1 < tokens.expiresIn) (typed.setTimestamp "ate" _)
    typed).setTimestamp "atlr" tokens.ts

theorem storeTokens_writes (now : Int) (tokens : Tokens) (z : Session) :
    Session.Writes ["at", "att", "ate", "atlr", "rt", "scp"] z (storeTokens now tokens z) := by
  have stored : Session.Writes ["at", "att", "ate", "atlr", "rt", "scp"] z
      (storeAccessToken now tokens z) := (storeAccessToken_writes now tokens z).mono (by decide)
  have rotated := Session.Writes.ite (tokens.refreshToken.isSome = true)
    (stored.setText "rt" tokens.refreshToken) stored
  exact .ite _ (rotated.setText "scp" tokens.scope) rotated

theorem applyIdToken_writes (settings : Settings) (provider : Provider) (z : Session)
    (idToken : String) (jwt : Jwt) :
    Session.Writes ["idt", "idc", "se"] z (applyIdToken settings provider z idToken jwt) := by
  have start := Session.Writes.refl ["idt", "idc", "se"] z
  have kept := Session.Writes.ite (settings.storeIdToken = true)
    (start.setText "idt" (some idToken)) start
  have claims := Session.Writes.ite (settings.dontStoreIdTokenClaims = true) kept
    (kept.jsonSet "idc" ((settings.filter.apply (some jwt.claims)).map .obj))
  exact .ite _ (claims.setTimestamp "se" _) claims

/-- A grant that fails leaves the session alone. -/
theorem refreshTokenGrant_false
    (ran : refreshTokenGrant settings request provider answers x = (false, x')) :
    ∃ writes, CacheOnly writes ∧ x' = x.record writes := by
  unfold refreshTokenGrant at ran
  split at ran
  · cases ran
    exact ⟨[], fun _ member => absurd member List.not_mem_nil, by simp [Exchange.record]⟩
  · split at ran
    · next obtained =>
        cases ran
        exact ⟨_, refreshTokenGrantObtainTokens_writes obtained, rfl⟩
    · dsimp only at ran
      split at ran <;> cases ran

/-- The exchange after a grant has stored its tokens. -/
def Exchange.granted (x : Exchange) (request : Session.Request) (tokens : Tokens)
    (writes : List Effect) : Exchange :=
  Exchange.record { x with session := storeTokens request.now tokens x.session }
    (writes ++ [.granted tokens.refreshToken])

/-- A grant that succeeds stores the tokens it has obtained, and applies an id_token if there is one
that is valid and names the subject of the session. -/
theorem refreshTokenGrant_true
    (ran : refreshTokenGrant settings request provider answers x = (true, x')) :
    ∃ refreshToken tokens writes, x.session.getRefreshToken = some refreshToken ∧
      refreshTokenGrantObtainTokens settings.codec request.now provider refreshToken answers =
        (some tokens, writes) ∧
      (x' = x.granted request tokens writes ∨
        ∃ idToken jwt, refreshedIdTokenParse settings request provider idToken = some jwt ∧
          refreshTokenGrantIdTokenSubMatch (x.granted request tokens writes).session jwt = true ∧
          x' = Exchange.record
            { x.granted request tokens writes with
              session := applyIdToken settings provider (x.granted request tokens writes).session
                idToken jwt } [.applied jwt]) := by
  unfold refreshTokenGrant at ran
  split at ran
  · cases ran
  · next refreshToken held =>
      split at ran
      · cases ran
      · next tokens writes obtained =>
          refine ⟨refreshToken, tokens, writes, held, obtained, ?_⟩
          dsimp only at ran
          split at ran
          · exact .inl (Prod.mk.inj ran).2.symm
          · next idToken issued =>
              have applied := (Prod.mk.inj ran).2
              unfold refreshTokenGrantApplyIdToken at applied
              split at applied
              · exact .inl applied.symm
              · next jwt parsed =>
                  split at applied
                  · next agrees => exact .inr ⟨idToken, jwt, parsed, agrees, applied.symm⟩
                  · exact .inl applied.symm

end Grant

/-- `oidc_get_provider_from_session`. -/
def getProviderFromSession (settings : Settings) (z : Session) : Option Provider :=
  z.getIssuer.bind settings.providerForIssuer

/-- `oidc_refresh_access_token_before_expiry`; the flag says whether the session is to be saved. -/
def refreshAccessTokenBeforeExpiry (settings : Settings) (request : Session.Request)
    (answers : GrantAnswers) (ttlMinimum : Int) (needsSave : Bool) (x : Exchange) :
    Bool × Bool × Exchange :=
  if ttlMinimum < 0 then (true, needsSave, x)
  else if x.session.getAccessTokenExpires ≤ 0 then (false, needsSave, x)
  else if x.session.getRefreshToken.isNone then (false, needsSave, x)
  else if request.now < x.session.getAccessTokenExpires - ttlMinimum * 1000000 then
    (true, needsSave, x)
  else
    match getProviderFromSession settings x.session with
    | none => (false, needsSave, x)
    | some provider =>
        match refreshTokenGrant settings request provider answers x with
        | (false, x) => (false, false, x)
        | (true, x) => (true, true, x)

end Handle

end ModAuthOpenidc
