import ModAuthOpenidc.Handle.RefreshRace

/-!
# Two callers with one refresh

The caller that performs a refresh takes its result from the response, the others take it from the
cache. The cached object holds every value of the response but the scope.
-/

namespace ModAuthOpenidc

namespace Handle

open Proto

/-- A result has the values of another one, and was received in the same second. -/
structure SameResult (cached received : Tokens) : Prop where
  response : cached.toTokenResponse = received.toTokenResponse
  second : cached.ts / 1000000 = received.ts / 1000000

/-- The caller that reads a text from the cache fares as the one that has received the result. -/
structure Agrees (settings : Settings) (received : Tokens) (text : String) : Prop where
  result : ∃ cached, refreshTokenCacheParse settings.codec text noTokens = some cached ∧
    SameResult cached received
  /-- At the same time and with the same session, both store the same. -/
  sessions : ∀ (request : Session.Request) (provider : Provider) (direct hit : GrantAnswers)
    (x : Exchange), missesCache settings.codec direct.reads = true →
    receivedTokens provider direct.tokenEndpoint request.now = some received →
    awaitRefresh hit.reads 0 (refreshLockTtl * 2) = some text →
    (refreshTokenGrant settings request provider hit x).2.session =
      (refreshTokenGrant settings request provider direct x).2.session

/-- A time and another time of the same second are stored alike. -/
theorem setTimestamp_congr (z : Session) (key : String) {time other : Int}
    (second : time / 1000000 = other / 1000000) :
    (if 0 ≤ time / 1000000 then z.setTimestamp key time else z) =
      if 0 ≤ other / 1000000 then z.setTimestamp key other else z := by
  rw [Session.setTimestamp, Session.setTimestamp, second]
  split
  · rw [if_neg (by omega), if_neg (by omega)]
  · rfl

theorem setTimestamp_of_second (z : Session) (key : String) (time : Int) :
    z.setTimestamp key time = if 0 ≤ time / 1000000 then z.setTimestamp key time else z := by
  split
  · rfl
  · rw [Session.setTimestamp, if_pos (by omega)]

/-- What is stored depends on the values and the second only. -/
theorem SameResult.storeTokens_eq {cached received : Tokens} (same : SameResult cached received)
    (now : Int) (z : Session) : storeTokens now cached z = storeTokens now received z := by
  obtain ⟨response, second⟩ := same
  obtain ⟨cached, time⟩ := cached
  obtain ⟨received, other⟩ := received
  obtain rfl : cached = received := response
  have stored : ∀ z : Session, z.setTimestamp "atlr" time = z.setTimestamp "atlr" other := by
    intro z
    rw [setTimestamp_of_second z "atlr" time, setTimestamp_congr z "atlr" second,
      ← setTimestamp_of_second]
  simp only [storeTokens, storeAccessToken, Session.setAccessTokenLastRefresh, stored]

theorem applyIdToken_session (settings : Settings) (request : Session.Request) (provider : Provider)
    (idToken : String) {x y : Exchange} (same : x.session = y.session) :
    (refreshTokenGrantApplyIdToken settings request provider idToken x).session =
      (refreshTokenGrantApplyIdToken settings request provider idToken y).session := by
  rw [refreshTokenGrantApplyIdToken, refreshTokenGrantApplyIdToken]
  split
  · exact same
  · rw [same]
    split
    · rfl
    · exact same

/-- The session after a grant, for a session with a refresh token. -/
theorem grant_session {settings : Settings} {request : Session.Request} {provider : Provider}
    {answers : GrantAnswers} {x : Exchange} {refreshToken : String} {tokens : Tokens}
    {writes : List Effect} (held : x.session.getRefreshToken = some refreshToken)
    (obtained : refreshTokenGrantObtainTokens settings.codec request.now provider
    refreshToken answers =
      (some tokens, writes)) :
    (refreshTokenGrant settings request provider answers x).2.session =
      match tokens.idToken with
      | none => storeTokens request.now tokens x.session
      | some idToken => (refreshTokenGrantApplyIdToken settings request provider idToken
          { x with session := storeTokens request.now tokens x.session }).session := by
  rw [refreshTokenGrant, held]
  dsimp only
  rw [obtained]
  dsimp only
  cases tokens.idToken with
  | none => rfl
  | some idToken => exact applyIdToken_session settings request provider idToken rfl

/-- The same values lead to the same session. -/
theorem SameResult.session {cached received : Tokens} (same : SameResult cached received)
    {settings : Settings} {request : Session.Request} {provider : Provider}
    {direct hit : GrantAnswers} {x : Exchange} {refreshToken : String}
    {directWrites hitWrites : List Effect} (held : x.session.getRefreshToken = some refreshToken)
    (performed : refreshTokenGrantObtainTokens settings.codec request.now provider refreshToken
      direct = (some received, directWrites))
    (taken : refreshTokenGrantObtainTokens settings.codec request.now provider refreshToken hit =
      (some cached, hitWrites)) :
    (refreshTokenGrant settings request provider hit x).2.session =
      (refreshTokenGrant settings request provider direct x).2.session := by
  rw [grant_session held performed, grant_session held taken, same.storeTokens_eq,
    show cached.idToken = received.idToken from congrArg TokenResponse.idToken same.response]

theorem grant_of_no_token {settings : Settings} {request : Session.Request} {provider : Provider}
    {x : Exchange} (absent : x.session.getRefreshToken = none) (answers : GrantAnswers) :
    (refreshTokenGrant settings request provider answers x).2 = x := by
  rw [refreshTokenGrant, absent]

/-- What the cache hands on is what was received, if there was no scope. -/
theorem cached_sameResult {codec : Session.Codec} (faithful : codec.Faithful) {received : Tokens}
    (lifetime : IsLifetime received.expiresIn) {text : String}
    (encoded : codec.jsonEncode (refreshTokenCacheObject received) = some text)
    (noScope : received.scope = none) :
    ∃ cached, refreshTokenCacheParse codec text noTokens = some cached ∧
      SameResult cached received := by
  refine ⟨_, refreshTokenCacheParse_cached faithful lifetime encoded noTokens, ?_, ?_⟩
  · cases received with
    | mk response ts =>
        cases response with
        | mk idToken accessToken tokenType expiresIn refreshToken scope =>
            obtain rfl : scope = none := noScope
            simp only [noTokens, Option.or_none]
  · dsimp only
    omega

/-- The result of the example with a scope. -/
def recordScoped : Tokens := { recordCached with scope := some "openid" }

/-- The token endpoint answers with a scope. -/
def recordScopedAnswer : GrantAnswers where
  tokenEndpoint := some [("access_token", .str "at1"), ("token_type", .str "Bearer"),
    ("expires_in", .int 3600), ("scope", .str "openid")]

end Handle

end ModAuthOpenidc
