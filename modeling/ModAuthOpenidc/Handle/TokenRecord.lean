import ModAuthOpenidc.Handle.Refresh
import ModAuthOpenidc.Session.Caches

/-!
# The record of the access token

A session keeps its access token, the type and the expiry under separate keys. A refresh takes them
from one response of the token endpoint, which may have been received by another caller a while ago
and come through the refresh cache. The token and its type follow the response; the expiry is
counted from the moment the result is applied, and a response without a lifetime leaves the old
expiry in place.
-/

namespace ModAuthOpenidc

namespace Handle

open Proto

/-! ## The refresh cache hands results on -/

theorem cachedText_of_get {json : Object} {name : String} {value : Option String}
    (stored : json.get name = value.map .str) (old : Option String) :
    cachedText json name old = value.or old := by
  rw [cachedText, stored]
  cases value <;> rfl

/-- The members of a cached result. -/
theorem get_refreshTokenCacheObject (tokens : Tokens) :
    (refreshTokenCacheObject tokens).get "access_token" = tokens.accessToken.map .str ∧
      (refreshTokenCacheObject tokens).get "token_type" = tokens.tokenType.map .str ∧
      (refreshTokenCacheObject tokens).get "expires_in" = some (.int tokens.expiresIn) ∧
      (refreshTokenCacheObject tokens).get "id_token" = tokens.idToken.map .str ∧
      (refreshTokenCacheObject tokens).get "refresh_token" = tokens.refreshToken.map .str ∧
      (refreshTokenCacheObject tokens).get "ts" = some (.int (tokens.ts / 1000000)) := by
  simp [refreshTokenCacheObject, Session.get_setMember, Object.get_set]

/-- The lifetimes that a token response can carry are `int`s. -/
def IsLifetime (expiresIn : Int) : Prop := intMin ≤ expiresIn ∧ expiresIn ≤ intMax

/-- A cached result is read back with its time in whole seconds and without its scope, over what the
out parameters held before. -/
theorem refreshTokenCacheParse_cached {codec : Session.Codec} (faithful : codec.Faithful)
    {received : Tokens} (lifetime : IsLifetime received.expiresIn) {text : String}
    (encoded : codec.jsonEncode (refreshTokenCacheObject received) = some text) (left : Tokens) :
    refreshTokenCacheParse codec text left = some
      { idToken := received.idToken.or left.idToken
        accessToken := received.accessToken.or left.accessToken
        tokenType := received.tokenType.or left.tokenType
        expiresIn := received.expiresIn
        refreshToken := received.refreshToken.or left.refreshToken
        scope := left.scope
        ts := received.ts / 1000000 * 1000000 } := by
  obtain ⟨accessToken, tokenType, expiresIn, idToken, refreshToken, ts⟩ :=
    get_refreshTokenCacheObject received
  obtain ⟨low, high⟩ := lifetime
  rw [refreshTokenCacheParse, faithful.decodes _ _ encoded, Option.map_some,
    cachedText_of_get accessToken, cachedText_of_get tokenType, cachedText_of_get idToken,
    cachedText_of_get refreshToken, expiresIn, ts]
  simp only [integerValue, min_eq_right high, max_eq_right low]

theorem isLifetime_strToInt (text : Option String) : IsLifetime (strToInt text (-1)) := by
  unfold strToInt
  cases found : text.bind strToIntChecked with
  | none => exact ⟨by decide, by decide⟩
  | some value =>
      obtain ⟨text, -, checked⟩ := Option.bind_eq_some_iff.mp found
      have range := (Option.filter_eq_some_iff.mp checked).2
      simpa [IsLifetime] using range

theorem isLifetime_parseExpiresIn (response : Object) : IsLifetime (parseExpiresIn response) := by
  unfold parseExpiresIn
  split
  · exact isLifetime_strToInt _
  · next value found =>
      rw [Object.getInt, found]
      dsimp only
      unfold IsLifetime
      have bounds : intMin ≤ intMax := by decide
      split
      · exact ⟨bounds, le_refl _⟩
      · split <;> omega
  · exact ⟨by decide, by decide⟩

theorem isLifetime_of_parsed {provider : Provider} {object : Object} {response : TokenResponse}
    (parsed : tokenEndpointResponseParse provider object = some response) :
    IsLifetime response.expiresIn := by
  unfold tokenEndpointResponseParse at parsed
  dsimp only at parsed
  split at parsed
  · cases parsed
  · cases parsed
    exact isLifetime_parseExpiresIn object

/-! ## Refreshes of one session -/

/-- A session through its refreshes, with the results that callers have put into the refresh cache.
-/
structure Refreshing where
  exchange : Exchange
  cached : List Tokens := []

/-- Another caller completes a refresh, or the session is refreshed. -/
inductive RefreshAct
  | other (provider : Provider) (object : Object) (now : Int)
  | own (request : Session.Request) (provider : Provider) (answers : GrantAnswers)

/-- The refresh cache has no result to use: the caller turns to the token endpoint. -/
def missesCache (codec : Session.Codec) (reads : Nat → Option String) : Bool :=
  match refreshTokenCacheGet codec reads with
  | .error => true
  | _ => false

/-- The result of a call to the token endpoint, with the time it was received. -/
def receivedTokens (provider : Provider) (object : Option Object) (now : Int) : Option Tokens :=
  (object.bind (tokenEndpointResponseParse provider)).map fun response =>
  { response with ts := now }

namespace Refreshing

/-- One act. -/
def step (settings : Settings) (state : Refreshing) : RefreshAct → Refreshing
  | .other provider object now =>
      { state with cached := (receivedTokens provider (some object) now).toList ++ state.cached }
  | .own request provider answers =>
      { exchange := (refreshTokenGrant settings request provider answers state.exchange).2
        cached := (if missesCache settings.codec answers.reads then
          receivedTokens provider answers.tokenEndpoint request.now
              else none).toList ++ state.cached }

/-- The acts one after the other. -/
def run (settings : Settings) (state : Refreshing) (acts : List RefreshAct) : Refreshing :=
  acts.foldl (step settings) state

/-- Every cached result is a response of a token endpoint. -/
def Genuine (state : Refreshing) : Prop :=
  ∀ received ∈ state.cached, IsLifetime received.expiresIn

theorem Genuine.step {state : Refreshing} (genuine : state.Genuine) (settings : Settings)
    (act : RefreshAct) : (state.step settings act).Genuine := by
  have parsed (provider : Provider) (object : Option Object) (now : Int) :
      ∀ received ∈ (receivedTokens provider object now).toList, IsLifetime received.expiresIn := by
    intro received member
    obtain ⟨response, found, rfl⟩ := Option.map_eq_some_iff.mp (Option.mem_toList.mp member)
    obtain ⟨object, -, parsed⟩ := Option.bind_eq_some_iff.mp found
    exact isLifetime_of_parsed parsed
  intro received member
  cases act with
  | other provider object now =>
      rcases List.mem_append.mp member with fresh | old
      · exact parsed _ _ _ received fresh
      · exact genuine received old
  | own request provider answers =>
      rcases List.mem_append.mp member with fresh | old
      · split at fresh
        · exact parsed _ _ _ received fresh
        · exact absurd fresh List.not_mem_nil
      · exact genuine received old

theorem Genuine.run {state : Refreshing} (genuine : state.Genuine) (settings : Settings)
    (acts : List RefreshAct) : (state.run settings acts).Genuine := by
  induction acts generalizing state with
  | nil => exact genuine
  | cons act rest ih => exact ih (genuine.step settings act)

end Refreshing

/-- The refresh cache holds a marker or a result that was put there. -/
def Cachable (codec : Session.Codec) (cached : List Tokens) (text : String) : Prop :=
  text = refreshLockValue ∨ text = refreshFailedLockValue ∨
    ∃ received ∈ cached, codec.jsonEncode (refreshTokenCacheObject received) = some text

/-- What a refresh reads from the cache was put there. -/
structure ReadsCache (codec : Session.Codec) (cached : List Tokens) (answers : GrantAnswers) :
    Prop where
  reads : ∀ attempt text, answers.reads attempt = some text → Cachable codec cached text
  recovered : ∀ text, answers.recovered = some text → Cachable codec cached text

/-- The response that a refresh takes its result from, and what an own response that was rejected
has left in the out parameters. -/
inductive Taken (codec : Session.Codec) (now : Int) (provider : Provider) (answers : GrantAnswers)
    (cached : List Tokens) : Tokens → Tokens → Prop
  /-- The own response. -/
  | direct {received : Tokens} (missed : missesCache codec answers.reads = true)
      (answered : receivedTokens provider answers.tokenEndpoint now = some received) :
      Taken codec now provider answers cached received noTokens
  /-- A recent response of another caller. -/
  | cached {received : Tokens} {text : String} (stored : received ∈ cached)
      (encoded : codec.jsonEncode (refreshTokenCacheObject received) = some text)
      (found : awaitRefresh answers.reads 0 (refreshLockTtl * 2) = some text)
      (unlocked : text ≠ refreshLockValue) (unfailed : text ≠ refreshFailedLockValue) :
      Taken codec now provider answers cached received noTokens
  /-- A response of another caller, after the own one was missing or rejected. -/
  | recovered {received : Tokens} {text : String}
      (missed : missesCache codec answers.reads = true)
      (failed : receivedTokens provider answers.tokenEndpoint now = none)
      (stored : received ∈ cached)
      (encoded : codec.jsonEncode (refreshTokenCacheObject received) = some text)
      (found : answers.recovered = some text)
      (unlocked : text ≠ refreshLockValue) (unfailed : text ≠ refreshFailedLockValue) :
      Taken codec now provider answers cached received (rejectedTokens answers.tokenEndpoint)

/-- The record of the access token describes a response. -/
structure Describes (z : Session) (received : Tokens) : Prop where
  accessToken : z.getAccessToken = received.accessToken
  tokenType : z.getAccessTokenType = received.tokenType
  /-- Without a lifetime there is no expiry. -/
  expiry : z.jsonGet "ate" = if -1 < received.expiresIn then
    some (.int (received.ts / 1000000 + received.expiresIn)) else none

/-- When a refresh keeps the record together: a response with a lifetime is applied in the second it
was received, without one there was no expiry before, and nothing is left of a rejected response. -/
structure InStep (z : Session) (now : Int) (received left : Tokens) : Prop where
  dated : -1 < received.expiresIn → received.ts / 1000000 = now / 1000000
  undated : received.expiresIn ≤ -1 → z.jsonGet "ate" = none
  accessToken : received.accessToken = none → left.accessToken = none
  tokenType : received.tokenType = none → left.tokenType = none

section Grant

variable {settings : Settings} {request : Session.Request} {provider : Provider}
  {answers : GrantAnswers} {cached : List Tokens}

/-- What the polling loop ends with has been read. -/
theorem exists_read {reads : Nat → Option String} {attempt retries : Nat} {text : String}
    (found : awaitRefresh reads attempt retries = some text) : ∃ n, reads n = some text := by
  induction retries generalizing attempt with
  | zero => exact ⟨attempt, found⟩
  | succ retries ih =>
      rw [awaitRefresh] at found
      split at found
      · exact ih found
      · exact ⟨attempt, found⟩

/-- A result of the cache is the text that the polling loop ends with. -/
theorem refreshTokenCacheGet_success {codec : Session.Codec} {reads : Nat → Option String}
    {tokens : Tokens} (hit : refreshTokenCacheGet codec reads = .success tokens) :
    ∃ text, awaitRefresh reads 0 (refreshLockTtl * 2) = some text ∧ text ≠ refreshLockValue ∧
      text ≠ refreshFailedLockValue ∧ refreshTokenCacheParse codec text noTokens = some tokens := by
  unfold refreshTokenCacheGet at hit
  split at hit
  · cases hit
  · next text found =>
      split at hit
      · cases hit
      · next unfailed =>
          split at hit
          · cases hit
          · next unlocked =>
              split at hit
              · cases hit
              · next parsed =>
                  cases hit
                  exact ⟨text, found, unlocked, unfailed, parsed⟩

theorem refreshTokenCacheGet_of_found {codec : Session.Codec} {reads : Nat → Option String}
    {text : String} {tokens : Tokens}
    (found : awaitRefresh reads 0 (refreshLockTtl * 2) = some text)
    (unlocked : text ≠ refreshLockValue) (unfailed : text ≠ refreshFailedLockValue)
    (parsed : refreshTokenCacheParse codec text noTokens = some tokens) :
    refreshTokenCacheGet codec reads = .success tokens := by
  rw [refreshTokenCacheGet, found]
  dsimp only
  rw [if_neg unfailed, if_neg unlocked, parsed]

theorem Cachable.result {codec : Session.Codec} {text : String}
    (cachable : Cachable codec cached text) (unlocked : text ≠ refreshLockValue)
    (unfailed : text ≠ refreshFailedLockValue) :
    ∃ received ∈ cached, codec.jsonEncode (refreshTokenCacheObject received) = some text := by
  rcases cachable with locked | failed | result
  · exact absurd locked unlocked
  · exact absurd failed unfailed
  · exact result

/-- The three ways to a result. -/
theorem obtained_cases {codec : Session.Codec} {now : Int} {refreshToken : String} {tokens : Tokens}
    {writes : List Effect}
    (obtained : refreshTokenGrantObtainTokens codec now provider refreshToken answers =
      (some tokens, writes)) :
    refreshTokenCacheGet codec answers.reads = .success tokens ∨
    missesCache codec answers.reads = true ∧
      (receivedTokens provider answers.tokenEndpoint now = some tokens ∨
        receivedTokens provider answers.tokenEndpoint now = none ∧
          recoverTokens codec answers = some tokens) := by
  unfold refreshTokenGrantObtainTokens at obtained
  unfold missesCache receivedTokens
  split at obtained
  · next hit =>
      cases obtained
      exact .inl hit
  · cases obtained
  · next missed =>
      dsimp only at obtained
      rw [missed]
      split at obtained
      · next response parsed =>
          cases obtained
          exact .inr ⟨rfl, .inl (by rw [parsed]; rfl)⟩
      · next failed =>
          split at obtained
          · next recovered =>
              cases obtained
              exact .inr ⟨rfl, .inr ⟨by rw [failed]; rfl, recovered⟩⟩
          · cases obtained

/-- A recovered result is a text of the cache, read over what a rejected response has left. -/
theorem recoverTokens_eq_some {codec : Session.Codec} {tokens : Tokens}
    (recovered : recoverTokens codec answers = some tokens) :
    ∃ text, answers.recovered = some text ∧ text ≠ refreshLockValue ∧
      text ≠ refreshFailedLockValue ∧
      refreshTokenCacheParse codec text (rejectedTokens answers.tokenEndpoint) = some tokens := by
  unfold recoverTokens at recovered
  split at recovered
  · cases recovered
  · next text found =>
      split at recovered
      · cases recovered
      · next unmarked =>
          exact ⟨text, found, fun locked => unmarked (.inl locked),
            fun failed => unmarked (.inr failed), recovered⟩

/-- A successful refresh has taken its result from some response. -/
theorem exists_taken {refreshToken : String} {tokens : Tokens} {writes : List Effect}
    (reads : ReadsCache settings.codec cached answers)
    (obtained : refreshTokenGrantObtainTokens settings.codec request.now provider
    refreshToken answers =
      (some tokens, writes)) :
    ∃ received left, Taken settings.codec request.now provider answers cached received left := by
  rcases obtained_cases obtained with hit | ⟨missed, answered | ⟨failed, recovered⟩⟩
  · obtain ⟨text, found, unlocked, unfailed, -⟩ := refreshTokenCacheGet_success hit
    obtain ⟨n, read⟩ := exists_read found
    obtain ⟨received, stored, encoded⟩ := (reads.reads n text read).result unlocked unfailed
    exact ⟨received, noTokens, .cached stored encoded found unlocked unfailed⟩
  · exact ⟨tokens, noTokens, .direct missed answered⟩
  · obtain ⟨text, found, unlocked, unfailed, -⟩ := recoverTokens_eq_some recovered
    obtain ⟨received, stored, encoded⟩ := (reads.recovered text found).result unlocked unfailed
    exact ⟨received, _, .recovered missed failed stored encoded found unlocked unfailed⟩

/-- The tokens that are obtained are those of the response, completed by what was left. -/
theorem Taken.tokens {refreshToken : String} {tokens received left : Tokens} {writes : List Effect}
    (faithful : settings.codec.Faithful)
    (genuine : ∀ received ∈ cached, IsLifetime received.expiresIn)
    (taken : Taken settings.codec request.now provider answers cached received left)
    (obtained : refreshTokenGrantObtainTokens settings.codec request.now provider
    refreshToken answers =
      (some tokens, writes)) :
    tokens.accessToken = received.accessToken.or left.accessToken ∧
      tokens.tokenType = received.tokenType.or left.tokenType ∧
      tokens.expiresIn = received.expiresIn := by
  have missedNoHit {tokens : Tokens} (missed : missesCache settings.codec answers.reads = true)
      (hit : refreshTokenCacheGet settings.codec answers.reads = .success tokens) : False := by
    rw [missesCache, hit] at missed
    cases missed
  cases taken with
  | direct missed answered =>
      rcases obtained_cases obtained with hit | ⟨-, same | ⟨failed, -⟩⟩
      · exact (missedNoHit missed hit).elim
      · obtain rfl := Option.some.inj (same.symm.trans answered)
        exact ⟨Option.or_none.symm, Option.or_none.symm, rfl⟩
      · cases failed.symm.trans answered
  | cached stored encoded found unlocked unfailed =>
      have parsed := refreshTokenCacheParse_cached faithful (genuine _ stored) encoded noTokens
      have hit := refreshTokenCacheGet_of_found found unlocked unfailed parsed
      rcases obtained_cases obtained with same | ⟨missed, -⟩
      · cases hit.symm.trans same
        exact ⟨rfl, rfl, rfl⟩
      · exact (missedNoHit missed hit).elim
  | recovered missed failed stored encoded found unlocked unfailed =>
      have parsed := refreshTokenCacheParse_cached faithful (genuine _ stored) encoded
        (rejectedTokens answers.tokenEndpoint)
      rcases obtained_cases obtained with hit | ⟨-, answered | ⟨-, recovered⟩⟩
      · exact (missedNoHit missed hit).elim
      · cases failed.symm.trans answered
      · obtain ⟨text, read, -, -, result⟩ := recoverTokens_eq_some recovered
        obtain rfl := Option.some.inj (read.symm.trans found)
        obtain rfl := Option.some.inj (result.symm.trans parsed)
        exact ⟨rfl, rfl, rfl⟩

/-- The record after a refresh. -/
theorem storeTokens_record (now : Int) (nonneg : 0 ≤ now) (tokens : Tokens) (z : Session) :
    (storeTokens now tokens z).getAccessToken = tokens.accessToken ∧
      (storeTokens now tokens z).getAccessTokenType = tokens.tokenType ∧
      (storeTokens now tokens z).jsonGet "ate" = if -1 < tokens.expiresIn then
        some (.int (now / 1000000 + tokens.expiresIn)) else z.jsonGet "ate" := by
  have rest : Session.Writes ["rt", "scp"] (storeAccessToken now tokens z)
      (storeTokens now tokens z) := by
    have start := Session.Writes.refl ["rt", "scp"] (storeAccessToken now tokens z)
    have rotated := Session.Writes.ite (tokens.refreshToken.isSome = true)
      (start.setText "rt" tokens.refreshToken) start
    exact .ite _ (rotated.setText "scp" tokens.scope) rotated
  have labelled : Session.Writes ["ate", "atlr"]
      ((z.setAccessToken tokens.accessToken).setAccessTokenType tokens.tokenType)
      (storeAccessToken now tokens z) := by
    have start := Session.Writes.refl ["ate", "atlr"]
      ((z.setAccessToken tokens.accessToken).setAccessTokenType tokens.tokenType)
    exact (Session.Writes.ite (-1 < tokens.expiresIn) (start.setTimestamp "ate" _)
      start).setTimestamp "atlr" tokens.ts
  have written : Session.Writes ["att"] (z.setAccessToken tokens.accessToken)
      ((z.setAccessToken tokens.accessToken).setAccessTokenType tokens.tokenType) :=
    (Session.Writes.refl ["att"] _).setText "att" tokens.tokenType
  refine ⟨?_, ?_, ?_⟩
  · rw [Session.getAccessToken, rest.getText (by decide), labelled.getText (by decide),
      written.getText (by decide)]
    exact Session.getText_setText_self z "at" tokens.accessToken
  · rw [Session.getAccessTokenType, rest.getText (by decide), labelled.getText (by decide)]
    exact Session.getText_setText_self _ "att" tokens.tokenType
  · have stamped : Session.Writes ["atlr"] _ (storeAccessToken now tokens z) :=
      (Session.Writes.refl ["atlr"] _).setTimestamp "atlr" tokens.ts
    rw [rest.frame "ate" (by decide), stamped.frame "ate" (by decide)]
    have before : ((z.setAccessToken tokens.accessToken).setAccessTokenType
        tokens.tokenType).jsonGet "ate" = z.jsonGet "ate" := by
      rw [written.frame "ate" (by decide)]
      exact ((Session.Writes.refl ["at"] z).setText "at" tokens.accessToken).frame "ate" (by decide)
    rw [Session.setAccessTokenExpires]
    split
    · next dated =>
        have future : ¬now + tokens.expiresIn * 1000000 ≤ -1 := by omega
        have seconds : (now + tokens.expiresIn * 1000000) / 1000000 =
            now / 1000000 + tokens.expiresIn := by omega
        rw [Session.setTimestamp, if_neg future, Session.jsonGet_jsonSet, if_pos rfl, seconds]
    · exact before

/-- After a refresh the record describes the response exactly if the two are in step. -/
theorem Taken.describes_iff {x x' : Exchange} {received left : Tokens}
    (faithful : settings.codec.Faithful)
    (genuine : ∀ received ∈ cached, IsLifetime received.expiresIn)
    (taken : Taken settings.codec request.now provider answers cached received left)
    (ran : refreshTokenGrant settings request provider answers x = (true, x')) :
    Describes x'.session received ↔ InStep x.session request.now received left := by
  obtain ⟨refreshToken, tokens, writes, -, obtained, outcome⟩ := refreshTokenGrant_true ran
  obtain ⟨accessToken, tokenType, expiresIn⟩ := taken.tokens faithful genuine obtained
  obtain ⟨stored, typed, dated⟩ :=
    storeTokens_record request.now request.now_nonneg tokens x.session
  have applied : Session.Writes ["idt", "idc", "se"]
      (storeTokens request.now tokens x.session) x'.session := by
    rcases outcome with rfl | ⟨idToken, jwt, -, -, rfl⟩
    · exact .refl _ _
    · exact applyIdToken_writes settings provider _ idToken jwt
  have atEq : x'.session.getAccessToken = received.accessToken.or left.accessToken := by
    rw [Session.getAccessToken, applied.getText (by decide), ← accessToken]
    exact stored
  have attEq : x'.session.getAccessTokenType = received.tokenType.or left.tokenType := by
    rw [Session.getAccessTokenType, applied.getText (by decide), ← tokenType]
    exact typed
  have ateEq : x'.session.jsonGet "ate" = if -1 < received.expiresIn then
      some (.int (request.now / 1000000 + received.expiresIn)) else x.session.jsonGet "ate" := by
    rw [applied.frame "ate" (by decide), dated, expiresIn]
  have completed {first second : Option String} (absent : first = none → second = none) :
      first.or second = first := by
    cases first with
    | none => exact absent rfl
    | some text => rfl
  constructor
  · rintro ⟨sameToken, sameType, sameExpiry⟩
    refine ⟨fun lifetime => ?_, fun absent => ?_, fun absent => ?_, fun absent => ?_⟩
    · rw [ateEq, if_pos lifetime, if_pos lifetime] at sameExpiry
      have seconds := Json.int.inj (Option.some.inj sameExpiry)
      omega
    · rw [ateEq, if_neg (by omega), if_neg (by omega)] at sameExpiry
      exact sameExpiry
    · rw [atEq, absent] at sameToken
      exact sameToken
    · rw [attEq, absent] at sameType
      exact sameType
  · rintro ⟨inTime, undated, token, kind⟩
    refine ⟨atEq.trans (completed token), attEq.trans (completed kind), ?_⟩
    rw [ateEq]
    split
    · next lifetime => rw [inTime lifetime]
    · next absent => exact undated (by omega)

end Grant

/-- Whatever refreshes have gone before, a refresh that succeeds has taken its result from some
response of the token endpoint, and the record of the access token describes this response exactly
if they are in step. -/
theorem record_describes_iff {settings : Settings} (faithful : settings.codec.Faithful)
    (login : Exchange) (acts : List RefreshAct) (request : Session.Request) (provider : Provider)
    (answers : GrantAnswers)
    (reads : ReadsCache settings.codec (Refreshing.run settings ⟨login, []⟩ acts).cached answers)
    {x' : Exchange}
    (ran : refreshTokenGrant settings request provider answers
      (Refreshing.run settings ⟨login, []⟩ acts).exchange = (true, x')) :
    (∃ received left, Taken settings.codec request.now provider answers
      (Refreshing.run settings ⟨login, []⟩ acts).cached received left) ∧
    ∀ received left, Taken settings.codec request.now provider answers
        (Refreshing.run settings ⟨login, []⟩ acts).cached received left →
      (Describes x'.session received ↔
        InStep (Refreshing.run settings ⟨login, []⟩ acts).exchange.session request.now received
          left) := by
  have empty : (⟨login, []⟩ : Refreshing).Genuine := fun _ member => absurd member List.not_mem_nil
  obtain ⟨refreshToken, tokens, writes, -, obtained, -⟩ := refreshTokenGrant_true ran
  exact ⟨exists_taken reads obtained, fun received left taken =>
    taken.describes_iff faithful (empty.run settings acts) ran⟩

/-! ### Stale and shifted expiries -/

/-- A result that another caller has received at second 1000. -/
def recordCached : Tokens where
  idToken := none
  accessToken := some "at1"
  tokenType := some "Bearer"
  expiresIn := 3600
  refreshToken := none
  scope := none
  ts := 1000000000

/-- Its text in the refresh cache. -/
def recordText : String :=
  "\x7b\"access_token\":\"at1\",\"token_type\":\"Bearer\",\"expires_in\":3600,\"ts\":1000\x7d"

/-- The settings of the example. -/
def recordSettings : Settings :=
  Settings.bare (Session.Codec.ofTable [(refreshTokenCacheObject recordCached, recordText)])

/-- The provider of the example. -/
def recordProvider : Provider where
  issuer := "https://op"
  clientId := "client"
  idtokenIatSlack_nonneg := defaultIatSlack_nonneg

/-- A session whose access token expires at second 1010. -/
def recordLogin : Exchange where
  session := { state := some [("at", .str "at0"), ("att", .str "Bearer"), ("ate", .int 1010),
    ("rt", .str "rt0")] }
  world := { caches := { session := fun _ => none, sid := fun _ => none } }

/-- A request of the example. -/
def recordRequest (seconds : Nat) : Session.Request where
  cookies := none
  now := seconds * 1000000
  now_nonneg := seconds_nonneg seconds

/-- The token endpoint answers with a lifetime. -/
def recordDated : GrantAnswers where
  tokenEndpoint := some [("access_token", .str "at1"), ("token_type", .str "Bearer"),
    ("expires_in", .int 3600)]

/-- The token endpoint answers without one. -/
def recordUndated : GrantAnswers where
  tokenEndpoint := some [("access_token", .str "at1"), ("token_type", .str "Bearer")]

/-- The refresh cache answers. -/
def recordReads : GrantAnswers where
  reads := fun _ => some recordText
  tokenEndpoint := none

/-- A response with a lifetime that is applied at once is described by the record. -/
theorem record_describes_direct :
    Describes (refreshTokenGrant recordSettings (recordRequest 1000) recordProvider recordDated
      recordLogin).2.session recordCached := by
  have faithful : recordSettings.codec.Faithful :=
    Session.Codec.faithful_ofTable (List.nodup_singleton recordText)
  have reads : ReadsCache recordSettings.codec [] recordDated :=
    ⟨(fun _ _ read => by cases read), (fun _ read => by cases read)⟩
  have granted : (refreshTokenGrant recordSettings (recordRequest 1000) recordProvider recordDated
      recordLogin).1 = true := by
    decide +kernel
  refine ((record_describes_iff faithful recordLogin []
    (recordRequest 1000) recordProvider recordDated
    reads (Prod.ext granted rfl)).2 recordCached noTokens (.direct rfl rfl)).mpr ?_
  exact ⟨fun _ => rfl, fun absent => absurd absent (by decide), fun _ => rfl, fun _ => rfl⟩

/-- A response without a lifetime keeps the expiry of the token before, and one that is taken from
the cache twenty seconds later has an expiry that is as much too late. -/
theorem record_expiry_stale :
    ((refreshTokenGrant recordSettings (recordRequest 1000) recordProvider recordUndated
        recordLogin).1 = true ∧
      ∀ received left, Taken recordSettings.codec
          (recordRequest 1000).now recordProvider recordUndated
          [] received left →
        ¬Describes (refreshTokenGrant recordSettings
            (recordRequest 1000) recordProvider recordUndated
          recordLogin).2.session received) ∧
    ((refreshTokenGrant recordSettings (recordRequest 1020) recordProvider recordReads
        recordLogin).1 = true ∧
      Taken recordSettings.codec (recordRequest 1020).now recordProvider recordReads [recordCached]
        recordCached noTokens ∧
      ¬Describes (refreshTokenGrant recordSettings (recordRequest 1020) recordProvider recordReads
        recordLogin).2.session recordCached) := by
  refine ⟨⟨by decide +kernel, fun received left taken described => ?_⟩, by decide +kernel, ?_, ?_⟩
  · cases taken with
    | direct _ answered =>
        obtain rfl := Option.some.inj answered
        exact absurd described.expiry (by decide +kernel)
    | cached stored => exact absurd stored List.not_mem_nil
    | recovered _ _ stored => exact absurd stored List.not_mem_nil
  · have encoded : recordSettings.codec.jsonEncode (refreshTokenCacheObject recordCached) =
        some recordText := by
      decide +kernel
    exact .cached (List.mem_singleton_self _) encoded rfl (by decide) (by decide)
  · exact fun described => absurd described.expiry (by decide +kernel)

end Handle

end ModAuthOpenidc
