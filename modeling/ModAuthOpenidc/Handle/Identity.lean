import ModAuthOpenidc.Handle.Requests
import ModAuthOpenidc.Handle.Response
import ModAuthOpenidc.Proto.Acceptance

/-!
# The identity behind a session

A login binds a session to a user, an issuer and a subject. Refreshed id_tokens and userinfo
responses are compared with the subject among the stored id_token claims, which have gone through
the claim filters. This file shows that the binding lasts over every sequence of refreshes if these
filters let the subject through, and that a filter that drops it lets the claims of somebody else
in.
-/

namespace ModAuthOpenidc

namespace Handle

open Proto

/-! ## Runs -/

/-- What can happen to a session after its login. -/
inductive Act
  /-- A request takes up one of the copies that have been saved. -/
  | load (copy : Nat)
  /-- `oidc_refresh_token_grant`. -/
  | refresh (request : Session.Request) (answers : GrantAnswers)
  /-- `oidc_userinfo_refresh_claims`. -/
  | userinfo (request : Session.Request) (answers : RetrievalAnswers)
  /-- `oidc_session_pass_tokens`. -/
  | pass (request : Session.Request)
  /-- `oidc_session_save`. -/
  | save (request : Session.Request)

/-- A session in the course of a run: the copy that is being worked on, and those that were saved.
-/
structure Life where
  exchange : Exchange
  copies : List Object

/-- One act. -/
def Life.act (settings : Settings) (life : Life) : Act → Life
  | .load copy =>
      match life.copies[copy]? with
      | none => life
      | some state =>
          { life with exchange := { life.exchange with session := Session.restored state } }
  | .refresh request answers =>
      match getProviderFromSession settings life.exchange.session with
      | none => life
      | some provider =>
          { life with
            exchange := (refreshTokenGrant settings request provider answers life.exchange).2 }
  | .userinfo request answers =>
      { life with
        exchange := (userinfoRefreshClaims settings request answers false life.exchange).2.2 }
  | .pass request =>
      { life with
        exchange := { life.exchange with
          session := (sessionPassTokens settings request true false life.exchange.session).2 } }
  | .save request =>
      let x := (life.exchange.save settings request).2
      { exchange := x, copies := life.copies ++ x.session.state.toList }

/-- A sequence of acts. -/
def Life.run (settings : Settings) (life : Life) (acts : List Act) : Life :=
  acts.foldl (Life.act settings) life

/-- The session that a login has made and saved. -/
def Life.begin (settings : Settings) (request : Session.Request) (world : Session.World)
    (z : Session) (reply : UserinfoReply) : Life :=
  let (world, z, _) := Session.save settings.codec settings.session request world z true
  { exchange := { session := z, world, effects := reply.claims.toList.map Effect.userinfo }
    copies := z.state.toList }

/-! ## The binding -/

/-- A session is bound to a user, an issuer and a subject. -/
structure Bound (user issuer sub : String) (z : Session) : Prop where
  remoteUser : z.remoteUser = some user
  issuer : z.getIssuer = some issuer
  subject : z.idtokenSub = some sub

/-- An effect brings in claims of one subject only. -/
def Effect.Names (sub : String) : Effect → Prop
  | .applied jwt => jwt.sub = some sub
  | .userinfo claims => claims.getString "sub" = some sub
  | _ => True

/-- All effects of an exchange name a subject, and its session is bound. -/
structure Exchange.Bound (user issuer sub : String) (x : Exchange) : Prop where
  session : Handle.Bound user issuer sub x.session
  effects : ∀ effect ∈ x.effects, effect.Names sub

section Bound

variable {settings : Settings} {request : Session.Request} {user issuer sub : String}
  {z z' : Session} {x x' : Exchange}

theorem Bound.writes {keys : List String} (bound : Bound user issuer sub z)
    (writes : Session.Writes keys z z') (issuerKept : "iss" ∉ keys := by decide)
    (claimsKept : "idc" ∉ keys := by decide) : Bound user issuer sub z' :=
  ⟨writes.remoteUser.trans bound.remoteUser, (writes.getText issuerKept).trans bound.issuer,
    (writes.idtokenSub claimsKept).trans bound.subject⟩

theorem Exchange.Bound.record (bound : x.Bound user issuer sub) {effects : List Effect}
    (named : ∀ effect ∈ effects, effect.Names sub) : (x.record effects).Bound user issuer sub := by
  refine ⟨bound.session, fun effect member => ?_⟩
  rcases List.mem_append.mp member with older | newer
  · exact bound.effects effect older
  · exact named effect newer

theorem Exchange.Bound.change (bound : x.Bound user issuer sub)
    (changed : Handle.Bound user issuer sub z) :
    Exchange.Bound user issuer sub { x with session := z } :=
  ⟨changed, bound.effects⟩

theorem CacheOnly.names {effects : List Effect} (cacheOnly : CacheOnly effects) :
    ∀ effect ∈ effects, effect.Names sub := by
  intro effect member
  obtain ⟨_, _, _, rfl⟩ := cacheOnly effect member
  trivial

/-- The claims of an id_token with the right subject can be stored. -/
theorem Bound.applyIdToken (keeps : settings.filter.KeepsSub)
    (stores : settings.dontStoreIdTokenClaims = false) (bound : Bound user issuer sub z)
    (provider : Provider) (idToken : String) {jwt : Jwt} (named : jwt.sub = some sub) :
    Bound user issuer sub (applyIdToken settings provider z idToken jwt) := by
  have writes := applyIdToken_writes settings provider z idToken jwt
  refine ⟨writes.remoteUser.trans bound.remoteUser, (writes.getText (by decide)).trans bound.issuer,
    ?_⟩
  have stored (z : Session) : (z.setIdtokenClaims settings.filter
      settings.dontStoreIdTokenClaims jwt.claims).idtokenSub = some sub := by
    rw [stores, Session.idtokenSub_setIdtokenClaims keeps]
    exact named
  unfold Handle.applyIdToken
  dsimp only
  split
  · exact (((Session.Writes.refl ["se"] _).setTimestamp "se" _).idtokenSub (by decide)).trans
      (stored _)
  · exact stored _

theorem Exchange.Bound.granted (bound : x.Bound user issuer sub) (request : Session.Request)
    (tokens : Tokens) {writes : List Effect} (cacheOnly : CacheOnly writes) :
    (x.granted request tokens writes).Bound user issuer sub := by
  refine (bound.change (bound.session.writes (storeTokens_writes request.now tokens _))).record ?_
  intro effect member
  rcases List.mem_append.mp member with older | newer
  · exact cacheOnly.names effect older
  · rw [List.mem_singleton.mp newer]
    trivial

/-- A refresh keeps the binding, whatever it obtains. -/
theorem Exchange.Bound.grant (keeps : settings.filter.KeepsSub)
    (stores : settings.dontStoreIdTokenClaims = false) (bound : x.Bound user issuer sub)
    {provider : Provider} {answers : GrantAnswers} {succeeded : Bool}
    (ran : refreshTokenGrant settings request provider answers x = (succeeded, x')) :
    x'.Bound user issuer sub := by
  cases succeeded with
  | false =>
      obtain ⟨writes, cacheOnly, rfl⟩ := refreshTokenGrant_false ran
      exact bound.record cacheOnly.names
  | true =>
      obtain ⟨_, tokens, writes, -, obtained, outcome⟩ := refreshTokenGrant_true ran
      have granted := bound.granted request tokens (refreshTokenGrantObtainTokens_writes obtained)
      rcases outcome with rfl | ⟨idToken, jwt, -, agrees, rfl⟩
      · exact granted
      · have named : jwt.sub = some sub := by
          rw [refreshTokenGrantIdTokenSubMatch, granted.session.subject] at agrees
          simpa using agrees
        refine (granted.change (granted.session.applyIdToken keeps stores provider idToken
          named)).record ?_
        intro effect member
        rw [List.mem_singleton.mp member]
        exact named

theorem Exchange.Bound.retrieve (keeps : settings.filter.KeepsSub)
    (stores : settings.dontStoreIdTokenClaims = false)
    (subRequired : settings.noUserinfoSub = false)
    (bound : x.Bound user issuer sub) {provider : Provider} {answers : RetrievalAnswers}
    {reply : UserinfoReply}
    (ran : userinfoRetrieveClaims settings request provider answers x = (reply, x')) :
    x'.Bound user issuer sub ∧
      ∀ claims, reply.claims = some claims → claims.getString "sub" = some sub := by
  unfold userinfoRetrieveClaims at ran
  split at ran
  · dsimp only at ran
    rw [subRequired] at ran
    split at ran
    · cases ran
      exact ⟨bound, fun claims found => userinfoRequest_sub found bound.session.subject⟩
    · next missing =>
        split at ran
        · next refused =>
            cases ran
            refine ⟨bound.grant keeps stores refused, fun claims found => ?_⟩
            exact userinfoRequest_sub found bound.session.subject
        · next granted =>
            cases ran
            refine ⟨bound.grant keeps stores granted, fun claims found => ?_⟩
            exact userinfoRequest_sub found bound.session.subject
  · cases ran
    exact ⟨bound, fun claims found => by cases found⟩

theorem Exchange.Bound.storeUserinfo (bound : x.Bound user issuer sub) (settings : Settings)
    (request : Session.Request) (provider : Provider) {reply : UserinfoReply}
    (named : ∀ claims, reply.claims = some claims → claims.getString "sub" = some sub) :
    (x.storeUserinfo settings request provider reply).Bound user issuer sub := by
  refine (bound.change (bound.session.writes (userinfoStoreClaims_writes ..))).record ?_
  intro effect member
  obtain ⟨claims, found, rfl⟩ := List.mem_map.mp member
  exact named claims (Option.mem_toList.mp found)

/-- A refresh of the userinfo claims keeps the binding. -/
theorem Exchange.Bound.userinfo (keeps : settings.filter.KeepsSub)
    (stores : settings.dontStoreIdTokenClaims = false)
    (subRequired : settings.noUserinfoSub = false)
    (bound : x.Bound user issuer sub) (answers : RetrievalAnswers) (needsSave : Bool) :
    (userinfoRefreshClaims settings request answers needsSave x).2.2.Bound user issuer sub := by
  unfold userinfoRefreshClaims
  split
  · exact bound
  split
  · exact bound
  split
  · exact bound
  split
  · exact bound
  next provider _ _ _ =>
    dsimp only
    obtain ⟨retrieved, named⟩ := bound.retrieve keeps stores subRequired
      (show userinfoRetrieveClaims settings request provider answers x = (_, _) from rfl)
    have stored := retrieved.storeUserinfo settings request provider named
    split
    · exact stored
    · exact stored

theorem Bound.pass (bound : Bound user issuer sub z) (settings : Settings)
    (request : Session.Request) (extendSession needsSave : Bool) :
    Bound user issuer sub (sessionPassTokens settings request extendSession needsSave z).2 := by
  unfold sessionPassTokens
  dsimp only
  have moved (expiry : Int) : Bound user issuer sub { z with expiry } :=
    ⟨bound.remoteUser, bound.issuer, bound.subject⟩
  split
  · split
    · exact (moved _).writes ((Session.Writes.refl ["sn"] _).setSessionNew false)
    · exact moved _
  · split
    · exact bound.writes ((Session.Writes.refl ["sn"] _).setSessionNew false)
    · exact bound

/-- A session with a binding has a state. -/
theorem Bound.state (bound : Bound user issuer sub z) : ∃ state, z.state = some state := by
  have present := bound.issuer
  rw [Session.getIssuer, Session.getText, Session.jsonGet] at present
  cases held : z.state with
  | none => simp [held] at present
  | some state => exact ⟨state, rfl⟩

/-- What is saved carries the binding, and gives it back when it is loaded. -/
theorem Bound.saved (bound : Bound user issuer sub z) (settings : Settings)
    (request : Session.Request) (world : Session.World) (firstTime : Bool) :
    Bound user issuer sub
        (Session.save settings.codec settings.session request world z firstTime).2.1 ∧
      ∀ state ∈ (Session.save settings.codec settings.session request world z firstTime).2.1.state,
        Bound user issuer sub (Session.restored state) := by
  obtain ⟨state, held⟩ := bound.state
  obtain ⟨saved, result, remoteUser, kept⟩ :=
    Session.save_state settings.codec settings.session request world z firstTime held
  have issuer_eq : saved.get "iss" = state.get "iss" := kept "iss" (by decide)
  have claims_eq : saved.get "idc" = state.get "idc" := kept "idc" (by decide)
  have atIssuer := bound.issuer
  have atSubject := bound.subject
  simp only [Session.getIssuer, Session.getText, Session.jsonGet, held,
    Option.bind_some] at atIssuer
  simp only [Session.idtokenSub, Session.getIdtokenClaims, Session.jsonGet, held, Option.bind_some]
    at atSubject
  rw [result]
  refine ⟨⟨bound.remoteUser, ?_, ?_⟩, fun other member => ?_⟩
  · simp only [Session.getIssuer, Session.getText, Session.jsonGet, Option.bind_some, issuer_eq]
    exact atIssuer
  · simp only [Session.idtokenSub, Session.getIdtokenClaims, Session.jsonGet, Option.bind_some,
      claims_eq]
    exact atSubject
  · obtain rfl : saved = other := Option.some.inj member
    refine ⟨remoteUser.trans bound.remoteUser, ?_, ?_⟩
    · simp only [Session.restored, Session.getIssuer, Session.getText, Session.jsonGet,
        Option.bind_some, issuer_eq]
      exact atIssuer
    · simp only [Session.restored, Session.idtokenSub, Session.getIdtokenClaims, Session.jsonGet,
        Option.bind_some, claims_eq]
      exact atSubject

end Bound

/-! ## Whole runs -/

/-- The binding of everything that belongs to a session. -/
structure Life.Bound (user issuer sub : String) (life : Life) : Prop where
  exchange : life.exchange.Bound user issuer sub
  copies : ∀ state ∈ life.copies, Handle.Bound user issuer sub (Session.restored state)

section Run

variable {settings : Settings} {user issuer sub : String} {life : Life}

/-- One act keeps the binding. -/
theorem Life.Bound.act (keeps : settings.filter.KeepsSub)
    (stores : settings.dontStoreIdTokenClaims = false)
    (subRequired : settings.noUserinfoSub = false)
    (bound : life.Bound user issuer sub) (act : Act) :
    (life.act settings act).Bound user issuer sub := by
  cases act with
  | load copy =>
      unfold Life.act
      dsimp only
      split
      · exact bound
      · next state found =>
          exact ⟨bound.exchange.change
            (bound.copies state (List.mem_of_getElem? found)), bound.copies⟩
  | refresh request answers =>
      unfold Life.act
      dsimp only
      split
      · exact bound
      · next provider _ => exact ⟨bound.exchange.grant keeps stores rfl, bound.copies⟩
  | userinfo request answers =>
      exact ⟨bound.exchange.userinfo keeps stores subRequired answers false, bound.copies⟩
  | pass request =>
      exact ⟨bound.exchange.change (bound.exchange.session.pass settings request true false),
        bound.copies⟩
  | save request =>
      obtain ⟨saved, restored⟩ :=
        bound.exchange.session.saved settings request life.exchange.world false
      refine ⟨⟨saved, fun effect member => ?_⟩, fun state member => ?_⟩
      · rcases List.mem_append.mp member with older | newer
        · exact bound.exchange.effects effect older
        · rw [List.mem_singleton.mp newer]
          trivial
      · rcases List.mem_append.mp member with older | newer
        · exact bound.copies state older
        · exact restored state (Option.mem_toList.mp newer)

/-- Any number of acts keeps the binding. -/
theorem Life.Bound.run (keeps : settings.filter.KeepsSub)
    (stores : settings.dontStoreIdTokenClaims = false)
    (subRequired : settings.noUserinfoSub = false)
    (bound : life.Bound user issuer sub) (acts : List Act) :
    (life.run settings acts).Bound user issuer sub := by
  induction acts generalizing life with
  | nil => exact bound
  | cons act acts ih => exact ih (bound.act keeps stores subRequired act)

theorem storeLogin_bound (keeps : settings.filter.KeepsSub)
    (stores : settings.dontStoreIdTokenClaims = false) (provider : Provider) {login : LoginData}
    (named : login.jwt.sub = some sub) {z : Session} (remoteUser : z.remoteUser = some user) :
    Bound user provider.issuer sub (storeLogin settings provider login z) := by
  have claims : (z.setIdtokenClaims settings.filter settings.dontStoreIdTokenClaims
      login.jwt.claims).idtokenSub = some sub := by
    rw [stores, Session.idtokenSub_setIdtokenClaims keeps]
    exact named
  have first : Session.Writes ["idc"] z
      (z.setIdtokenClaims settings.filter settings.dontStoreIdTokenClaims login.jwt.claims) :=
    .ite _ (.refl _ _) ((Session.Writes.refl ["idc"] z).jsonSet "idc" _)
  have kept := Session.Writes.refl ["idt", "iss"]
    (z.setIdtokenClaims settings.filter settings.dontStoreIdTokenClaims login.jwt.claims)
  have issued := (Session.Writes.ite (settings.storeIdToken = true)
    (kept.setText "idt" login.idToken) kept).setText "iss" (some provider.issuer)
  have rest (z : Session) : Session.Writes ["rs", "ou", "ss", "uir"] z
      ((if login.sessionState.isSome ∧ provider.checkSessionIframe.isSome then
        ((z.setRequestState login.state).setOriginalUrl login.originalUrl).setSessionState
          login.sessionState
        else (z.setRequestState login.state).setOriginalUrl
          login.originalUrl).setUserinfoRefreshInterval provider.userinfoRefreshInterval) := by
    have urls := ((Session.Writes.refl ["rs", "ou", "ss", "uir"] z).setText "rs"
      login.state).setText "ou" login.originalUrl
    exact (Session.Writes.ite (login.sessionState.isSome ∧ provider.checkSessionIframe.isSome)
      (urls.setText "ss" login.sessionState) urls).jsonSet "uir"
        (some (.int provider.userinfoRefreshInterval))
  refine Bound.writes ⟨?_, ?_, ?_⟩ (rest _)
  · exact issued.remoteUser.trans (first.remoteUser.trans remoteUser)
  · exact Session.getText_setText_self _ "iss" (some provider.issuer)
  · exact (issued.idtokenSub (by decide)).trans claims

/-- The members of a new session bind it to the id_token of the login. -/
theorem responseSaveInSession_bound (keeps : settings.filter.KeepsSub)
    (stores : settings.dontStoreIdTokenClaims = false) (request : Session.Request)
    (provider : Provider) {login : LoginData} (remoteUser : login.remoteUser = user)
    (named : login.jwt.sub = some sub) (z : Session) :
    Bound user provider.issuer sub (responseSaveInSession settings request provider login z) := by
  unfold responseSaveInSession
  extract_lets opened stored claimed issued dated located indexed
  have atLogin : Bound user provider.issuer sub stored :=
    storeLogin_bound keeps stores provider named (congrArg some remoteUser)
  have atUserinfo : Bound user provider.issuer sub claimed :=
    atLogin.writes (userinfoStoreClaims_writes ..)
  have atTokens : Bound user provider.issuer sub issued :=
    atUserinfo.writes (storeLoginTokens_writes ..)
  have atDomain : Bound user provider.issuer sub located :=
    atTokens.writes (((Session.Writes.refl ["se", "cd"] _).setTimestamp "se" _).setText "cd" _)
  have atIndex : Bound user provider.issuer sub indexed :=
    ⟨atDomain.remoteUser, atDomain.issuer, atDomain.subject⟩
  exact atIndex.writes ((Session.Writes.refl ["sn"] _).setSessionNew true)

/-- A login binds the session to its id_token, and so are the userinfo claims that come with it. -/
theorem responseProcess_bound (keeps : settings.filter.KeepsSub)
    (stores : settings.dontStoreIdTokenClaims = false)
    (subRequired : settings.noUserinfoSub = false)
    {request : Session.Request} {ctx : Context} {params : Params} {answers : UserinfoAnswers}
    {cache : NonceCache} {prior z : Session} {jwt : Jwt} {reply : UserinfoReply}
    (loggedIn : responseProcess settings request ctx params answers cache prior =
      some (z, jwt, reply)) :
    ∃ user sub, jwt.sub = some sub ∧ Bound user ctx.provider.issuer sub z ∧
      ∀ claims, reply.claims = some claims → claims.getString "sub" = some sub := by
  unfold responseProcess at loggedIn
  split at loggedIn
  · cases loggedIn
  next final token _ ran =>
    obtain ⟨_, -, -, completed⟩ := responseFlows_completed ran
    obtain ⟨_, _, parsed⟩ := completed.parsed
    obtain ⟨-, -, -, -, present, -⟩ := parsed.spec
    obtain ⟨sub, named⟩ := Option.isSome_iff_exists.mp present
    dsimp only at loggedIn
    split at loggedIn
    · cases loggedIn
    next user _ =>
      split at loggedIn
      · obtain ⟨rfl, rest⟩ := Prod.mk.inj (Option.some.inj loggedIn)
        obtain ⟨rfl, rfl⟩ := Prod.mk.inj rest
        refine ⟨user, sub, named, ?_, fun claims found => ?_⟩
        · refine responseSaveInSession_bound keeps stores request ctx.provider ?_ ?_ _
          · rfl
          · exact named
        unfold userinfoRetrieveInitial at found
        split at found
        · rw [subRequired] at found
          exact userinfoRequest_sub found named
        · cases found
      · cases loggedIn

/-- What a login has set up stays: in every run the user and the issuer of the session remain, and
all claims that are brought in later are claims of the subject of the id_token of the login. -/
theorem identity_lasts (keeps : settings.filter.KeepsSub)
    (stores : settings.dontStoreIdTokenClaims = false)
    (subRequired : settings.noUserinfoSub = false)
    {request : Session.Request} {ctx : Context} {params : Params} {answers : UserinfoAnswers}
    {cache : NonceCache} {prior z : Session} {jwt : Jwt} {reply : UserinfoReply}
    (loggedIn : responseProcess settings request ctx params answers cache prior =
      some (z, jwt, reply)) (world : Session.World) (acts : List Act) {life : Life}
    (ran : (Life.begin settings request world z reply).run settings acts = life) :
    life.exchange.session.remoteUser = z.remoteUser ∧
      life.exchange.session.getIssuer = z.getIssuer ∧
      (∀ state ∈ life.copies, (Session.restored state).remoteUser = z.remoteUser ∧
        (Session.restored state).getIssuer = z.getIssuer) ∧
      jwt.sub.isSome = true ∧
      (∀ applied, Effect.applied applied ∈ life.exchange.effects → applied.sub = jwt.sub) ∧
      ∀ claims, Effect.userinfo claims ∈ life.exchange.effects →
        claims.getString "sub" = jwt.sub := by
  obtain ⟨user, sub, named, bound, userinfo⟩ :=
    responseProcess_bound keeps stores subRequired loggedIn
  obtain ⟨saved, restored⟩ := bound.saved settings request world true
  have started : (Life.begin settings request world z reply).Bound user
    ctx.provider.issuer sub := by
    refine ⟨⟨saved, fun effect member => ?_⟩, fun state member => ?_⟩
    · obtain ⟨claims, found, rfl⟩ := List.mem_map.mp member
      exact userinfo claims (Option.mem_toList.mp found)
    · exact restored state (Option.mem_toList.mp member)
  have lasting := started.run keeps stores subRequired acts
  rw [ran] at lasting
  refine ⟨?_, ?_, fun state member => ⟨?_, ?_⟩, ?_, fun applied member =>
    ?_, fun claims member => ?_⟩
  · rw [lasting.exchange.session.remoteUser, bound.remoteUser]
  · rw [lasting.exchange.session.issuer, bound.issuer]
  · rw [(lasting.copies state member).remoteUser, bound.remoteUser]
  · rw [(lasting.copies state member).issuer, bound.issuer]
  · rw [named, Option.isSome_some]
  · rw [named]
    exact lasting.exchange.effects _ member
  · rw [named]
    exact lasting.exchange.effects _ member

end Run

/-! ## A login and a refresh -/

/-- Settings under which the provider may refresh an id_token to a given one. -/
def sampleSettings (filter : Session.ClaimFilter) (refreshed : Jwt) : Settings where
  session :=
    { sessionType := .serverCache
      fallbackToCookie := false
      cookieChunkSize := 0
      cookieNameOk := Session.nameOk_defaultCookie }
  codec :=
    { jsonEncode := fun _ => none
      jsonDecodeObject := fun _ => none
      jwtCreate := fun _ => none
      jwtVerify := fun _ => none }
  jose :=
    { jwtParse := fun token => if token = some "refreshed" then some refreshed else none
      jwtVerify := fun jwt => jwt.alg = some "RS256"
      hashBytes := fun _ _ => none
      base64urlDecode := fun _ => none
      jwtHeaderPeek := fun _ => false
      jweDecrypt := fun _ => none
      jsonDecodeObject := fun _ => none }
  filter := filter
  providerForIssuer := fun issuer =>
    if issuer = "https://op" then
      some
        { issuer := "https://op"
          clientId := "client"
          idtokenIatSlack_nonneg := defaultIatSlack_nonneg }
    else none
  requestUser := fun jwt _ => jwt.sub

/-- A request at the time of the login. -/
def sampleRequest : Session.Request where
  cookies := none
  now := 1000000000
  freshId := "s1"

/-- A login with a code that comes with a refresh token. -/
def sampleLogin (settings : Settings) : Option (Session × Jwt × UserinfoReply) :=
  responseProcess settings sampleRequest
    (sampleContext sampleJwt "code" "query" fun _ =>
      some [("id_token", .str "signed"), ("access_token", .str "at"), ("token_type", .str "Bearer"),
        ("refresh_token", .str "rt")])
    [("code", sent "c"), ("state", sent "s")] { endpoint := none } (fun _ => none) {}

/-- A refresh that comes with a new id_token. -/
def sampleRefresh : Act :=
  .refresh sampleRequest
    { tokenEndpoint := some [("access_token", .str "at2"), ("token_type", .str "Bearer"),
        ("id_token", .str "refreshed")] }

/-- An empty server. -/
def sampleWorld : Session.World := { caches := { session := fun _ => none, sid := fun _ => none } }

/-- Without filters the new id_token of the same subject is applied. -/
theorem identity_lasts_unfiltered : ∃ z reply,
    sampleLogin (sampleSettings {} sampleJwt) = some (z, sampleJwt, reply) ∧
      (∃ applied, Effect.applied applied ∈
        ((Life.begin (sampleSettings {} sampleJwt) sampleRequest sampleWorld z reply).run
          (sampleSettings {} sampleJwt) [sampleRefresh]).exchange.effects) ∧
      ∀ applied, Effect.applied applied ∈
        ((Life.begin (sampleSettings {} sampleJwt) sampleRequest sampleWorld z reply).run
          (sampleSettings {} sampleJwt) [sampleRefresh]).exchange.effects →
        applied.sub = sampleJwt.sub := by
  obtain ⟨z, reply, loggedIn⟩ : ∃ z reply,
      sampleLogin (sampleSettings {} sampleJwt) = some (z, sampleJwt, reply) := ⟨_, _, rfl⟩
  have keeps : (sampleSettings {} sampleJwt).filter.KeepsSub :=
    ⟨rfl, fun _ absent => by cases absent⟩
  obtain ⟨-, -, -, -, applied, -⟩ :=
    identity_lasts keeps rfl rfl loggedIn sampleWorld [sampleRefresh] rfl
  refine ⟨z, reply, loggedIn, ?_, applied⟩
  obtain ⟨rfl, rest⟩ := Prod.mk.inj (Option.some.inj loggedIn)
  obtain ⟨-, rfl⟩ := Prod.mk.inj rest
  exact ⟨sampleJwt, List.mem_of_getElem? (i := 3) rfl⟩

/-- The id_token of somebody else. -/
def strangerJwt : Jwt where
  alg := some "RS256"
  claims :=
    [("iss", .str "https://op"), ("sub", .str "mallory"), ("aud", .str "client"),
      ("exp", .int 2000), ("iat", .int 1000)]

/-- With `sub` on the black list the id_token of somebody else is applied. -/
theorem stranger_applied : ∃ z reply,
    sampleLogin (sampleSettings { blackListed := some ["sub"] } strangerJwt) =
        some (z, sampleJwt, reply) ∧
      Effect.applied strangerJwt ∈
        ((Life.begin (sampleSettings { blackListed := some ["sub"] } strangerJwt) sampleRequest
          sampleWorld z reply).run (sampleSettings { blackListed := some ["sub"] } strangerJwt)
          [sampleRefresh]).exchange.effects ∧
      strangerJwt.sub ≠ sampleJwt.sub :=
  ⟨_, _, rfl, List.mem_of_getElem? (i := 3) rfl, by decide⟩

end Handle

end ModAuthOpenidc
