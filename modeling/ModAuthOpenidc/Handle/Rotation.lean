import ModAuthOpenidc.Handle.Requests

/-!
# Rotated refresh tokens

A provider may hand out a new refresh token with every grant and spend the old one. The new token
lives in the session of the request until the session is saved. This file determines for every
handler when the newest token of a request is kept: a failure of the userinfo endpoint after the
grant, or a request that does not extend the session, loses it.
-/

namespace ModAuthOpenidc

namespace Handle

open Proto

/-! ## The newest token of a request -/

/-- The refresh token that an effect brings. -/
def Effect.rotated : Effect → Option String
  | .granted refreshToken => refreshToken
  | _ => none

/-- The refresh token of the last grant that came with one. -/
def newest (effects : List Effect) : Option String := effects.reverse.findSome? Effect.rotated

theorem newest_append (effects more : List Effect) :
    newest (effects ++ more) = (newest more).or (newest effects) := by
  rw [newest, List.reverse_append, List.findSome?_append, newest, newest]

theorem newest_of_no_rotation {effects : List Effect}
    (none : ∀ effect ∈ effects, effect.rotated = none) : newest effects = .none := by
  rw [newest, List.findSome?_eq_none_iff]
  intro effect member
  exact none effect (List.mem_reverse.mp member)

theorem CacheOnly.newest {effects : List Effect} (cacheOnly : CacheOnly effects) :
    newest effects = none := by
  apply newest_of_no_rotation
  intro effect member
  obtain ⟨_, _, _, rfl⟩ := cacheOnly effect member
  rfl

/-- The effect ends the life of a request's copy: it is saved or killed. -/
def Effect.Settles : Effect → Prop
  | .saved _ => True
  | .killed => True
  | _ => False

/-- A token is kept: the session is killed, or it is saved with the token. -/
def Kept (effects : List Effect) (refreshToken : String) : Prop :=
  .killed ∈ effects ∨
    ∃ state : Object, .saved (some state) ∈ effects ∧ state.getString "rt" = some refreshToken

/-- Nothing is settled yet, and the session holds the newest token. -/
structure Pending (x : Exchange) : Prop where
  unsettled : ∀ effect ∈ x.effects, ¬effect.Settles
  current : ∀ refreshToken, newest x.effects = some refreshToken →
    x.session.getRefreshToken = some refreshToken

/-- A rotation so far is noted in the flag. -/
def Flagged (x : Exchange) (needsSave : Bool) : Prop := newest x.effects ≠ none → needsSave = true

section Pending

variable {settings : Settings} {request : Session.Request} {x x' : Exchange}

theorem Pending.not_kept (pending : Pending x) (refreshToken : String) :
    ¬Kept x.effects refreshToken := by
  rintro (killed | ⟨state, saved, -⟩)
  · exact pending.unsettled _ killed trivial
  · exact pending.unsettled _ saved trivial

theorem Pending.start (fresh : x.effects = []) : Pending x := by
  refine ⟨fun effect member => ?_, fun refreshToken rotated => ?_⟩
  · rw [fresh] at member
    cases member
  · rw [fresh] at rotated
    cases rotated

/-- Recording effects that neither settle nor rotate. -/
theorem Pending.record (pending : Pending x) (effects : List Effect)
    (unsettled : ∀ effect ∈ effects, ¬effect.Settles) (still : newest effects = none) :
    Pending (x.record effects) := by
  refine ⟨fun effect member => ?_, fun refreshToken rotated => pending.current refreshToken ?_⟩
  · rcases List.mem_append.mp member with older | newer
    · exact pending.unsettled effect older
    · exact unsettled effect newer
  · rw [Exchange.record, newest_append, still, Option.none_or] at rotated
    exact rotated

theorem CacheOnly.unsettled {effects : List Effect} (cacheOnly : CacheOnly effects) :
    ∀ effect ∈ effects, ¬effect.Settles := by
  intro effect member settles
  obtain ⟨_, _, _, rfl⟩ := cacheOnly effect member
  exact settles

/-- A change of the session that leaves the refresh token alone. -/
theorem Pending.change (pending : Pending x) {z : Session}
    (same : z.getRefreshToken = x.session.getRefreshToken) : Pending { x with session := z } :=
  ⟨pending.unsettled, fun refreshToken rotated => same.trans (pending.current refreshToken rotated)⟩

theorem storeTokens_refreshToken (now : Int) (tokens : Tokens) (z : Session) :
    (storeTokens now tokens z).getRefreshToken = tokens.refreshToken.or z.getRefreshToken := by
  have labelled (z : Session) : Session.Writes ["scp"] z
      (if tokens.scope.isSome then z.setScope tokens.scope else z) :=
    .ite _ ((Session.Writes.refl ["scp"] z).setText "scp" _) (.refl _ _)
  refine ((labelled _).getText (by decide)).trans ?_
  cases tokens.refreshToken with
  | none => exact (storeAccessToken_writes now tokens z).getText (by decide)
  | some refreshToken => exact Session.getText_setText_self _ "rt" (some refreshToken)

theorem applyIdToken_refreshToken (settings : Settings) (provider : Provider) (z : Session)
    (idToken : String) (jwt : Jwt) :
    (applyIdToken settings provider z idToken jwt).getRefreshToken = z.getRefreshToken :=
  (applyIdToken_writes settings provider z idToken jwt).getText (by decide)

theorem Pending.granted (pending : Pending x) (request : Session.Request) (tokens : Tokens)
    {writes : List Effect} (cacheOnly : CacheOnly writes) :
    Pending (x.granted request tokens writes) := by
  refine ⟨fun effect member => ?_, fun refreshToken rotated => ?_⟩
  · rcases List.mem_append.mp member with older | newer
    · exact pending.unsettled effect older
    · rcases List.mem_append.mp newer with cached | granted
      · exact cacheOnly.unsettled effect cached
      · rw [List.mem_singleton.mp granted]
        exact id
  · have split : newest (x.granted request tokens writes).effects =
        tokens.refreshToken.or (newest x.effects) := by
      rw [Exchange.granted, Exchange.record, newest_append, newest_append, cacheOnly.newest]
      simp [newest, Effect.rotated]
    rw [split] at rotated
    refine (storeTokens_refreshToken request.now tokens x.session).trans ?_
    cases issued : tokens.refreshToken with
    | none =>
        rw [issued, Option.none_or] at rotated
        exact pending.current refreshToken rotated
    | some token =>
        rw [issued, Option.some_or] at rotated
        rw [Option.some_or, rotated]

/-- A grant leaves nothing settled; one that fails rotates nothing. -/
theorem Pending.grant (pending : Pending x) {provider : Provider} {answers : GrantAnswers}
    {succeeded : Bool}
    (ran : refreshTokenGrant settings request provider answers x = (succeeded, x')) :
    Pending x' ∧ (succeeded = false → newest x'.effects = newest x.effects) := by
  cases succeeded with
  | false =>
      obtain ⟨writes, cacheOnly, rfl⟩ := refreshTokenGrant_false ran
      refine ⟨pending.record writes cacheOnly.unsettled cacheOnly.newest, fun _ => ?_⟩
      rw [Exchange.record, newest_append, cacheOnly.newest, Option.none_or]
  | true =>
      obtain ⟨_, tokens, writes, -, obtained, outcome⟩ := refreshTokenGrant_true ran
      have granted := pending.granted request tokens (refreshTokenGrantObtainTokens_writes obtained)
      refine ⟨?_, fun failed => by cases failed⟩
      rcases outcome with rfl | ⟨idToken, jwt, -, -, rfl⟩
      · exact granted
      · refine (granted.change (applyIdToken_refreshToken ..)).record _ ?_ rfl
        intro effect member
        rw [List.mem_singleton.mp member]
        exact id

/-- The refresh ahead of the expiry: a success is flagged, a failure rotates nothing. -/
theorem Pending.beforeExpiry (pending : Pending x) {needsSave needsSave' succeeded : Bool}
    (flagged : Flagged x needsSave) {answers : GrantAnswers} {ttlMinimum : Int}
    (ran : refreshAccessTokenBeforeExpiry settings request answers ttlMinimum needsSave x =
      (succeeded, needsSave', x')) :
    Pending x' ∧ (succeeded = true → Flagged x' needsSave') ∧
      (succeeded = false → newest x'.effects = newest x.effects) := by
  unfold refreshAccessTokenBeforeExpiry at ran
  split at ran
  · cases ran
    exact ⟨pending, fun _ => flagged, fun _ => rfl⟩
  split at ran
  · cases ran
    exact ⟨pending, fun _ => flagged, fun _ => rfl⟩
  split at ran
  · cases ran
    exact ⟨pending, fun _ => flagged, fun _ => rfl⟩
  split at ran
  · cases ran
    exact ⟨pending, fun _ => flagged, fun _ => rfl⟩
  split at ran
  · cases ran
    exact ⟨pending, fun _ => flagged, fun _ => rfl⟩
  split at ran
  · next refused =>
      cases ran
      obtain ⟨still, same⟩ := pending.grant refused
      exact ⟨still, (fun failed => by cases failed), fun _ => same rfl⟩
  · next granted =>
      cases ran
      exact ⟨(pending.grant granted).1, fun _ _ => rfl, fun failed => by cases failed⟩

theorem Pending.retrieve (pending : Pending x) {provider : Provider} {answers : RetrievalAnswers}
    {reply : UserinfoReply}
    (ran : userinfoRetrieveClaims settings request provider answers x = (reply, x')) :
    Pending x' := by
  unfold userinfoRetrieveClaims at ran
  split at ran
  · dsimp only at ran
    split at ran
    · cases ran
      exact pending
    · split at ran
      · next refused =>
          cases ran
          exact (pending.grant refused).1
      · next granted =>
          cases ran
          exact (pending.grant granted).1
  · cases ran
    exact pending

/-- A refresh of the userinfo claims settles nothing, and flags its success. -/
theorem Pending.userinfo (pending : Pending x) {needsSave needsSave' succeeded : Bool}
    (flagged : Flagged x needsSave) {answers : RetrievalAnswers}
    (ran : userinfoRefreshClaims settings request answers needsSave x =
      (succeeded, needsSave', x')) :
    Pending x' ∧ (succeeded = true → Flagged x' needsSave') := by
  unfold userinfoRefreshClaims at ran
  split at ran
  · cases ran
    exact ⟨pending, fun _ => flagged⟩
  split at ran
  · cases ran
    exact ⟨pending, fun failed => by cases failed⟩
  next provider _ =>
    split at ran
    · cases ran
      exact ⟨pending, fun _ => flagged⟩
    split at ran
    · cases ran
      exact ⟨pending, fun _ => flagged⟩
    dsimp only at ran
    have retrieved := pending.retrieve
      (show userinfoRetrieveClaims settings request provider answers x = (_, _) from rfl)
    have stored := (retrieved.change ((userinfoStoreClaims_writes settings request provider
      (userinfoRetrieveClaims settings request provider answers x).1.claims
      (userinfoRetrieveClaims settings request provider answers x).1.jwt _).getText
          (by decide))).record
        ((userinfoRetrieveClaims settings request provider answers
          x).1.claims.toList.map Effect.userinfo) ?_ ?_
    · split at ran
      · cases ran
        exact ⟨stored, fun _ _ => rfl⟩
      · cases ran
        exact ⟨stored, fun failed => by cases failed⟩
    · intro effect member
      obtain ⟨claims, -, rfl⟩ := List.mem_map.mp member
      exact id
    · apply newest_of_no_rotation
      intro effect member
      obtain ⟨claims, -, rfl⟩ := List.mem_map.mp member
      rfl

/-- The flag has no influence on a refresh of the userinfo claims. -/
theorem userinfoRefreshClaims_flag (settings : Settings) (request : Session.Request)
    (answers : RetrievalAnswers) (needsSave : Bool) (x : Exchange) :
    (userinfoRefreshClaims settings request answers needsSave x).1 =
        (userinfoRefreshClaims settings request answers false x).1 ∧
      (userinfoRefreshClaims settings request answers needsSave x).2.2 =
        (userinfoRefreshClaims settings request answers false x).2.2 := by
  unfold userinfoRefreshClaims
  split
  · exact ⟨rfl, rfl⟩
  split
  · exact ⟨rfl, rfl⟩
  split
  · exact ⟨rfl, rfl⟩
  split
  · exact ⟨rfl, rfl⟩
  · exact ⟨rfl, rfl⟩

/-- The refresh that the info hook asks for. -/
theorem Pending.infoRefresh (pending : Pending x) {needsSave needsSave' : Bool} {status : Status}
    (flagged : Flagged x needsSave) {answers : GrantAnswers} {interval : Option String}
    (ran : infoRefreshAccessToken settings request answers interval needsSave x =
      (status, needsSave', x')) :
    Pending x' ∧ (status = ok → Flagged x' needsSave') := by
  unfold infoRefreshAccessToken at ran
  split at ran
  · cases ran
    exact ⟨pending, fun _ => flagged⟩
  split at ran
  · cases ran
    exact ⟨pending, fun _ => flagged⟩
  split at ran
  · cases ran
    exact ⟨pending, fun _ => flagged⟩
  split at ran
  · cases ran
    exact ⟨pending, fun _ => flagged⟩
  split at ran
  · cases ran
    exact ⟨pending, fun _ => flagged⟩
  split at ran
  · next refused =>
      cases ran
      exact ⟨(pending.grant refused).1, fun failed => by cases failed⟩
  · next granted =>
      cases ran
      exact ⟨(pending.grant granted).1, fun _ _ => rfl⟩

theorem infoRefreshAccessToken_flag (settings : Settings) (request : Session.Request)
    (answers : GrantAnswers) (interval : Option String) (needsSave : Bool) (x : Exchange) :
    (infoRefreshAccessToken settings request answers interval needsSave x).1 =
        (infoRefreshAccessToken settings request answers interval false x).1 ∧
      (infoRefreshAccessToken settings request answers interval needsSave x).2.2 =
        (infoRefreshAccessToken settings request answers interval false x).2.2 := by
  unfold infoRefreshAccessToken
  split
  · exact ⟨rfl, rfl⟩
  split
  · exact ⟨rfl, rfl⟩
  split
  · exact ⟨rfl, rfl⟩
  split
  · exact ⟨rfl, rfl⟩
  split
  · exact ⟨rfl, rfl⟩
  split
  · exact ⟨rfl, rfl⟩
  · exact ⟨rfl, rfl⟩

/-- Passing the tokens on leaves the refresh token alone and the flag up. -/
theorem sessionPassTokens_spec (settings : Settings) (request : Session.Request)
    (extendSession needsSave : Bool) (z : Session) :
    (sessionPassTokens settings request extendSession needsSave z).2.getRefreshToken =
        z.getRefreshToken ∧
      (needsSave = true → (sessionPassTokens settings request extendSession needsSave z).1 =
      true) := by
  have renewed (z : Session) : (z.setSessionNew false).getRefreshToken = z.getRefreshToken :=
    ((Session.Writes.refl ["sn"] z).setSessionNew false).getText (by decide)
  unfold sessionPassTokens
  dsimp only
  split
  · split
    · exact ⟨renewed _, fun _ => rfl⟩
    · exact ⟨rfl, fun _ => rfl⟩
  · split
    · exact ⟨renewed _, fun _ => rfl⟩
    · exact ⟨rfl, id⟩

theorem Pending.pass (pending : Pending x) {needsSave : Bool} (flagged : Flagged x needsSave)
    (settings : Settings) (request : Session.Request) (extendSession : Bool) :
    Pending { x with
        session := (sessionPassTokens settings request extendSession needsSave x.session).2 } ∧
      Flagged { x with
        session := (sessionPassTokens settings request extendSession needsSave x.session).2 }
        (sessionPassTokens settings request extendSession needsSave x.session).1 := by
  obtain ⟨same, up⟩ := sessionPassTokens_spec settings request extendSession needsSave x.session
  exact ⟨pending.change same, fun rotated => up (flagged rotated)⟩

/-! ## Settling -/

theorem newest_save (x : Exchange) (settings : Settings) (request : Session.Request) :
    newest (x.save settings request).2.effects = newest x.effects := by
  rw [Exchange.save_effects, newest_append]
  rfl

theorem newest_kill (x : Exchange) (settings : Settings) (request : Session.Request) :
    newest (x.kill settings request).effects = newest x.effects := by
  rw [Exchange.kill_effects, newest_append]
  rfl

theorem kept_kill (x : Exchange) (settings : Settings) (request : Session.Request)
    (refreshToken : String) : Kept (x.kill settings request).effects refreshToken := by
  rw [Exchange.kill_effects]
  exact .inl (List.mem_append_right _ (List.mem_singleton_self _))

/-- A save keeps the newest token. -/
theorem Pending.kept_save (pending : Pending x) (settings : Settings) (request : Session.Request)
    {refreshToken : String} (rotated : newest x.effects = some refreshToken) :
    Kept (x.save settings request).2.effects refreshToken := by
  have held := pending.current refreshToken rotated
  rw [Session.getRefreshToken, Session.getText, Session.jsonGet] at held
  cases stored : x.session.state with
  | none => simp [stored] at held
  | some state =>
      rw [stored, Option.bind_some] at held
      obtain ⟨saved, result, -, kept⟩ := Session.save_state settings.codec settings.session request
        x.world x.session false stored
      rw [Exchange.save_effects, result]
      refine .inr ⟨saved, List.mem_append_right _ (List.mem_singleton_self _), ?_⟩
      rw [Object.getString, kept "rt" (by decide)]
      exact held

/-- The end of a handler that saves the session if the flag is up. -/
theorem Pending.kept_of_flag (pending : Pending x) {needsSave : Bool}
    (flagged : Flagged x needsSave)
    {status failed : Status} {refreshToken : String}
    (rotated : newest (if needsSave = true then
        match x.save settings request with
        | (true, x) => (status, x)
        | (false, x) => (failed, x)
      else (status, x)).2.effects = some refreshToken) :
    Kept (if needsSave = true then
        match x.save settings request with
        | (true, x) => (status, x)
        | (false, x) => (failed, x)
      else (status, x)).2.effects refreshToken := by
  have result : (match x.save settings request with
      | (true, x) => (status, x)
      | (false, x) => (failed, x)).2 = (x.save settings request).2 := by
    rcases x.save settings request with ⟨saved, y⟩
    cases saved <;> rfl
  cases needsSave with
  | true =>
      simp only [if_true, result, newest_save] at rotated ⊢
      exact pending.kept_save settings request rotated
  | false =>
      simp only [Bool.false_eq_true, if_false] at rotated
      have up := flagged (by simp [rotated])
      cases up

end Pending

/-! ## The handlers -/

/-- The requests on an existing session. -/
inductive Handler
  /-- `oidc_check_userid_openidc_existing_session`. -/
  | page
  /-- `oidc_info_request` alone, for a session that may have been changed before. -/
  | info (parameters : InfoParameters) (needsSave : Bool)
  /-- Both phases of a request to the info hook. -/
  | infoHook (parameters : InfoParameters) (content : PageAnswers)
  /-- `oidc_refresh_token_request`. -/
  | refresh (returnTo accessToken : Option String)

section Handlers

variable (settings : Settings) (loc : Location) (request : Session.Request) (answers : PageAnswers)

/-- A request at its end. -/
def Handler.handle (x : Exchange) : Handler → Exchange
  | .page => (checkUseridExistingSession settings loc request answers x).2
  | .info parameters needsSave =>
      (infoRequest settings loc request parameters answers needsSave x).2
  | .infoHook parameters content =>
      (infoHookRequest settings loc request parameters answers content x).2
  | .refresh returnTo accessToken =>
      (refreshTokenRequest settings loc request returnTo accessToken answers.grant x).2.2

/-- The refresh of the userinfo claims does not fail, in the state that the refresh of the access
token ahead of its expiry leaves. -/
def pageUserinfoSucceeds (x : Exchange) : Bool :=
  (userinfoRefreshClaims settings request answers.userinfo false
    (refreshAccessTokenBeforeExpiry settings request answers.grant
      loc.refreshAccessTokenBeforeExpiry false x).2.2).1

/-- The info request gets to its save: it is answered, its refreshes do not fail, and it extends the
session. -/
structure InfoSaves (parameters : InfoParameters) (x : Exchange) : Prop where
  supported : parameters.supported = true
  remoteUser : x.session.remoteUser.isSome = true
  infoHook : loc.infoHook = true
  refreshed : (infoRefreshAccessToken settings request answers.grant
    parameters.accessTokenRefreshInterval false x).1 = ok
  extended : parameters.extends = true
  userinfo : (userinfoRefreshClaims settings request answers.userinfo false
    (infoRefreshAccessToken settings request answers.grant parameters.accessTokenRefreshInterval
      false x).2.2).1 = true

/-- When a request saves or kills the session after a rotation. -/
def Handler.Saves (x : Exchange) : Handler → Prop
  | .page =>
      pageUserinfoSucceeds settings loc request answers x = true ∨
        loc.actionOnUserinfoError ≠ .badGateway
  | .info parameters _ => InfoSaves settings loc request answers parameters x
  | .infoHook parameters content =>
      parameters.extends = true ∧
        if pageUserinfoSucceeds settings loc request answers x then
          InfoSaves settings loc request content parameters
            (handleExistingSession settings loc request true answers x).2.2
        else loc.actionOnUserinfoError ≠ .badGateway
  | .refresh _ _ => True

variable {settings loc request answers} {x x' : Exchange} {refreshToken : String}

/-- How the phase of authentication can end. -/
inductive Passed (settings : Settings) (loc : Location) (request : Session.Request)
    (answers : PageAnswers) (extendSession : Bool) (x : Exchange) : Status → Bool → Exchange → Prop
  | unrotated {status : Status} {x' : Exchange} (quiet : newest x'.effects = none)
      (ended : status = ok → x'.session.remoteUser = none) :
      Passed settings loc request answers extendSession x status false x'
  | refused {x' : Exchange} (extended : extendSession = true)
      (failed : pageUserinfoSucceeds settings loc request answers x = false)
      (action : loc.actionOnUserinfoError = .badGateway) (pending : Pending x') :
      Passed settings loc request answers extendSession x 502 false x'
  | killed {status : Status} {x' : Exchange} (extended : extendSession = true)
      (failed : pageUserinfoSucceeds settings loc request answers x = false)
      (action : loc.actionOnUserinfoError ≠ .badGateway)
      (kept : ∀ refreshToken, Kept x'.effects refreshToken)
      (ended : status = ok → x'.session.remoteUser = none) :
      Passed settings loc request answers extendSession x status false x'
  | passed {needsSave : Bool} {x' : Exchange} (pending : Pending x')
      (flagged : Flagged x' needsSave)
      (userinfo : extendSession = true → pageUserinfoSucceeds settings loc request answers x = true)
      (quiet : extendSession = false → newest x'.effects = none) :
      Passed settings loc request answers extendSession x ok needsSave x'

theorem kill_session (x : Exchange) (settings : Settings) (request : Session.Request) :
    (x.kill settings request).session.remoteUser = none := rfl

/-- What follows a failed refresh: nothing, or the end of the session. -/
theorem handleSessionRefreshError_cases (settings : Settings) (loc : Location)
    (request : Session.Request) (action : OnErrorAction) (x : Exchange) :
    action = .badGateway ∧ handleSessionRefreshError settings loc request action x = (502, x) ∨
      action ≠ .badGateway ∧ ∃ status,
        handleSessionRefreshError settings loc request action x =
          (status, x.kill settings request) := by
  cases action with
  | badGateway => exact .inl ⟨rfl, rfl⟩
  | logout => exact .inr ⟨by decide, _, rfl⟩
  | auth => exact .inr ⟨by decide, _, rfl⟩

/-- The refreshes of the phase of authentication, up to the first that fails. -/
theorem refreshExistingSession_cases (fresh : x.effects = []) {failure : Option Status}
    {needsSave : Bool}
    (ran : refreshExistingSession settings loc request answers false x = (failure, needsSave, x')) :
    (∃ status, failure = some status ∧
        Passed settings loc request answers true x status false x') ∨
      failure = none ∧ Pending x' ∧ Flagged x' needsSave ∧
        pageUserinfoSucceeds settings loc request answers x = true := by
  have start : newest x.effects = none := by
    rw [fresh]
    rfl
  unfold refreshExistingSession at ran
  rcases before : refreshAccessTokenBeforeExpiry settings request answers.grant
    loc.refreshAccessTokenBeforeExpiry false x with ⟨succeeded, flag, y⟩
  rw [before] at ran
  obtain ⟨pending, flagged, same⟩ :=
    (Pending.start fresh).beforeExpiry (fun rotated => absurd start rotated) before
  cases succeeded with
  | false =>
      have quiet : newest y.effects = none := (same rfl).trans start
      rcases handleSessionRefreshError_cases settings loc request loc.actionOnErrorRefresh y with
        ⟨-, result⟩ | ⟨-, status, result⟩
      · simp only [result] at ran
        cases ran
        exact .inl ⟨502, rfl, .unrotated quiet fun wrong => by cases wrong⟩
      · simp only [result] at ran
        cases ran
        exact .inl ⟨status, rfl, .unrotated ((newest_kill y settings request).trans quiet)
          fun _ => kill_session ..⟩
  | true =>
      have outcome : pageUserinfoSucceeds settings loc request answers x =
          (userinfoRefreshClaims settings request answers.userinfo flag y).1 := by
        rw [pageUserinfoSucceeds, before]
        exact (userinfoRefreshClaims_flag settings request answers.userinfo flag y).1.symm
      rcases claims : userinfoRefreshClaims settings request answers.userinfo flag y with
        ⟨refreshed, flag', y'⟩
      rw [claims] at outcome
      simp only [claims] at ran
      obtain ⟨pendingClaims, flaggedClaims⟩ := pending.userinfo (flagged rfl) claims
      cases refreshed with
      | false =>
          rcases handleSessionRefreshError_cases settings loc request loc.actionOnUserinfoError y'
            with ⟨action, result⟩ | ⟨action, status, result⟩
          · simp only [result] at ran
            cases ran
            exact .inl ⟨502, rfl, .refused rfl outcome action pendingClaims⟩
          · simp only [result] at ran
            cases ran
            exact .inl ⟨status, rfl, .killed rfl outcome action (kept_kill y' settings request)
              fun _ => kill_session ..⟩
      | true =>
          cases ran
          exact .inr ⟨rfl, pendingClaims, flaggedClaims rfl, outcome⟩

/-- The phase of authentication, for a session that was just loaded. -/
theorem handleExistingSession_passed (fresh : x.effects = []) {extendSession needsSave : Bool}
    {status : Status}
    (ran : handleExistingSession settings loc request extendSession answers x =
      (status, needsSave, x')) :
    Passed settings loc request answers extendSession x status needsSave x' := by
  have start : newest x.effects = none := by
    rw [fresh]
    rfl
  unfold handleExistingSession at ran
  split at ran
  · cases ran
    exact .unrotated start fun wrong => by cases wrong
  split at ran
  · cases ran
    exact .unrotated ((newest_kill x settings request).trans start) fun _ => kill_session ..
  cases extendSession with
  | false =>
      simp only [Bool.false_eq_true, if_false] at ran
      cases ran
      obtain ⟨still, up⟩ := (Pending.start fresh).pass (fun rotated => absurd start rotated)
        settings request false
      exact .passed still up (fun wrong => by cases wrong) fun _ => start
  | true =>
      simp only [if_true] at ran
      rcases refreshed : refreshExistingSession settings loc request answers false x with
        ⟨failure, flag, y⟩
      rw [refreshed] at ran
      rcases refreshExistingSession_cases fresh refreshed with
        ⟨status, rfl, passed⟩ | ⟨rfl, pending, flagged, outcome⟩
      · cases ran
        exact passed
      · cases ran
        obtain ⟨still, up⟩ := pending.pass flagged settings request true
        exact .passed still up (fun _ => outcome) fun wrong => by cases wrong

/-- An info request that is turned down has not touched the session. -/
theorem infoRequest_refused (parameters : InfoParameters) (needsSave : Bool)
    (refused : ¬(parameters.supported = true ∧ x.session.remoteUser.isSome = true ∧
      loc.infoHook = true)) :
    (infoRequest settings loc request parameters answers needsSave x).2 = x := by
  unfold infoRequest
  split
  · rfl
  next supported =>
    split
    · rfl
    next known =>
      split
      · rfl
      next configured =>
        refine absurd ⟨?_, ?_, ?_⟩ refused
        · simpa using supported
        · simpa [Option.isSome_iff_ne_none] using known
        · simpa using configured

/-- The info request keeps the newest token exactly if it gets to its save. -/
theorem infoRequest_kept_iff (pending : Pending x) {needsSave : Bool}
    (flagged : Flagged x needsSave) {parameters : InfoParameters}
    (rotated : newest (infoRequest settings loc request parameters answers needsSave x).2.effects =
      some refreshToken) :
    Kept (infoRequest settings loc request parameters answers needsSave x).2.effects refreshToken ↔
      InfoSaves settings loc request answers parameters x := by
  by_cases answered : parameters.supported = true ∧ x.session.remoteUser.isSome = true ∧
      loc.infoHook = true
  case neg =>
    rw [infoRequest_refused parameters needsSave answered]
    refine iff_of_false (pending.not_kept _) fun saves => answered ?_
    exact ⟨saves.supported, saves.remoteUser, saves.infoHook⟩
  obtain ⟨supported, known, configured⟩ := answered
  have named : x.session.remoteUser.isNone = false := by simpa using known
  obtain ⟨statusFlag, stateFlag⟩ := infoRefreshAccessToken_flag settings request answers.grant
    parameters.accessTokenRefreshInterval needsSave x
  rcases interval : infoRefreshAccessToken settings request answers.grant
    parameters.accessTokenRefreshInterval needsSave x with ⟨status, flag, y⟩
  rw [interval] at statusFlag stateFlag
  obtain ⟨pendingGrant, flaggedGrant⟩ := pending.infoRefresh flagged interval
  simp only [infoRequest, supported, named, configured, interval, Bool.true_eq_false,
    Bool.false_eq_true, if_false] at rotated ⊢
  by_cases refreshed : status = ok
  case neg =>
    rw [if_pos refreshed]
    exact iff_of_false (pendingGrant.not_kept _) fun saves =>
      refreshed (statusFlag.trans saves.refreshed)
  rw [if_neg (not_not.mpr refreshed)] at rotated ⊢
  cases extended : parameters.extends with
  | false =>
      simp only [Bool.false_and, Bool.false_eq_true, if_false, Bool.true_eq_false]
      obtain ⟨still, -⟩ := pendingGrant.pass (flaggedGrant refreshed) settings request false
      refine iff_of_false (still.not_kept _) fun saves => ?_
      rw [saves.extended] at extended
      cases extended
  | true =>
      have outcome : (userinfoRefreshClaims settings request answers.userinfo false
          (infoRefreshAccessToken settings request answers.grant
            parameters.accessTokenRefreshInterval false x).2.2).1 =
          (userinfoRefreshClaims settings request answers.userinfo flag y).1 := by
        rw [← stateFlag]
        exact (userinfoRefreshClaims_flag settings request answers.userinfo flag y).1.symm
      rcases claims : userinfoRefreshClaims settings request answers.userinfo flag y with
        ⟨succeeded, flag', y'⟩
      rw [claims] at outcome
      obtain ⟨pendingClaims, flaggedClaims⟩ := pendingGrant.userinfo (flaggedGrant refreshed) claims
      simp only [extended, claims, if_true, Bool.true_and] at rotated ⊢
      cases succeeded with
      | false =>
          simp only [if_true]
          exact iff_of_false (pendingClaims.not_kept _) fun saves => by
            rw [saves.userinfo] at outcome
            cases outcome
      | true =>
          obtain ⟨still, up⟩ := pendingClaims.pass (flaggedClaims rfl) settings request true
          simp only [Bool.true_eq_false, if_false] at rotated ⊢
          refine iff_of_true (still.kept_of_flag up rotated) ?_
          exact ⟨supported, known, configured, statusFlag.symm.trans refreshed, extended, outcome⟩

/-- A refresh request saves the session after every grant. -/
theorem refreshTokenRequest_kept (fresh : x.effects = []) {returnTo accessToken : Option String}
    {grant : GrantAnswers}
    (rotated : newest (refreshTokenRequest settings loc request returnTo accessToken grant
      x).2.2.effects = some refreshToken) :
    Kept (refreshTokenRequest settings loc request returnTo accessToken grant x).2.2.effects
      refreshToken := by
  have start : newest x.effects = none := by
    rw [fresh]
    rfl
  have unrotated (y : Exchange) (still : newest y.effects = newest x.effects)
      (wrong : newest y.effects = some refreshToken) : Kept y.effects refreshToken := by
    rw [still, start] at wrong
    cases wrong
  unfold refreshTokenRequest at rotated ⊢
  split at rotated
  · next invalid =>
      rw [if_pos invalid]
      exact unrotated x rfl rotated
  next valid =>
    rw [if_neg valid]
    split at rotated
    · next missing =>
        rw [if_pos missing]
        exact unrotated x rfl rotated
    next given =>
      rw [if_neg given]
      split at rotated
      · next absent =>
          rw [if_pos absent]
          exact unrotated x rfl rotated
      next held =>
        rw [if_neg held]
        split at rotated
        · next different =>
            rw [if_pos different]
            exact unrotated x rfl rotated
        next same =>
          rw [if_neg same]
          cases found : getProviderFromSession settings x.session with
          | none =>
              rw [found] at rotated
              exact unrotated x rfl rotated
          | some provider =>
              rcases granted : refreshTokenGrant settings request provider grant x with
                ⟨succeeded, y⟩
              simp only [found, granted] at rotated ⊢
              obtain ⟨pending, still⟩ := (Pending.start fresh).grant granted
              cases succeeded with
              | false => exact unrotated y (still rfl) rotated
              | true =>
                  obtain ⟨passed, -⟩ := pending.pass (fun _ => rfl) settings request true
                  simp only at rotated ⊢
                  generalize { y with session := (sessionPassTokens settings request true true
                    y.session).2 } = w at passed rotated ⊢
                  have kept (rotated : newest (w.save settings request).2.effects =
                      some refreshToken) :
                      Kept (w.save settings request).2.effects refreshToken := by
                    rw [newest_save] at rotated
                    exact passed.kept_save settings request rotated
                  rcases saved : w.save settings request with ⟨rc, v⟩
                  rw [saved] at kept
                  simp only [saved] at rotated ⊢
                  cases rc with
                  | false => exact kept rotated
                  | true => exact kept rotated

/-- The newest refresh token of a request is kept exactly if the refresh of the userinfo claims that
follows does not fail with an error page, and, for the info hook, the request gets to its save. -/
theorem rotated_kept_iff (handler : Handler) (fresh : x.effects = [])
    (rotated : newest (handler.handle settings loc request answers x).effects = some refreshToken) :
    Kept (handler.handle settings loc request answers x).effects refreshToken ↔
      handler.Saves settings loc request answers x := by
  have start : newest x.effects = none := by
    rw [fresh]
    rfl
  cases handler with
  | page =>
      simp only [Handler.handle, Handler.Saves, checkUseridExistingSession] at rotated ⊢
      rcases ran : handleExistingSession settings loc request true answers x with
        ⟨status, needsSave, y⟩
      simp only [ran] at rotated ⊢
      cases handleExistingSession_passed fresh ran with
      | unrotated quiet ended =>
          rw [if_neg (by simp)] at rotated
          exact absurd (quiet.symm.trans rotated) (by simp)
      | refused extended failed action pending =>
          rw [if_neg (by simp)]
          refine iff_of_false (pending.not_kept _) ?_
          simp [failed, action]
      | killed extended failed action kept ended =>
          rw [if_neg (by simp)]
          exact iff_of_true (kept _) (.inr action)
      | passed pending flagged userinfo quiet =>
          simp only [true_and] at rotated ⊢
          exact iff_of_true (pending.kept_of_flag flagged rotated) (.inl (userinfo rfl))
  | info parameters needsSave =>
      exact infoRequest_kept_iff (Pending.start fresh) (fun wrong => absurd start wrong) rotated
  | infoHook parameters content =>
      simp only [Handler.handle, Handler.Saves, infoHookRequest] at rotated ⊢
      rcases ran : handleExistingSession settings loc request parameters.extends answers x with
        ⟨status, needsSave, y⟩
      simp only [ran] at rotated ⊢
      -- a session that is over is not answered, whatever the status
      have closed (ended : status = ok → y.session.remoteUser = none) :
          (if status = ok then infoRequest settings loc request parameters content needsSave y
            else (status, y)).2 = y := by
        split
        · next done =>
            apply infoRequest_refused
            simp [ended done]
        · rfl
      cases handleExistingSession_passed fresh ran with
      | unrotated quiet ended =>
          rw [closed ended] at rotated
          exact absurd (quiet.symm.trans rotated) (by simp)
      | refused extended failed action pending =>
          rw [if_neg (by decide)]
          refine iff_of_false (pending.not_kept _) ?_
          simp [failed, action]
      | killed extended failed action kept ended =>
          rw [closed ended]
          refine iff_of_true (kept _) ⟨extended, ?_⟩
          rw [failed]
          exact action
      | passed pending flagged userinfo quiet =>
          rw [if_pos rfl] at rotated ⊢
          rw [infoRequest_kept_iff pending flagged rotated]
          cases extended : parameters.extends with
          | false =>
              refine iff_of_false (fun saves => ?_) (by simp)
              rw [saves.extended] at extended
              cases extended
          | true =>
              rw [extended] at ran
              simp [userinfo extended, ran]
  | refresh returnTo accessToken =>
      exact iff_of_true (refreshTokenRequest_kept fresh rotated) trivial

end Handlers

/-! ## A page whose access token is about to expire -/

/-- Settings with a provider that has a userinfo endpoint. -/
def rotationSettings : Settings where
  session :=
    { sessionType := .serverCache
      fallbackToCookie := false
      cookieChunkSize := 0
      cookieNameOk := Session.nameOk_defaultCookie }
  codec :=
    { jsonEncode := fun _ => none
      jsonDecodeObject := fun _ => none
      jwtCreate := fun _ => none
      jwtVerify := fun _ => none }
  jose :=
    { jwtParse := fun _ => none
      jwtVerify := fun _ => false
      hashBytes := fun _ _ => none
      base64urlDecode := fun _ => none
      jwtHeaderPeek := fun _ => false
      jweDecrypt := fun _ => none
      jsonDecodeObject := fun _ => none }
  providerForIssuer := fun issuer =>
    if issuer = "https://op" then
      some
        { issuer := "https://op"
          clientId := "client"
          idtokenIatSlack_nonneg := defaultIatSlack_nonneg
          userinfoEndpointUrl := some "https://op/userinfo" }
    else none
  requestUser := fun jwt _ => jwt.sub

/-- A session with a refresh token and an interval for the userinfo claims. -/
def rotationExchange (interval : Int) : Exchange where
  session := Session.restored
    [("v", .int 1), ("r", .str "alice"), ("e", .int 1300), ("i", .str "s1"),
    ("iss", .str "https://op"),
      ("cd", .str "localhost"), ("se", .int 5000), ("at", .str "at"), ("ate", .int 1000),
      ("rt", .str "rt"), ("uir", .int interval)]
  world := { caches := { session := fun _ => none, sid := fun _ => none } }

theorem rotationNow_nonneg : (0 : Int) ≤ 1000000000 := by decide

/-- A request at the moment the access token expires. -/
def rotationRequest : Session.Request where
  cookies := none
  now := 1000000000
  now_nonneg := rotationNow_nonneg

/-- The token endpoint rotates the refresh token, and the userinfo endpoint cannot be reached. -/
def rotationAnswers : PageAnswers where
  grant :=
    { tokenEndpoint := some [("access_token", .str "at2"), ("token_type", .str "Bearer"),
        ("refresh_token", .str "rt2")] }
  userinfo :=
    { first := { endpoint := none }
      grant := { tokenEndpoint := none }
      second := { endpoint := none } }

/-- Without an interval for the userinfo claims the page saves the new refresh token. -/
theorem rotated_kept_page :
    newest (Handler.handle rotationSettings { refreshAccessTokenBeforeExpiry := 60 } rotationRequest
      rotationAnswers (rotationExchange (-1)) .page).effects = some "rt2" ∧
    Kept (Handler.handle rotationSettings { refreshAccessTokenBeforeExpiry := 60 } rotationRequest
      rotationAnswers (rotationExchange (-1)) .page).effects "rt2" := by
  have rotated : newest (Handler.handle rotationSettings { refreshAccessTokenBeforeExpiry := 60 }
      rotationRequest rotationAnswers (rotationExchange (-1)) .page).effects = some "rt2" := rfl
  exact ⟨rotated, (rotated_kept_iff .page rfl rotated).mpr (.inl rfl)⟩

/-- With one, the failure of the userinfo endpoint loses it. -/
theorem rotated_token_lost :
    newest (Handler.handle rotationSettings { refreshAccessTokenBeforeExpiry := 60 } rotationRequest
      rotationAnswers (rotationExchange 0) .page).effects = some "rt2" ∧
    ¬Kept (Handler.handle rotationSettings { refreshAccessTokenBeforeExpiry := 60 } rotationRequest
      rotationAnswers (rotationExchange 0) .page).effects "rt2" := by
  have effects : (Handler.handle rotationSettings { refreshAccessTokenBeforeExpiry := 60 }
      rotationRequest rotationAnswers (rotationExchange 0) .page).effects =
      [.cached "rt" (some refreshLockValue) 1005000000, .cached "rt" none 1030000000,
        .granted (some "rt2")] := rfl
  rw [effects]
  refine ⟨rfl, ?_⟩
  rintro (killed | ⟨state, saved, -⟩)
  · simp at killed
  · simp at saved

end Handle

end ModAuthOpenidc
