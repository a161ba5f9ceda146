import ModAuthOpenidc.Handle.Access
import ModAuthOpenidc.JsonMembers

/-!
# Who gets to the application

A request gets to the application in one of few ways: with the user of a session that belongs to
this host and has not expired, with the user of an access token that was found valid, with the user
of the request it comes from, or without a user, where the location or the method lets it pass. In
the first three ways the claims of the user satisfy what the location requires. In none of them does
a header of the client pass for one that the module sets.
-/

namespace ModAuthOpenidc

namespace Access

open Handle (Status ok)

/-! ## Headers -/

/-- What is new after a header was set has its name and its value. -/
theorem mem_hdrInSet {headers : List Scrub.Header} {header other : Scrub.Header}
    (member : other ∈ hdrInSet headers header) :
    other ∈ headers ∨ sameName other header = true ∧ other.value = header.value := by
  induction headers with
  | nil =>
      obtain rfl := List.mem_singleton.mp member
      exact .inr ⟨decide_eq_true rfl, rfl⟩
  | cons first rest ih =>
      rw [hdrInSet] at member
      split at member
      · next same =>
          rcases List.mem_cons.mp member with rfl | later
          · exact .inr ⟨same, rfl⟩
          · exact .inl (List.mem_cons_of_mem first (List.mem_of_mem_filter later))
      · rcases List.mem_cons.mp member with rfl | later
        · exact .inl List.mem_cons_self
        · exact (ih later).imp (List.mem_cons_of_mem first) id

theorem mem_foldl_hdrInSet {info headers : List Scrub.Header} {other : Scrub.Header}
    (member : other ∈ info.foldl hdrInSet headers) :
    other ∈ headers ∨
      ∃ header ∈ info, sameName other header = true ∧ other.value = header.value := by
  induction info generalizing headers with
  | nil => exact .inl member
  | cons header info ih =>
      rcases ih member with listed | ⟨set, listed, same⟩
      · rcases mem_hdrInSet listed with old | same
        · exact .inl old
        · exact .inr ⟨header, List.mem_cons_self, same⟩
      · exact .inr ⟨set, List.mem_cons_of_mem header listed, same⟩

/-- What was scrubbed once has nothing left to scrub. -/
theorem scrubHeaders_scrubHeaders (config : Scrub.Config) (headers : List Scrub.Header) :
    Scrub.scrubHeaders config (Scrub.scrubHeaders config headers) =
      Scrub.scrubHeaders config headers := by
  simp [Scrub.scrubHeaders_eq_filter, List.filter_filter]

theorem not_prefixed_of_mem {config : Scrub.Config} {headers : List Scrub.Header}
    {header : Scrub.Header} (member : header ∈ Scrub.scrubHeaders config headers) :
    ¬Scrub.Prefixed config header.name := by
  rw [Scrub.scrubHeaders_eq_filter] at member
  exact (of_decide_eq_true (List.mem_filter.mp member).2).1

/-! ## Answers of the module -/

section Answers

variable {settings : Settings} {handlers : Handlers} {incoming : Incoming} {r r' : Record}

/-- Whoever is asked to log in gets no page of the application. -/
theorem requestAuthenticateUser_ok {answers : AuthnAnswers}
    (passed : requestAuthenticateUser settings answers r = (ok, r')) : r'.prepared ≠ [] := by
  have different {status : Status} {first : Record} (failed : status ≠ ok)
      (same : (status, first) = (ok, r')) : r'.prepared ≠ [] :=
    absurd (Prod.ext_iff.mp same).1 failed
  have page {kind : Prepared} {first : Record} (same : contentPrep kind first = (ok, r')) :
      r'.prepared ≠ [] := by
    obtain rfl := (Prod.ext_iff.mp same).2
    simp [contentPrep]
  unfold requestAuthenticateUser at passed
  split at passed
  · obtain rfl := (Prod.ext_iff.mp passed).2
    simp
  split at passed
  · exact different (by decide) passed
  split at passed
  · exact different (by decide) passed
  split at passed
  · exact different (by decide) passed
  split at passed
  · next failed => exact different failed passed
  split at passed
  · exact different (by decide) passed
  unfold requestAuth at passed
  split at passed
  · exact different (by decide) passed
  split at passed
  · exact page passed
  · split at passed
    · exact different (by decide) passed
    · exact different (by decide) passed
  · unfold requestAuthSendGet at passed
    split at passed
    · exact different (by decide) passed
    · exact page passed
    · split at passed
      · next listed =>
          obtain rfl := (Prod.ext_iff.mp passed).2
          exact List.ne_nil_of_mem listed
      · exact page passed

/-- A request without a user gets a page of the application only where the location lets it pass. -/
theorem handleUnauthenticatedUser_ok
    (passed : handleUnauthenticatedUser settings incoming r = (ok, r')) (empty : r'.prepared = []) :
    settings.unauthAction = .pass ∧ r' = anonymous settings r := by
  unfold handleUnauthenticatedUser at passed
  split at passed
  · cases (Prod.ext_iff.mp passed).1
  · cases (Prod.ext_iff.mp passed).1
  · cases (Prod.ext_iff.mp passed).1
  · next action => exact ⟨action, (Prod.ext_iff.mp passed).2.symm⟩
  · split at passed
    · cases (Prod.ext_iff.mp passed).1
    · exact absurd empty (requestAuthenticateUser_ok passed)

theorem logoutRequest_ok (passed : logoutRequest settings r = (ok, r')) : r'.prepared ≠ [] := by
  unfold logoutRequest at passed
  split at passed
  · cases (Prod.ext_iff.mp passed).1
  · obtain rfl := (Prod.ext_iff.mp passed).2
    simp [contentPrep]

/-- A request goes on after a failed refresh only where the location lets it pass. -/
theorem handleSessionRefreshError_ok {action : Handle.OnErrorAction} {x : Handle.Exchange}
    (passed : (handleSessionRefreshError settings incoming action x r).1 = ok)
    (empty : (handleSessionRefreshError settings incoming action x r).2.1.prepared = []) :
    settings.unauthAction = .pass ∧
      (handleSessionRefreshError settings incoming action x r).2.1 = anonymous settings r := by
  unfold handleSessionRefreshError at passed empty ⊢
  cases action with
  | logout => exact absurd empty (logoutRequest_ok (Prod.ext passed rfl))
  | auth => exact handleUnauthenticatedUser_ok (Prod.ext passed rfl) empty
  | badGateway => cases passed

end Answers

/-! ## Sessions -/

section Sessions

variable {settings : Settings} {incoming : Incoming} {x : Handle.Exchange} {r : Record}

/-- The session when its tokens and its claims were refreshed where that was due. -/
def refreshedSession (settings : Settings) (incoming : Incoming) (x : Handle.Exchange) : Session :=
  let (_, needsSave, x) := Handle.refreshAccessTokenBeforeExpiry settings.handle incoming.session
    incoming.page.grant settings.loc.refreshAccessTokenBeforeExpiry false x
  (Handle.userinfoRefreshClaims settings.handle incoming.session incoming.page.userinfo needsSave
    x).2.2.session

/-- The headers that come from a session, whose expiry may have moved. -/
def sessionHeaders (settings : Settings) (incoming : Incoming) (z : Session) : List Scrub.Header :=
  settings.sessionInfo (Handle.sessionPassTokens settings.handle incoming.session true false z).2

/-- What a page gets of a session. -/
def sessionRecord (settings : Settings) (user : String) (z : Session) (info : List Scrub.Header)
    (r : Record) : Record :=
  passHeaders settings
    (copyTokensToRequestState z (scrubHeaders settings { r with user := some user }))
    info

theorem sessionPassTokens_session (h : Handle.Settings) (request : Session.Request)
    (extendSession needsSave : Bool) (z : Session) :
    (Handle.sessionPassTokens h request extendSession needsSave z).2 =
      (Handle.sessionPassTokens h request extendSession false z).2 := by
  unfold Handle.sessionPassTokens
  dsimp only
  split
  · split
    · rfl
    · rfl
  · split
    · rfl
    · rfl

theorem anonymous_scrubHeaders (user : Option String) :
    anonymous settings (scrubHeaders settings { r with user }) = anonymous settings r := by
  simp [anonymous, scrubHeaders, scrubHeaders_scrubHeaders]

/-- A request with a session goes on with its user, if the session is valid and was refreshed, or
else where the location lets it pass. -/
theorem handleExistingSession_ok {user : String} (known : x.session.remoteUser = some user)
    {r' : Record} {rest : Bool × Handle.Exchange}
    (passed : handleExistingSession settings true incoming x r = (ok, r', rest))
    (empty : r'.prepared = []) :
    settings.unauthAction = .pass ∧ r' = anonymous settings r ∨
      Handle.checkCookieDomain settings.handle x.session = true ∧
        incoming.session.now ≤ x.session.getSessionExpires ∧
        r' = sessionRecord settings user (refreshedSession settings incoming x)
          (sessionHeaders settings incoming (refreshedSession settings incoming x)) r := by
  unfold handleExistingSession at passed
  rw [known] at passed
  dsimp only at passed
  split at passed
  · cases (Prod.ext_iff.mp passed).1
  next domain =>
  split at passed
  · obtain ⟨status, same⟩ := Prod.ext_iff.mp passed
    obtain ⟨same, -⟩ := Prod.ext_iff.mp same
    obtain ⟨action, found⟩ := handleUnauthenticatedUser_ok (Prod.ext status same) empty
    exact .inl ⟨action, found.trans (anonymous_scrubHeaders _)⟩
  next unexpired =>
  have failed {action : Handle.OnErrorAction} {x' : Handle.Exchange}
      (status : (handleSessionRefreshError settings incoming action x'
        (scrubHeaders settings { r with user := some user })).1 = ok)
      (same : (handleSessionRefreshError settings incoming action x'
        (scrubHeaders settings { r with user := some user })).2.1 = r') :
      settings.unauthAction = .pass ∧ r' = anonymous settings r := by
    obtain ⟨action, found⟩ := handleSessionRefreshError_ok status (same ▸ empty)
    exact ⟨action, (same.symm.trans found).trans (anonymous_scrubHeaders _)⟩
  rw [if_pos rfl] at passed
  rcases first : Handle.refreshAccessTokenBeforeExpiry settings.handle incoming.session
    incoming.page.grant settings.loc.refreshAccessTokenBeforeExpiry false x with
    ⟨refreshed, needsSave, x₁⟩
  rw [first] at passed
  cases refreshed with
  | false =>
      obtain ⟨status, same⟩ := Prod.ext_iff.mp passed
      exact .inl (failed status (Prod.ext_iff.mp same).1)
  | true =>
      dsimp only at passed
      rcases second : Handle.userinfoRefreshClaims settings.handle incoming.session
        incoming.page.userinfo needsSave x₁ with ⟨refreshed', needsSave', x₂⟩
      rw [second] at passed
      cases refreshed' with
      | false =>
          obtain ⟨status, same⟩ := Prod.ext_iff.mp passed
          exact .inl (failed status (Prod.ext_iff.mp same).1)
      | true =>
          have session : refreshedSession settings incoming x = x₂.session := by
            simp only [refreshedSession, first, second]
          obtain ⟨-, same⟩ := Prod.ext_iff.mp passed
          obtain ⟨same, -⟩ := Prod.ext_iff.mp same
          refine .inr ⟨by simpa using domain, not_lt.mp unexpired, ?_⟩
          rw [session, sessionHeaders, ← sessionPassTokens_session _ _ _ needsSave']
          exact same.symm

/-- The location as the model of requests on existing sessions sees it. -/
def location (settings : Settings) (incoming : Incoming) (r : Record) : Handle.Location :=
  { settings.loc with
    unauthenticatedStatus := (handleUnauthenticatedUser settings incoming r).1
    logoutStatus := (logoutRequest settings r).1 }

/-- What a session goes through is what it goes through in the model of requests on existing
sessions. -/
theorem handleExistingSession_agrees (extendSession : Bool) (incoming : Incoming)
    (x : Handle.Exchange) (r : Record) :
    let result := handleExistingSession settings extendSession incoming x r
    Handle.handleExistingSession settings.handle
        (location settings incoming (scrubHeaders settings { r with user := x.session.remoteUser }))
        incoming.session extendSession incoming.page x = (result.1, result.2.2) := by
  have failed (action : Handle.OnErrorAction) (x : Handle.Exchange) (r : Record) :
      Handle.handleSessionRefreshError settings.handle (location settings incoming r)
          incoming.session action x =
        ((handleSessionRefreshError settings incoming action x r).1,
          (handleSessionRefreshError settings incoming action x r).2.2) := by
    cases action with
    | logout => rfl
    | auth => rfl
    | badGateway => rfl
  unfold Handle.handleExistingSession handleExistingSession
  dsimp only
  split
  · rfl
  split
  · rfl
  cases extendSession with
  | false => rfl
  | true =>
      rw [if_pos rfl, if_pos rfl, Handle.refreshExistingSession]
      rcases first : Handle.refreshAccessTokenBeforeExpiry settings.handle incoming.session
        incoming.page.grant settings.loc.refreshAccessTokenBeforeExpiry false x with
        ⟨refreshed, needsSave, x₁⟩
      have same : Handle.refreshAccessTokenBeforeExpiry settings.handle incoming.session
          incoming.page.grant (location settings incoming
            (scrubHeaders settings
              { r with user := x.session.remoteUser })).refreshAccessTokenBeforeExpiry
          false x = (refreshed, needsSave, x₁) := first
      rw [same]
      cases refreshed with
      | false =>
          dsimp only
          rw [failed]
          rfl
      | true =>
          dsimp only
          rcases second : Handle.userinfoRefreshClaims settings.handle incoming.session
            incoming.page.userinfo needsSave x₁ with ⟨refreshed', needsSave', x₂⟩
          cases refreshed' with
          | false =>
              dsimp only
              rw [failed]
              rfl
          | true => rfl

theorem checkUseridExistingSession_ok {user : String} (known : x.session.remoteUser = some user)
    {r' : Record} {x' : Handle.Exchange}
    (passed : checkUseridExistingSession settings incoming x r = (ok, r', x'))
    (empty : r'.prepared = []) :
    settings.unauthAction = .pass ∧ r' = anonymous settings r ∨
      Handle.checkCookieDomain settings.handle x.session = true ∧
        incoming.session.now ≤ x.session.getSessionExpires ∧
        r' = sessionRecord settings user (refreshedSession settings incoming x)
          (sessionHeaders settings incoming (refreshedSession settings incoming x)) r := by
  unfold checkUseridExistingSession at passed
  rcases page : handleExistingSession settings true incoming x r with ⟨status, r'', needsSave, x''⟩
  rw [page] at passed
  dsimp only at passed
  have finished (same : status = ok ∧ r'' = r') :
      settings.unauthAction = .pass ∧ r' = anonymous settings r ∨
        Handle.checkCookieDomain settings.handle x.session = true ∧
          incoming.session.now ≤ x.session.getSessionExpires ∧
          r' = sessionRecord settings user (refreshedSession settings incoming x)
            (sessionHeaders settings incoming (refreshedSession settings incoming x)) r := by
    obtain ⟨rfl, rfl⟩ := same
    exact handleExistingSession_ok known page empty
  split at passed
  · next success =>
      rcases saved : x''.save settings.handle incoming.session with ⟨done, x₁⟩
      rw [saved] at passed
      cases done with
      | true =>
          cases passed
          exact finished ⟨rfl, rfl⟩
      | false => cases (Prod.ext_iff.mp passed).1
  · cases passed
    exact finished ⟨rfl, rfl⟩

end Sessions

/-! ## Authentication -/

section Authentication

variable {settings : Settings} {handlers : Handlers} {incoming : Incoming} {server : Server}
  {r : Record}

/-- What a page gets of a token. -/
def tokenRecord (settings : Settings) (user : String) (claims : Json) (info : List Scrub.Header)
    (r : Record) : Record :=
  passHeaders settings
    (scrubHeaders settings { r with user := some user, claims := some claims }) info

/-- How the user of a request was found, with the headers that stand for the user. -/
inductive Identified (settings : Settings) (incoming : Incoming) (server : Server) (r : Record) :
    List Scrub.Header → Record → Prop
  /-- Nobody logged in, or a session has come to its end, and the location lets such requests
  pass. -/
  | passed (action : settings.unauthAction = .pass) :
      Identified settings incoming server r [] (anonymous settings r)
  /-- A CORS preflight without a token. -/
  | preflight (method : incoming.method = .options) (without : incoming.bearer = none) :
      Identified settings incoming server r [] (anonymous settings r)
  /-- A session of this host that has not expired. -/
  | session {z z' : Session} {user : String}
      (loaded : (sessionLoad settings incoming server).1 = z) (known : z.remoteUser = some user)
      (domain : Handle.checkCookieDomain settings.handle z = true)
      (unexpired : incoming.session.now ≤ z.getSessionExpires)
      (refreshed : refreshedSession settings incoming
        ⟨z, (sessionLoad settings incoming server).2.world, []⟩ = z') :
      Identified settings incoming server r (sessionHeaders settings incoming z')
        (sessionRecord settings user z' (sessionHeaders settings incoming z') r)
  /-- An access token that was found valid. -/
  | token {accessToken user : String} {claims : Json} (carried : incoming.bearer = some accessToken)
      (valid : (OAuth.validateToken settings.handle.codec settings.oauth
        (incoming.token accessToken) server.tokens).1 = some claims)
      (known : settings.tokenUser claims = some user) :
      Identified settings incoming server r (settings.tokenInfo claims accessToken)
        (tokenRecord settings user claims (settings.tokenInfo claims accessToken) r)
  /-- The user of the request that this one comes from. -/
  | recycled {r' : Record} (later : incoming.initial = false)
      (known : (subrequestRecycleUser incoming r).1 = true)
      (user : r'.user = (subrequestRecycleUser incoming r).2.user)
      (headers : r'.headersIn = r.headersIn) :
      Identified settings incoming server r [] r'

/-- A sub-request does not keep its own user. -/
theorem subrequestRecycleUser_user (later : incoming.initial = false) (user : Option String) :
    subrequestRecycleUser incoming { r with user } = subrequestRecycleUser incoming r := by
  cases main : incoming.main with
  | some first => simp [subrequestRecycleUser, main]
  | none =>
      cases prev : incoming.prev with
      | some first => simp [subrequestRecycleUser, main, prev]
      | none => simp [Incoming.initial, main, prev] at later

/-- The user that a request had before does not matter where another one is found. -/
theorem Identified.of_user {user : Option String} {info : List Scrub.Header} {r' : Record}
    (identified : Identified settings incoming server { r with user } info r') :
    Identified settings incoming server r info r' := by
  cases identified with
  | passed action => exact .passed action
  | preflight method without => exact .preflight method without
  | session loaded known domain unexpired refreshed =>
      exact .session loaded known domain unexpired refreshed
  | token carried valid known => exact .token carried valid known
  | recycled later known same headers =>
      rw [subrequestRecycleUser_user later] at known same
      exact .recycled later known same headers

theorem subrequestRecycleUser_record (incoming : Incoming) (r : Record) :
    ∃ user, (subrequestRecycleUser incoming r).2 = { r with user } := ⟨_, rfl⟩

theorem restoreTokens_user (incoming : Incoming) (server : Server) (r : Record) :
    (restoreTokens settings incoming server r).1.user = r.user ∧
      (restoreTokens settings incoming server r).1.headersIn = r.headersIn := by
  unfold restoreTokens
  split
  · exact ⟨rfl, rfl⟩
  · cases restored : copyTokensFromPrevRequestState incoming r with
    | none => exact ⟨rfl, rfl⟩
    | some r' =>
        unfold copyTokensFromPrevRequestState at restored
        split at restored
        · cases restored
        · split at restored
          · cases restored
          · obtain rfl := Option.some.inj restored
            exact ⟨rfl, rfl⟩

theorem checkUseridOpenidcLoad_ok (page : incoming.matchesRedirectUri = false) {outcome : Outcome}
    (result : checkUseridOpenidcLoad settings handlers incoming r server = outcome)
    (passed : outcome.verdict = some ok) (empty : outcome.record.prepared = []) :
    ∃ info, Identified settings incoming server r info outcome.record := by
  unfold checkUseridOpenidcLoad at result
  dsimp only at result
  rw [page, if_neg (by simp)] at result
  split at result
  · next present =>
      obtain ⟨user, known⟩ := Option.isSome_iff_exists.mp present
      rcases found : checkUseridExistingSession settings incoming
        ⟨(sessionLoad settings incoming server).1,
          (sessionLoad settings incoming server).2.world, []⟩
        r with ⟨status, r', x'⟩
      rw [found] at result
      subst result
      obtain rfl : status = ok := Option.some.inj passed
      rcases checkUseridExistingSession_ok known found empty with
        ⟨action, same⟩ | ⟨domain, unexpired, same⟩
      · rw [same]
        exact ⟨[], .passed action⟩
      · rw [same]
        exact ⟨_, .session rfl known domain unexpired rfl⟩
  · rcases found : handleUnauthenticatedUser settings incoming r with ⟨status, r'⟩
    rw [found] at result
    subst result
    obtain rfl : status = ok := Option.some.inj passed
    obtain ⟨action, rfl⟩ := handleUnauthenticatedUser_ok found empty
    exact ⟨[], .passed action⟩

/-- What `oidc_check_userid_openidc` lets through, unless it is for the redirect URI. -/
theorem checkUseridOpenidc_ok (page : incoming.matchesRedirectUri = false) {outcome : Outcome}
    (result : checkUseridOpenidc settings handlers incoming r server = outcome)
    (passed : outcome.verdict = some ok) (empty : outcome.record.prepared = []) :
    ∃ info, Identified settings incoming server r info outcome.record := by
  unfold checkUseridOpenidc at result
  split at result
  · subst result
    cases passed
  split at result
  · exact checkUseridOpenidcLoad_ok page result passed empty
  next later =>
  have later : incoming.initial = false := by simpa using later
  rcases recycled : subrequestRecycleUser incoming r with ⟨known, r'⟩
  rw [recycled] at result
  cases known with
  | true =>
      subst result
      obtain ⟨user, headers⟩ := @restoreTokens_user settings incoming server r'
      obtain ⟨_, same⟩ := subrequestRecycleUser_record incoming r
      rw [recycled] at same
      obtain rfl := same
      exact ⟨[], .recycled later (by rw [recycled]) (by rw [user, recycled]) headers⟩
  | false =>
      obtain ⟨_, same⟩ := subrequestRecycleUser_record incoming r
      rw [recycled] at same
      obtain rfl := same
      obtain ⟨info, identified⟩ := checkUseridOpenidcLoad_ok page result passed empty
      exact ⟨info, identified.of_user⟩

theorem oauthCheckToken_ok {accessToken : String} (carried : incoming.bearer = some accessToken)
    {outcome : Outcome} (result : oauthCheckToken settings incoming accessToken r server = outcome)
    (passed : outcome.verdict = some ok) :
    ∃ info, Identified settings incoming server r info outcome.record := by
  unfold oauthCheckToken at result
  rcases valid : OAuth.validateToken settings.handle.codec settings.oauth
    (incoming.token accessToken) server.tokens with ⟨found, tokens⟩
  rw [valid] at result
  cases found with
  | none =>
      subst result
      cases passed
  | some claims =>
      dsimp only at result
      cases known : settings.tokenUser claims with
      | none =>
          rw [known] at result
          subst result
          cases passed
      | some user =>
          rw [known] at result
          subst result
          exact ⟨_, .token carried (by rw [valid]) known⟩

theorem oauthCheckBearer_ok {accessToken : Option String}
    (carried : accessToken = none ∨ accessToken = incoming.bearer) {outcome : Outcome}
    (result : oauthCheckBearer settings incoming accessToken r server = outcome)
    (passed : outcome.verdict = some ok) :
    ∃ info, Identified settings incoming server r info outcome.record := by
  have same : (accessToken.orElse fun _ => incoming.bearer) = incoming.bearer := by
    rcases carried with rfl | rfl
    · rfl
    · cases incoming.bearer with
      | none => rfl
      | some accessToken => rfl
  rw [oauthCheckBearer, same] at result
  cases found : incoming.bearer with
  | some accessToken =>
      rw [found] at result
      exact oauthCheckToken_ok found result passed
  | none =>
      rw [found] at result
      dsimp only at result
      split at result
      · next method =>
          subst result
          exact ⟨[], .preflight method found⟩
      · subst result
        cases passed

/-- What `oidc_oauth_check_userid` lets through, unless it is for the redirect URI. -/
theorem oauthCheckUserid_ok (page : incoming.matchesRedirectUri = false)
    {accessToken : Option String} (carried : accessToken = none ∨ accessToken = incoming.bearer)
    {outcome : Outcome}
    (result : oauthCheckUserid settings handlers incoming accessToken r server = outcome)
    (passed : outcome.verdict = some ok) :
    ∃ info, Identified settings incoming server r info outcome.record := by
  unfold oauthCheckUserid oauthCheckUseridEarly at result
  cases first : incoming.initial with
  | true =>
      rw [first, page] at result
      exact oauthCheckBearer_ok carried result passed
  | false =>
      rw [first, if_pos rfl] at result
      rcases recycled : subrequestRecycleUser incoming r with ⟨known, r'⟩
      obtain ⟨user, same⟩ := subrequestRecycleUser_record incoming r
      rw [recycled] at same result
      obtain rfl := same
      cases known with
      | true =>
          obtain rfl := result
          have user := congrArg (fun result => result.2.user) recycled
          exact ⟨[], .recycled first (by rw [recycled]) user.symm rfl⟩
      | false =>
          obtain ⟨info, identified⟩ := oauthCheckBearer_ok carried result passed
          exact ⟨info, identified.of_user⟩

/-- What `oidc_check_user_id` lets through, unless it is for the redirect URI. -/
theorem checkUserId_ok (page : incoming.matchesRedirectUri = false) {outcome : Outcome}
    (result : checkUserId settings handlers incoming r server = outcome)
    (passed : outcome.verdict = some ok) (empty : outcome.record.prepared = []) :
    ∃ info, Identified settings incoming server r info outcome.record := by
  unfold checkUserId at result
  split at result
  · subst result
    cases passed
  · exact checkUseridOpenidc_ok page result passed empty
  · exact oauthCheckUserid_ok page (.inl rfl) result passed
  · unfold checkMixedUseridOauth at result
    cases carried : incoming.bearer with
    | some accessToken =>
        rw [carried] at result
        exact oauthCheckUserid_ok page (.inr carried.symm) result passed
    | none =>
        rw [carried] at result
        dsimp only at result
        split at result
        · next method =>
            subst result
            exact ⟨[], .preflight method carried⟩
        · exact checkUseridOpenidc_ok page result passed empty

end Authentication

/-! ## Authorization -/

section Authorization

variable {settings : Settings} {incoming : Incoming} {r r' : Record}

/-- What a location requires is satisfied: by the claims of the user, or without a user where the
location or the method lets requests pass. -/
def Satisfied (settings : Settings) (incoming : Incoming) (required : Option (List String))
    (r : Record) : Prop :=
  r.user = some "" ∧ (settings.unauthAction = .pass ∨ incoming.method = .options) ∨
    ∃ words ∈ required, ∃ word ∈ words,
      Authz.matchClaim settings.library (.obj (mergeClaims r)) word.toList = true

theorem authz24Worker_granted {claims : Object} {required : Option (List String)}
    (granted : authz24Worker settings claims required r = .granted) :
    ∃ words ∈ required, ∃ word ∈ words,
      Authz.matchClaim settings.library (.obj claims) word.toList = true := by
  unfold authz24Worker at granted
  split at granted
  · cases granted
  cases required with
  | none => cases granted
  | some words =>
      dsimp only at granted
      split at granted
      · next matched =>
          obtain ⟨word, listed, matches'⟩ := List.any_eq_true.mp matched
          exact ⟨words, rfl, word, (List.takeWhile_subset _) listed, matches'⟩
      · cases granted

theorem authz24UnauthorizedUser_granted
    (granted : authz24UnauthorizedUser settings incoming r = (.granted, r')) :
    r'.prepared ≠ [] := by
  unfold authz24UnauthorizedUser at granted
  split at granted
  · cases granted
  split at granted
  · cases granted
  · cases granted
  · cases granted
  · split at granted
    · cases granted
    split at granted
    · cases granted
    dsimp only at granted
    split at granted
    · next listed =>
        cases granted
        exact List.ne_nil_of_mem listed.1
    · cases granted

/-- Where nothing is prepared for the content handler, what is required is satisfied, and the
request goes on as it was. -/
theorem authz24Checker_granted {required : Option (List String)}
    (granted : authz24Checker settings incoming required r = (.granted, r'))
    (empty : r'.prepared = []) : r' = r ∧ Satisfied settings incoming required r := by
  unfold authz24Checker at granted
  split at granted
  · next lets =>
      cases granted
      refine ⟨rfl, .inl ⟨lets.1, ?_⟩⟩
      rcases lets.2 with action | skip | method
      · exact .inl action
      · exact absurd empty (of_decide_eq_true skip)
      · exact .inr method
  · cases worker : authz24Worker settings (mergeClaims r) required r with
    | granted =>
        rw [worker] at granted
        cases granted
        exact ⟨rfl, .inr (authz24Worker_granted worker)⟩
    | deniedNoUser =>
        rw [worker] at granted
        cases granted
    | denied =>
        rw [worker] at granted
        dsimp only at granted
        split at granted
        · exact absurd empty (authz24UnauthorizedUser_granted granted)
        · cases granted

/-- The claim that counts for a name: that of the id_token before that of the userinfo endpoint, and
the scope of the token response where neither has one. -/
def effectiveClaim (r : Record) (name : String) : Option Json :=
  ((((r.idToken.map OAuth.members).getD []).get name).or
    (((r.claims.map OAuth.members).getD []).get name)).or
      (if name = "scope" then r.scope.map .str else none)

theorem get_mergeClaims (idToken : Object.Distinct ((r.idToken.map OAuth.members).getD []))
    (claims : Object.Distinct ((r.claims.map OAuth.members).getD [])) (name : String) :
    (mergeClaims r).get name = effectiveClaim r name := by
  rw [mergeClaims, Object.get_merge idToken, Object.get_merge claims, effectiveClaim,
    Option.or_assoc]
  cases scope : r.scope with
  | none => simp
  | some scope => simp [Object.get_set]

theorem distinct_mergeClaims (r : Record) : Object.Distinct (mergeClaims r) := by
  apply Object.Distinct.merge
  apply Object.Distinct.merge
  cases r.scope with
  | none => exact List.nodup_nil
  | some scope => exact @Object.Distinct.set [] List.nodup_nil "scope" (.str scope)

/-- A server that asks an authorization server about access tokens. -/
def tokenSettings : Settings where
  scrub := ⟨Scrub.defaultClaimPrefix, [], none⟩
  handle := Handle.Settings.bare ⟨fun _ => none, fun _ => none, fun _ => none, fun _ => none⟩
  oauth := { introspectionEndpoint := true, jwtParse := fun _ => none }
  tokenUser := fun claims => (OAuth.members claims).getString "sub"
  tokenInfo := fun claims _ =>
    (((OAuth.members claims).getString "sub").map fun sub =>
      (⟨Scrub.defaultClaimPrefix ++ bytes "sub", bytes sub⟩ : Scrub.Header)).toList
  library := Authz.plainLibrary

/-- A location is granted to a user if and only if one of the words of what it requires, up to the
first empty one, begins with the name of a claim that counts and goes on with what matches this
claim. -/
theorem authz24Worker_iff (settings : Settings) (required : Option (List String)) (r : Record)
    (idToken : Object.Distinct ((r.idToken.map OAuth.members).getD []))
    (claims : Object.Distinct ((r.claims.map OAuth.members).getD [])) :
    authz24Worker settings (mergeClaims r) required r = .granted ↔
      r.user.isSome = true ∧ ∃ words ∈ required, ∃ word ∈ words.takeWhile (· ≠ ""),
        ∃ name claim rest, effectiveClaim r name = some claim ∧
          word.toList = name.toList ++ rest ∧ Authz.RestMatches settings.library rest claim := by
  have path (spec : List Char) :
      Authz.matchClaim settings.library (.obj (mergeClaims r)) spec = true ↔
      ∃ name claim rest, effectiveClaim r name = some claim ∧ spec = name.toList ++ rest ∧
        Authz.RestMatches settings.library rest claim := by
    rw [Authz.matchClaim, Authz.matchMembers_path]
    constructor
    · intro found
      cases found with
      | @member name claim rest _ listed behind =>
          refine ⟨name, claim, rest, ?_, rfl, behind⟩
          rw [← get_mergeClaims idToken claims]
          exact Object.get_of_mem (distinct_mergeClaims r) listed
    · rintro ⟨name, claim, rest, counts, rfl, behind⟩
      rw [← get_mergeClaims idToken claims] at counts
      exact .member ((Object.get_eq_some_iff (distinct_mergeClaims r)).mp counts) behind
  unfold authz24Worker
  cases user : r.user with
  | none => simp
  | some user =>
      cases required with
      | none => simp
      | some words =>
          have any : ((words.takeWhile (· ≠ "")).any fun word =>
              Authz.matchClaim settings.library (.obj (mergeClaims r)) word.toList) = true ↔
              ∃ word ∈ words.takeWhile (· ≠ ""), ∃ name claim rest,
                effectiveClaim r name = some claim ∧ word.toList = name.toList ++ rest ∧
                  Authz.RestMatches settings.library rest claim := by
            rw [List.any_eq_true]
            exact exists_congr fun word => and_congr_right fun _ => path word.toList
          dsimp only
          rw [if_neg (by simp)]
          constructor
          · intro granted
            split at granted
            · next matched => exact ⟨rfl, words, rfl, any.mp matched⟩
            · cases granted
          · rintro ⟨-, others, same, found⟩
            obtain rfl := Option.some.inj same
            rw [if_pos (any.mpr found)]

/-- A user whose id_token and whose userinfo endpoint disagree. -/
def disputedRecord : Record where
  user := some "alice"
  idToken := some (.obj [("sub", .str "alice")])
  claims := some (.obj [("sub", .str "bob"), ("email", .str "a")])

theorem authz24Worker_iff_disputed : disputedRecord.user.isSome = true ∧
    ∃ words ∈ some ["sub:bob", "email:a"], ∃ word ∈ words.takeWhile (· ≠ ""), ∃ name claim rest,
      effectiveClaim disputedRecord name = some claim ∧ word.toList = name.toList ++ rest ∧
        Authz.RestMatches tokenSettings.library rest claim :=
  (authz24Worker_iff tokenSettings (some ["sub:bob", "email:a"]) disputedRecord (by decide)
    (by decide)).mp (by decide +kernel)

end Authorization

/-! ## The application -/

section Application

variable {settings : Settings} {handlers : Handlers} {incoming : Incoming} {server : Server}
  {required : Option (List String)} {r r' : Record}

/-- The content handler declines pages only for which nothing is prepared. -/
theorem contentHandler_declined (enabled : incoming.moduleType.isSome = true)
    (declined : contentHandler incoming r = none) :
    incoming.matchesRedirectUri = false ∧ r.prepared = [] := by
  unfold contentHandler at declined
  split at declined
  · cases declined
  split at declined
  · next disabled =>
      rw [Option.isNone_iff_eq_none] at disabled
      rw [disabled] at enabled
      cases enabled
  split at declined
  · cases declined
  next page =>
  split at declined
  · cases declined
  next discovery =>
  split at declined
  · cases declined
  next authnPost =>
  split at declined
  · cases declined
  next authnPreserve =>
  split at declined
  · cases declined
  next http =>
  split at declined
  · cases declined
  next html =>
  refine ⟨by simpa using page, List.eq_nil_iff_forall_not_mem.mpr fun kind => ?_⟩
  cases kind with
  | discovery => exact discovery
  | authnPost => exact authnPost
  | authnPreserve => exact authnPreserve
  | http => exact http
  | html => exact html

theorem application_admitted
    (admitted : application settings handlers incoming required r server = some r') :
    (∃ info, Identified settings incoming server r info r') ∧
      Satisfied settings incoming required r' := by
  unfold application at admitted
  dsimp only at admitted
  split at admitted
  · next passed =>
      rcases checked : authz24Checker settings incoming required
        (checkUserId settings handlers incoming r server).record with ⟨status, r''⟩
      rw [checked] at admitted
      cases status with
      | denied => cases admitted
      | deniedNoUser => cases admitted
      | granted =>
          dsimp only at admitted
          split at admitted
          · next declined =>
              obtain rfl := Option.some.inj admitted
              have enabled : incoming.moduleType.isSome = true := by
                cases kind : incoming.moduleType with
                | some _ => rfl
                | none =>
                    rw [checkUserId, kind] at passed
                    cases passed
              obtain ⟨page, empty⟩ :=
                contentHandler_declined enabled (Option.isNone_iff_eq_none.mp declined)
              obtain ⟨rfl, satisfied⟩ := authz24Checker_granted checked empty
              exact ⟨checkUserId_ok page rfl passed empty, satisfied⟩
          · cases admitted
  · cases admitted

/-- A request with a token of `alice`. -/
def tokenIncoming : Incoming where
  authType := some "oauth20"
  bearer := some "t"
  session := { cookies := none, now := 1000000 }
  page :=
    { grant := { tokenEndpoint := none }
      userinfo :=
        { first := { endpoint := none }
          grant := { tokenEndpoint := none }
          second := { endpoint := none } } }
  token := fun accessToken =>
    { accessToken
      now := 1000000
      now_pos := le_refl _
      introspection := some [("active", .bool true), ("sub", .str "alice")] }

/-- It claims to come from `root`. -/
def forgedRecord : Record where
  headersIn := [⟨Scrub.defaultClaimPrefix ++ bytes "sub", bytes "root"⟩]

/-- Nothing is stored yet. -/
def emptyServer : Server := ⟨{ caches := ⟨fun _ => none, fun _ => none⟩ }, fun _ => none⟩

theorem tokenIncoming_admitted : ∃ r', application tokenSettings
      (fun _ _ _ r server => ⟨none, r, server⟩) tokenIncoming (some ["sub:alice"]) forgedRecord
      emptyServer = some r' ∧ r'.user = some "alice" ∧
    r'.headersIn = [⟨Scrub.defaultClaimPrefix ++ bytes "sub", bytes "alice"⟩] := by
  have found : (application tokenSettings (fun _ _ _ r server => ⟨none, r, server⟩) tokenIncoming
      (some ["sub:alice"]) forgedRecord emptyServer).map (fun r' => (r'.user, r'.headersIn)) =
      some (some "alice", [⟨Scrub.defaultClaimPrefix ++ bytes "sub", bytes "alice"⟩]) := by
    decide +kernel
  obtain ⟨r', admitted, same⟩ := Option.map_eq_some_iff.mp found
  exact ⟨r', admitted, (Prod.ext_iff.mp same).1, (Prod.ext_iff.mp same).2⟩

/-- The header that stands for a user, and others. -/
def userHeaders (settings : Settings) (user : Option String) : List Scrub.Header :=
  match user, settings.scrub.authnHeader with
  | some user, some name => [⟨name, bytes user⟩]
  | _, _ => []

theorem passHeaders_mem {info : List Scrub.Header} {header : Scrub.Header}
    (member : header ∈ (passHeaders settings r info).headersIn) :
    header ∈ r.headersIn ∨ ∃ set ∈ userHeaders settings r.user ++ info,
      sameName header set = true ∧ header.value = set.value :=
  mem_foldl_hdrInSet member

/-- Unless a request comes from another one, each of its headers that begins like those of the
module has a name and a value that the module has set for the user. -/
theorem Identified.headers {info : List Scrub.Header} (first : incoming.initial = true)
    (identified : Identified settings incoming server r info r') {header : Scrub.Header}
    (member : header ∈ r'.headersIn) (begins : Scrub.Prefixed settings.scrub header.name) :
    ∃ set ∈ userHeaders settings r'.user ++ info,
      sameName header set = true ∧ header.value = set.value := by
  cases identified with
  | passed action => exact absurd begins (not_prefixed_of_mem member)
  | preflight method without => exact absurd begins (not_prefixed_of_mem member)
  | session loaded known domain unexpired refreshed =>
      rcases passHeaders_mem member with old | set
      · exact absurd begins (not_prefixed_of_mem old)
      · exact set
  | token carried valid known =>
      rcases passHeaders_mem member with old | set
      · exact absurd begins (not_prefixed_of_mem old)
      · exact set
  | recycled later known same headers => exact absurd (first.symm.trans later) (by simp)

end Application

end Access

end ModAuthOpenidc
