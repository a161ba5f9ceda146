import ModAuthOpenidc.Session.RoundTrip
import ModAuthOpenidc.Handle.LogoutIndex

/-!
# The inactivity timeout

Every page moves the expiry of its session, but not always: a save is spared as long as the expiry
has not slipped by more than a tenth of the timeout. What is stored stays close to the time of the
last page all the same.
-/

namespace ModAuthOpenidc

namespace Handle

open Proto Session Http

/-! ## What a page does to the expiry -/

/-- By how much the expiry may slip before it is moved. -/
def inactivitySlack (settings : Settings) : Int :=
    min (inactivityInterval settings / 10) (60 * 1000000)

/-- The members of a session that a page may write before the session is saved. -/
def pageKeys : List String :=
  ["at", "att", "ate", "atlr", "rt", "scp", "idt", "idc", "se", "uic", "uij", "uilr", "sn"]

section Page

variable {settings : Settings} {loc : Location} {request : Session.Request} {x x' : Exchange}

theorem refreshTokenGrant_page {provider : Provider} {answers : GrantAnswers} {succeeded : Bool}
    (ran : refreshTokenGrant settings request provider answers x = (succeeded, x')) :
    Writes pageKeys x.session x'.session := by
  cases succeeded with
  | false =>
      obtain ⟨writes, -, rfl⟩ := refreshTokenGrant_false ran
      exact .refl _ _
  | true => exact (refreshTokenGrant_frame ran).2.2.mono (by decide)

theorem refreshAccessTokenBeforeExpiry_page {answers : GrantAnswers} {minimum : Int}
    {needsSave flag succeeded : Bool}
    (ran : refreshAccessTokenBeforeExpiry settings request answers minimum needsSave x =
      (succeeded, flag, x')) : Writes pageKeys x.session x'.session := by
  unfold refreshAccessTokenBeforeExpiry at ran
  split at ran
  · cases ran
    exact .refl _ _
  split at ran
  · cases ran
    exact .refl _ _
  split at ran
  · cases ran
    exact .refl _ _
  split at ran
  · cases ran
    exact .refl _ _
  split at ran
  · cases ran
    exact .refl _ _
  split at ran
  · next granted =>
      cases ran
      exact refreshTokenGrant_page granted
  · next granted =>
      cases ran
      exact refreshTokenGrant_page granted

theorem userinfoRetrieveClaims_page {provider : Provider} {answers : RetrievalAnswers}
    {reply : UserinfoReply}
    (ran : userinfoRetrieveClaims settings request provider answers x = (reply, x')) :
    Writes pageKeys x.session x'.session := by
  unfold userinfoRetrieveClaims at ran
  split at ran
  · dsimp only at ran
    split at ran
    · cases ran
      exact .refl _ _
    split at ran
    · next granted =>
        cases ran
        exact refreshTokenGrant_page granted
    · next granted =>
        cases ran
        exact refreshTokenGrant_page granted
  · cases ran
    exact .refl _ _

theorem userinfoRefreshClaims_page {answers : RetrievalAnswers} {needsSave flag succeeded : Bool}
    (ran : userinfoRefreshClaims settings request answers needsSave x = (succeeded, flag, x')) :
    Writes pageKeys x.session x'.session := by
  unfold userinfoRefreshClaims at ran
  split at ran
  · cases ran
    exact .refl _ _
  split at ran
  · cases ran
    exact .refl _ _
  split at ran
  · cases ran
    exact .refl _ _
  split at ran
  · cases ran
    exact .refl _ _
  · next provider _ _ _ =>
      rcases retrieved : userinfoRetrieveClaims settings request provider answers x with ⟨reply, y⟩
      rw [retrieved] at ran
      have fetched := userinfoRetrieveClaims_page retrieved
      have stored : Writes pageKeys y.session
        (y.storeUserinfo settings request provider reply).session :=
        (userinfoStoreClaims_writes ..).mono (by decide)
      dsimp only at ran
      split at ran <;> cases ran <;> exact fetched.trans stored

theorem refreshExistingSession_page {answers : PageAnswers} {flag : Bool}
    (ran : refreshExistingSession settings loc request answers false x = (none, flag, x')) :
    Writes pageKeys x.session x'.session := by
  unfold refreshExistingSession at ran
  split at ran
  · cases ran
  · next refreshed =>
      split at ran
      · cases ran
      · next fetched =>
          cases ran
          exact (refreshAccessTokenBeforeExpiry_page refreshed).trans
            (userinfoRefreshClaims_page fetched)

/-- A refresh that fails does not let the page through unless it has ended the session. -/
theorem refreshExistingSession_failed {answers : PageAnswers} {flag : Bool} {status : Status}
    (ran : refreshExistingSession settings loc request answers false x = (some status, flag, x'))
    (passed : status = ok) : x'.session.state = none := by
  have killed {action : OnErrorAction} {y : Exchange}
      (handled : handleSessionRefreshError settings loc request action y = (status, x')) :
      x'.session.state = none := by
    cases action with
    | badGateway =>
        cases handled
        cases passed
    | logout =>
        cases handled
        exact kill_state settings.codec settings.session request y.world y.session
    | auth =>
        cases handled
        exact kill_state settings.codec settings.session request y.world y.session
  unfold refreshExistingSession at ran
  split at ran
  · cases ran
    exact killed rfl
  · split at ran
    · cases ran
      exact killed rfl
    · cases ran

/-- A page that is let through with its session moves the expiry at the end. -/
theorem handleExistingSession_page {answers : PageAnswers} {needsSave : Bool}
    (ran : handleExistingSession settings loc request true answers x = (ok, needsSave, x'))
    (alive : x'.session.state ≠ none) :
    ∃ needed y, Writes pageKeys x.session y ∧
      sessionPassTokens settings request true needed y = (needsSave, x'.session) := by
  unfold handleExistingSession at ran
  split at ran
  · cases ran
  split at ran
  · have ended := congrArg (fun outcome => outcome.2.2.session.state) ran
    exact absurd (ended.symm.trans
      (kill_state settings.codec settings.session request x.world x.session))
      alive
  · rcases refreshed : refreshExistingSession settings loc request answers false x with
      ⟨failure, needed, y⟩
    simp only [if_true, refreshed] at ran
    cases failure with
    | some status =>
        cases ran
        exact absurd (refreshExistingSession_failed refreshed rfl) alive
    | none =>
        cases ran
        exact ⟨needed, y.session, refreshExistingSession_page refreshed, rfl⟩

end Page

/-! ## What is stored -/

/-- What is stored of a session: its state, and when the cache entry or the cookie expires. -/
structure StoredSession where
  state : Object
  expires : Int

/-- The expiry that is read back. -/
def StoredSession.expiry (kept : StoredSession) : Int := key2timestamp kept.state "e"

/-- A session as a save leaves it. -/
def StoredSession.ofSession (z : ModAuthOpenidc.Session) : StoredSession :=
    ⟨z.state.getD [], z.expiry⟩

/-- What is stored after a page has been let through. -/
def storedAfter (settings : Settings) (loc : Location) (request : Session.Request)
    (answers : PageAnswers)
    (x : Exchange) (before : StoredSession) : StoredSession :=
  if (handleExistingSession settings loc request true answers x).2.1 then
    .ofSession (checkUseridExistingSession settings loc request answers x).2.session
  else before

/-- The last `apr_time_t` that can be stored in whole seconds. -/
def lastSecond : Int := (2 ^ 63 - 1) / 1000000 * 1000000

/-- A session from its login on, with the time of the last page and what is stored then. Every page
loads what the last one left, and is let through with the session still there. -/
inductive PageRun (settings : Settings) : Int → StoredSession → Prop
  | login {request : Session.Request} {provider : Provider} {protoState : Object}
      {login : LoginData}
      {prior z : ModAuthOpenidc.Session} {world world' : World}
      (clock : request.now + inactivityInterval settings < lastSecond)
      (saved : Session.save settings.codec settings.session request world
        (loginSession settings request provider protoState login prior) true = (world', z, true)) :
      PageRun settings request.now (.ofSession z)
  | page {now : Int} {kept : StoredSession} {loc : Location} {request : Session.Request}
      {answers : PageAnswers} {world world' : World} {z : ModAuthOpenidc.Session} {x : Exchange}
      (run : PageRun settings now kept) (later : now ≤ request.now)
      (clock : request.now + inactivityInterval settings < lastSecond)
      (loaded : Session.load settings.codec settings.session request world = (world', z, true))
      (same : z.state = some kept.state)
      (passed : checkUseridExistingSession settings loc request answers ⟨z, world', []⟩ = (ok, x))
      (alive : x.session.state ≠ none) :
      PageRun settings request.now (storedAfter settings loc request answers ⟨z, world', []⟩ kept)

/-- How much earlier than a timeout after the last page a session may expire. -/
def grace (settings : Settings) : Int := max (inactivitySlack settings) 1000000

/-- What is stored expires in time. -/
structure Timely (settings : Settings) (now : Int) (kept : StoredSession) : Prop where
  early : now + inactivityInterval settings - grace settings ≤ kept.expiry
  late : kept.expiry ≤ now + inactivityInterval settings
  lasting : kept.expiry ≤ kept.expires
  whole : kept.expiry % 1000000 = 0

section Stored

variable {settings : Settings}

/-- A time in whole seconds is read back as it was stored. -/
theorem expiry_ofSession {z : ModAuthOpenidc.Session} {state : Object} (held : z.state = some state)
    (stored : state.get "e" = some (.int (z.expiry / 1000000))) (positive : 0 ≤ z.expiry)
    (clock : z.expiry < lastSecond) :
    (StoredSession.ofSession z).expiry = z.expiry / 1000000 * 1000000 := by
  have seconds : -1 < z.expiry / 1000000 := by omega
  rw [StoredSession.expiry, StoredSession.ofSession, held, Option.getD_some, key2timestamp,
    Object.getInt64, stored]
  dsimp only
  rw [if_pos seconds, aprTimeFromSec]
  rw [lastSecond] at clock
  split
  · omega
  split
  · omega
  · rfl

/-- A save that succeeds stores the expiry in whole seconds. -/
theorem saved_expiry {request : Session.Request} {world world' : World}
    {z z' : ModAuthOpenidc.Session}
    {firstTime : Bool} {state : Object} (held : z.state = some state) (positive : 0 ≤ z.expiry)
    (clock : z.expiry < lastSecond)
    (saved : Session.save settings.codec settings.session request world z firstTime =
    (world', z', true)) :
    (StoredSession.ofSession z').expiry = z.expiry / 1000000 * 1000000 ∧
    (StoredSession.ofSession z').expires = z.expiry := by
  obtain ⟨text, outcome, stamped⟩ :=
    save_stamped settings.codec settings.session request world z firstTime held
  rw [saved] at outcome
  dsimp only at outcome
  subst outcome
  have stored := stamped "e" (by decide) (by decide)
  rw [get_stamp_expiry, if_neg (by omega)] at stored
  exact ⟨expiry_ofSession rfl stored positive clock, rfl⟩

/-- What a page leaves of the expiry. -/
theorem sessionPassTokens_expiry {request : Session.Request} {needed needsSave : Bool}
    {y z : ModAuthOpenidc.Session}
    (ran : sessionPassTokens settings request true needed y = (needsSave, z)) :
    (z.expiry = request.now + inactivityInterval settings ∧ needsSave = true ∨
      z.expiry = y.expiry ∧
        inactivityInterval settings - inactivitySlack settings ≤ y.expiry - request.now) ∧
      z.jsonGet "e" = y.jsonGet "e" := by
  have closed {flag : Bool} {w : ModAuthOpenidc.Session}
      (last : (if w.getSessionNew then (true, w.setSessionNew false) else (flag, w)) =
      (needsSave, z)) :
      z.expiry = w.expiry ∧ (flag = true → needsSave = true) ∧ z.jsonGet "e" = w.jsonGet "e" := by
    have renewed : Writes pageKeys w (w.setSessionNew false) :=
      (Writes.refl pageKeys w).setSessionNew false
    split at last
    · cases last
      refine ⟨by rw [renewed.same], fun _ => rfl, renewed.frame "e" (by decide)⟩
    · cases last
      exact ⟨rfl, id, rfl⟩
  unfold sessionPassTokens at ran
  by_cases slipped : y.expiry - request.now <
      inactivityInterval settings - min (inactivityInterval settings / 10) (60 * 1000000)
  · simp only [Bool.true_and, slipped, decide_true, if_true] at ran
    obtain ⟨expiry, flagged, same⟩ := closed ran
    exact ⟨.inl ⟨expiry, flagged rfl⟩, same⟩
  · simp only [Bool.true_and, slipped, decide_false, Bool.false_eq_true, if_false] at ran
    obtain ⟨expiry, -, same⟩ := closed ran
    exact ⟨.inr ⟨expiry, Int.not_lt.mp slipped⟩, same⟩

/-- The session of a page that is let through: its expiry, and whether it is saved. -/
structure PageOutcome (settings : Settings) (request : Session.Request)
    (z w saved : ModAuthOpenidc.Session)
    (needsSave : Bool) : Prop where
  expiry : w.expiry = request.now + inactivityInterval settings ∧ needsSave = true ∨
    w.expiry = z.expiry ∧
        inactivityInterval settings - inactivitySlack settings ≤ z.expiry - request.now
  held : w.state ≠ none
  saved : needsSave = true → ∃ world world',
    Session.save settings.codec settings.session request world w false = (world', saved, true)

theorem checkUserid_outcome {loc : Location} {request : Session.Request} {answers : PageAnswers}
    {x x' : Exchange} (passed :
    checkUseridExistingSession settings loc request answers x = (ok, x'))
    (alive : x'.session.state ≠ none) :
    ∃ w, PageOutcome settings request x.session w x'.session
      (handleExistingSession settings loc request true answers x).2.1 := by
  rcases ran : handleExistingSession settings loc request true answers x with ⟨status, needsSave, y⟩
  have outcome (reached : status = ok) (held : y.session.state ≠ none)
      (saved : needsSave = true → ∃ world world',
        Session.save settings.codec settings.session request world y.session false =
          (world', x'.session, true)) :
      ∃ w, PageOutcome settings request x.session w x'.session needsSave := by
    rw [reached] at ran
    obtain ⟨needed, z, writes, closed⟩ := handleExistingSession_page ran held
    obtain ⟨expiry, -⟩ := sessionPassTokens_expiry closed
    rw [writes.same] at expiry
    exact ⟨y.session, expiry, held, saved⟩
  unfold checkUseridExistingSession at passed
  rw [ran] at passed
  dsimp only at passed
  split at passed
  · next written =>
      have saving : Session.save settings.codec settings.session request y.world y.session false =
          ((y.save settings request).2.world, (y.save settings request).2.session,
            (y.save settings request).1) := rfl
      have held : (y.save settings request).2.session.state ≠ none → y.session.state ≠ none :=
        fun left empty => left
          (save_empty settings.codec settings.session request y.world false empty)
      rcases stored : y.save settings request with ⟨succeeded, final⟩
      rw [stored] at passed saving held
      cases succeeded with
      | false => cases passed
      | true =>
          cases passed
          exact outcome written.1 (held alive) fun _ => ⟨_, _, saving⟩
  · next unwritten =>
      cases passed
      exact outcome rfl alive fun needed => absurd ⟨rfl, needed⟩ unwritten

/-- A page keeps what is stored on time. -/
theorem Timely.page {now : Int} {kept : StoredSession} {loc : Location} {request : Session.Request}
    {answers : PageAnswers} {world world' : World} {z : ModAuthOpenidc.Session} {x : Exchange}
    (timely : Timely settings now kept) (nonneg : 0 ≤ inactivityInterval settings)
    (later : now ≤ request.now) (clock : request.now + inactivityInterval settings < lastSecond)
    (loaded : Session.load settings.codec settings.session request world = (world', z, true))
    (same : z.state = some kept.state)
    (passed : checkUseridExistingSession settings loc request answers ⟨z, world', []⟩ = (ok, x))
    (alive : x.session.state ≠ none) :
    Timely settings request.now
        (storedAfter settings loc request answers ⟨z, world', []⟩ kept) := by
  obtain ⟨early, late, lasting, whole⟩ := timely
  obtain ⟨state, held, read, current⟩ := load_held loaded
  cases held.symm.trans same
  rw [← StoredSession.expiry] at read
  have positive := request.now_nonneg
  have slackGrace : inactivitySlack settings ≤ grace settings := le_max_left _ _
  have secondGrace : 1000000 ≤ grace settings := le_max_right _ _
  obtain ⟨w, expiry, alive', saved⟩ := checkUserid_outcome passed alive
  unfold storedAfter
  rw [passed]
  cases needed : (handleExistingSession settings loc request true answers ⟨z, world', []⟩).2.1 with
  | false =>
      rw [needed] at expiry
      rw [if_neg Bool.false_ne_true]
      rcases expiry with ⟨-, flagged⟩ | ⟨-, near⟩
      · cases flagged
      · dsimp only at near
        exact ⟨by omega, by omega, lasting, whole⟩
  | true =>
      obtain ⟨before, after, ran⟩ := saved needed
      obtain ⟨state, held⟩ := Option.ne_none_iff_exists'.mp alive'
      dsimp only at expiry
      have bounded : 0 ≤ w.expiry ∧ w.expiry < lastSecond := by
        rcases expiry with ⟨moved, -⟩ | ⟨kept, -⟩ <;> omega
      obtain ⟨stored, expires⟩ := saved_expiry held bounded.1 bounded.2 ran
      rw [if_pos rfl]
      dsimp only
      rcases expiry with ⟨moved, -⟩ | ⟨unmoved, near⟩
      · refine ⟨?_, ?_, ?_, ?_⟩ <;> omega
      · refine ⟨?_, ?_, ?_, ?_⟩ <;> omega

theorem PageRun.timely {now : Int} {kept : StoredSession} (run : PageRun settings now kept)
    (nonneg : 0 ≤ inactivityInterval settings) : Timely settings now kept := by
  induction run with
  | @login request provider protoState login prior z world world' clock saved =>
      obtain ⟨state, shape, -, -⟩ :=
        loginSession_keys settings request provider protoState login prior
      have positive := request.now_nonneg
      rw [shape, ← inactivityInterval] at saved
      have held : 0 ≤ request.now + inactivityInterval settings := by omega
      obtain ⟨stored, expires⟩ := saved_expiry rfl held clock saved
      have secondGrace : 1000000 ≤ grace settings := le_max_right _ _
      dsimp only at stored expires
      exact ⟨by omega, by omega, by omega, by omega⟩
  | page run later clock loaded same passed alive ih =>
      exact ih.page nonneg later clock loaded same passed alive

/-! ## Who still finds the session -/

/-- What is stored of a session is where a request looks for it: under the identifier in its cookie,
or in its cookies, possibly because the cache did not take it. -/
inductive FoundAt (settings : Settings) (kept : StoredSession) (request : Session.Request)
    (world : World) : Prop
  | cache {uuid text : String} (kind : settings.session.sessionType = .serverCache)
      (returns : Returns settings.codec settings.session uuid request)
      (entry : world.caches.session uuid = some (text, kept.expires))
      (decoded : decode settings.codec settings.session text false = some kept.state)
      (own : kept.state.getString "i" = some uuid)
  | cookie {text : String} (kind : settings.session.sessionType = .clientCookie)
      (carried : getChunkedCookie request.cookies settings.session.cookieName
        settings.session.cookieChunkSize = some text)
      (decoded : decode settings.codec settings.session text true = some kept.state)
  | fallback {text : String} {z : ModAuthOpenidc.Session} {world' : World}
      (kind : settings.session.sessionType = .serverCache)
      (fallback : settings.session.fallbackToCookie = true)
      (missing : loadCache settings.codec settings.session request world
      { uuid := some request.freshId } =
        (world', z, false))
      (carried : getChunkedCookie request.cookies settings.session.cookieName
        settings.session.cookieChunkSize = some text)
      (decoded : decode settings.codec settings.session text true = some kept.state)

/-- What the cookies hold is checked. -/
theorem load_cookie {request : Session.Request} {world world' : World} {z : ModAuthOpenidc.Session}
    {text : String} {state : Object}
    (reached : settings.session.sessionType = .clientCookie ∧ world' = world ∧
        z = { uuid := some request.freshId } ∨
      settings.session.sessionType = .serverCache ∧ settings.session.fallbackToCookie = true ∧
        loadCache settings.codec settings.session request world { uuid := some request.freshId } =
          (world', z, false))
    (carried : getChunkedCookie request.cookies settings.session.cookieName
      settings.session.cookieChunkSize = some text)
    (decoded : decode settings.codec settings.session text true = some state) :
    Session.load settings.codec settings.session request world =
      extract settings.codec settings.session request world' { z with state := some state } := by
  rcases reached with ⟨kind, rfl, rfl⟩ | ⟨kind, fallback, missing⟩
  · simp only [Session.load, kind, loadCookie, carried, decoded, true_or, if_true]
  · simp only [Session.load, kind, missing, fallback, loadCookie, carried, decoded,
      and_self, or_true,
      if_true]

/-- A request that looks for a session where it is stored gets to check it, or finds that the cache
has dropped it. -/
theorem FoundAt.reached {kept : StoredSession} {request : Session.Request} {world : World}
    (stored : FoundAt settings kept request world) :
    (∃ world' z, z.state = some kept.state ∧
      Session.load settings.codec settings.session request world =
        extract settings.codec settings.session request world' z) ∨
    kept.expires ≤ request.now ∧ (kept.expiry < request.now →
      Nothing (Session.load settings.codec settings.session request world)) := by
  cases stored with
  | @cache uuid text kind returns held decoded own =>
      by_cases entry : request.now < kept.expires
      · have found : ExpiringMap.live request.now (world.caches.session uuid) = some text := by
          simp [held, ExpiringMap.live, entry]
        exact .inl ⟨world, _, rfl, load_found kind
          (loadCache_found returns.answers returns.carried found decoded own _)⟩
      · exact .inr ⟨Int.not_lt.mp entry, fun late =>
          (load_expired kind returns.answers returns.noCookie
          returns.carried held decoded own late).1⟩
  | cookie kind carried decoded =>
      exact .inl ⟨world, _, rfl, load_cookie (.inl ⟨kind, rfl, rfl⟩) carried decoded⟩
  | fallback kind fallback missing carried decoded =>
      exact .inl ⟨_, _, rfl, load_cookie (.inr ⟨kind, fallback, missing⟩) carried decoded⟩

/-- A session whose expiry has not passed is loaded, unless its claims are corrupt. -/
theorem FoundAt.loaded {kept : StoredSession} {request : Session.Request} {world : World}
    (stored : FoundAt settings kept request world) (live : request.now ≤ kept.expiry)
    (entry : request.now < kept.expires) (intact : claimsIntact kept.state = true) :
    ∃ world', Session.load settings.codec settings.session request world =
      (world', restored kept.state, true) := by
  rcases stored.reached with ⟨world', z, held, reached⟩ | ⟨dropped, -⟩
  · exact ⟨world', reached.trans
      (extract_restored settings.codec settings.session request world' held intact live)⟩
  · exact absurd entry (Int.not_lt.mpr dropped)

/-- A session whose expiry has passed is not loaded. -/
theorem FoundAt.rejected {kept : StoredSession} {request : Session.Request} {world : World}
    (stored : FoundAt settings kept request world) (late : kept.expiry < request.now) :
    Nothing (Session.load settings.codec settings.session request world) := by
  rcases stored.reached with ⟨world', z, held, reached⟩ | ⟨-, nothing⟩
  · obtain ⟨expiry, killed⟩ :=
      extract_expired settings.codec settings.session request world' z held late
    rw [reached, killed]
    exact ⟨rfl, rfl, rfl⟩
  · exact nothing late

end Stored

/-- The stored expiry stays within the grace of a timeout after the last page. Until then the
session is loaded, and when the timeout has gone by it is not. -/
theorem run_expiry {settings : Settings} {now : Int} {kept : StoredSession}
    (nonneg : 0 ≤ inactivityInterval settings) (run : PageRun settings now kept) :
    (now + inactivityInterval settings -
        max (min (inactivityInterval settings / 10) (60 * 1000000)) 1000000 ≤ kept.expiry ∧
      kept.expiry ≤ now + inactivityInterval settings) ∧
    ∀ request world, FoundAt settings kept request world →
      (request.now < now + inactivityInterval settings -
          max (min (inactivityInterval settings / 10) (60 * 1000000)) 1000000 →
        claimsIntact kept.state = true →
          ∃ world', Session.load settings.codec settings.session request world =
            (world', restored kept.state, true)) ∧
      (now + inactivityInterval settings < request.now →
        Nothing (Session.load settings.codec settings.session request world)) := by
  obtain ⟨early, late, lasting, -⟩ := run.timely nonneg
  rw [grace, inactivitySlack] at early
  refine ⟨⟨early, late⟩, fun request world stored => ⟨fun soon intact => ?_, fun idle => ?_⟩⟩
  · exact stored.loaded (by omega) (by omega) intact
  · exact stored.rejected (by omega)

/-! ## A session with one page -/

/-- The request of the login and the page of the example. -/
def idleRequest (seconds : Nat) : Session.Request where
  cookies := some "mod_auth_openidc_session=id"
  now := seconds * 1000000
  now_nonneg := seconds_nonneg seconds
  freshId := "id"

/-- Settings with a timeout of five minutes. -/
def idleSettings (table : List (Object × String)) : Settings :=
    Settings.bare (Session.Codec.ofTable table)

/-- The session that the login saves at second 1000. -/
def idleLogin : ModAuthOpenidc.Session :=
  loginSession (idleSettings []) (idleRequest 1000) Host.userProvider [] Host.userLogin {}

/-- Its state in the cache. -/
def idleState : Object := savedState idleLogin (idleLogin.state.getD [])

/-- The session that the page saves a hundred seconds later. -/
def idlePage : ModAuthOpenidc.Session :=
  (sessionPassTokens (idleSettings []) (idleRequest 1100) true false (restored idleState)).2

/-- A server for the two states. -/
def idleServer : Settings :=
  idleSettings [(idleState, "login"), (savedState idlePage (idlePage.state.getD []), "page")]

/-- Nothing is stored before the login. -/
def idleEmpty : World := { caches := { session := fun _ => none, sid := fun _ => none } }

/-- The outcome of the login. -/
def idleSaved : World × ModAuthOpenidc.Session × Bool :=
  Session.save idleServer.codec idleServer.session (idleRequest 1000) idleEmpty idleLogin true

/-- The page meets no endpoint. -/
def idleAnswers : PageAnswers where
  grant := { tokenEndpoint := none }
  userinfo :=
    { first := { endpoint := none }
      grant := { tokenEndpoint := none }
      second := { endpoint := none } }

/-- The session when the page loads it. -/
def idleLoaded : World × ModAuthOpenidc.Session × Bool :=
  Session.load idleServer.codec idleServer.session (idleRequest 1100) idleSaved.1

/-- The outcome of the page. -/
def idlePassed : Status × Exchange :=
  checkUseridExistingSession idleServer {} (idleRequest 1100) idleAnswers
      ⟨idleLoaded.2.1, idleLoaded.1, []⟩

/-- What is stored after the page. -/
def idleStored : StoredSession :=
  storedAfter idleServer {} (idleRequest 1100) idleAnswers ⟨idleLoaded.2.1, idleLoaded.1, []⟩
    (.ofSession idleSaved.2.1)

theorem idleRun : PageRun idleServer (idleRequest 1100).now idleStored := by
  have login : PageRun idleServer (idleRequest 1000).now (.ofSession idleSaved.2.1) :=
    @PageRun.login idleServer (idleRequest 1000) Host.userProvider [] Host.userLogin
        {} idleSaved.2.1
      idleEmpty idleSaved.1 (by decide +kernel) (Prod.ext rfl (Prod.ext rfl (by decide +kernel)))
  exact @PageRun.page idleServer (idleRequest 1000).now (.ofSession idleSaved.2.1) {}
    (idleRequest 1100)
    idleAnswers idleSaved.1 idleLoaded.1 idleLoaded.2.1 idlePassed.2 login (by decide)
        (by decide +kernel)
    (Prod.ext rfl (Prod.ext rfl (by decide +kernel))) (by decide +kernel)
    (Prod.ext (by decide +kernel) rfl) (by decide +kernel)

theorem idleStored_found (seconds : Nat) :
    FoundAt idleServer idleStored (idleRequest seconds) idlePassed.2.world := by
  have carried : getCookie (idleRequest 0).cookies idleServer.session.cookieName = some "id" := by
    decide +kernel
  exact @FoundAt.cache idleServer idleStored
    (idleRequest seconds) idlePassed.2.world "id" "page" rfl
    ⟨rfl, carried, fun fallback => absurd fallback (by decide)⟩ (by decide +kernel)
    (by decide +kernel) (by decide +kernel)

/-- The session of the example is loaded for most of its timeout after the page, and not when the
timeout has gone by. -/
theorem idleStored_expires :
    (∃ world', Session.load idleServer.codec idleServer.session
        (idleRequest 1369) idlePassed.2.world =
      (world', restored idleStored.state, true)) ∧
    Nothing (Session.load idleServer.codec idleServer.session
        (idleRequest 1401) idlePassed.2.world) := by
  have expires := (run_expiry (by decide) idleRun).2
  exact ⟨(expires _ _ (idleStored_found 1369)).1 (by decide) (by decide +kernel),
    (expires _ _ (idleStored_found 1401)).2 (by decide)⟩

end Handle

end ModAuthOpenidc
