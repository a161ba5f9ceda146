import ModAuthOpenidc.Handle.Requests
import ModAuthOpenidc.Handle.Response
import ModAuthOpenidc.Session.Caches

/-!
# Requests that share a session

Any number of requests work on the sessions of one server cache at the same time. Each loads a
session into its own memory, works on that copy, and writes it back or ends the session; the steps
of different requests may be interleaved in any order. Nothing ties a write to the read before it,
so what a request writes depends on what it has seen, not on what the cache holds by then.
-/

namespace ModAuthOpenidc

namespace Handle

open Proto

/-! ## Logging out by `sid` -/

/-- Delete an index entry, if the session has the key. -/
def cleanupIndex (request : Session.Request) (world : Session.World) (key : Option String) :
    Session.World :=
  match key with
  | none => world
  | some key => Session.cacheSetSid request world key none 0

/-- The session that `oidc_logout_cleanup_by_sid` loads, and whether it could. -/
def cleanupLoad (settings : Settings) (request : Session.Request) (world : Session.World)
    (uuid : String) : Session.World × Session × Bool :=
  if settings.session.sessionType = .clientCookie then (world, {}, false)
  else
    match Session.loadCacheByUuid settings.codec settings.session request world uuid {} with
    | (world, z, false) => (world, z, false)
    | (world, z, true) => Session.extract settings.codec settings.session request world z

/-- `oidc_logout_cleanup_by_sid`. The revocation of tokens at the provider leaves the caches alone.
-/
def logoutCleanupBySid (settings : Settings) (request : Session.Request) (world : Session.World)
    (sid : Option String) (issuer : String) : Session.World :=
  let sid := makeSidIssUnique sid issuer
  match (Session.cacheGetSid request world sid).getD none with
  | none => world
  | some uuid =>
      let (world, z, loaded) := cleanupLoad settings request world uuid
      let world := Session.cacheSetSid request world sid none 0
      let world := if loaded then cleanupIndex request (cleanupIndex request world z.sid) z.sub
        else world
      (Session.cacheSetSession request world (some uuid) none 0).1

/-- A section without an entry, if there is a key. -/
def without (index : Session.Section) (key : Option String) : Session.Section :=
  match key with
  | none => index
  | some key => Function.update index key none

section Cleanup

variable {settings : Settings} {request : Session.Request}

theorem cleanupIndex_caches (answers : request.cacheAnswers = true) (world : Session.World)
    (key : Option String) :
    (cleanupIndex request world key).caches =
      { world.caches with sid := without world.caches.sid key } := by
  cases key with
  | none => rfl
  | some key => exact Session.cacheSetSid_caches answers _ _ _

/-- The session that an index entry points to is restored, or it is not there or gets deleted. -/
theorem cleanupLoad_cases (kind : settings.session.sessionType = .serverCache)
    (answers : request.cacheAnswers = true) (world : Session.World) (uuid : String) :
    (∃ text state, ExpiringMap.live request.now (world.caches.session uuid) = some text ∧
      Session.decode settings.codec settings.session text false = some state ∧
      state.getString "i" = some uuid ∧
      cleanupLoad settings request world uuid = (world, Session.restored state, true)) ∨
    ((cleanupLoad settings request world uuid).2.2 = false ∧
      ((cleanupLoad settings request world uuid).1.caches = world.caches ∨
        (cleanupLoad settings request world uuid).1.caches =
          { world.caches with session := Function.update world.caches.session uuid none })) := by
  unfold cleanupLoad
  rw [kind, if_neg (by simp)]
  rcases Session.loadCacheByUuid_cases settings.codec settings.session answers world uuid
    (show ({} : Session).state = none from rfl) with
    ⟨caches, nothing⟩ | ⟨text, state, live, decoded, own, found⟩ | ⟨caches, nothing, failed⟩
  · right
    rcases found : Session.loadCacheByUuid settings.codec settings.session request world uuid
      {} with
      ⟨world', z', rc⟩
    rw [found] at caches nothing
    cases rc with
    | false => exact ⟨rfl, .inl caches⟩
    | true =>
        dsimp only at caches nothing
        simp only [Session.extract, nothing]
        exact ⟨trivial, .inl caches⟩
  · simp only [found]
    rcases Session.extract_cases settings.codec kind answers world
      (show ({ uuid := some uuid, state := some state } : Session).state = some state from rfl)
      with ⟨intact, current, same⟩ | ⟨caches, nothing, failed⟩
    · exact .inl ⟨text, state, live, decoded, own, same⟩
    · exact .inr ⟨failed, .inr caches⟩
  · right
    rcases found : Session.loadCacheByUuid settings.codec settings.session request world uuid
      {} with
      ⟨world', z', rc⟩
    rw [found] at caches failed
    dsimp only at failed
    subst failed
    exact ⟨rfl, .inr caches⟩

/-- A logout that finds an index entry deletes the session it points to, and its index entries. -/
theorem logoutCleanupBySid_caches (kind : settings.session.sessionType = .serverCache)
    (answers : request.cacheAnswers = true) (world : Session.World) (sid : Option String)
    (issuer : String) :
    match ExpiringMap.live request.now (world.caches.sid (makeSidIssUnique sid issuer)) with
    | none => (logoutCleanupBySid settings request world sid issuer).caches = world.caches
    | some uuid =>
        (logoutCleanupBySid settings request world sid issuer).caches.session =
          Function.update world.caches.session uuid none ∧
        ((logoutCleanupBySid settings request world sid issuer).caches.sid =
            without world.caches.sid (some (makeSidIssUnique sid issuer)) ∨
          ∃ text state, ExpiringMap.live request.now (world.caches.session uuid) = some text ∧
            Session.decode settings.codec settings.session text false = some state ∧
            state.getString "i" = some uuid ∧
            (logoutCleanupBySid settings request world sid issuer).caches.sid =
              without (without (without world.caches.sid (some (makeSidIssUnique sid issuer)))
                (state.getString "sid")) (state.getString "sub")) := by
  simp only [logoutCleanupBySid, Session.cacheGetSid, answers, if_true, Option.getD_some]
  cases found : ExpiringMap.live request.now (world.caches.sid (makeSidIssUnique sid issuer)) with
  | none => rfl
  | some uuid =>
      simp only [Session.cacheSetSession_caches answers]
      rcases cleanupLoad_cases kind answers world uuid with
        ⟨text, state, live, decoded, own, loaded⟩ | ⟨failed, caches⟩
      · simp only [loaded, if_true, cleanupIndex_caches answers, Session.cacheSetSid_caches answers]
        exact ⟨rfl, .inr ⟨text, state, live, decoded, own, rfl⟩⟩
      · rcases caches with caches | caches
        · simp only [failed, Bool.false_eq_true, if_false,
            Session.cacheSetSid_caches answers, caches]
          exact ⟨rfl, .inl rfl⟩
        · simp only [failed, Bool.false_eq_true, if_false,
            Session.cacheSetSid_caches answers, caches]
          exact ⟨Function.update_idem _ _ _, .inl rfl⟩

end Cleanup

/-! ## The system -/

/-- The tokens of a session. -/
structure TokenPair where
  refreshToken : Option String
  accessToken : Option String
  deriving DecidableEq, Repr

/-- The tokens in a session state. -/
def stateTokens (state : Object) : TokenPair := ⟨state.getString "rt", state.getString "at"⟩

/-- The tokens of a copy of a session. -/
def sessionTokens (z : Session) : TokenPair := ⟨z.getRefreshToken, z.getAccessToken⟩

/-- What a request holds: its copy of the session, and the tokens this copy has had. -/
structure Copy where
  session : Session
  held : List TokenPair

/-- The cache and the copies of the requests, with the refreshes that were granted so far. -/
structure System (ι : Type) where
  world : Session.World
  copies : ι → Option Copy
  rotations : List (TokenPair × TokenPair) := []

/-- A step of one request, or a logout that the provider asks for. -/
inductive Move (ι : Type)
  /-- `oidc_session_load`. -/
  | load (i : ι) (request : Session.Request)
  /-- `oidc_refresh_token_grant`. -/
  | refresh (i : ι) (request : Session.Request) (provider : Provider) (answers : GrantAnswers)
  /-- `oidc_session_pass_tokens`, which extends the inactivity expiry. -/
  | extend (i : ι) (request : Session.Request)
  /-- `oidc_session_save`. -/
  | save (i : ι) (request : Session.Request)
  /-- `oidc_session_kill`. -/
  | kill (i : ι) (request : Session.Request)
  /-- `oidc_logout_cleanup_by_sid`. -/
  | logout (request : Session.Request) (sid : Option String) (issuer : String)

/-- The request that makes a move. -/
def Move.request {ι : Type} : Move ι → Session.Request
  | load _ request => request
  | refresh _ request _ _ => request
  | extend _ request => request
  | save _ request => request
  | kill _ request => request
  | logout request _ _ => request

namespace System

variable {ι : Type} [DecidableEq ι]

/-- Nobody has loaded anything yet. -/
def start (world : Session.World) : System ι where
  world := world
  copies := fun _ => none

/-- Give a request a copy. -/
def setCopy (system : System ι) (i : ι) (copy : Copy) : System ι :=
  { system with copies := Function.update system.copies i (some copy) }

/-- One move.  A request that has loaded nothing can do nothing else. -/
def step (settings : Settings) (system : System ι) : Move ι → System ι
  | .load i request =>
      let (world, z, _) :=
        Session.loadFromCache settings.codec settings.session request system.world
      setCopy { system with world } i ⟨z, [sessionTokens z]⟩
  | .refresh i request provider answers =>
      match system.copies i with
      | none => system
      | some copy =>
          match refreshTokenGrant settings request provider answers ⟨copy.session, system.world, []⟩
            with
          | (false, x) => setCopy { system with world := x.world } i
              { copy with session := x.session }
          | (true, x) =>
              setCopy
                { system with
                  world := x.world
                  rotations := (sessionTokens copy.session, sessionTokens x.session) ::
                    system.rotations }
                i ⟨x.session, sessionTokens x.session :: copy.held⟩
  | .extend i request =>
      match system.copies i with
      | none => system
      | some copy =>
          system.setCopy i
            { copy with session := (sessionPassTokens settings request true false copy.session).2 }
  | .save i request =>
      match system.copies i with
      | none => system
      | some copy =>
          let (world, z, _) :=
            Session.save settings.codec settings.session request system.world copy.session false
          setCopy { system with world } i { copy with session := z }
  | .kill i request =>
      match system.copies i with
      | none => system
      | some copy =>
          let (world, z) :=
            Session.kill settings.codec settings.session request system.world copy.session
          setCopy { system with world } i { copy with session := z }
  | .logout request sid issuer =>
      { system with world := logoutCleanupBySid settings request system.world sid issuer }

/-- The moves one after the other. -/
def run (settings : Settings) (system : System ι) (moves : List (Move ι)) : System ι :=
  moves.foldl (step settings) system

theorem run_append (settings : Settings) (system : System ι) (first second : List (Move ι)) :
    system.run settings (first ++ second) = (system.run settings first).run settings second :=
  List.foldl_append

variable {settings : Settings} {system : System ι} {move : Move ι}

theorem run_cons (settings : Settings) (system : System ι) (move : Move ι) (moves : List (Move ι)) :
    system.run settings (move :: moves) = (system.step settings move).run settings moves := rfl

end System

/-! ## What a step does to a copy -/

/-- The members that a refresh writes. -/
def grantKeys : List String := ["at", "att", "ate", "atlr", "rt", "scp", "idt", "idc", "se"]

/-- A refresh writes some members of the session and leaves the caches of sessions alone. -/
theorem refreshTokenGrant_frame {settings : Settings} {request : Session.Request}
    {provider : Provider} {answers : GrantAnswers} {x x' : Exchange}
    (ran : refreshTokenGrant settings request provider answers x = (true, x')) :
    x'.world = x.world ∧ x.session.state ≠ none ∧
      Session.Writes grantKeys x.session x'.session := by
  obtain ⟨refreshToken, tokens, writes, held, -, outcome⟩ := refreshTokenGrant_true ran
  have loaded : x.session.state ≠ none := by
    intro empty
    rw [Session.getRefreshToken, Session.getText, Session.jsonGet, empty] at held
    cases held
  have stored : Session.Writes grantKeys x.session (storeTokens request.now tokens x.session) :=
    (storeTokens_writes request.now tokens x.session).mono (by decide)
  rcases outcome with rfl | ⟨idToken, jwt, -, -, rfl⟩
  · exact ⟨rfl, loaded, stored⟩
  · exact ⟨rfl, loaded, stored.trans ((applyIdToken_writes settings provider _ idToken jwt).mono
      (by decide))⟩

/-- Extending a session moves its expiry and takes the mark of a new session away. -/
theorem sessionPassTokens_frame (settings : Settings) (request : Session.Request)
    (extendSession needsSave : Bool) (z : Session) :
    (sessionPassTokens settings request extendSession needsSave z).2.uuid = z.uuid ∧
      sessionTokens (sessionPassTokens settings request extendSession needsSave z).2 =
        sessionTokens z ∧
      (z.state = none →
        (sessionPassTokens settings request extendSession needsSave z).2.state = none) := by
  have renewed (z : Session) : (z.setSessionNew false).uuid = z.uuid ∧
      sessionTokens (z.setSessionNew false) = sessionTokens z := by
    have writes := (Session.Writes.refl ["sn"] z).setSessionNew false
    refine ⟨by rw [writes.same], ?_⟩
    rw [sessionTokens, Session.getRefreshToken, Session.getAccessToken, writes.getText (by decide),
      writes.getText (by decide)]
    rfl
  have old (z : Session) (empty : z.state = none) : z.getSessionNew = false := by
    rw [Session.getSessionNew, Session.getInt, empty]
    rfl
  unfold sessionPassTokens
  dsimp only
  split
  · split
    · next isNew =>
        refine ⟨(renewed _).1, (renewed _).2, fun empty => ?_⟩
        cases isNew.symm.trans (old _ empty)
    · exact ⟨rfl, rfl, id⟩
  · split
    · next isNew =>
        refine ⟨(renewed _).1, (renewed _).2, fun empty => ?_⟩
        cases isNew.symm.trans (old _ empty)
    · exact ⟨rfl, rfl, id⟩

/-- The tokens of a session are not among the members a save writes itself. -/
theorem sessionTokens_savedState (z : Session) {state : Object} (held : z.state = some state) :
    sessionTokens { z with state := some (Session.savedState z state) } = sessionTokens z := by
  have same {key : String} (outside : key ∉ Session.savedKeys) :
      ({ z with state := some (Session.savedState z state) } : Session).getText key =
        z.getText key := by
    rw [Session.getText, Session.jsonGet, Option.bind_some, Session.get_savedState z state outside,
      Session.getText, Session.jsonGet, held, Option.bind_some]
  rw [sessionTokens, Session.getRefreshToken, Session.getAccessToken, same (by decide),
    same (by decide)]
  rfl

/-- How a request may change its copy other than by loading it again. -/
inductive Worked (rotations : List (TokenPair × TokenPair)) (copy copy' : Copy) : Prop
  /-- There is no session any more. -/
  | ended (empty : copy'.session.state = none)
  /-- The tokens stay the same. -/
  | kept (loaded : copy.session.state ≠ none) (uuid : copy'.session.uuid = copy.session.uuid)
      (tokens : sessionTokens copy'.session = sessionTokens copy.session)
      (held : copy'.held = copy.held)
  /-- A refresh has replaced the tokens. -/
  | rotated (loaded : copy.session.state ≠ none) (uuid : copy'.session.uuid = copy.session.uuid)
      (rotation : (sessionTokens copy.session, sessionTokens copy'.session) ∈ rotations)
      (held : copy'.held = sessionTokens copy'.session :: copy.held)

/-- The request that works on its copy. -/
def Move.worker {ι : Type} : Move ι → Option ι
  | .load _ _ => none
  | .refresh i _ _ _ => some i
  | .extend i _ => some i
  | .save i _ => some i
  | .kill i _ => some i
  | .logout _ _ _ => none

/-- What a request makes of the copy that it holds. -/
def Move.worked {ι : Type} (settings : Settings) (world : Session.World) : Move ι → Copy → Copy
  | .load _ _, copy => copy
  | .refresh _ request provider answers, copy =>
      match refreshTokenGrant settings request provider answers ⟨copy.session, world, []⟩ with
      | (false, x) => { copy with session := x.session }
      | (true, x) => ⟨x.session, sessionTokens x.session :: copy.held⟩
  | .extend _ request, copy =>
      { copy with session := (sessionPassTokens settings request true false copy.session).2 }
  | .save _ request, copy =>
      { copy with
        session :=
          (Session.save settings.codec settings.session request world copy.session false).2.1 }
  | .kill _ request, copy =>
      { copy with
        session := (Session.kill settings.codec settings.session request world copy.session).2 }
  | .logout _ _ _, copy => copy

namespace System

variable {ι : Type} [DecidableEq ι] {settings : Settings} {system : System ι} {move : Move ι}

theorem setCopy_copies (system : System ι) (i j : ι) (copy : Copy) :
    (system.setCopy i copy).copies j = if j = i then some copy else system.copies j := by
  rw [setCopy]
  exact Function.update_apply _ _ _ _

/-- A request that has loaded nothing does nothing. -/
theorem step_of_none {j : ι} (works : move.worker = some j) (held : system.copies j = none) :
    system.step settings move = system := by
  cases move with
  | load k request => cases works
  | refresh k request provider answers =>
      cases works
      simp only [step, held]
  | extend k request =>
      cases works
      simp only [step, held]
  | save k request =>
      cases works
      simp only [step, held]
  | kill k request =>
      cases works
      simp only [step, held]
  | logout request sid issuer => cases works

/-- A request that works on its copy changes no other one. -/
theorem copies_step_of_some {j : ι} {copy : Copy} (works : move.worker = some j)
    (held : system.copies j = some copy) :
    (system.step settings move).copies =
      Function.update system.copies j (some (move.worked settings system.world copy)) := by
  cases move with
  | load k request => cases works
  | refresh k request provider answers =>
      cases works
      rcases ran : refreshTokenGrant settings request provider answers
        ⟨copy.session, system.world, []⟩ with ⟨rc, x⟩
      cases rc <;> simp only [step, held, ran, Move.worked, setCopy]
  | extend k request =>
      cases works
      simp only [step, held, Move.worked, setCopy]
  | save k request =>
      cases works
      simp only [step, held, Move.worked, setCopy]
  | kill k request =>
      cases works
      simp only [step, held, Move.worked, setCopy]
  | logout request sid issuer => cases works

/-- A move leaves a copy as it is, loads it, or works on it. -/
theorem step_copies_of {i : ι} {copy' : Copy}
    (after : (system.step settings move).copies i = some copy') :
    system.copies i = some copy' ∨
    (∃ request, move = .load i request ∧
      copy'.session = (Session.loadFromCache settings.codec settings.session request
        system.world).2.1 ∧
      copy'.held = [sessionTokens copy'.session]) ∨
    ∃ copy, move.worker = some i ∧ system.copies i = some copy ∧
      copy' = move.worked settings system.world copy := by
  cases works : move.worker with
  | none =>
      cases move with
      | load j request =>
          rw [step, setCopy_copies] at after
          split at after
          · next same =>
              cases after
              exact .inr (.inl ⟨request, by rw [same], rfl, rfl⟩)
          · exact .inl after
      | logout request sid issuer => exact .inl after
      | refresh j request provider answers => cases works
      | extend j request => cases works
      | save j request => cases works
      | kill j request => cases works
  | some j =>
      cases held : system.copies j with
      | none =>
          rw [step_of_none works held] at after
          exact .inl after
      | some copy =>
          rw [copies_step_of_some works held, Function.update_apply] at after
          split at after
          · next same =>
              cases after
              exact .inr (.inr ⟨copy, by rw [same], by rw [same, held], rfl⟩)
          · exact .inl after

/-- A move changes the copy of its own request: it is loaded anew, or worked on. -/
theorem step_copies (kind : settings.session.sessionType = .serverCache)
    (answers : move.request.cacheAnswers = true) (i : ι) {copy' : Copy}
    (after : (system.step settings move).copies i = some copy') :
    system.copies i = some copy' ∨
    (∃ request, move = .load i request ∧
      copy'.session = (Session.loadFromCache settings.codec settings.session request
        system.world).2.1 ∧
      copy'.held = [sessionTokens copy'.session]) ∨
    ∃ copy, system.copies i = some copy ∧
      Worked (system.step settings move).rotations copy copy' := by
  rcases step_copies_of after with kept | loaded | ⟨copy, works, held, rfl⟩
  · exact .inl kept
  · exact .inr (.inl loaded)
  · refine (Classical.em _).imp_right fun changed => .inr ⟨copy, held, ?_⟩
    cases move with
    | load j request => cases works
    | refresh j request provider grant =>
        cases works
        rcases ran : refreshTokenGrant settings request provider grant
          ⟨copy.session, system.world, []⟩ with ⟨rc, x⟩
        cases rc with
        | false =>
            obtain ⟨writes, -, rfl⟩ := refreshTokenGrant_false ran
            simp only [Move.worked, ran] at changed
            exact absurd held changed
        | true =>
            obtain ⟨-, loaded, writes⟩ := refreshTokenGrant_frame ran
            simp only [Move.worked, step, held, ran]
            exact .rotated loaded (by rw [writes.same]) List.mem_cons_self rfl
    | extend j request =>
        obtain ⟨uuid, tokens, empty⟩ :=
          sessionPassTokens_frame settings request true false copy.session
        by_cases loaded : copy.session.state = none
        · exact .ended (empty loaded)
        · exact .kept loaded uuid tokens rfl
    | save j request =>
        change request.cacheAnswers = true at answers
        cases loaded : copy.session.state with
        | none =>
            refine .ended ?_
            rw [Move.worked, (Session.save_caches_none settings.codec kind answers system.world loaded
              false).2, loaded]
        | some state =>
            have saved :=
              (Session.save_caches settings.codec kind answers system.world loaded false).2
            refine .kept (by rw [loaded]; exact Option.some_ne_none state) ?_ ?_ rfl
            · rw [Move.worked, saved]
            · rw [Move.worked, saved, sessionTokens_savedState copy.session loaded]
    | kill j request =>
        change request.cacheAnswers = true at answers
        refine .ended ?_
        rw [Move.worked, (Session.kill_caches settings.codec kind answers system.world copy.session).2]
        rfl
    | logout request sid issuer => cases works

/-- A move never takes a granted refresh back. -/
theorem step_rotations (settings : Settings) (system : System ι) (move : Move ι) :
    system.rotations ⊆ (system.step settings move).rotations := by
  cases move with
  | load j request => exact List.Subset.refl _
  | refresh j request provider answers =>
      rw [step]
      split
      · exact List.Subset.refl _
      · split
        · exact List.Subset.refl _
        · exact List.subset_cons_self _ _
  | extend j request =>
      rw [step]
      split <;> exact List.Subset.refl _
  | save j request =>
      rw [step]
      split <;> exact List.Subset.refl _
  | kill j request =>
      rw [step]
      split <;> exact List.Subset.refl _
  | logout request sid issuer => exact List.Subset.refl _

/-- What a move does to the entry of a session: nothing, deletion, or a save of the copy that the
request holds. -/
theorem step_entry (kind : settings.session.sessionType = .serverCache)
    (answers : move.request.cacheAnswers = true) (uuid : String) :
    (system.step settings move).world.caches.session uuid = system.world.caches.session uuid ∨
    (system.step settings move).world.caches.session uuid = none ∨
    ∃ i request copy state text, move = .save i request ∧ system.copies i = some copy ∧
      Session.keyText copy.session.uuid = uuid ∧ copy.session.state = some state ∧
      settings.codec.jsonEncode (Session.savedState copy.session state) = some text ∧
      (system.step settings move).world.caches.session uuid =
        some (text, copy.session.expiry) := by
  have deleted (entries : Session.Section) (key : String) :
      Function.update entries key none uuid = entries uuid ∨
        Function.update entries key none uuid = none := by
    rw [Function.update_apply]
    split
    · exact .inr rfl
    · exact .inl rfl
  cases move with
  | load j request =>
      rcases Session.loadFromCache_cases settings.codec kind answers system.world with
        ⟨same, -⟩ | ⟨_, _, _, same, -⟩ | ⟨key, same, -⟩
      · exact .inl (congrArg (fun caches => caches.session uuid) same)
      · exact .inl (congrArg (fun caches => caches.session uuid) same)
      · have entry : (system.step settings (.load j request)).world.caches.session uuid =
            Function.update system.world.caches.session key none uuid :=
          congrArg (fun caches => caches.session uuid) same
        rw [entry]
        exact (deleted _ _).imp_right .inl
  | refresh j request provider grant =>
      left
      rw [step]
      split
      · rfl
      · next copy held =>
          split
          · next x ran =>
              obtain ⟨writes, -, rfl⟩ := refreshTokenGrant_false ran
              rfl
          · next x ran =>
              obtain ⟨same, -, -⟩ := refreshTokenGrant_frame ran
              exact congrArg (fun world => world.caches.session uuid) same
  | extend j request =>
      rw [step]
      split <;> exact .inl rfl
  | save j request =>
      change request.cacheAnswers = true at answers
      cases held : system.copies j with
      | none =>
          simp only [step, held]
          exact .inl trivial
      | some copy =>
          cases loaded : copy.session.state with
          | none =>
              simp only [step, held, setCopy,
                (Session.save_caches_none settings.codec kind answers system.world loaded false).1]
              exact (deleted _ _).imp_right .inl
          | some state =>
              have saved := (Session.save_caches settings.codec kind answers system.world loaded
                false).1
              simp only [step, held, setCopy, saved]
              cases encoded : settings.codec.jsonEncode (Session.savedState copy.session state) with
              | none => exact .inl rfl
              | some text =>
                  by_cases same : Session.keyText copy.session.uuid = uuid
                  · refine .inr (.inr
                      ⟨j, request, copy, state, text, rfl, held, same, loaded, encoded, ?_⟩)
                    rw [← same]
                    exact Function.update_self _ _ _
                  · left
                    exact Function.update_of_ne (Ne.symm same) _ _
  | kill j request =>
      change request.cacheAnswers = true at answers
      cases held : system.copies j with
      | none =>
          simp only [step, held]
          exact .inl trivial
      | some copy =>
          simp only [step, held, setCopy,
            (Session.kill_caches settings.codec kind answers system.world copy.session).1]
          exact (deleted _ _).imp_right .inl
  | logout request sid issuer =>
      have caches := logoutCleanupBySid_caches kind answers system.world sid issuer
      rw [step]
      split at caches
      · exact .inl (congrArg (fun caches => caches.session uuid) caches)
      · next target found =>
          have entry : (logoutCleanupBySid settings request system.world sid
              issuer).caches.session uuid =
              Function.update system.world.caches.session target none uuid :=
            congrArg (fun entries => entries uuid) caches.1
          rw [entry]
          exact (deleted _ _).imp_right .inl

end System

end Handle

end ModAuthOpenidc
