import ModAuthOpenidc.Handle.Sharing
import ModAuthOpenidc.SecondaryIndex

/-!
# The logout index

Logins, updates, ends and logouts of sessions work on one cache in any order. A session is indexed
by its `sid` and its `sub`, and sessions of one user may share these keys. The index leads to the
last session saved under a key as long as it is there, provided that no session is ended by a
request or a logout while another session that was saved later under the same key is still there.
-/

namespace ModAuthOpenidc

namespace Handle

open Proto

/-! ## Logging in -/

/-- What `oidc_session_reset` does to the cache. -/
def resetWorld (request : Session.Request) (world : Session.World) (prior : Session) :
    Session.World :=
  if prior.uuid.isSome then (Session.cacheSetSession request world prior.uuid none 0).1 else world

/-- The parameters of session management that `oidc_response_process` notes in a new session. -/
def noteSessionManagement (provider : Provider) (protoState : Object) (z : Session) : Session :=
  if provider.checkSessionIframe.isSome then
    (z.setText "parp" (protoState.getString "arp")).setText "psc" (protoState.getString "psc")
  else z

/-- The session that a login saves. -/
def loginSession (settings : Settings) (request : Session.Request) (provider : Provider)
    (protoState : Object) (login : LoginData) (prior : Session) : Session :=
  responseSaveInSession settings request provider login
    (noteSessionManagement provider protoState (sessionReset request prior))

/-- The members that a login writes. -/
def loginKeys : List String :=
  ["parp", "psc", "idc", "idt", "iss", "rs", "ou", "ss", "uir", "uic", "uij", "uilr", "at", "att",
    "ate", "atlr", "rt", "scp", "se", "cd", "sn"]

theorem storeLogin_writes (settings : Settings) (provider : Provider) (login : LoginData)
    (z : Session) : Session.Writes loginKeys z (storeLogin settings provider login z) := by
  have start := Session.Writes.refl loginKeys z
  have claims := Session.Writes.ite (settings.dontStoreIdTokenClaims = true) start
    (start.jsonSet "idc" ((settings.filter.apply (some login.jwt.claims)).map .obj))
  have token := Session.Writes.ite (settings.storeIdToken = true)
    (claims.setText "idt" login.idToken)
    claims
  have issued := ((token.setText "iss" (some provider.issuer)).setText "rs" login.state).setText
    "ou"
    login.originalUrl
  have managed := Session.Writes.ite
    (login.sessionState.isSome = true ∧ provider.checkSessionIframe.isSome = true)
    (issued.setText "ss" login.sessionState) issued
  exact managed.jsonSet "uir" (some (.int provider.userinfoRefreshInterval))

/-- A login gives the session a new identifier and its index keys; no key is noted in its state yet.
-/
theorem loginSession_keys (settings : Settings) (request : Session.Request) (provider : Provider)
    (protoState : Object) (login : LoginData) (prior : Session) :
    ∃ state, loginSession settings request provider protoState login prior =
        { uuid := some request.freshId
          remoteUser := some login.remoteUser
          expiry := request.now + settings.sessionInactivityTimeout * 1000000
          sid := some (makeSidIssUnique (loginSid login.jwt) provider.issuer)
          sub := loginSub provider login.jwt
          state := some state } ∧
      state.getString "sid" = none ∧ state.getString "sub" = none := by
  have reset := Session.Writes.refl loginKeys (sessionReset request prior)
  have noted : Session.Writes loginKeys (sessionReset request prior)
      (noteSessionManagement provider protoState (sessionReset request prior)) :=
    .ite _ ((reset.setText "parp" (protoState.getString "arp")).setText "psc"
      (protoState.getString "psc")) reset
  have opened := (storeLogin_writes settings provider login
    { noteSessionManagement provider protoState (sessionReset request prior) with
      remoteUser := some login.remoteUser
      expiry := request.now + settings.sessionInactivityTimeout * 1000000 }).trans
    ((userinfoStoreClaims_writes settings request provider login.userinfo.claims login.userinfo.jwt
      _).mono (by decide))
  have filled := ((opened.trans
    ((storeLoginTokens_writes request login _).mono (by decide))).setTimestamp
    "se" (loginExpires request provider login.jwt)).setText "cd" (some settings.cookieDomain)
  generalize closing : Session.setText _ "cd" _ = closed at filled
  have named := (Session.Writes.refl loginKeys
    { closed with
      sid := some (makeSidIssUnique (loginSid login.jwt) provider.issuer)
      sub := loginSub provider login.jwt }).setSessionNew true
  have final : loginSession settings request provider protoState login prior =
      Session.setSessionNew { closed with
        sid := some (makeSidIssUnique (loginSid login.jwt) provider.issuer)
        sub := loginSub provider login.jwt } true := by
    rw [← closing]
    rfl
  have absent {key : String} (outside : key ∉ loginKeys) :
      (loginSession settings request provider protoState login prior).jsonGet key = none := by
    rw [final, named.frame key outside]
    exact (filled.frame key outside).trans (noted.frame key outside)
  have shape : loginSession settings request provider protoState login prior =
      { uuid := some request.freshId
        remoteUser := some login.remoteUser
        expiry := request.now + settings.sessionInactivityTimeout * 1000000
        sid := some (makeSidIssUnique (loginSid login.jwt) provider.issuer)
        sub := loginSub provider login.jwt
        state := some (Object.set (closed.state.getD []) "sn" (.int 1)) } := by
    rw [final]
    have same := filled.same
    rw [noted.same] at same
    rw [same]
    rfl
  refine ⟨_, shape, ?_, ?_⟩
  · have missing := absent (show "sid" ∉ loginKeys by decide)
    rw [shape] at missing
    rw [Object.getString, show Object.get _ "sid" = none from missing]
    rfl
  · have missing := absent (show "sub" ∉ loginKeys by decide)
    rw [shape] at missing
    rw [Object.getString, show Object.get _ "sub" = none from missing]
    rfl

/-! ## The sessions of a host -/

/-- The requests that share the sessions, with the session that was last saved under each index key
and the `sid` and `sub` that each session got at its login. -/
structure Host (ι : Type) where
  system : System ι
  last : String → Option String
  keys : String → Option (Option String × Option String)

/-- What happens on a host. -/
inductive HostAct (ι : Type)
  /-- `oidc_session_reset` and `oidc_response_save_in_session`. -/
  | login (i : ι) (request : Session.Request) (provider : Provider) (protoState : Object)
      (login : LoginData)
  | move (move : Move ι)

/-- The request that acts. -/
def HostAct.request {ι : Type} : HostAct ι → Session.Request
  | .login _ request _ _ _ => request
  | .move inner => inner.request

/-- A session becomes the last one under its keys. -/
def noteSave (last : String → Option String) (z : Session) : String → Option String :=
  fun key => if z.sid = some key ∨ z.sub = some key then some (Session.keyText z.uuid) else last key

namespace Host

variable {ι : Type}

/-- Nobody has logged in yet. -/
def start : Host ι where
  system := System.start { caches := { session := fun _ => none, sid := fun _ => none } }
  last := fun _ => none
  keys := fun _ => none

/-- The caches of a host. -/
def caches (host : Host ι) : Session.Caches := host.system.world.caches

/-- The copy that a save writes. -/
def saving (host : Host ι) : Move ι → Option Session
  | .save i _ => ((host.system.copies i).map Copy.session).filter fun z => z.state.isSome
  | _ => none

/-- One act. -/
def step [DecidableEq ι] (settings : Settings) (host : Host ι) : HostAct ι → Host ι
  | .login i request provider protoState login =>
      match host.system.copies i with
      | none => host
      | some copy =>
          let z := loginSession settings request provider protoState login copy.session
          let (world, saved, _) := Session.save settings.codec settings.session request
            (resetWorld request host.system.world copy.session) z true
          { system := System.setCopy { host.system with world } i ⟨saved, [sessionTokens saved]⟩
            last := noteSave host.last z
            keys := Function.update host.keys (Session.keyText z.uuid) (some (z.sid, z.sub)) }
  | .move move =>
      { host with
        system := host.system.step settings move
        last := (host.saving move).elim host.last (noteSave host.last) }

/-- What is taken for granted about an act: the cache works, the clock does not go back, a login
draws an identifier that was not drawn before, and the JSON library encodes what is saved. -/
structure Granted (settings : Settings) (clock : Int) (host : Host ι) (act : HostAct ι) : Prop where
  answers : act.request.cacheAnswers = true
  later : clock ≤ act.request.now
  fresh : ∀ i request provider protoState login, act = .login i request provider protoState login →
    host.keys request.freshId = none
  loginEncoded : ∀ i request provider protoState login copy state,
    act = .login i request provider protoState login → host.system.copies i = some copy →
    (loginSession settings request provider protoState login copy.session).state = some state →
    (settings.codec.jsonEncode (Session.savedState
      (loginSession settings request provider protoState login copy.session) state)).isSome = true
  saveEncoded : ∀ move z state, act = .move move → host.saving move = some z →
    z.state = some state → (settings.codec.jsonEncode (Session.savedState z state)).isSome = true

/-- No other session that is still there was saved later under a key. -/
def Latest (host : Host ι) (now : Int) (uuid : String) (key : Option String) : Prop :=
  ∀ text, key = some text → SecondaryIndex.Free now host.caches.session host.last uuid text

/-- A request ends a session while no other one has taken its `sid`, and a logout while no other one
has taken the `sid` or the `sub` of the session that it finds. -/
def Orderly (settings : Settings) (host : Host ι) : HostAct ι → Prop
  | .move (.kill i request) => ∀ copy, host.system.copies i = some copy →
      host.Latest request.now (Session.keyText copy.session.uuid) copy.session.sid
  | .move (.save i request) => ∀ copy, host.system.copies i = some copy →
      copy.session.state = none →
      host.Latest request.now (Session.keyText copy.session.uuid) copy.session.sid
  | .move (.logout request sid issuer) => ∀ uuid text state,
      ExpiringMap.live request.now (host.caches.sid (makeSidIssUnique sid issuer)) = some uuid →
      ExpiringMap.live request.now (host.caches.session uuid) = some text →
      Session.decode settings.codec settings.session text false = some state →
      host.Latest request.now uuid (state.getString "sid") ∧
        host.Latest request.now uuid (state.getString "sub")
  | _ => True

/-- The hosts that acts lead to, each under a condition, with the time of the last act. -/
inductive Reachable [DecidableEq ι] (settings : Settings) (condition : Host ι → HostAct ι → Prop) :
    Int → Host ι → Prop
  | start : Reachable settings condition 0 start
  | step {clock : Int} {host : Host ι} (reached : Reachable settings condition clock host)
      (act : HostAct ι)
      (granted : host.Granted settings clock act) (met : condition host act) :
      Reachable settings condition act.request.now (host.step settings act)

/-- A later logout finds the session that was last saved under a key, as long as it is there. -/
def Indexed (host : Host ι) (now : Int) : Prop :=
  ∀ key uuid text, host.last key = some uuid →
    ExpiringMap.live now (host.caches.session uuid) = some text →
    ExpiringMap.live now (host.caches.sid key) = some uuid

/-! ## What a host keeps -/

/-- The keys of the sessions. -/
abbrev Keys := String → Option (Option String × Option String)

/-- An index key of a session. -/
def Uses (keys : Keys) (uuid key : String) : Prop :=
  ∃ sid sub, keys uuid = some (sid, sub) ∧ (sid = some key ∨ sub = some key)

/-- A copy of a session has the keys that the session got at its login. -/
structure Registered (keys : Keys) (z : Session) : Prop where
  own : ∃ uuid, z.uuid = some uuid ∧ keys uuid = some (z.sid, z.sub)
  sid : z.getText "sid" = none ∨ z.getText "sid" = z.sid
  sub : z.getText "sub" = none ∨ z.getText "sub" = z.sub

/-- The stored sessions have the keys that they got at their logins. -/
def Noted (settings : Settings) (keys : Keys) (entries : Session.Section) : Prop :=
  ∀ uuid text expires, entries uuid = some (text, expires) →
    ∃ state, Session.decode settings.codec settings.session text false = some state ∧
      keys uuid = some (state.getString "sid", state.getString "sub")

/-- The index is consistent, and all copies of a session agree on its keys. -/
structure Kept (settings : Settings) (clock : Int) (host : Host ι) : Prop where
  index : SecondaryIndex.Consistent
      (Uses host.keys) clock host.caches.session host.caches.sid host.last
  noted : Noted settings host.keys host.caches.session
  copies : ∀ i copy, host.system.copies i = some copy → copy.session.state ≠ none →
    Registered host.keys copy.session

theorem start_kept (settings : Settings) : (start : Host ι).Kept settings 0 where
  index := .empty _ _
  noted := nofun
  copies := nofun

/-! ## Copies -/

namespace Registered

variable {keys : Keys} {z z' : Session}

/-- Writes to other members keep the keys. -/
theorem writes (registered : Registered keys z) {members : List String}
    (written : Session.Writes members z z') (sid : "sid" ∉ members) (sub : "sub" ∉ members) :
    Registered keys z' := by
  obtain ⟨own, first, second⟩ := registered
  rw [← written.getText sid] at first
  rw [← written.getText sub] at second
  rw [written.same] at first second ⊢
  exact ⟨own, first, second⟩

/-- A save notes the keys of the session in its state. -/
theorem getString_savedState (registered : Registered keys z) {state : Object}
    (held : z.state = some state) :
    (Session.savedState z state).getString "sid" = z.sid ∧
      (Session.savedState z state).getString "sub" = z.sub := by
  have noted (object : Object) (key : String) (index : Option String)
      (before : object.getString key = none ∨ object.getString key = index) :
      (Session.setIndex object key index).getString key = index := by
    cases index with
    | none => exact before.elim id id
    | some text =>
        rw [Session.setIndex, Object.getString, Object.get_set_self]
        rfl
  have stamped {key : String} (index : key = "sid" ∨ key = "sub") :
      (Session.stamp z state).getString key = z.getText key := by
    rw [Object.getString, Session.getText, Session.jsonGet, held, Option.bind_some]
    rcases index with rfl | rfl
    · rw [Session.get_stamp_of_ne z state (by decide) (by decide) (by decide) (by decide)]
    · rw [Session.get_stamp_of_ne z state (by decide) (by decide) (by decide) (by decide)]
  constructor
  · rw [Session.savedState, Object.getString, Session.get_setIndex _ _ (by decide),
      ← Object.getString]
    exact noted _ _ _ (stamped (.inl rfl) ▸ registered.sid)
  · apply noted _ _ _
    rw [Object.getString, Session.get_setIndex _ _ (by decide), ← Object.getString]
    exact stamped (.inr rfl) ▸ registered.sub

/-- The saved session has the same keys. -/
theorem saved (registered : Registered keys z) {state : Object} (held : z.state = some state) :
    Registered keys { z with state := some (Session.savedState z state) } where
  own := registered.own
  sid := .inr (registered.getString_savedState held).1
  sub := .inr (registered.getString_savedState held).2

/-- A session that is loaded has the keys noted in its state. -/
theorem restored {state : Object} {uuid : String} (own : state.getString "i" = some uuid)
    (noted : keys uuid = some (state.getString "sid", state.getString "sub")) :
    Registered keys (Session.restored state) where
  own := ⟨uuid, own, noted⟩
  sid := .inr rfl
  sub := .inr rfl

/-- Extending a session keeps its keys. -/
theorem extended (registered : Registered keys z) (settings : Settings)
    (request : Session.Request) :
    Registered keys (sessionPassTokens settings request true false z).2 := by
  have renewed (z : Session) (registered : Registered keys z) :
    Registered keys (z.setSessionNew false) :=
    registered.writes ((Session.Writes.refl ["sn"] z).setSessionNew false) (by decide) (by decide)
  have moved (expiry : Int) : Registered keys { z with expiry } :=
    ⟨registered.own, registered.sid, registered.sub⟩
  unfold sessionPassTokens
  dsimp only
  split
  · split
    · exact renewed _ (moved _)
    · exact moved _
  · split
    · exact renewed _ registered
    · exact registered

end Registered

/-- The index after a save, key by key. -/
theorem indexed_apply (index : Session.Section) (z : Session) (key : String) :
    Session.indexed index z key = if z.sid = some key ∨ z.sub = some key then
      some (Session.keyText z.uuid, z.expiry) else index key := by
  have once (index : Session.Section) (indexed : Option String) :
      Session.indexKey index z indexed key = if indexed = some key then
        some (Session.keyText z.uuid, z.expiry) else index key := by
    cases indexed with
    | none => rw [if_neg (by simp)]; rfl
    | some text =>
        rw [Session.indexKey, Function.update_apply]
        simp only [Option.some.injEq, eq_comm]
  rw [Session.indexed, once, once]
  by_cases sub : z.sub = some key
  · rw [if_pos sub, if_pos (.inr sub)]
  · rw [if_neg sub]
    simp only [sub, or_false]

section Index

variable {keys : Keys} {now : Int} {entries index : Session.Section} {last : String → Option String}

/-- A session that is saved becomes the last one under its keys. -/
theorem index_save (consistent : SecondaryIndex.Consistent (Uses keys) now entries index last)
    {z : Session} (registered : Registered keys z) (text : String) :
    SecondaryIndex.Consistent (Uses keys) now
      (Function.update entries (Session.keyText z.uuid) (some (text, z.expiry)))
      (Session.indexed index z) (noteSave last z) := by
  obtain ⟨uuid, identified, own⟩ := registered.own
  have uses (key : String) : Uses keys (Session.keyText z.uuid) key ↔
      z.sid = some key ∨ z.sub = some key := by
    rw [identified]
    constructor
    · rintro ⟨sid, sub, noted, indexed⟩
      cases own.symm.trans noted
      exact indexed
    · exact fun indexed => ⟨z.sid, z.sub, own, indexed⟩
  refine consistent.save (fun key used => ?_) (fun key unused => ?_)
  · rw [indexed_apply, noteSave, if_pos ((uses key).mp used), if_pos ((uses key).mp used)]
    exact ⟨rfl, rfl⟩
  · have other := fun indexed => unused ((uses key).mpr indexed)
    rw [indexed_apply, noteSave, if_neg other, if_neg other]
    exact ⟨rfl, rfl⟩

/-- A session whose `sid` no other one has taken can be ended. -/
theorem index_end (consistent : SecondaryIndex.Consistent (Uses keys) now entries index last)
    {z : Session} (free : ∀ text, z.sid = some text →
      SecondaryIndex.Free now entries last (Session.keyText z.uuid) text) :
    SecondaryIndex.Consistent (Uses keys) now
      (Function.update entries (Session.keyText z.uuid) none)
      (Session.unindexed now index z) last := by
  have erased := consistent.erase (Session.keyText z.uuid)
  have first : SecondaryIndex.Consistent (Uses keys) now
      (Function.update entries (Session.keyText z.uuid) none)
      (Session.unindexedSid index z) last := by
    unfold Session.unindexedSid
    split
    · exact erased
    · next sid indexed => exact erased.unindex (free sid indexed).unused
  unfold Session.unindexed Session.unindexedSub
  split
  · exact first
  · next sub indexed =>
      split
      · next unknown => exact first.unindex (first.unused_of_unknown unknown)
      · next uuid found =>
          split
          · next own =>
              obtain ⟨expires, points, -⟩ := ExpiringMap.live_eq_some found
              refine first.unindex (SecondaryIndex.Free.unused fun other saved => .inl ?_)
              cases saved.symm.trans (first.pointing _ _ _ points)
              rw [← own]
              rfl
          · exact first

/-- The key that a logout asks for, and further keys that no other session has taken, can be deleted
with the session that the logout finds. -/
theorem index_logout (consistent : SecondaryIndex.Consistent (Uses keys) now entries index last)
    {key uuid : String} (found : ExpiringMap.live now (index key) = some uuid) :
    SecondaryIndex.Consistent (Uses keys) now (Function.update entries uuid none)
      (without index (some key)) last := by
  obtain ⟨expires, points, -⟩ := ExpiringMap.live_eq_some found
  refine (consistent.erase uuid).unindex (SecondaryIndex.Free.unused fun other saved => .inl ?_)
  cases saved.symm.trans (consistent.pointing _ _ _ points)
  rfl

theorem index_without {uuid : String} {key : Option String}
    (consistent : SecondaryIndex.Consistent (Uses keys) now
    (Function.update entries uuid none) index last)
    (free : ∀ text, key = some text → SecondaryIndex.Free now entries last uuid text) :
    SecondaryIndex.Consistent (Uses keys) now (Function.update entries uuid none)
      (without index key) last := by
  cases key with
  | none => exact consistent
  | some text => exact consistent.unindex (free text rfl).unused

end Index

/-! ## One act -/

variable {settings : Settings} {clock : Int} {host : Host ι}

/-- A session is stored as it was saved. -/
theorem Noted.save {keys : Keys} {entries : Session.Section} (noted : Noted settings keys entries)
    (faithful : settings.codec.Faithful) {z : Session} (registered : Registered keys z)
    {state : Object}
    (held : z.state = some state) {text : String}
    (encoded : settings.codec.jsonEncode (Session.savedState z state) = some text) :
    Noted settings keys
      (Function.update entries (Session.keyText z.uuid) (some (text, z.expiry))) := by
  intro uuid text' expires found
  by_cases same : uuid = Session.keyText z.uuid
  · rw [same, Function.update_self] at found
    cases found
    refine ⟨_, faithful.decode_saved settings.session encoded, ?_⟩
    obtain ⟨own, identified, agreed⟩ := registered.own
    obtain ⟨sid, sub⟩ := registered.getString_savedState held
    rw [same, identified, sid, sub]
    exact agreed
  · rw [Function.update_of_ne same] at found
    exact noted uuid text' expires found

theorem Noted.erase {keys : Keys} {entries : Session.Section} (noted : Noted settings keys entries)
    (id : String) : Noted settings keys (Function.update entries id none) := by
  intro uuid text expires found
  by_cases same : uuid = id
  · rw [same, Function.update_self] at found
    cases found
  · rw [Function.update_of_ne same] at found
    exact noted uuid text expires found

theorem Kept.later (kept : host.Kept settings clock) {now : Int} (passes : clock ≤ now) :
    host.Kept settings now :=
  ⟨kept.index.later passes, kept.noted, kept.copies⟩

/-- The caches after a request has ended its session, if no other one has taken its `sid`. -/
theorem Kept.ended (kept : host.Kept settings clock) {z : Session}
    (latest : host.Latest clock (Session.keyText z.uuid) z.sid) {caches : Session.Caches}
    (after : caches =
      { session := Function.update host.caches.session (Session.keyText z.uuid) none
        sid := Session.unindexed clock host.caches.sid z }) :
    SecondaryIndex.Consistent (Uses host.keys) clock caches.session caches.sid host.last ∧
      Noted settings host.keys caches.session := by
  subst after
  exact ⟨index_end kept.index latest, kept.noted.erase _⟩

variable [DecidableEq ι]

/-- A move keeps the keys of all copies. -/
theorem Kept.move_copies (kept : host.Kept settings clock)
    (kind : settings.session.sessionType = .serverCache) {move : Move ι}
    (answers : move.request.cacheAnswers = true) (i : ι) {copy : Copy}
    (after : (host.system.step settings move).copies i = some copy)
    (loaded : copy.session.state ≠ none) : Registered host.keys copy.session := by
  rcases System.step_copies_of after with same | ⟨request, rfl, read, -⟩ | ⟨before, works, held, rfl⟩
  · exact kept.copies i copy same loaded
  · rw [read] at loaded ⊢
    rcases Session.loadFromCache_cases settings.codec kind answers host.system.world with
      ⟨-, empty⟩ | ⟨uuid, text, state, -, live, decoded, own, found⟩ | ⟨_, -, empty⟩
    · exact absurd empty loaded
    · obtain ⟨expires, stored, -⟩ := ExpiringMap.live_eq_some live
      obtain ⟨state', decoded', agreed⟩ := kept.noted uuid text expires stored
      cases decoded.symm.trans decoded'
      exact found ▸ Registered.restored own agreed
    · exact absurd empty loaded
  · cases move with
    | load j request => cases works
    | refresh j request provider grant =>
        rcases ran : refreshTokenGrant settings request provider grant
          ⟨before.session, host.system.world, []⟩ with ⟨rc, x⟩
        cases rc with
        | false =>
            obtain ⟨writes, -, rfl⟩ := refreshTokenGrant_false ran
            simp only [Move.worked, ran] at loaded ⊢
            exact kept.copies i before held loaded
        | true =>
            obtain ⟨-, present, written⟩ := refreshTokenGrant_frame ran
            simp only [Move.worked, ran]
            exact (kept.copies i before held present).writes written (by decide) (by decide)
    | extend j request =>
        refine (kept.copies i before held fun empty => loaded ?_).extended settings request
        exact (sessionPassTokens_frame settings request true false before.session).2.2 empty
    | save j request =>
        change request.cacheAnswers = true at answers
        rw [Move.worked] at loaded ⊢
        cases present : before.session.state with
        | none =>
            rw [(Session.save_caches_none settings.codec kind answers host.system.world present
              false).2] at loaded
            exact absurd present loaded
        | some state =>
            rw [(Session.save_caches settings.codec kind answers host.system.world present false).2]
            exact (kept.copies i before held (by simp [present])).saved present
    | kill j request =>
        change request.cacheAnswers = true at answers
        rw [Move.worked, (Session.kill_caches settings.codec kind answers host.system.world
          before.session).2] at loaded
        exact absurd rfl loaded
    | logout request sid issuer => cases works

/-- What a move does to the caches keeps the index consistent. -/
theorem Kept.move_caches (kept : host.Kept settings clock) (faithful : settings.codec.Faithful)
    (kind : settings.session.sessionType = .serverCache) {move : Move ι} {before : Int}
    (granted : host.Granted settings before (.move move)) (same : clock = move.request.now)
    (orderly : Orderly settings host (.move move)) :
    SecondaryIndex.Consistent (Uses host.keys) clock
        (host.system.step settings move).world.caches.session
        (host.system.step settings move).world.caches.sid
        ((host.saving move).elim host.last (noteSave host.last)) ∧
      Noted settings host.keys (host.system.step settings move).world.caches.session := by
  have answers : move.request.cacheAnswers = true := granted.answers
  have unchanged {caches : Session.Caches} (after : caches = host.caches) :
      SecondaryIndex.Consistent (Uses host.keys) clock caches.session caches.sid host.last ∧
        Noted settings host.keys caches.session := by
    subst after
    exact ⟨kept.index, kept.noted⟩
  cases move with
  | load j request =>
      rcases Session.loadFromCache_cases settings.codec kind answers host.system.world with
        ⟨after, -⟩ | ⟨_, _, _, after, -⟩ | ⟨uuid, after, -⟩
      · exact unchanged after
      · exact unchanged after
      · have caches : (host.system.step settings (.load j request)).world.caches = _ := after
        rw [caches]
        exact ⟨kept.index.erase uuid, kept.noted.erase uuid⟩
  | refresh j request provider grant =>
      apply unchanged
      rw [System.step]
      split
      · rfl
      · split
        · next ran =>
            obtain ⟨writes, -, rfl⟩ := refreshTokenGrant_false ran
            rfl
        · next ran => exact congrArg Session.World.caches (refreshTokenGrant_frame ran).1
  | extend j request =>
      apply unchanged
      rw [System.step]
      split <;> rfl
  | save j request =>
      change request.cacheAnswers = true at answers
      cases held : host.system.copies j with
      | none =>
          simp only [System.step, saving, held]
          exact unchanged rfl
      | some copy =>
          cases present : copy.session.state with
          | none =>
              have latest := orderly copy held present
              simp only [System.step, saving, held, Option.map_some, Option.filter_some, present,
                Option.isSome_none, Bool.false_eq_true, if_false, Option.elim_none]
              change clock = request.now at same
              subst same
              exact kept.ended latest
                (Session.save_caches_none settings.codec kind answers host.system.world
                    present false).1
          | some state =>
              have saving : host.saving (.save j request) = some copy.session := by
                simp [saving, held, present]
              have registered := kept.copies j copy held (by simp [present])
              obtain ⟨text, encoded⟩ := Option.isSome_iff_exists.mp
                (granted.saveEncoded _ _ state rfl saving present)
              simp only [saving, Option.elim_some, System.step, held, System.setCopy,
                (Session.save_caches settings.codec kind answers host.system.world present false).1,
                encoded]
              exact ⟨index_save kept.index registered text,
                kept.noted.save faithful registered present encoded⟩
  | kill j request =>
      change request.cacheAnswers = true at answers
      cases held : host.system.copies j with
      | none =>
          simp only [System.step, saving, held]
          exact unchanged rfl
      | some copy =>
          have latest := orderly copy held
          simp only [System.step, saving, held, Option.elim_none]
          change clock = request.now at same
          subst same
          exact kept.ended latest
            (Session.kill_caches settings.codec kind answers host.system.world copy.session).1
  | logout request sid issuer =>
      change request.cacheAnswers = true at answers
      change clock = request.now at same
      subst same
      have after := logoutCleanupBySid_caches kind answers host.system.world sid issuer
      simp only [System.step, saving, Option.elim_none]
      split at after
      · exact unchanged after
      · next uuid found =>
          obtain ⟨sessions, index | ⟨text, state, live, decoded, own, index⟩⟩ := after
          · rw [sessions, index]
            exact ⟨index_logout kept.index found, kept.noted.erase uuid⟩
          · obtain ⟨first, second⟩ := orderly uuid text state found live decoded
            rw [sessions, index]
            exact ⟨index_without (index_without (index_logout kept.index found) first) second,
              kept.noted.erase uuid⟩

/-- New keys for a new identifier leave the others alone. -/
theorem keys_update {keys : Keys} {id uuid : String} {own other : Option String × Option String}
    (fresh : keys id = none) (known : keys uuid = some other) :
    Function.update keys id (some own) uuid = some other := by
  rw [Function.update_of_ne, known]
  intro same
  rw [same, fresh] at known
  cases known

/-- The cache after the reset of a session at login. -/
theorem resetWorld_caches {request : Session.Request} (answers : request.cacheAnswers = true)
    (world : Session.World) (prior : Session) :
    (resetWorld request world prior).caches = world.caches ∨
      (resetWorld request world prior).caches =
        { world.caches with
          session := Function.update world.caches.session (Session.keyText prior.uuid) none } := by
  unfold resetWorld
  split
  · rw [Session.cacheSetSession_caches answers]
    exact .inr rfl
  · exact .inl rfl

/-- A login keeps the index consistent. -/
theorem Kept.login (kept : host.Kept settings clock) (faithful : settings.codec.Faithful)
    (kind : settings.session.sessionType = .serverCache) {i : ι} {request : Session.Request}
    {provider : Provider} {protoState : Object} {login : LoginData} {before : Int}
    (granted : host.Granted settings before (.login i request provider protoState login)) :
    (host.step settings (.login i request provider protoState login)).Kept settings clock := by
  have answers : request.cacheAnswers = true := granted.answers
  cases held : host.system.copies i with
  | none =>
      simp only [step, held]
      exact kept
  | some copy =>
      obtain ⟨state, shape, noSid, noSub⟩ :=
        loginSession_keys settings request provider protoState login copy.session
      have present : (loginSession settings request provider protoState login copy.session).state =
          some state := by rw [shape]
      obtain ⟨text, encoded⟩ := Option.isSome_iff_exists.mp
        (granted.loginEncoded i request provider protoState login copy state rfl held present)
      have fresh := granted.fresh i request provider protoState login rfl
      have identified : (loginSession settings request provider protoState login
        copy.session).uuid =
          some request.freshId := by rw [shape]
      have missingSid : (loginSession settings request provider protoState login
        copy.session).getText
          "sid" = none := by
        rw [shape]
        exact noSid
      have missingSub : (loginSession settings request provider protoState login
        copy.session).getText
          "sub" = none := by
        rw [shape]
        exact noSub
      simp only [step, held]
      generalize loginSession settings request provider protoState login copy.session = z
        at present encoded identified missingSid missingSub ⊢
      have named : Session.keyText z.uuid = request.freshId := by
        rw [identified]
        rfl
      rw [named]
      have registered : Registered
        (Function.update host.keys request.freshId (some (z.sid, z.sub))) z :=
        ⟨⟨_, identified, Function.update_self ..⟩, .inl missingSid, .inl missingSub⟩
      have assigned : SecondaryIndex.Consistent
          (Uses (Function.update host.keys request.freshId (some (z.sid, z.sub)))) clock
          host.caches.session host.caches.sid host.last := by
        apply kept.index.assign
        rintro key id - ⟨sid, sub, known, indexed⟩
        exact ⟨sid, sub, keys_update fresh known, indexed⟩
      have noted : Noted settings (Function.update host.keys request.freshId (some (z.sid, z.sub)))
          host.caches.session := by
        intro uuid text expires stored
        obtain ⟨state, decoded, known⟩ := kept.noted uuid text expires stored
        exact ⟨state, decoded, keys_update fresh known⟩
      have reset : SecondaryIndex.Consistent
            (Uses (Function.update host.keys request.freshId (some (z.sid, z.sub)))) clock
            (resetWorld request host.system.world copy.session).caches.session
            (resetWorld request host.system.world copy.session).caches.sid host.last ∧
          Noted settings (Function.update host.keys request.freshId (some (z.sid, z.sub)))
            (resetWorld request host.system.world copy.session).caches.session := by
        rcases resetWorld_caches answers host.system.world copy.session with caches | caches
        · rw [caches]
          exact ⟨assigned, noted⟩
        · rw [caches]
          exact ⟨assigned.erase _, noted.erase _⟩
      obtain ⟨caches, saved⟩ := Session.save_caches settings.codec kind answers
        (resetWorld request host.system.world copy.session) present true
      rw [encoded] at caches
      refine ⟨?_, ?_, fun j other after loaded => ?_⟩
      · simp only [Host.caches, System.setCopy, caches]
        exact index_save reset.1 registered text
      · simp only [Host.caches, System.setCopy, caches]
        exact reset.2.save faithful registered present encoded
      · rw [System.setCopy_copies] at after
        split at after
        · cases after
          dsimp only
          rw [saved]
          exact registered.saved present
        · obtain ⟨⟨uuid, own, known⟩, sid, sub⟩ := kept.copies j other after loaded
          exact ⟨⟨uuid, own, keys_update fresh known⟩, sid, sub⟩

/-- An act that meets the condition keeps the index consistent. -/
theorem Kept.step (kept : host.Kept settings clock) (faithful : settings.codec.Faithful)
    (kind : settings.session.sessionType = .serverCache) {act : HostAct ι}
    (granted : host.Granted settings clock act) (orderly : Orderly settings host act) :
    (host.step settings act).Kept settings act.request.now := by
  have now := kept.later granted.later
  cases act with
  | login i request provider protoState login => exact now.login faithful kind granted
  | move move =>
      obtain ⟨index, noted⟩ := now.move_caches faithful kind granted rfl orderly
      exact ⟨index, noted, fun i copy => now.move_copies kind granted.answers i⟩

/-- What every host keeps whose acts have met the condition. -/
theorem Reachable.kept (faithful : settings.codec.Faithful)
    (kind : settings.session.sessionType = .serverCache)
    (reached : Reachable settings (Orderly settings) clock host) : host.Kept settings clock := by
  induction reached with
  | start => exact start_kept settings
  | step reached act granted met ih => exact ih.step faithful kind granted met

/-- In every run whose acts meet the condition, the index leads to the last session that was saved
under a key for as long as this session is there. -/
theorem indexed_of_orderly (faithful : settings.codec.Faithful)
    (kind : settings.session.sessionType = .serverCache)
    (reached : Reachable settings (Orderly settings) clock host) {now : Int} (later : clock ≤ now) :
    host.Indexed now := by
  intro key uuid text saved present
  exact ((reached.kept faithful kind).index.later later).live saved present

/-! ## Two sessions of one user -/

theorem userNow_nonneg : (0 : Int) ≤ 1000000000 := by decide

/-- A request without a session, at second 1000. -/
def userRequest (freshId : String) : Session.Request where
  cookies := none
  now := 1000000000
  now_nonneg := userNow_nonneg
  freshId := freshId

/-- The provider of the user. -/
def userProvider : Provider where
  issuer := "https://op"
  clientId := "client"
  idtokenIatSlack_nonneg := defaultIatSlack_nonneg

/-- A login with an id_token that has no `sid`. -/
def userLogin : LoginData where
  remoteUser := "alice"
  idToken := none
  jwt := { alg := none, claims := [("sub", .str "alice")] }
  userinfo := {}
  accessToken := none
  tokenType := none
  expiresIn := -1
  refreshToken := none
  scope := none
  sessionState := none
  state := none
  originalUrl := none

/-- The session of a login, as it is saved. -/
def userState (freshId : String) : Object :=
  let z := loginSession (Settings.bare (Session.Codec.ofTable []))
    (userRequest freshId) userProvider []
    userLogin {}
  Session.savedState z (z.state.getD [])

/-- A server for two such sessions. -/
def userSettings : Settings :=
  Settings.bare (Session.Codec.ofTable [(userState "a", "first"), (userState "b", "second")])

/-- The user logs in with one browser and then with another. -/
def userLogins : List (HostAct Bool) :=
  [.move (.load false (userRequest "x")), .login false (userRequest "a") userProvider [] userLogin,
    .move (.load true (userRequest "y")), .login true (userRequest "b") userProvider [] userLogin]

/-- The host afterwards. -/
def userHost : Host Bool := userLogins.foldl (step userSettings) start

/-- A login of the user meets what is taken for granted, if its identifier is new. -/
theorem userLogin_granted {host : Host Bool} {clock : Int} (i : Bool) (freshId : String)
    (later : clock ≤ 1000000000) (fresh : host.keys freshId = none)
    (encoded : (userSettings.codec.jsonEncode (userState freshId)).isSome = true) :
    host.Granted userSettings clock (.login i (userRequest freshId) userProvider [] userLogin) where
  answers := rfl
  later := later
  fresh _ _ _ _ _ same := by
    cases same
    exact fresh
  loginEncoded _ _ _ _ _ copy state same _ present := by
    cases same
    have saved : userState freshId = Session.savedState
      (loginSession userSettings (userRequest freshId)
        userProvider [] userLogin copy.session) state := by
      have opened : (loginSession userSettings (userRequest freshId) userProvider [] userLogin
          copy.session).state.getD [] = state := by rw [present, Option.getD_some]
      rw [← opened]
      rfl
    exact saved ▸ encoded
  saveEncoded _ _ _ same := by cases same

/-- So does a load. -/
theorem userLoad_granted {host : Host Bool} {clock : Int} (i : Bool) (freshId : String)
    (later : clock ≤ 1000000000) :
    host.Granted userSettings clock (.move (.load i (userRequest freshId))) where
  answers := rfl
  later := later
  fresh _ _ _ _ _ same := by cases same
  loginEncoded _ _ _ _ _ _ _ same := by cases same
  saveEncoded _ _ _ same saving := by
    cases same
    cases saving

/-- The logins happen under any condition that allows logins and loads. -/
theorem userHost_reachable {condition : Host Bool → HostAct Bool → Prop}
    (loads : ∀ host i request, condition host (.move (.load i request)))
    (logins : ∀ host i request provider protoState login,
      condition host (.login i request provider protoState login)) :
    Reachable userSettings condition 1000000000 userHost := by
  have first := (Reachable.start.step _ (userLoad_granted false "x" (by decide))
    (loads _ _ _)).step _
    (userLogin_granted false "a" (by decide) (by decide +kernel) (by decide +kernel))
    (logins _ _ _ _ _ _)
  exact (first.step _ (userLoad_granted true "y" (by decide)) (loads _ _ _)).step _
    (userLogin_granted true "b" (by decide) (by decide +kernel) (by decide +kernel))
    (logins _ _ _ _ _ _)

/-- After the two logins the index leads to the second session. -/
theorem indexed_of_orderly_logins : userHost.Indexed 1000000000 :=
  indexed_of_orderly (Session.Codec.faithful_ofTable (by decide)) rfl
    (userHost_reachable (fun _ _ _ => trivial) fun _ _ _ _ _ _ => trivial) (le_refl _)

/-- When the first browser logs out, the second session is not indexed any more. -/
theorem index_lost : ∃ host : Host Bool,
    Reachable userSettings (fun _ _ => True) 1000000000 host ∧
      host.last "alice@https://op" = some "b" ∧
      ExpiringMap.live 1000000000 (host.caches.session "b") = some "second" ∧
      ExpiringMap.live 1000000000 (host.caches.sid "alice@https://op") = none ∧
      ¬host.Indexed 1000000000 := by
  refine ⟨userHost.step userSettings (.move (.kill false (userRequest "z"))), ?_, by decide +kernel,
    by decide +kernel, by decide +kernel, fun indexed => ?_⟩
  · have reached : Reachable userSettings (fun _ _ => True) 1000000000 userHost :=
      userHost_reachable (fun _ _ _ => trivial) fun _ _ _ _ _ _ => trivial
    refine reached.step (.move (.kill false (userRequest "z"))) ⟨rfl, le_refl _, ?_, ?_, ?_⟩ trivial
    · intro _ _ _ _ _ same
      cases same
    · intro _ _ _ _ _ _ _ same
      cases same
    · intro _ _ _ same saving
      cases same
      cases saving
  · have found := indexed "alice@https://op" "b" "second" (by decide +kernel) (by decide +kernel)
    exact absurd found (by decide +kernel)

end Host

end Handle

end ModAuthOpenidc
