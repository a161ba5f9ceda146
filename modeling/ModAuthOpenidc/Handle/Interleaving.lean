import ModAuthOpenidc.Handle.Sharing

/-!
# Interleaved requests on one session

Two consequences of saving without looking at what is stored. The tokens of a session move forward
along the chain of refreshes as long as whoever saves has held the stored tokens itself; a request
that saves an older copy puts spent tokens back. A session that has been ended stays ended as long
as nobody saves a copy from before.
-/

namespace ModAuthOpenidc

namespace Handle

open Proto

variable {ι : Type} [DecidableEq ι] {settings : Settings}

/-- The cache answers every request of a run. -/
def Answering (moves : List (Move ι)) : Prop :=
  ∀ move ∈ moves, move.request.cacheAnswers = true

instance (moves : List (Move ι)) : Decidable (Answering moves) :=
  inferInstanceAs (Decidable (∀ move ∈ moves, move.request.cacheAnswers = true))

/-! ## The rotation chain -/

namespace System

variable {system : System ι} {uuid : String} {moves : List (Move ι)}

/-- The tokens that are stored for a session. -/
def storedTokens (settings : Settings) (system : System ι) (uuid : String) : Option TokenPair :=
  (Session.stored settings.codec settings.session system.world.caches uuid).map stateTokens

/-- Tokens follow others along the refreshes that were granted. -/
def Forward (system : System ι) : TokenPair → TokenPair → Prop :=
  Relation.ReflTransGen fun before after => (before, after) ∈ system.rotations

/-- What each copy holds has come from the tokens it held before. -/
def Traced (system : System ι) : Prop :=
  ∀ i copy, system.copies i = some copy → copy.session.state ≠ none →
    ∀ tokens ∈ copy.held, system.Forward tokens (sessionTokens copy.session)

/-- A save of the session is made by a request that has held the tokens it replaces. -/
def saveSeen (settings : Settings) (system : System ι) (uuid : String) : Move ι → Bool
  | .save i _ =>
      (system.copies i).all fun copy =>
        copy.session.state.isNone || Session.keyText copy.session.uuid ≠ uuid ||
          system.storedTokens settings uuid ∈ copy.held.map some
  | _ => true

/-- All saves of a run are. -/
def savesSeen (settings : Settings) (uuid : String) : System ι → List (Move ι) → Bool
  | _, [] => true
  | system, move :: moves =>
      saveSeen settings system uuid move &&
        savesSeen settings uuid (system.step settings move) moves

theorem Forward.step {before after : TokenPair} (forward : system.Forward before after)
    (settings : Settings) (move : Move ι) :
    (system.step settings move).Forward before after :=
  Relation.ReflTransGen.mono (fun _ _ member => step_rotations settings system move member) _ _
    forward

theorem Forward.run {before after : TokenPair} (forward : system.Forward before after)
    (settings : Settings) (moves : List (Move ι)) :
    (system.run settings moves).Forward before after := by
  induction moves generalizing system with
  | nil => exact forward
  | cons move rest ih => exact ih (forward.step settings move)

/-- Copies stay traced. -/
theorem Traced.step (traced : system.Traced) (kind : settings.session.sessionType = .serverCache)
    {move : Move ι} (answers : move.request.cacheAnswers = true) :
    (system.step settings move).Traced := by
  intro i copy' after loaded' tokens member
  rcases step_copies kind answers i after with same | ⟨request, -, -, held⟩ | ⟨copy, before, worked⟩
  · exact (traced i copy' same loaded' tokens member).step settings move
  · rw [held] at member
    rw [List.mem_singleton.mp member]
    exact .refl
  · cases worked with
    | ended empty => exact absurd empty loaded'
    | kept loaded uuid same held =>
        rw [held] at member
        rw [same]
        exact (traced i copy before loaded tokens member).step settings move
    | rotated loaded uuid rotation held =>
        rw [held] at member
        rcases List.mem_cons.mp member with rfl | member
        · exact .refl
        · exact ((traced i copy before loaded tokens member).step settings move).tail rotation

/-- A save stores the tokens of the copy. -/
theorem stateTokens_savedState {z : Session} {state : Object} (held : z.state = some state) :
    stateTokens (Session.savedState z state) = sessionTokens z := by
  have tokens := sessionTokens_savedState z held
  rw [← tokens]
  rfl

/-- One move takes the stored tokens forward, if a save is made by a request that has held them. -/
theorem step_forward (faithful : settings.codec.Faithful)
    (kind : settings.session.sessionType = .serverCache) (traced : system.Traced) {move : Move ι}
    (answers : move.request.cacheAnswers = true)
    (seen : saveSeen settings system uuid move = true) {after : TokenPair}
    (stored : (system.step settings move).storedTokens settings uuid = some after) :
    ∃ before, system.storedTokens settings uuid = some before ∧ system.Forward before after := by
  rcases step_entry kind answers uuid with
    same | gone | ⟨i, request, copy, state, text, saves, held, own, loaded, encoded, entry⟩
  · refine ⟨after, ?_, .refl⟩
    rw [storedTokens, Session.stored, ← same]
    exact stored
  · rw [storedTokens, Session.stored, gone] at stored
    cases stored
  · have present : copy.session.state ≠ none := by
      rw [loaded]
      exact Option.some_ne_none state
    obtain ⟨before, member, found⟩ : ∃ before ∈ copy.held,
        some before = system.storedTokens settings uuid := by
      simpa [saves, saveSeen, held, loaded, own] using seen
    refine ⟨before, found.symm, ?_⟩
    rw [storedTokens, Session.stored, entry, Option.bind_some,
      faithful.decode_saved settings.session encoded, Option.map_some,
      stateTokens_savedState loaded] at stored
    rw [← Option.some.inj stored]
    exact traced i copy held present before member

theorem Traced.run (traced : system.Traced) (kind : settings.session.sessionType = .serverCache)
    (answers : Answering moves) : (system.run settings moves).Traced := by
  induction moves generalizing system with
  | nil => exact traced
  | cons move rest ih =>
      exact ih (traced.step kind (answers move List.mem_cons_self))
        fun next member => answers next (List.mem_cons_of_mem move member)

theorem savesSeen_append {first second : List (Move ι)}
    (seen : savesSeen settings uuid system (first ++ second) = true) :
    savesSeen settings uuid system first = true ∧
      savesSeen settings uuid (system.run settings first) second = true := by
  induction first generalizing system with
  | nil => exact ⟨rfl, seen⟩
  | cons move rest ih =>
      rw [List.cons_append, savesSeen, Bool.and_eq_true] at seen
      obtain ⟨early, late⟩ := ih seen.2
      refine ⟨?_, late⟩
      rw [savesSeen, Bool.and_eq_true]
      exact ⟨seen.1, early⟩

omit [DecidableEq ι] in
theorem start_traced (world : Session.World) : (start world : System ι).Traced := by
  intro i copy held
  cases held

/-- Over a run of such saves the stored tokens move forward. -/
theorem run_forward (faithful : settings.codec.Faithful)
    (kind : settings.session.sessionType = .serverCache) (traced : system.Traced)
    (answers : Answering moves) (seen : savesSeen settings uuid system moves = true)
    {after : TokenPair}
    (stored : (system.run settings moves).storedTokens settings uuid = some after) :
    ∃ before, system.storedTokens settings uuid = some before ∧
      (system.run settings moves).Forward before after := by
  induction moves generalizing system with
  | nil => exact ⟨after, stored, .refl⟩
  | cons move rest ih =>
      have answered := answers move List.mem_cons_self
      rw [savesSeen, Bool.and_eq_true] at seen
      obtain ⟨middle, found, forward⟩ := ih (traced.step kind answered)
        (fun next member => answers next (List.mem_cons_of_mem move member)) seen.2 stored
      obtain ⟨before, start, moved⟩ := step_forward faithful kind traced answered seen.1 found
      exact ⟨before, start, ((moved.step settings move).run settings rest).trans forward⟩

end System

/-- The stored tokens of a session only move forward along the chain of refreshes, as long as every
save is made by a request that has held the tokens which it replaces: it has loaded them, or its own
refresh has obtained them. If the provider never comes back to earlier tokens, neither does the
session. -/
theorem tokens_move_forward (faithful : settings.codec.Faithful)
    (kind : settings.session.sessionType = .serverCache) (world : Session.World) (uuid : String)
    (first second third : List (Move ι)) (answers : Answering (first ++ second ++ third))
    (seen : System.savesSeen settings uuid (System.start world) (first ++ second ++ third) = true)
    {before between after : TokenPair}
    (initial : ((System.start world).run settings first).storedTokens settings uuid = some before)
    (middle : ((System.start world).run settings (first ++ second)).storedTokens settings uuid =
      some between)
    (final : ((System.start world).run settings (first ++ second ++ third)).storedTokens settings
      uuid = some after) :
    ((System.start world).run settings (first ++ second ++ third)).Forward before between ∧
      ((System.start world).run settings (first ++ second ++ third)).Forward between after ∧
      ((∀ p q, ((System.start world).run settings (first ++ second ++ third)).Forward p q →
          ((System.start world).run settings (first ++ second ++ third)).Forward q p → p = q) →
        between ≠ before → after ≠ before) := by
  obtain ⟨seenEarly, seenThird⟩ := System.savesSeen_append seen
  obtain ⟨seenFirst, seenSecond⟩ := System.savesSeen_append seenEarly
  have answersEarly : Answering (first ++ second) := fun move member =>
    answers move (List.mem_append_left third member)
  have answersFirst : Answering first := fun move member =>
    answersEarly move (List.mem_append_left second member)
  have answersSecond : Answering second := fun move member =>
    answersEarly move (List.mem_append_right first member)
  have answersThird : Answering third := fun move member =>
    answers move (List.mem_append_right _ member)
  have tracedFirst := (System.start_traced world).run kind answersFirst
  have tracedSecond := (System.start_traced world).run kind answersEarly
  rw [System.run_append] at final middle
  obtain ⟨between', found, late⟩ :=
    System.run_forward faithful kind tracedSecond answersThird seenThird final
  obtain ⟨before', start, early⟩ :=
    System.run_forward faithful kind tracedFirst answersSecond seenSecond middle
  obtain rfl := Option.some.inj (initial.symm.trans start)
  rw [System.run_append] at found
  obtain rfl := Option.some.inj (middle.symm.trans found)
  have moved : ((System.start world).run settings (first ++ second ++ third)).Forward before
      between := by
    rw [System.run_append, System.run_append]
    exact early.run settings third
  rw [← System.run_append] at late
  refine ⟨moved, late, fun never different same => different ?_⟩
  subst same
  exact (never _ _ moved late).symm

/-! ### Two requests -/

/-- A session of the example. -/
def sharedState (expiry : Int) (accessToken refreshToken : String) (rest : Object) : Object :=
  [("v", .int 1), ("r", .str "alice"), ("e", .int expiry), ("i", .str "s1"),
    ("at", .str accessToken), ("rt", .str refreshToken)] ++ rest

/-- The members that a refresh adds. -/
def sharedRefreshed : Object := [("att", .str "Bearer"), ("atlr", .int 1000)]

/-- The sessions of the example, as they were stored at login, as they are extended, and after a
refresh, with their JSON texts. -/
def sharedTable : List (Object × String) :=
  [(sharedState 1300 "at0" "rt0" [],
      "\x7b\"v\":1,\"r\":\"alice\",\"e\":1300,\"i\":\"s1\",\"at\":\"at0\",\"rt\":\"rt0\"\x7d"),
    (sharedState 1400 "at0" "rt0" [],
      "\x7b\"v\":1,\"r\":\"alice\",\"e\":1400,\"i\":\"s1\",\"at\":\"at0\",\"rt\":\"rt0\"\x7d"),
    (sharedState 1300 "at1" "rt1" sharedRefreshed,
      "\x7b\"v\":1,\"r\":\"alice\",\"e\":1300,\"i\":\"s1\",\"at\":\"at1\",\"rt\":\"rt1\",\"att\":\"Bearer\",\"atlr\":1000\x7d"),
    (sharedState 1400 "at1" "rt1" sharedRefreshed,
      "\x7b\"v\":1,\"r\":\"alice\",\"e\":1400,\"i\":\"s1\",\"at\":\"at1\",\"rt\":\"rt1\",\"att\":\"Bearer\",\"atlr\":1000\x7d")]

theorem sharedTable_distinct : (sharedTable.map Prod.snd).Nodup := by decide

/-- A server with these sessions. -/
def sharedSettings : Settings := Settings.bare (Session.Codec.ofTable sharedTable)

/-- A request of the browser that has logged in. -/
def sharedRequest (seconds : Nat) : Session.Request where
  cookies := some "mod_auth_openidc_session=s1"
  now := seconds * 1000000
  now_nonneg := seconds_nonneg seconds

/-- The cache after the login. -/
def sharedWorld : Session.World where
  caches :=
    { session := fun key =>
        if key = "s1" then some
            ("\x7b\"v\":1,\"r\":\"alice\",\"e\":1300,\"i\":\"s1\",\"at\":\"at0\",\"rt\":\"rt0\"\x7d", 1300000000) else none
      sid := fun _ => none }

/-- The provider rotates the refresh token. -/
def sharedGrant : GrantAnswers where
  tokenEndpoint := some [("access_token", .str "at1"), ("token_type", .str "Bearer"),
    ("refresh_token", .str "rt1")]

/-- The provider of the example. -/
def sharedProvider : Provider where
  issuer := "https://op"
  clientId := "client"
  idtokenIatSlack_nonneg := defaultIatSlack_nonneg

/-- One request refreshes the tokens and saves them. -/
def sharedRefresh : List (Move Bool) :=
  [.refresh false (sharedRequest 1000) sharedProvider sharedGrant, .save false (sharedRequest 1000)]

/-- The other one extends the session and saves it. -/
def sharedExtend : List (Move Bool) :=
  [.extend true (sharedRequest 1100), .save true (sharedRequest 1100)]

/-- If the other request loads the session after the refresh was saved, it saves the new tokens. -/
theorem tokens_move_forward_serial :
    ((System.start sharedWorld).run sharedSettings
        ([.load false (sharedRequest 1000)] ++ sharedRefresh ++
          .load true (sharedRequest 1100) :: sharedExtend)).storedTokens sharedSettings "s1" =
      some ⟨some "rt1", some "at1"⟩ ∧
    ((System.start sharedWorld).run sharedSettings
        ([.load false (sharedRequest 1000)] ++ sharedRefresh ++
          .load true (sharedRequest 1100) :: sharedExtend)).Forward
      ⟨some "rt0", some "at0"⟩ ⟨some "rt1", some "at1"⟩ := by
  have saved : ((System.start sharedWorld).run sharedSettings
      ([.load false (sharedRequest 1000)] ++ sharedRefresh ++
        .load true (sharedRequest 1100) :: sharedExtend)).storedTokens sharedSettings "s1" =
      some ⟨some "rt1", some "at1"⟩ := by
    decide +kernel
  exact ⟨saved, (tokens_move_forward (Session.Codec.faithful_ofTable sharedTable_distinct) rfl
    sharedWorld "s1" [.load false (sharedRequest 1000)] sharedRefresh
    (.load true (sharedRequest 1100) :: sharedExtend) (by decide +kernel) (by decide +kernel)
    (by decide +kernel) (by decide +kernel) saved).1⟩

/-- The moves of both requests, if the other one loads the session before the refresh. -/
def sharedOverlap : List (Move Bool) :=
  [.load false (sharedRequest 1000),
  .load true (sharedRequest 1000)] ++ sharedRefresh ++ sharedExtend

/-- If the other request loads the session before the refresh, it puts the spent tokens back. -/
theorem spent_tokens_return :
    ((System.start sharedWorld).run sharedSettings (sharedOverlap.take 4)).storedTokens
        sharedSettings "s1" = some ⟨some "rt1", some "at1"⟩ ∧
      ((System.start sharedWorld).run sharedSettings sharedOverlap).storedTokens
          sharedSettings "s1" =
        some ⟨some "rt0", some "at0"⟩ ∧
      ¬((System.start sharedWorld).run sharedSettings sharedOverlap).Forward
        ⟨some "rt1", some "at1"⟩ ⟨some "rt0", some "at0"⟩ := by
  have rotations : ((System.start sharedWorld).run sharedSettings sharedOverlap).rotations =
      [(⟨some "rt0", some "at0"⟩, ⟨some "rt1", some "at1"⟩)] := by
    decide +kernel
  refine ⟨by decide +kernel, by decide +kernel, fun forward => ?_⟩
  rcases forward.cases_head with same | ⟨next, member, -⟩
  · exact absurd same (by decide)
  · rw [rotations, List.mem_singleton] at member
    exact absurd (Prod.mk.inj member).1 (by decide)

/-! ## The end of a session -/

namespace System

variable {system : System ι} {uuid : String} {move : Move ι} {moves : List (Move ι)}

/-- A request holds a copy of the session. -/
def holds (system : System ι) (uuid : String) (i : ι) : Bool :=
  (system.copies i).any fun copy =>
    copy.session.state.isSome && Session.keyText copy.session.uuid = uuid

/-- None of certain requests saves, unless it has loaded a session again. -/
def freshSaves (stale : ι → Bool) : List (Move ι) → Bool
  | [] => true
  | .load i _ :: moves => freshSaves (Function.update stale i false) moves
  | .save i _ :: moves => !stale i && freshSaves stale moves
  | _ :: moves => freshSaves stale moves

/-- A move that ends the session. -/
inductive Ends (settings : Settings) (system : System ι) (uuid : String) : Move ι → Prop
  /-- A request ends the session it holds. -/
  | kill (i : ι) (copy : Copy) (request : Session.Request) (held : system.copies i = some copy)
      (own : Session.keyText copy.session.uuid = uuid) : Ends settings system uuid (.kill i request)
  /-- A load finds the session expired and deletes it. -/
  | expired (i : ι) (request : Session.Request)
      (deleted : (Session.loadFromCache settings.codec settings.session request
        system.world).1.caches.session uuid = none) :
      Ends settings system uuid (.load i request)
  /-- A logout of the provider finds the session in the index. -/
  | logout (request : Session.Request) (sid : Option String) (issuer : String)
      (indexed : ExpiringMap.live request.now
        (system.world.caches.sid (makeSidIssUnique sid issuer)) = some uuid) :
      Ends settings system uuid (.logout request sid issuer)

/-- The entry of an ended session is deleted. -/
theorem Ends.entry (ends : system.Ends settings uuid move)
    (kind : settings.session.sessionType = .serverCache)
    (answers : move.request.cacheAnswers = true) :
    (system.step settings move).world.caches.session uuid = none := by
  cases ends with
  | kill i copy request held own =>
      have deleted := (Session.kill_caches settings.codec kind
        (show request.cacheAnswers = true from answers) system.world copy.session).1
      simp only [step, held, setCopy, deleted, own]
      exact Function.update_self _ _ _
  | expired i request deleted => exact deleted
  | logout request sid issuer indexed =>
      have caches := logoutCleanupBySid_caches kind
        (show request.cacheAnswers = true from answers) system.world sid issuer
      rw [indexed] at caches
      rw [step, caches.1]
      exact Function.update_self _ _ _

/-- Only a load gives a request a copy of a session that it did not hold. -/
theorem step_holds (kind : settings.session.sessionType = .serverCache)
    (answers : move.request.cacheAnswers = true) {i : ι}
    (held : (system.step settings move).holds uuid i = true)
    (working : ∀ request, move ≠ .load i request) : system.holds uuid i = true := by
  obtain ⟨copy', after, loaded', own⟩ : ∃ copy',
      (system.step settings move).copies i = some copy' ∧ copy'.session.state ≠ none ∧
        Session.keyText copy'.session.uuid = uuid := by
    simpa [holds, Option.any_eq_true, Option.isSome_iff_ne_none] using held
  have holding {copy : Copy} (before : system.copies i = some copy)
      (loaded : copy.session.state ≠ none) (same : copy'.session.uuid = copy.session.uuid) :
      system.holds uuid i = true := by
    simpa [holds, before, ← same, own, Option.isSome_iff_ne_none] using loaded
  rcases step_copies kind answers i after with
    before | ⟨request, loads, -, -⟩ | ⟨copy, before, worked⟩
  · exact holding before loaded' rfl
  · exact absurd loads (working request)
  · cases worked with
    | ended empty => exact absurd empty loaded'
    | kept loaded same _ _ => exact holding before loaded same
    | rotated loaded same _ _ => exact holding before loaded same

/-- A load does not find a session that was deleted. -/
theorem step_load_holds (kind : settings.session.sessionType = .serverCache)
    {request : Session.Request} (answers : request.cacheAnswers = true)
    (gone : system.world.caches.session uuid = none) (i : ι) :
    (system.step settings (.load i request)).holds uuid i = false := by
  have copy : (system.step settings (.load i request)).copies i =
      some ⟨(Session.loadFromCache settings.codec settings.session request system.world).2.1,
        [sessionTokens (Session.loadFromCache settings.codec settings.session request
          system.world).2.1]⟩ := by
    rw [step, setCopy_copies, if_pos rfl]
  rw [holds, copy, Option.any_some]
  rcases Session.loadFromCache_cases settings.codec kind answers system.world with
    ⟨-, empty⟩ | ⟨other, text, state, -, live, -, own, restored⟩ | ⟨-, -, empty⟩
  · rw [empty]
    rfl
  · have different : other ≠ uuid := by
      rintro rfl
      rw [gone] at live
      cases live
    rw [restored]
    simp [Session.restored, own, Session.keyText, different]
  · rw [empty]
    rfl

/-- A deleted session stays deleted, unless a request saves the copy that it holds. -/
theorem step_deleted (kind : settings.session.sessionType = .serverCache)
    (answers : move.request.cacheAnswers = true)
    (gone : system.world.caches.session uuid = none)
    (unsaved : ∀ i request, move = .save i request → system.holds uuid i = false) :
    (system.step settings move).world.caches.session uuid = none := by
  rcases step_entry kind answers uuid with
    same | deleted | ⟨i, request, copy, state, text, saves, held, own, loaded, -, -⟩
  · exact same.trans gone
  · exact deleted
  · have holding : system.holds uuid i = true := by simp [holds, held, loaded, own]
    rw [unsaved i request saves] at holding
    cases holding

/-- A session stays deleted while only requests save that do not hold it. -/
theorem run_deleted (kind : settings.session.sessionType = .serverCache) (answers : Answering moves)
    (gone : system.world.caches.session uuid = none) {stale : ι → Bool}
    (covered : ∀ i, system.holds uuid i = true → stale i = true)
    (fresh : freshSaves stale moves = true) :
    (system.run settings moves).world.caches.session uuid = none := by
  induction moves generalizing system stale with
  | nil => exact gone
  | cons move rest ih =>
      have answered := answers move List.mem_cons_self
      have answersRest : Answering rest := fun next member =>
        answers next (List.mem_cons_of_mem move member)
      have kept (unsaved : ∀ i request, move = .save i request → system.holds uuid i = false) :=
        step_deleted kind answered gone unsaved
      cases move with
      | load i request =>
          refine ih answersRest (kept fun _ _ saves => by cases saves) ?_ fresh
          intro j held
          by_cases same : j = i
          · have released := step_load_holds kind answered gone i
            rw [same] at held
            cases held.symm.trans released
          · rw [Function.update_of_ne same]
            exact covered j (step_holds kind answered held
              fun _ loads => by cases loads; exact same rfl)
      | save i request =>
          rw [freshSaves, Bool.and_eq_true, Bool.not_eq_true'] at fresh
          refine ih answersRest (kept ?_) (fun j held => covered j (step_holds kind answered held
            fun _ loads => by cases loads)) fresh.2
          intro j request saves
          cases saves
          exact Bool.eq_false_iff.mpr fun held => by
            rw [covered i held] at fresh
            cases fresh.1
      | refresh i request provider grant =>
          exact ih answersRest (kept fun _ _ saves => by cases saves)
            (fun j held => covered j (step_holds kind answered held fun _ loads => by cases loads))
            fresh
      | extend i request =>
          exact ih answersRest (kept fun _ _ saves => by cases saves)
            (fun j held => covered j (step_holds kind answered held fun _ loads => by cases loads))
            fresh
      | kill i request =>
          exact ih answersRest (kept fun _ _ saves => by cases saves)
            (fun j held => covered j (step_holds kind answered held fun _ loads => by cases loads))
            fresh
      | logout request sid issuer =>
          exact ih answersRest (kept fun _ _ saves => by cases saves)
            (fun j held => covered j (step_holds kind answered held fun _ loads => by cases loads))
            fresh

end System

/-- Once a session has been ended, it cannot be loaded any more, as long as no request that had
loaded it before saves its copy. -/
theorem ended_stays_ended (kind : settings.session.sessionType = .serverCache) (system : System ι)
    (move : Move ι) (moves : List (Move ι)) (answers : Answering (move :: moves)) {uuid : String}
    (ends : system.Ends settings uuid move)
    (fresh : System.freshSaves ((system.step settings move).holds uuid) moves = true)
    (request : Session.Request) :
    (Session.loadCacheByUuid settings.codec settings.session request
      (system.run settings (move :: moves)).world uuid {}).2.1.state = none := by
  have gone := System.run_deleted kind
    (fun next member => answers next (List.mem_cons_of_mem _ member))
    (ends.entry kind (answers move List.mem_cons_self)) (fun _ held => held) fresh
  rw [System.run_cons]
  unfold Session.loadCacheByUuid Session.cacheGetSession
  cases request.cacheAnswers with
  | false => rfl
  | true =>
      simp only [Session.keyText, Option.getD_some, gone]
      rfl

/-- After a logout of one request, another one finds nothing; what it saves is nothing. -/
theorem ended_stays_ended_later :
    (Session.loadCacheByUuid sharedSettings.codec sharedSettings.session (sharedRequest 1100)
      (((System.start sharedWorld).run sharedSettings [.load false (sharedRequest 1000)]).run
        sharedSettings [.kill false (sharedRequest 1000), .load true (sharedRequest 1100),
          .save true (sharedRequest 1100)]).world "s1" {}).2.1.state = none :=
  ended_stays_ended rfl _ _ _ (by decide +kernel)
    (.kill false
      ⟨Session.restored (sharedState 1300 "at0" "rt0" []), [⟨some "rt0", some "at0"⟩]⟩ _ rfl rfl)
    (by decide +kernel) _

/-- A request that has loaded the session before the logout brings it back. -/
theorem saved_after_end :
    (Session.loadCacheByUuid sharedSettings.codec sharedSettings.session (sharedRequest 1100)
      ((System.start sharedWorld).run sharedSettings
        [.load false (sharedRequest 1000), .load true (sharedRequest 1000),
          .kill false (sharedRequest 1000)]).world "s1" {}).2.1.state = none ∧
    (Session.loadCacheByUuid sharedSettings.codec sharedSettings.session (sharedRequest 1100)
      ((System.start sharedWorld).run sharedSettings
        [.load false (sharedRequest 1000), .load true (sharedRequest 1000),
          .kill false (sharedRequest 1000), .save true (sharedRequest 1100)]).world "s1"
      {}).2.1.state = some (sharedState 1300 "at0" "rt0" []) := by
  decide +kernel

end Handle

end ModAuthOpenidc
