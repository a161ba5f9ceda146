import ModAuthOpenidc.Session.Caches
import ModAuthOpenidc.Session.Logout

/-!
# Loading what was saved

In server-cache mode a session travels through two members of the cache entry: the text of its
state, and the time at which the entry expires. The state holds the expiry once more, in whole
seconds, and a load checks both.
-/

namespace ModAuthOpenidc

namespace Session

open Http

variable {codec : Codec} {cfg : Config}

/-! ## The members of a saved state -/

/-- A session under an identifier, whose state holds no index keys or expiry that the session does
not have. -/
structure Savable (z : ModAuthOpenidc.Session) (state : Object) (uuid : String) : Prop where
  held : z.state = some state
  named : z.uuid = some uuid
  sid : z.sid = none → state.getString "sid" = none
  sub : z.sub = none → state.getString "sub" = none
  expiry : z.expiry ≤ -1 → state.get "e" = none

/-- The expiry that is read back: whole seconds, up to the largest `apr_time_t`. -/
def savedExpiry (z : ModAuthOpenidc.Session) : Int :=
  if z.expiry ≤ -1 then -1 else aprTimeFromSec (z.expiry / 1000000)

section Saved

variable {z : ModAuthOpenidc.Session} {state : Object} {uuid : String}

theorem getString_setIndex (state : Object) {key : String} {index : Option String}
    (absent : index = none → state.getString key = none) :
    (setIndex state key index).getString key = index := by
  cases index with
  | none => exact absent rfl
  | some text =>
      rw [setIndex, Object.getString, Object.get_set_self]
      rfl

theorem get_stamp_expiry (z : ModAuthOpenidc.Session) (state : Object) :
    (stamp z state).get "e" =
      if z.expiry ≤ -1 then state.get "e" else some (.int (z.expiry / 1000000)) := by
  unfold stamp
  rw [get_setMember_of_ne _ _ (by decide)]
  split
  · rw [get_setMember_of_ne _ _ (by decide), Object.get_set_of_ne _ _ (by decide)]
  · rw [Object.get_set_self]

theorem get_savedState_of_ne (z : ModAuthOpenidc.Session) (state : Object) {key : String}
    (sid : key ≠ "sid") (sub : key ≠ "sub") :
    (savedState z state).get key = (stamp z state).get key := by
  rw [savedState, get_setIndex _ _ sub, get_setIndex _ _ sid]

theorem key2timestamp_savedState (savable : Savable z state uuid) :
    key2timestamp (savedState z state) "e" = savedExpiry z := by
  have written := get_savedState_of_ne z state (show "e" ≠ "sid" by decide) (by decide)
  rw [get_stamp_expiry] at written
  unfold savedExpiry
  split at written
  · next negative =>
      rw [savable.expiry negative] at written
      rw [key2timestamp, Object.getInt64, written, if_pos negative]
      rfl
  · next positive =>
      have seconds : -1 < z.expiry / 1000000 := by omega
      rw [key2timestamp, Object.getInt64, written, if_neg positive, if_pos seconds]

theorem getString_savedState_user (z : ModAuthOpenidc.Session) (state : Object) :
    (savedState z state).getString "r" = z.remoteUser := by
  rw [Object.getString, get_savedState_of_ne z state (by decide) (by decide), ← Object.getString,
    getString_stamp_user]

theorem getString_savedState_uuid (savable : Savable z state uuid) :
    (savedState z state).getString "i" = some uuid := by
  rw [Object.getString, get_savedState_of_ne z state (by decide) (by decide), stamp, get_setMember,
    if_pos rfl, savable.named]
  rfl

theorem getString_savedState_sid (savable : Savable z state uuid) :
    (savedState z state).getString "sid" = z.sid := by
  rw [savedState, Object.getString, get_setIndex _ _ (by decide), ← Object.getString]
  refine getString_setIndex _ fun none => ?_
  rw [Object.getString, get_stamp_of_ne z state (by decide) (by decide) (by decide) (by decide),
    ← Object.getString, savable.sid none]

theorem getString_savedState_sub (savable : Savable z state uuid) :
    (savedState z state).getString "sub" = z.sub := by
  rw [savedState]
  refine getString_setIndex _ fun none => ?_
  rw [Object.getString, get_setIndex _ _ (by decide),
    get_stamp_of_ne z state (by decide) (by decide) (by decide) (by decide), ← Object.getString,
    savable.sub none]

theorem claimsIntact_savedState (z : ModAuthOpenidc.Session) (state : Object) :
    claimsIntact (savedState z state) = claimsIntact state := by
  rw [claimsIntact, get_savedState z state (by decide), claimsIntact]

/-- What a load returns of a session that was saved. -/
structure Restored (z : ModAuthOpenidc.Session) (state : Object) (loaded : ModAuthOpenidc.Session) :
    Prop where
  remoteUser : loaded.remoteUser = z.remoteUser
  uuid : loaded.uuid = z.uuid
  sid : loaded.sid = z.sid
  sub : loaded.sub = z.sub
  expiry : loaded.expiry = savedExpiry z
  state : ∃ kept, loaded.state = some kept ∧ ∀ key, key ∉ savedKeys → kept.get key = state.get key

theorem restored_savedState (savable : Savable z state uuid) :
    Restored z state (restored (savedState z state)) where
  remoteUser := getString_savedState_user z state
  uuid := (getString_savedState_uuid savable).trans savable.named.symm
  sid := getString_savedState_sid savable
  sub := getString_savedState_sub savable
  expiry := key2timestamp_savedState savable
  state := ⟨_, rfl, fun _ outside => get_savedState z state outside⟩

end Saved

/-! ## A save that succeeds -/

section Save

variable {request : Request} {world : World} {z : ModAuthOpenidc.Session} {state : Object}
    {uuid : String}
  {firstTime : Bool}

theorem saveIndex_emitted (request : Request) (world : World) (z : ModAuthOpenidc.Session)
    (state : Object)
    (key : String) (index : Option String) :
    (saveIndex request world z state key index).1.emitted = world.emitted := by
  cases index with
  | none => rfl
  | some text => exact cacheSetSid_emitted ..

/-- The second path does not encode what the first could not. -/
theorem saveCookie_of_no_text (held : z.state = some state)
    (failed : codec.jsonEncode state = none) :
    (saveCookie codec cfg request world z firstTime).2 = false := by
  have nothing : encode codec cfg state true = none := by
    rw [encode, if_neg (by simp), failed]
    split <;> rfl
  unfold saveCookie
  rw [held]
  dsimp only
  rw [nothing]

theorem saveIndex_state (request : Request) (world : World) (z : ModAuthOpenidc.Session)
    (state : Object)
    (key : String) (index : Option String) :
    (saveIndex request world z state key index).2 = setIndex state key index := by
  cases index with
  | none => rfl
  | some text => rfl

/-- The three outcomes of the server-cache path: the state cannot be encoded, the cache does not
answer, or the session is stored. -/
theorem saveCache_outcome (named : z.uuid = some uuid) (state : Object) :
    ∃ world', world'.emitted = world.emitted ∧
      saveCache codec cfg request world { z with state := some (stamp z state) } firstTime =
        match codec.jsonEncode (savedState z state) with
        | none => (world', { z with state := some (savedState z state) }, false)
        | some text =>
            if request.cacheAnswers then
              ((cacheSetSession request world' z.uuid (some text) z.expiry).1.emit
                [setCookie request.context cfg.cookieName uuid (cookieExpiry cfg z)
                  (cookieSameSite cfg request firstTime)],
                { z with state := some (savedState z state) }, true)
            else (world', { z with state := some (savedState z state) }, false) := by
  let stamped : ModAuthOpenidc.Session := { z with state := some (stamp z state) }
  let first := saveIndex request world stamped (stamp z state) "sid" z.sid
  let second := saveIndex request first.1 stamped first.2 "sub" z.sub
  have kept : second.1.emitted = world.emitted :=
    (saveIndex_emitted ..).trans (saveIndex_emitted ..)
  have noted : second.2 = savedState z state := by
    rw [saveIndex_state, saveIndex_state, savedState]
  refine ⟨second.1, kept, ?_⟩
  have encodedAs : encode codec cfg second.2 false = codec.jsonEncode (savedState z state) := by
    rw [noted, encode, if_pos rfl]
  unfold saveCache
  dsimp only
  cases encoded : codec.jsonEncode (savedState z state) with
  | none =>
      rw [encodedAs.trans encoded, ← noted]
  | some text =>
      rw [encodedAs.trans encoded, ← noted]
      cases answers : request.cacheAnswers with
      | false => simp only [cacheSetSession, answers, Bool.false_eq_true, if_false, second,
          first, stamped]
      | true =>
          simp only [cacheSetSession, answers, if_true, named, second, first, stamped]
          rfl

/-- A save that succeeds and does not end in the cookies has written the session to the cache, and
its identifier to the cookie. -/
theorem save_succeeds (codec : Codec) (kind : cfg.sessionType = .serverCache)
    (savable : Savable z state uuid)
    (reached : cfg.fallbackToCookie = true → request.cacheAnswers = true)
    (done : (save codec cfg request world z firstTime).2.2 = true) :
    ∃ text, codec.jsonEncode (savedState z state) = some text ∧
      (save codec cfg request world z firstTime).1.caches.session uuid = some (text, z.expiry) ∧
      (save codec cfg request world z firstTime).1.emitted = world.emitted ++
        [setCookie request.context cfg.cookieName uuid (cookieExpiry cfg z)
          (cookieSameSite cfg request firstTime)] := by
  obtain ⟨world', kept, outcome⟩ := @saveCache_outcome codec cfg request world z uuid firstTime
    savable.named state
  unfold save at done ⊢
  rw [kind, savable.held] at done ⊢
  dsimp only [Option.map_some] at done ⊢
  rw [outcome] at done ⊢
  cases encoded : codec.jsonEncode (savedState z state) with
  | none =>
      rw [encoded] at done
      dsimp only at done
      split at done
      · rw [saveCookie_of_no_text rfl encoded] at done
        cases done
      · cases done
  | some text =>
      rw [encoded] at done
      dsimp only at done ⊢
      cases answers : request.cacheAnswers with
      | false =>
          rw [answers] at done
          have noFallback : cfg.fallbackToCookie = false := by
            cases fallback : cfg.fallbackToCookie with
            | false => rfl
            | true => exact absurd (reached fallback) (by simp [answers])
          simp [noFallback] at done
      | true =>
          refine ⟨text, rfl, ?_⟩
          simp only [if_true, reduceCtorEq, Bool.true_eq_false, false_and, or_self, if_false]
          rw [cacheSetSession_caches answers, savable.named]
          refine ⟨Function.update_self .., ?_⟩
          rw [World.emit]
          exact congrArg (· ++ _) kept

end Save

/-! ## Loads -/

section Load

variable {request : Request} {world : World} {uuid : String}

/-- The cookies do not hold a session of their own. -/
def NoCookieSession (codec : Codec) (cfg : Config) (request : Request) : Prop :=
  (getChunkedCookie request.cookies cfg.cookieName cfg.cookieChunkSize).bind
    (fun text => decode codec cfg text true) = none

/-- There is no session. -/
structure Nothing (outcome : World × ModAuthOpenidc.Session × Bool) : Prop where
  failed : outcome.2.2 = false
  state : outcome.2.1.state = none
  remoteUser : outcome.2.1.remoteUser = none

/-- A session that is past its expiry is killed. -/
theorem extract_expired (codec : Codec) (cfg : Config) (request : Request) (world : World)
    (z : ModAuthOpenidc.Session) {state : Object} (held : z.state = some state)
    (late : key2timestamp state "e" < request.now) :
    ∃ expiry, extract codec cfg request world z =
      ((kill codec cfg request world { z with expiry }).1,
        (kill codec cfg request world { z with expiry }).2, false) := by
  unfold extract
  rw [held]
  dsimp only
  split
  · exact ⟨z.expiry, rfl⟩
  · exact ⟨key2timestamp state "e", rfl⟩

/-- What is loaded has a state with an expiry that has not passed. -/
theorem extract_held {world' : World} {z z' : ModAuthOpenidc.Session}
    (extracted : extract codec cfg request world z = (world', z', true)) :
    ∃ state, z'.state = some state ∧ z'.expiry = key2timestamp state "e" ∧
      request.now ≤ z'.expiry := by
  unfold extract at extracted
  split at extracted
  · cases extracted
  · next state held =>
      split at extracted
      · cases extracted
      · dsimp only at extracted
        split at extracted
        · cases extracted
        · next current =>
            cases extracted
            exact ⟨state, held, rfl, Int.not_lt.mp current⟩

theorem load_held {world' : World} {z : ModAuthOpenidc.Session}
    (loaded : load codec cfg request world = (world', z, true)) :
    ∃ state, z.state = some state ∧ z.expiry = key2timestamp state "e" ∧
        request.now ≤ z.expiry := by
  have finished {before : World} {restored : ModAuthOpenidc.Session} {rc : Bool}
      (last : (if rc then extract codec cfg request before restored else (before, restored, rc)) =
        (world', z, true)) :
      ∃ state, z.state = some state ∧ z.expiry = key2timestamp state "e" ∧
          request.now ≤ z.expiry := by
    cases rc with
    | true => exact extract_held last
    | false => cases last
  unfold load at loaded
  exact finished loaded

/-- Without a state there is nothing to extract. -/
theorem extract_nothing {z : ModAuthOpenidc.Session} (empty : z.state = none)
    (anonymous : z.remoteUser = none) (world : World) (rc : Bool) :
    (if rc then extract codec cfg request world z else (world, z, rc)).1 = world ∧
      Nothing (if rc then extract codec cfg request world z else (world, z, rc)) := by
  have same : extract codec cfg request world z = (world, z, false) := by
    rw [extract, empty]
  cases rc with
  | false => exact ⟨rfl, rfl, empty, anonymous⟩
  | true =>
      rw [if_pos rfl, same]
      exact ⟨rfl, rfl, empty, anonymous⟩

theorem loadCookie_nothing
    (noCookie : cfg.fallbackToCookie = true → NoCookieSession codec cfg request)
    (fallback : cfg.fallbackToCookie = true) {z : ModAuthOpenidc.Session} (empty : z.state = none) :
    ∃ rc, loadCookie codec cfg request z = (z, rc) := by
  have undecoded := noCookie fallback
  unfold loadCookie
  cases held : getChunkedCookie request.cookies cfg.cookieName cfg.cookieChunkSize with
  | none => exact ⟨true, rfl⟩
  | some text =>
      rw [NoCookieSession, held, Option.bind_some] at undecoded
      dsimp only
      rw [undecoded]
      have same : { z with state := none } = z := by rw [← empty]
      exact ⟨false, congrArg (·, false) same⟩

/-- If the cache yields no state, a load yields no session. -/
theorem load_nothing (kind : cfg.sessionType = .serverCache)
    (noCookie : cfg.fallbackToCookie = true → NoCookieSession codec cfg request)
    {world' : World} {z : ModAuthOpenidc.Session} {rc : Bool}
    (found : loadCache codec cfg request world { uuid := some request.freshId } = (world', z, rc))
    (empty : z.state = none) (anonymous : z.remoteUser = none) :
    (load codec cfg request world).1 = world' ∧ Nothing (load codec cfg request world) := by
  unfold load
  rw [kind]
  dsimp only
  rw [found]
  dsimp only
  by_cases fallback : rc = false ∧ cfg.fallbackToCookie = true
  · have chosen : SessionType.serverCache = .clientCookie ∨ rc = false ∧
      cfg.fallbackToCookie = true :=
      .inr fallback
    obtain ⟨rc', same⟩ := loadCookie_nothing noCookie fallback.2 empty
    rw [if_pos chosen, same]
    exact extract_nothing empty anonymous world' rc'
  · have other : ¬(SessionType.serverCache = .clientCookie ∨ rc = false ∧
      cfg.fallbackToCookie = true) := by
      simpa using fallback
    rw [if_neg other]
    exact extract_nothing empty anonymous world' rc

/-- A state that is found is what a load goes on with. -/
theorem load_found (kind : cfg.sessionType = .serverCache) {world' : World}
    {z : ModAuthOpenidc.Session}
    (found : loadCache codec cfg request world { uuid := some request.freshId } =
    (world', z, true)) :
    load codec cfg request world = extract codec cfg request world' z := by
  unfold load
  rw [kind]
  dsimp only
  rw [found]
  simp

/-- A session that is stored under the identifier in the cookie is found. -/
theorem loadCache_found (answers : request.cacheAnswers = true)
    (carried : getCookie request.cookies cfg.cookieName = some uuid) {text : String}
    {state : Object}
    (live : ExpiringMap.live request.now (world.caches.session uuid) = some text)
    (decoded : decode codec cfg text false = some state) (own : state.getString "i" = some uuid)
    (z : ModAuthOpenidc.Session) :
    loadCache codec cfg request world z =
      (world, { z with state := some state, uuid := some uuid }, true) := by
  have found : loadCacheByUuid codec cfg request world uuid z =
      (world, { z with state := some state, uuid := some uuid }, true) := by
    simp only [loadCacheByUuid, cacheGetSession, answers, if_true, keyText,
      Option.getD_some, live, decoded,
      own]
  rw [loadCache, carried]
  dsimp only
  rw [found]
  simp

/-- A text that is not a session of this format under this identifier is not loaded. -/
theorem load_foreign (kind : cfg.sessionType = .serverCache) (answers : request.cacheAnswers = true)
    (noCookie : cfg.fallbackToCookie = true → NoCookieSession codec cfg request)
    (carried : getCookie request.cookies cfg.cookieName = some uuid) {text : String}
    (live : ExpiringMap.live request.now (world.caches.session uuid) = some text)
    (foreign : ∀ state, codec.jsonDecodeObject text = some state → state.getString "i" ≠ some uuid ∨
      ∃ version, state.get "v" = some (.int version) ∧ formatVersion < version) :
    Nothing (load codec cfg request world) := by
  have unsupported : ∀ state : Object, (∃ version, state.get "v" = some (.int version) ∧
      formatVersion < version) → versionSupported state = false := by
    rintro state ⟨version, stored, newer⟩
    rw [versionSupported, Object.getInt, stored]
    dsimp only
    rw [formatVersion] at newer ⊢
    split
    · rfl
    · split
      · next low => rw [intMin] at low; omega
      · exact decide_eq_false (Int.not_le.mpr newer)
  have missing : ∃ world' z rc, loadCache codec cfg request world { uuid := some request.freshId } =
      (world', z, rc) ∧ z.state = none ∧ z.remoteUser = none := by
    rw [loadCache, carried]
    dsimp only
    cases decoded : decode codec cfg text false with
    | none =>
        have lost : loadCacheByUuid codec cfg request world uuid { uuid := some request.freshId } =
            (world, { uuid := some request.freshId }, false) := by
          simp only [loadCacheByUuid, cacheGetSession, answers, if_true, keyText,
            Option.getD_some, live,
            decoded]
        rw [lost]
        exact ⟨_, _, _, rfl, rfl, rfl⟩
    | some state =>
        rw [decode, if_pos rfl, Option.filter_eq_some_iff] at decoded
        have other : state.getString "i" ≠ some uuid := by
          rcases foreign state decoded.1 with other | newer
          · exact other
          · rw [unsupported state newer] at decoded
            cases decoded.2
        have decoded : decode codec cfg text false = some state := by
          rw [decode, if_pos rfl, Option.filter_eq_some_iff]
          exact decoded
        have corrupt : ∃ world', loadCacheByUuid codec cfg request world uuid
            { uuid := some request.freshId } = (world', { uuid := some uuid }, false) := by
          simp only [loadCacheByUuid, cacheGetSession, answers, if_true, keyText,
            Option.getD_some, live,
            decoded, other, if_false]
          exact ⟨_, rfl⟩
        obtain ⟨world', corrupt⟩ := corrupt
        rw [corrupt]
        exact ⟨_, _, _, rfl, rfl, rfl⟩
  obtain ⟨world', z, rc, found, empty, anonymous⟩ := missing
  exact (load_nothing kind noCookie found empty anonymous).2

/-- The session has been removed: no later reader finds it, and the cookie is removed unless it
might hold a session itself. -/
structure Removed (cfg : Config) (request : Request) (uuid : String) (before after : World) :
    Prop where
  cache : ∀ now, request.now ≤ now → ExpiringMap.live now (after.caches.session uuid) = none
  cookie : cfg.fallbackToCookie = false →
    after.emitted = before.emitted ++
      [setCookie request.context cfg.cookieName "" 0 (sameSiteNone request)]

/-- After its expiry an entry leads to no session and is removed. -/
theorem load_expired (kind : cfg.sessionType = .serverCache) (answers : request.cacheAnswers = true)
    (noCookie : cfg.fallbackToCookie = true → NoCookieSession codec cfg request)
    (carried : getCookie request.cookies cfg.cookieName = some uuid) {text : String} {expires : Int}
    {state : Object} (stored : world.caches.session uuid = some (text, expires))
    (decoded : decode codec cfg text false = some state) (own : state.getString "i" = some uuid)
    (late : key2timestamp state "e" < request.now) :
    Nothing (load codec cfg request world) ∧
      Removed cfg request uuid world (load codec cfg request world).1 := by
  by_cases early : request.now < expires
  · have live : ExpiringMap.live request.now (world.caches.session uuid) = some text := by
      simp [stored, ExpiringMap.live, early]
    have found := load_found kind (loadCache_found answers carried live decoded own
      { uuid := some request.freshId })
    obtain ⟨expiry, killed⟩ := extract_expired codec cfg request world
      { uuid := some uuid, state := some state } rfl late
    obtain ⟨caches, cleared⟩ := kill_caches codec kind answers world
      { uuid := some uuid, expiry, state := some state }
    have emitted := kill_emitted_serverCache codec kind answers world
      { uuid := some uuid, expiry, state := some state }
    rw [found, killed, cleared]
    refine ⟨⟨rfl, rfl, rfl⟩, ⟨fun now _ => ?_, fun _ => emitted⟩⟩
    dsimp only
    rw [caches]
    dsimp only [keyText, Option.getD_some]
    rw [Function.update_self]
    rfl
  · have dead : ∀ now, request.now ≤ now →
      ExpiringMap.live now (world.caches.session uuid) = none := by
      intro now reached
      have expired : ¬now < expires := by omega
      simp [stored, ExpiringMap.live, expired]
    have missing : loadCacheByUuid codec cfg request world uuid { uuid := some request.freshId } =
        (world, { uuid := some request.freshId }, true) := by
      simp only [loadCacheByUuid, cacheGetSession, answers, if_true, keyText, Option.getD_some,
        dead request.now (le_refl _)]
    cases fallback : cfg.fallbackToCookie with
    | true =>
        have found : loadCache codec cfg request world { uuid := some request.freshId } =
            (world, { uuid := some request.freshId }, false) := by
          rw [loadCache, carried]
          dsimp only
          rw [missing]
          simp [fallback]
        obtain ⟨same, nothing⟩ := load_nothing kind noCookie found rfl rfl
        refine ⟨nothing, ⟨fun now reached => ?_, fun other => ?_⟩⟩
        · rw [same]
          exact dead now reached
        · rw [fallback] at other
          cases other
    | false =>
        have found : loadCache codec cfg request world { uuid := some request.freshId } =
            (world.emit [setCookie request.context cfg.cookieName "" 0 (sameSiteNone request)],
              { uuid := some request.freshId }, true) := by
          rw [loadCache, carried]
          dsimp only
          rw [missing]
          simp [fallback]
        obtain ⟨same, nothing⟩ := load_nothing kind noCookie found rfl rfl
        refine ⟨nothing, ⟨fun now reached => ?_, fun _ => ?_⟩⟩
        · rw [same]
          exact dead now reached
        · rw [same]
          rfl

end Load

/-! ## The round trip -/

section RoundTrip

variable {request : Request} {world : World} {z : ModAuthOpenidc.Session} {state : Object}
    {uuid : String}
  {firstTime : Bool}

/-- A request with the identifier of a session in its cookie, while the cache answers and no other
session is found in the cookies. -/
structure Returns (codec : Codec) (cfg : Config) (uuid : String) (request : Request) : Prop where
  answers : request.cacheAnswers = true
  carried : getCookie request.cookies cfg.cookieName = some uuid
  noCookie : cfg.fallbackToCookie = true → NoCookieSession codec cfg request

/-- A session that was saved is loaded with its members until it expires, and is removed after that.
What belongs to another session or to a newer format is not loaded. -/
theorem session_round_trip (faithful : codec.Faithful) (kind : cfg.sessionType = .serverCache)
    (savable : Savable z state uuid) (intact : claimsIntact state = true)
    (reached : cfg.fallbackToCookie = true → request.cacheAnswers = true)
    (done : (save codec cfg request world z firstTime).2.2 = true) :
    (save codec cfg request world z firstTime).1.emitted = world.emitted ++
        [setCookie request.context cfg.cookieName uuid (cookieExpiry cfg z)
          (cookieSameSite cfg request firstTime)] ∧
      (∀ later world', Returns codec cfg uuid later →
        world'.caches = (save codec cfg request world z firstTime).1.caches →
          (later.now ≤ savedExpiry z → later.now < z.expiry →
            ∃ loaded, load codec cfg later world' = (world', loaded, true) ∧
                Restored z state loaded) ∧
          (savedExpiry z < later.now → Nothing (load codec cfg later world') ∧
            Removed cfg later uuid world' (load codec cfg later world').1)) ∧
      (∀ later world' text, Returns codec cfg uuid later →
        ExpiringMap.live later.now (world'.caches.session uuid) = some text →
          (∀ state, codec.jsonDecodeObject text = some state → state.getString "i" ≠ some uuid ∨
            ∃ version, state.get "v" = some (.int version) ∧ formatVersion < version) →
          Nothing (load codec cfg later world')) := by
  obtain ⟨text, encoded, stored, emitted⟩ := save_succeeds codec kind savable reached done
  have decoded := faithful.decode_saved cfg encoded
  have own := getString_savedState_uuid savable
  have unharmed : claimsIntact
    (savedState z state) = true := by rw [claimsIntact_savedState, intact]
  refine ⟨emitted, fun later world' returns same => ⟨fun timely early => ?_, fun late => ?_⟩,
    fun later world' text returns live foreign =>
      load_foreign kind returns.answers returns.noCookie returns.carried live foreign⟩
  · have live : ExpiringMap.live later.now (world'.caches.session uuid) = some text := by
      rw [same, stored]
      simp [ExpiringMap.live, early]
    refine ⟨restored (savedState z state), ?_, restored_savedState savable⟩
    rw [load_found kind (loadCache_found returns.answers returns.carried live decoded own _)]
    exact extract_restored codec cfg later world' rfl unharmed
      (by rwa [key2timestamp_savedState savable])
  · have held : world'.caches.session uuid = some (text, z.expiry) := by rw [same, stored]
    exact load_expired kind returns.answers returns.noCookie returns.carried held decoded own
      (by rwa [key2timestamp_savedState savable])

end RoundTrip

/-! ## Three sessions at the edge -/

/-- A session of `alice`. -/
def edgeSession (expiry : Int) (claims : Json) : ModAuthOpenidc.Session where
  uuid := some "id"
  remoteUser := some "alice"
  expiry := expiry
  sid := some "sid@op"
  state := some [("idc", claims), ("at", .str "token")]

/-- An expiry in whole seconds. -/
def wholeSession : ModAuthOpenidc.Session := edgeSession 1000000000 (.obj [])

/-- Claims that are not an object. -/
def corruptSession : ModAuthOpenidc.Session := edgeSession 1000000000 (.str "claims")

/-- The latest expiry there is. -/
def lastSession : ModAuthOpenidc.Session := edgeSession (2 ^ 63 - 1) (.obj [])

/-- A codec for the three sessions. -/
def edgeCodec : Codec :=
  Codec.ofTable [(savedState wholeSession (wholeSession.state.getD []), "whole"),
    (savedState corruptSession (corruptSession.state.getD []), "corrupt"),
    (savedState lastSession (lastSession.state.getD []), "last")]

/-- Sessions in the cache. -/
def edgeConfig : Config where
  sessionType := .serverCache
  fallbackToCookie := false
  cookieChunkSize := 0
  cookieNameOk := nameOk_defaultCookie

theorem edgeNow_nonneg (second : Nat) : 0 ≤ (second : Int) * 1000000 :=
  Int.mul_nonneg (Int.natCast_nonneg second) (by decide)

/-- A request at a time in seconds. -/
def edgeRequest (second : Nat) : Request where
  cookies := some "mod_auth_openidc_session=id"
  now := second * 1000000
  now_nonneg := edgeNow_nonneg second

/-- Nothing is stored yet. -/
def emptyWorld : World := { caches := { session := fun _ => none, sid := fun _ => none } }

/-- The world after a session was saved. -/
def savedWorld (z : ModAuthOpenidc.Session) : World :=
  { (save edgeCodec edgeConfig (edgeRequest 0) emptyWorld z true).1 with emitted := [] }

/-- A session is loaded with its members as long as it has not expired. -/
theorem wholeSession_loaded :
    ∃ loaded, load edgeCodec edgeConfig (edgeRequest 999) (savedWorld wholeSession) =
        (savedWorld wholeSession, loaded, true) ∧
      Restored wholeSession [("idc", .obj []), ("at", .str "token")] loaded := by
  have savable : Savable wholeSession [("idc", .obj []), ("at", .str "token")] "id" :=
    ⟨rfl, rfl, by decide, fun _ => rfl, by decide⟩
  have trip := @session_round_trip edgeCodec edgeConfig
    (edgeRequest 0) emptyWorld wholeSession _ "id" true
    (Codec.faithful_ofTable (by decide)) rfl savable rfl (by decide) (by decide +kernel)
  exact (trip.2.1 (edgeRequest 999) (savedWorld wholeSession)
    ⟨rfl, by decide +kernel, fun other => absurd other (by decide)⟩
    rfl).1
    (by decide +kernel) (by decide)

/-- At the very time of its expiry a session cannot be loaded any more. Claims that are not an
object end it, and the last second of time is read back as a later time. -/
theorem edge_sessions :
    ((save edgeCodec edgeConfig (edgeRequest 0) emptyWorld wholeSession true).2.2 = true ∧
      (edgeRequest 1000).now ≤ wholeSession.expiry / 1000000 * 1000000 ∧
      (load edgeCodec edgeConfig (edgeRequest 1000) (savedWorld wholeSession)).2.2 = false) ∧
    ((save edgeCodec edgeConfig (edgeRequest 0) emptyWorld corruptSession true).2.2 = true ∧
      (edgeRequest 999).now ≤ corruptSession.expiry / 1000000 * 1000000 ∧
      (load edgeCodec edgeConfig (edgeRequest 999) (savedWorld corruptSession)).2.2 = false) ∧
    ((save edgeCodec edgeConfig (edgeRequest 0) emptyWorld lastSession true).2.2 = true ∧
      (load edgeCodec edgeConfig (edgeRequest 999) (savedWorld lastSession)).2.2 = true ∧
      (load edgeCodec edgeConfig (edgeRequest 999) (savedWorld lastSession)).2.1.expiry ≠
        lastSession.expiry / 1000000 * 1000000) := by
  decide +kernel

end Session

end ModAuthOpenidc
