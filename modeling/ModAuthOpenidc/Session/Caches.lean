import ModAuthOpenidc.Session.State

/-!
# Sessions in the server cache

What saving, ending and loading a session does to the two sections of the cache, as long as the
cache answers. A save writes the session under its identifier and the identifier under the two index
keys; there is no check of what was there before.
-/

namespace ModAuthOpenidc

namespace Session

/-- Decoding gives back what was encoded. -/
structure Codec.Faithful (codec : Codec) : Prop where
  decodes : ∀ object text, codec.jsonEncode object = some text →
    codec.jsonDecodeObject text = some object

/-- A codec for the rows of a table. -/
def Codec.ofTable (table : List (Object × String)) : Codec where
  jsonEncode object := (table.find? fun row => row.1 = object).map Prod.snd
  jsonDecodeObject text := (table.find? fun row => row.2 = text).map Prod.fst
  jwtCreate := fun _ => none
  jwtVerify := fun _ => none

/-- It is faithful if the texts differ. -/
theorem Codec.faithful_ofTable {table : List (Object × String)}
    (distinct : (table.map Prod.snd).Nodup) : (Codec.ofTable table).Faithful := by
  refine ⟨fun object text encoded => ?_⟩
  obtain ⟨row, found, rfl⟩ := Option.map_eq_some_iff.mp encoded
  have own : row.1 = object := by simpa using List.find?_some found
  have member := List.mem_of_find?_eq_some found
  obtain ⟨other, decoded⟩ : ∃ other, table.find? (fun candidate => candidate.2 = row.2) =
      some other := by
    refine Option.isSome_iff_exists.mp (List.find?_isSome.mpr ⟨row, member, ?_⟩)
    simp
  have sameText : other.2 = row.2 := by simpa using List.find?_some decoded
  have same : other = row :=
    List.inj_on_of_nodup_map distinct (List.mem_of_find?_eq_some decoded) member sameText
  change (table.find? fun candidate => candidate.2 = row.2).map Prod.fst = some object
  rw [decoded, same, Option.map_some, own]

/-! ## The index -/

/-- Index a session under one key. -/
def indexKey (index : Section) (z : Session) (key : Option String) : Section :=
  match key with
  | none => index
  | some key => Function.update index key (some (keyText z.uuid, z.expiry))

/-- The index after a save. -/
def indexed (index : Section) (z : Session) : Section := indexKey (indexKey index z z.sid) z z.sub

/-- The index without the `sid` of a session. -/
def unindexedSid (index : Section) (z : Session) : Section :=
  match z.sid with
  | none => index
  | some sid => Function.update index sid none

/-- The index without the `sub` of a session, unless it points to another session. -/
def unindexedSub (now : Int) (index : Section) (z : Session) : Section :=
  match z.sub with
  | none => index
  | some sub =>
      match ExpiringMap.live now (index sub) with
      | none => Function.update index sub none
      | some uuid => if some uuid = z.uuid then Function.update index sub none else index

/-- The index after the end of a session. -/
def unindexed (now : Int) (index : Section) (z : Session) : Section :=
  unindexedSub now (unindexedSid index z) z

/-! ## Saving -/

/-- The state with an index key noted in it. -/
def setIndex (state : Object) (key : String) (index : Option String) : Object :=
  match index with
  | none => state
  | some text => state.set key (.str text)

/-- The state that is encoded by a save. -/
def savedState (z : Session) (state : Object) : Object :=
  setIndex (setIndex (stamp z state) "sid" z.sid) "sub" z.sub

theorem get_setIndex (state : Object) {key other : String} (index : Option String)
    (different : other ≠ key) : (setIndex state key index).get other = state.get other := by
  cases index with
  | none => rfl
  | some text => exact Object.get_set_of_ne _ _ different

/-- The members of a session that a save does not write itself. -/
theorem get_savedState (z : Session) (state : Object) {key : String} (outside : key ∉ savedKeys) :
    (savedState z state).get key = state.get key := by
  obtain ⟨-, -, -, -, sid, sub⟩ := ne_of_notMem_savedKeys outside
  rw [savedState, get_setIndex _ _ sub, get_setIndex _ _ sid, get_stamp z state outside]

theorem get_stamp_version (z : Session) (state : Object) :
    (stamp z state).get "v" = some (.int formatVersion) := by
  unfold stamp
  rw [get_setMember_of_ne _ _ (by decide)]
  split
  · rw [get_setMember_of_ne _ _ (by decide), Object.get_set_self]
  · rw [Object.get_set_of_ne _ _ (by decide), get_setMember_of_ne _ _ (by decide),
      Object.get_set_self]

/-- What was saved can be read again. -/
theorem Codec.Faithful.decode_saved {codec : Codec} (faithful : codec.Faithful) (cfg : Config)
    {z : Session} {state : Object} {text : String}
    (encoded : codec.jsonEncode (savedState z state) = some text) :
    decode codec cfg text false = some (savedState z state) := by
  have version : (savedState z state).get "v" = some (.int formatVersion) := by
    rw [savedState, get_setIndex _ _ (by decide), get_setIndex _ _ (by decide), get_stamp_version]
  have supported : versionSupported (savedState z state) = true := by
    rw [versionSupported, Object.getInt, version]
    decide
  rw [decode, if_pos rfl, faithful.decodes _ _ encoded, Option.filter_some, if_pos supported]

section Answering

variable {codec : Codec} {cfg : Config} {request : Request} {world : World} {z : Session}
  {state : Object}

theorem cacheSetSid_caches (answers : request.cacheAnswers = true) (key : String)
    (value : Option String) (expiry : Int) :
    (cacheSetSid request world key value expiry).caches =
      { world.caches with
        sid := Function.update world.caches.sid key (value.map fun text => (text, expiry)) } := by
  rw [cacheSetSid, if_pos answers]

theorem cacheSetSession_caches (answers : request.cacheAnswers = true) (key value : Option String)
    (expiry : Int) :
    cacheSetSession request world key value expiry =
      ({ world with
          caches := { world.caches with
            session := Function.update world.caches.session (keyText key)
              (value.map fun text => (text, expiry)) } }, true) := by
  rw [cacheSetSession, if_pos answers]

theorem saveIndex_caches (answers : request.cacheAnswers = true) (world : World) (z : Session)
    (state : Object) (key : String) (index : Option String) :
    (saveIndex request world z state key index).1.caches =
        { world.caches with sid := indexKey world.caches.sid z index } ∧
      (saveIndex request world z state key index).2 = setIndex state key index := by
  cases index with
  | none => exact ⟨rfl, rfl⟩
  | some text => exact ⟨cacheSetSid_caches answers _ _ _, rfl⟩

theorem clearSid_caches (answers : request.cacheAnswers = true) :
    (clearSid request world z).caches =
      { world.caches with sid := unindexedSid world.caches.sid z } := by
  unfold clearSid unindexedSid
  cases z.sid with
  | none => rfl
  | some sid => exact cacheSetSid_caches answers _ _ _

theorem clearSub_caches (answers : request.cacheAnswers = true) :
    (clearSub request world z).caches =
      { world.caches with sid := unindexedSub request.now world.caches.sid z } := by
  unfold clearSub unindexedSub
  cases z.sub with
  | none => rfl
  | some sub =>
      simp only [cacheGetSid, answers, if_true, Option.getD_some]
      cases ExpiringMap.live request.now (world.caches.sid sub) with
      | none => exact cacheSetSid_caches answers _ _ _
      | some uuid =>
          by_cases own : some uuid = z.uuid
          · simp only [own, if_true]
            exact cacheSetSid_caches answers _ _ _
          · simp only [own, if_false]

theorem saveCookie_caches (firstTime : Bool) :
    (saveCookie codec cfg request world z firstTime).1.caches = world.caches := by
  unfold saveCookie
  dsimp only
  split <;> rfl

/-- In server-cache mode the cookies of a fallback leave the caches alone. -/
theorem save_eq_saveCache (codec : Codec) (kind : cfg.sessionType = .serverCache)
    (request : Request) (world : World) (z : Session) (firstTime : Bool) :
    (save codec cfg request world z firstTime).1.caches =
        (saveCache codec cfg request world { z with state := z.state.map (stamp z) }
          firstTime).1.caches ∧
      (save codec cfg request world z firstTime).2.1 =
        (saveCache codec cfg request world { z with state := z.state.map (stamp z) }
          firstTime).2.1 := by
  unfold save
  rw [kind]
  dsimp only
  split
  · exact ⟨saveCookie_caches firstTime, rfl⟩
  · exact ⟨rfl, rfl⟩

/-- The index entries that a save writes before it encodes the session. -/
theorem saveIndex_twice (answers : request.cacheAnswers = true) (world : World) (z : Session)
    (state : Object) :
    (saveIndex request (saveIndex request world z state "sid" z.sid).1 z
        (saveIndex request world z state "sid" z.sid).2 "sub" z.sub).1.caches =
      { world.caches with sid := indexed world.caches.sid z } ∧
    (saveIndex request (saveIndex request world z state "sid" z.sid).1 z
        (saveIndex request world z state "sid" z.sid).2 "sub" z.sub).2 =
      setIndex (setIndex state "sid" z.sid) "sub" z.sub := by
  obtain ⟨first, noted⟩ := saveIndex_caches answers world z state "sid" z.sid
  obtain ⟨second, notedTwice⟩ := saveIndex_caches answers
    (saveIndex request world z state "sid" z.sid).1 z
    (saveIndex request world z state "sid" z.sid).2 "sub" z.sub
  rw [second, notedTwice, first, noted]
  exact ⟨rfl, rfl⟩

/-- A save writes both index entries, and the session if it can be encoded. -/
theorem save_caches (codec : Codec) (kind : cfg.sessionType = .serverCache)
    (answers : request.cacheAnswers = true) (world : World) (held : z.state = some state)
    (firstTime : Bool) :
    (save codec cfg request world z firstTime).1.caches =
        { session := match codec.jsonEncode (savedState z state) with
            | none => world.caches.session
            | some text =>
                Function.update world.caches.session (keyText z.uuid) (some (text, z.expiry))
          sid := indexed world.caches.sid z } ∧
      (save codec cfg request world z firstTime).2.1 =
        { z with state := some (savedState z state) } := by
  obtain ⟨caches, same⟩ := save_eq_saveCache codec kind request world z firstTime
  obtain ⟨written, noted⟩ := saveIndex_twice answers world
    { z with state := some (stamp z state) } (stamp z state)
  rw [caches, same, held]
  simp only [saveCache, Option.map_some, encode, if_true, noted]
  unfold savedState
  cases codec.jsonEncode (setIndex (setIndex (stamp z state) "sid" z.sid) "sub" z.sub) with
  | none => exact ⟨written, rfl⟩
  | some text =>
      simp only [cacheSetSession_caches answers, World.emit, written]
      exact ⟨rfl, trivial⟩

/-- A session without a state is deleted by a save. -/
theorem save_caches_none (codec : Codec) (kind : cfg.sessionType = .serverCache)
    (answers : request.cacheAnswers = true) (world : World) {z : Session} (empty : z.state = none)
    (firstTime : Bool) :
    (save codec cfg request world z firstTime).1.caches =
        { session := Function.update world.caches.session (keyText z.uuid) none
          sid := unindexed request.now world.caches.sid z } ∧
      (save codec cfg request world z firstTime).2.1 = z := by
  obtain ⟨caches, same⟩ := save_eq_saveCache codec kind request world z firstTime
  rw [caches, same, empty]
  simp only [saveCache, Option.map_none, cacheSetSession_caches answers, World.emit,
    clearSub_caches answers, clearSid_caches answers]
  exact ⟨rfl, by rw [← empty]⟩

/-- The end of a session deletes it. -/
theorem kill_caches (codec : Codec) (kind : cfg.sessionType = .serverCache)
    (answers : request.cacheAnswers = true) (world : World) (z : Session) :
    (kill codec cfg request world z).1.caches =
        { session := Function.update world.caches.session (keyText z.uuid) none
          sid := unindexed request.now world.caches.sid z } ∧
      (kill codec cfg request world z).2 = clear z := by
  obtain ⟨caches, same⟩ := save_caches_none codec kind answers world
    (show ({ z with state := none } : Session).state = none from rfl) false
  refine ⟨caches, ?_⟩
  change clear (save codec cfg request world { z with state := none } false).2.1 = clear z
  rw [same]
  rfl

/-! ## Loading -/

/-- `oidc_session_load` in server-cache mode, without the cookies of a fallback: as long as the
cache answers, a session is never kept in a cookie. -/
def loadFromCache (codec : Codec) (cfg : Config) (request : Request) (world : World) :
    World × Session × Bool :=
  match loadCache codec cfg request world { uuid := some request.freshId } with
  | (world, z, false) => (world, z, false)
  | (world, z, true) => extract codec cfg request world z

/-- Without a fallback it is all that `oidc_session_load` does. -/
theorem load_eq_loadFromCache (kind : cfg.sessionType = .serverCache)
    (noFallback : cfg.fallbackToCookie = false) :
    load codec cfg request world = loadFromCache codec cfg request world := by
  unfold load loadFromCache
  rw [kind]
  rcases found : loadCache codec cfg request world { uuid := some request.freshId } with
    ⟨world', z', rc⟩
  cases rc <;> simp [noFallback, found]

/-- What the cache holds for an identifier. -/
def stored (codec : Codec) (cfg : Config) (caches : Caches) (uuid : String) : Option Object :=
  (caches.session uuid).bind fun entry => decode codec cfg entry.1 false

/-- Either nothing is found, or the stored state, or the entry is deleted because it belongs to
another session. -/
theorem loadCacheByUuid_cases (codec : Codec) (cfg : Config) (answers : request.cacheAnswers = true)
    (world : World) (uuid : String) {z : Session} (empty : z.state = none) :
    ((loadCacheByUuid codec cfg request world uuid z).1.caches = world.caches ∧
      (loadCacheByUuid codec cfg request world uuid z).2.1.state = none) ∨
    (∃ text state, ExpiringMap.live request.now (world.caches.session uuid) = some text ∧
      decode codec cfg text false = some state ∧ state.getString "i" = some uuid ∧
      loadCacheByUuid codec cfg request world uuid z =
        (world, { z with state := some state, uuid := some uuid }, true)) ∨
    ((loadCacheByUuid codec cfg request world uuid z).1.caches =
        { world.caches with session := Function.update world.caches.session uuid none } ∧
      (loadCacheByUuid codec cfg request world uuid z).2.1.state = none ∧
      (loadCacheByUuid codec cfg request world uuid z).2.2 = false) := by
  unfold loadCacheByUuid
  simp only [cacheGetSession, answers, if_true, keyText, Option.getD_some]
  cases found : ExpiringMap.live request.now (world.caches.session uuid) with
  | none => exact .inl ⟨rfl, empty⟩
  | some text =>
      cases decoded : decode codec cfg text false with
      | none =>
          left
          simp only [decoded]
          exact ⟨trivial, trivial⟩
      | some state =>
          by_cases own : state.getString "i" = some uuid
          · exact .inr (.inl ⟨text, state, rfl, decoded, own, by simp only [decoded, own, if_true]⟩)
          · right
            right
            simp only [decoded, own, if_false, cacheSetSession_caches answers]
            exact ⟨rfl, rfl, trivial⟩

/-- A state that was found is restored, or the session is ended because it has expired or is
corrupt. -/
theorem extract_cases (codec : Codec) (kind : cfg.sessionType = .serverCache)
    (answers : request.cacheAnswers = true) (world : World) {z : Session} {state : Object}
    (held : z.state = some state) :
    (claimsIntact state = true ∧ request.now ≤ key2timestamp state "e" ∧
      extract codec cfg request world z = (world, restored state, true)) ∨
    ((extract codec cfg request world z).1.caches =
        { session := Function.update world.caches.session (keyText z.uuid) none
          sid := unindexed request.now world.caches.sid z } ∧
      (extract codec cfg request world z).2.1.state = none ∧
      (extract codec cfg request world z).2.2 = false) := by
  by_cases intact : claimsIntact state = true
  · by_cases current : request.now ≤ key2timestamp state "e"
    · exact .inl ⟨intact, current, extract_restored codec cfg request world held intact current⟩
    · right
      obtain ⟨caches, same⟩ := kill_caches codec kind answers world
        { z with expiry := key2timestamp state "e", state := some state }
      simp only [extract, held, intact, Bool.true_eq_false, if_false,
        Int.not_le.mp current, if_true]
      exact ⟨caches, by rw [same]; rfl, trivial⟩
  · right
    obtain ⟨caches, same⟩ := kill_caches codec kind answers world z
    simp only [extract, held, Bool.eq_false_iff.mpr intact, if_true]
    exact ⟨caches, by rw [same]; rfl, trivial⟩

/-- The three outcomes of a load: there is no session to be had, the stored session is restored, or
it is deleted because it has expired or is corrupt. -/
theorem loadFromCache_cases (codec : Codec) (kind : cfg.sessionType = .serverCache)
    (answers : request.cacheAnswers = true) (world : World) :
    ((loadFromCache codec cfg request world).1.caches = world.caches ∧
      (loadFromCache codec cfg request world).2.1.state = none) ∨
    (∃ uuid text state, (loadFromCache codec cfg request world).1.caches = world.caches ∧
      ExpiringMap.live request.now (world.caches.session uuid) = some text ∧
      decode codec cfg text false = some state ∧ state.getString "i" = some uuid ∧
      (loadFromCache codec cfg request world).2.1 = restored state) ∨
    (∃ uuid, (loadFromCache codec cfg request world).1.caches =
        { world.caches with session := Function.update world.caches.session uuid none } ∧
      (loadFromCache codec cfg request world).2.1.state = none) := by
  unfold loadFromCache loadCache
  cases Http.getCookie request.cookies cfg.cookieName with
  | none => exact .inl ⟨rfl, rfl⟩
  | some uuid =>
      rcases loadCacheByUuid_cases codec cfg answers world uuid
        (show ({ uuid := some request.freshId } : Session).state = none from rfl) with
        ⟨caches, nothing⟩ | ⟨text, state, live, decoded, own, found⟩ | ⟨caches, nothing, failed⟩
      · left
        rcases found : loadCacheByUuid codec cfg request world uuid { uuid := some request.freshId }
          with ⟨world', z', rc⟩
        rw [found] at caches nothing
        dsimp only at caches nothing
        cases rc with
        | false =>
            simp only [found]
            exact ⟨caches, nothing⟩
        | true =>
            simp only [found, nothing, Option.isNone_none, if_true]
            cases cfg.fallbackToCookie with
            | true => exact ⟨caches, nothing⟩
            | false =>
                simp only [extract, nothing, Bool.false_eq_true, if_false]
                exact ⟨caches, trivial⟩
      · right
        simp only [found, Option.isNone_some, Bool.false_eq_true, if_false]
        rcases extract_cases codec kind answers world
          (show ({ uuid := some uuid, state := some state } : Session).state = some state from rfl)
          with ⟨intact, current, same⟩ | ⟨caches, nothing, -⟩
        · left
          exact ⟨uuid, text, state, by rw [same], live, decoded, own, by rw [same]⟩
        · right
          exact ⟨uuid, caches, nothing⟩
      · right
        right
        rcases found : loadCacheByUuid codec cfg request world uuid { uuid := some request.freshId }
          with ⟨world', z', rc⟩
        rw [found] at caches nothing failed
        dsimp only at caches nothing failed
        subst failed
        simp only [found]
        exact ⟨uuid, caches, nothing⟩

end Answering

end Session

end ModAuthOpenidc
