import ModAuthOpenidc.Session.Store

/-!
# Logging out

`oidc_session_kill` erases a session through one of the two save paths, while the session may have
been written through the other one during an outage of the cache. With the cache answering, the
server-cache path clears the base cookie only. This file determines exactly which browsers are still
logged in afterwards: those whose chunk cookies hold a complete session.
-/

namespace ModAuthOpenidc

namespace Session

open Http

variable {codec : Codec} {cfg : Config}

/-! ## Cookie names -/

theorem nameOk_chunkCountName (cfg : Config) : NameOk (chunkCountName cfg.cookieName) :=
  nameOk_count cfg.cookieNameOk

theorem nameOk_chunkCookieName (cfg : Config) (i : Nat) :
    NameOk (chunkCookieName cfg.cookieName i) :=
  nameOk_chunk cfg.cookieNameOk i

/-! ## What a browser reports after removals -/

/-- Chunk cookies assemble alike from two browsers that hold the same chunk cookies. -/
theorem joinChunks_congr {jar jar' : Jar}
    (same : ∀ i, jar'.get (chunkCookieName cfg.cookieName i) =
      jar.get (chunkCookieName cfg.cookieName i)) (count : Nat) :
    joinChunks jar'.header cfg.cookieName count = joinChunks jar.header cfg.cookieName count := by
  unfold joinChunks
  congr 2
  funext i
  rw [Jar.getCookie_header _ (nameOk_chunkCookieName cfg i),
    Jar.getCookie_header _ (nameOk_chunkCookieName cfg i), same]

theorem getChunkedCount_header (cfg : Config) (jar : Jar) :
    getChunkedCount jar.header cfg.cookieName =
      strToInt (jar.get (chunkCountName cfg.cookieName)) 0 := by
  rw [getChunkedCount, Jar.getCookie_header _ (nameOk_chunkCountName cfg)]

/-- The value assembled from the chunk cookies of a browser, if their number is acceptable. -/
def chunkedValue (cfg : Config) (jar : Jar) : Option String :=
  let count := getChunkedCount jar.header cfg.cookieName
  if 0 < count ∧ count ≤ chunksMax then joinChunks jar.header cfg.cookieName count.toNat else none

/-- Without the base cookie only the chunk cookies count. -/
theorem getChunkedCookie_of_no_base {jar : Jar} (absent : jar.get cfg.cookieName = none) :
    getChunkedCookie jar.header cfg.cookieName cfg.cookieChunkSize =
      if cfg.cookieChunkSize = 0 then none else chunkedValue cfg jar := by
  have base : getCookie jar.header cfg.cookieName = none := by
    rw [Jar.getCookie_header _ cfg.cookieNameOk, absent]
  unfold getChunkedCookie chunkedValue
  rw [base]
  split
  · rfl
  dsimp only
  generalize getChunkedCount jar.header cfg.cookieName = count
  split
  · next zero => rw [if_neg (by omega)]
  · split
    · next outside =>
        rw [if_neg]
        simp only [chunksMax] at outside ⊢
        omega
    · next inside =>
        rw [if_pos]
        simp only [chunksMax] at inside ⊢
        omega

theorem chunkedValue_congr {jar jar' : Jar}
    (sameCount : jar'.get (chunkCountName cfg.cookieName) = jar.get (chunkCountName cfg.cookieName))
    (same : ∀ i, jar'.get (chunkCookieName cfg.cookieName i) =
      jar.get (chunkCookieName cfg.cookieName i)) :
    chunkedValue cfg jar' = chunkedValue cfg jar := by
  simp only [chunkedValue, getChunkedCount_header, sameCount, joinChunks_congr same]

/-! ## Remote users of loaded sessions -/

/-- The user of a state that is intact and has not expired. -/
def liveUser (state : Object) (now : Int) : Option String :=
  if claimsIntact state = true ∧ now ≤ key2timestamp state "e" then state.getString "r" else none

theorem kill_state (codec : Codec) (cfg : Config) (request : Request) (world : World)
    (z : ModAuthOpenidc.Session) : (kill codec cfg request world z).2.state = none := rfl

theorem kill_remoteUser (codec : Codec) (cfg : Config) (request : Request) (world : World)
    (z : ModAuthOpenidc.Session) : (kill codec cfg request world z).2.remoteUser = none := rfl

theorem extract_remoteUser (request : Request) (world : World) {z : ModAuthOpenidc.Session}
    (anonymous : z.remoteUser = none) :
    (extract codec cfg request world z).2.1.remoteUser =
      z.state.bind fun state => liveUser state request.now := by
  unfold extract
  cases loaded : z.state with
  | none => exact anonymous
  | some state =>
      simp only [Option.bind_some, liveUser]
      cases intact : claimsIntact state with
      | false => simp [kill_remoteUser]
      | true =>
          by_cases expired : key2timestamp state "e" < request.now
          · simp [expired, kill_remoteUser, Int.not_le.mpr expired]
          · simp [expired, Int.not_lt.mp expired]

/-- The user of a session restored from cookies. -/
theorem loadCookie_remoteUser (codec : Codec) (cfg : Config) (request : Request) (world : World)
    (z : ModAuthOpenidc.Session) (anonymous : z.remoteUser = none) (empty : z.state = none) :
    (if (loadCookie codec cfg request z).2 then
        extract codec cfg request world (loadCookie codec cfg request z).1
      else (world, (loadCookie codec cfg request z).1,
        (loadCookie codec cfg request z).2)).2.1.remoteUser =
      ((getChunkedCookie request.cookies cfg.cookieName cfg.cookieChunkSize).bind
        fun text => decode codec cfg text true).bind fun state => liveUser state request.now := by
  unfold loadCookie
  cases getChunkedCookie request.cookies cfg.cookieName cfg.cookieChunkSize with
  | none =>
      rw [if_pos rfl, extract_remoteUser request world anonymous, empty]
      rfl
  | some text =>
      cases decoded : decode codec cfg text true with
      | none => simp [decoded, anonymous]
      | some state =>
          simp only [Option.bind_some, decoded, if_true]
          exact extract_remoteUser request world anonymous

/-- A browser without the base cookie is known by its chunk cookies at most. -/
theorem load_remoteUser_of_no_base {jar : Jar} (absent : jar.get cfg.cookieName = none)
    {request : Request} (sent : request.cookies = jar.header) (world : World) :
    (load codec cfg request world).2.1.remoteUser =
      if (cfg.sessionType = .clientCookie ∨ cfg.fallbackToCookie = true) ∧ cfg.cookieChunkSize ≠ 0
      then ((chunkedValue cfg jar).bind fun text => decode codec cfg text true).bind
        fun state => liveUser state request.now
      else none := by
  have base : getCookie request.cookies cfg.cookieName = none := by
    rw [sent, Jar.getCookie_header _ cfg.cookieNameOk, absent]
  have restored := loadCookie_remoteUser codec cfg request world
    { uuid := some request.freshId } rfl rfl
  rw [sent, getChunkedCookie_of_no_base absent] at restored
  have chosen : (load codec cfg request world).2.1.remoteUser =
      if cfg.sessionType = .clientCookie ∨ cfg.fallbackToCookie = true then
        ((if cfg.cookieChunkSize = 0 then none else chunkedValue cfg jar).bind
          fun text => decode codec cfg text true).bind fun state => liveUser state request.now
      else none := by
    unfold load
    cases kind : cfg.sessionType with
    | clientCookie =>
        simp only [true_or, if_true]
        exact restored
    | serverCache =>
        simp only [loadCache, base, reduceCtorEq, false_or, true_and]
        cases fallback : cfg.fallbackToCookie with
        | true =>
            simp only [if_true]
            exact restored
        | false => rfl
  rw [chosen]
  by_cases stored : cfg.sessionType = .clientCookie ∨ cfg.fallbackToCookie = true
  · by_cases whole : cfg.cookieChunkSize = 0
    · simp [stored, whole]
    · simp [stored, whole]
  · simp [stored]

/-! ## Headers emitted by a logout -/

theorem cacheSetSession_emitted (request : Request) (world : World) (key value : Option String)
    (expiry : Int) : (cacheSetSession request world key value expiry).1.emitted =
    world.emitted := by
  unfold cacheSetSession
  split <;> rfl

theorem cacheSetSid_emitted (request : Request) (world : World) (key : String)
    (value : Option String) (expiry : Int) :
    (cacheSetSid request world key value expiry).emitted = world.emitted := by
  unfold cacheSetSid
  split <;> rfl

theorem clearSid_emitted (request : Request) (world : World) (z : ModAuthOpenidc.Session) :
    (clearSid request world z).emitted = world.emitted := by
  unfold clearSid
  split
  · rfl
  · exact cacheSetSid_emitted ..

theorem clearSub_emitted (request : Request) (world : World) (z : ModAuthOpenidc.Session) :
    (clearSub request world z).emitted = world.emitted := by
  unfold clearSub
  split
  · rfl
  split
  · exact cacheSetSid_emitted ..
  split
  · exact cacheSetSid_emitted ..
  · rfl

/-- With the cache answering, the server-cache path removes the base cookie and nothing else. -/
theorem kill_emitted_serverCache (codec : Codec) (serverCache : cfg.sessionType = .serverCache)
    {request : Request} (answers : request.cacheAnswers = true) (world : World)
    (z : ModAuthOpenidc.Session) :
    (kill codec cfg request world z).1.emitted =
      world.emitted ++ [setCookie request.context cfg.cookieName "" 0 (sameSiteNone request)] := by
  have rc (world : World) : (cacheSetSession request world z.uuid none 0).2 = true := by
    simp [cacheSetSession, answers]
  simp only [kill, save, serverCache, Option.map_none, saveCache, rc, reduceCtorEq,
    Bool.true_eq_false, false_and, or_false, if_false, cacheSetSession_emitted, World.emit,
    clearSub_emitted, clearSid_emitted]

/-- The client-cookie path removes the base cookie and all chunk cookies. -/
theorem kill_emitted_clientCookie (codec : Codec)
    (clientCookie : cfg.sessionType = .clientCookie) (request : Request) (world : World)
    (z : ModAuthOpenidc.Session) :
    (kill codec cfg request world z).1.emitted =
      world.emitted ++
        setCookie request.context cfg.cookieName "" (cookieExpiry cfg z) (sameSiteNone request) ::
          clearChunkedCookie request.context request.cookies cfg.cookieName (cookieExpiry cfg z)
            (sameSiteNone request) := by
  have noLength : lengthInt "" = 0 := by decide
  have expiry : cookieExpiry cfg { z with state := none } = cookieExpiry cfg z := rfl
  simp only [kill, save, clientCookie, Option.map_none, true_or, if_true, saveCookie, World.emit,
    setChunkedCookie, noLength, expiry]
  split <;> rfl

theorem loadCacheByUuid_emitted (codec : Codec) (cfg : Config) (request : Request) (world : World)
    (uuid : String) (z : ModAuthOpenidc.Session) :
    (loadCacheByUuid codec cfg request world uuid z).1.emitted = world.emitted := by
  unfold loadCacheByUuid
  split
  · rfl
  · rfl
  split
  · rfl
  dsimp only
  split
  · rfl
  · exact cacheSetSession_emitted ..

/-- The cache path touches the cookies only when it finds nothing and gives up. -/
theorem loadCache_emitted (request : Request) (world : World) (z : ModAuthOpenidc.Session) :
    (loadCache codec cfg request world z).1.emitted = world.emitted ∨
      ((loadCache codec cfg request world z).2.1.state = none ∧
        (loadCache codec cfg request world z).2.2 = true) := by
  unfold loadCache
  split
  · exact .inl rfl
  · next uuid _ =>
      have kept := loadCacheByUuid_emitted codec cfg request world uuid z
      split
      · next found =>
          rw [found] at kept
          exact .inl kept
      · next world' z' found =>
          rw [found] at kept
          split
          · next missing =>
              split
              · exact .inl kept
              · exact .inr ⟨Option.isNone_iff_eq_none.mp missing, rfl⟩
          · exact .inl kept

theorem extract_true {request : Request} {world world' : World} {z z' : ModAuthOpenidc.Session}
    (extracted : extract codec cfg request world z = (world', z', true)) :
    world' = world ∧ z.state ≠ none := by
  unfold extract at extracted
  split at extracted
  · simp at extracted
  · next state loaded =>
      refine ⟨?_, by simp [loaded]⟩
      split at extracted
      · simp at extracted
      dsimp only at extracted
      split at extracted
      · simp at extracted
      · exact (congrArg Prod.fst extracted).symm

/-- The last step of a load that finds a session. -/
theorem extract_loaded_true {request : Request} {world world' : World}
    {z z' : ModAuthOpenidc.Session} {rc : Bool}
    (finished : (if rc then extract codec cfg request world z else (world, z, rc)) =
      (world', z', true)) : world' = world ∧ rc = true ∧ z.state ≠ none := by
  cases rc with
  | true =>
      obtain ⟨same, restored⟩ := extract_true finished
      exact ⟨same, rfl, restored⟩
  | false => simp at finished

/-- A load that finds a session leaves the cookies of the browser alone. -/
theorem load_emitted {request : Request} {world world' : World} {z : ModAuthOpenidc.Session}
    (loaded : load codec cfg request world = (world', z, true)) :
    world'.emitted = world.emitted := by
  unfold load at loaded
  cases kind : cfg.sessionType with
  | clientCookie =>
      simp only [kind, true_or, if_true] at loaded
      rw [(extract_loaded_true loaded).1]
  | serverCache =>
      simp only [kind, reduceCtorEq, false_or] at loaded
      rcases loadCache_emitted request world { uuid := some request.freshId } with
        kept | ⟨missing, ok⟩
      · split at loaded
        · rw [(extract_loaded_true loaded).1]
          exact kept
        · rw [(extract_loaded_true loaded).1]
          exact kept
      · simp only [ok, Bool.true_eq_false, false_and, if_false, if_true] at loaded
        exact absurd missing (extract_true loaded).2

/-! ## Who is still logged in -/

/-- The chunk cookies of the browser hold a complete session of some user which is intact, in a
supported format and not expired at `now`. -/
def HoldsChunkedSession (codec : Codec) (cfg : Config) (jar : Jar) (now : Int) : Prop :=
  ∃ text state user, chunkedValue cfg jar = some text ∧ decode codec cfg text true = some state ∧
    claimsIntact state = true ∧ now ≤ key2timestamp state "e" ∧ state.getString "r" = some user

theorem chunkedUser_eq_none_iff (jar : Jar) (now : Int) :
    (((chunkedValue cfg jar).bind fun text => decode codec cfg text true).bind
      fun state => liveUser state now) = none ↔ ¬HoldsChunkedSession codec cfg jar now := by
  rw [← Option.not_isSome_iff_eq_none, Option.isSome_iff_exists, not_iff_not]
  simp only [Option.bind_eq_some_iff, liveUser, Option.ite_none_right_eq_some, HoldsChunkedSession]
  constructor
  · rintro ⟨user, state, ⟨text, assembled, decoded⟩, ⟨intact, fresh⟩, named⟩
    exact ⟨text, state, user, assembled, decoded, intact, fresh, named⟩
  · rintro ⟨text, state, user, assembled, decoded, intact, fresh, named⟩
    exact ⟨user, state, ⟨text, assembled, decoded⟩, ⟨intact, fresh⟩, named⟩

theorem clearChunkedCookie_removals (context : CookieContext) (header : Option String)
    (name : String) (expires : Int) (ext : Option String) :
    ∀ set ∈ clearChunkedCookie context header name expires ext, Jar.IsRemoval set := by
  intro set member
  unfold clearChunkedCookie at member
  dsimp only at member
  split at member
  · rcases List.mem_append.mp member with chunks | count
    · obtain ⟨i, -, rfl⟩ := List.mem_map.mp chunks
      exact Jar.setCookie_removal ..
    · rw [List.mem_singleton.mp count]
      exact Jar.setCookie_removal ..
  · simp at member

/-- Clearing removes the chunk counter whenever it counts anything. -/
theorem chunkCountName_mem_clear (context : CookieContext) {header : Option String} {name : String}
    (expires : Int) (ext : Option String) (counted : 0 < getChunkedCount header name) :
    chunkCountName name ∈
      (clearChunkedCookie context header name expires ext).map SetCookie.name := by
  simp [clearChunkedCookie, counted, setCookie]

/-- After the server-cache path the browser keeps its chunk cookies and nothing else. -/
theorem jar_after_serverCache (cfg : Config) (jar : Jar) {now : Int} (positive : 0 ≤ now)
    (set : SetCookie)
    (removal : Jar.IsRemoval set) (named : set.name = cfg.cookieName) :
    (jar.applyAll now [set]).get cfg.cookieName = none ∧
      chunkedValue cfg (jar.applyAll now [set]) = chunkedValue cfg jar := by
  have removals : ∀ other ∈ [set], Jar.IsRemoval other := by simpa using removal
  have read := Jar.get_applyAll_removals removals jar positive
  simp only [List.map_cons, List.map_nil, named, List.mem_singleton] at read
  refine ⟨by rw [read, if_pos rfl], chunkedValue_congr ?_ ?_⟩
  · rw [read, if_neg (chunkCountName_ne _)]
  · intro i
    rw [read, if_neg (chunkCookieName_ne _ i)]

/-- After the client-cookie path nothing of the session is left. -/
theorem jar_after_clientCookie (cfg : Config) (jar : Jar) {now : Int} (positive : 0 ≤ now)
    (context : CookieContext) (expires : Int) (ext : Option String) :
    let final := jar.applyAll now (setCookie context cfg.cookieName "" expires ext ::
      clearChunkedCookie context jar.header cfg.cookieName expires ext)
    final.get cfg.cookieName = none ∧ chunkedValue cfg final = none := by
  intro final
  have removals : ∀ set ∈ setCookie context cfg.cookieName "" expires ext ::
      clearChunkedCookie context jar.header cfg.cookieName expires ext, Jar.IsRemoval set := by
    intro set member
    rcases List.mem_cons.mp member with rfl | later
    · exact Jar.setCookie_removal ..
    · exact clearChunkedCookie_removals _ _ _ _ _ set later
  have read := Jar.get_applyAll_removals removals jar positive
  have uncounted : getChunkedCount final.header cfg.cookieName ≤ 0 := by
    rw [getChunkedCount_header, read]
    split
    · exact le_rfl
    · next kept =>
        rw [← getChunkedCount_header]
        refine Int.not_lt.mp fun counted => kept ?_
        rw [List.map_cons]
        exact List.mem_cons_of_mem _ (chunkCountName_mem_clear context expires ext counted)
  constructor
  · rw [read, if_pos]
    simp [setCookie]
  · rw [chunkedValue]
    exact if_neg fun counted => absurd counted.1 (Int.not_lt.mpr uncounted)

/-- The user of the first request after a logout: whoever the chunk cookies name, if the server
cache is used with the fallback to chunked cookies, and nobody otherwise. -/
theorem load_after_kill (codec : Codec) (cfg : Config) {jar : Jar} {request : Request}
    (sent : request.cookies = jar.header) (answers : request.cacheAnswers = true) {world : World}
    (untouched : world.emitted = []) (z : ModAuthOpenidc.Session) {next : Request}
    (sentNext : next.cookies =
      (jar.applyAll request.now (kill codec cfg request world z).1.emitted).header)
    (worldNext : World) :
    (load codec cfg next worldNext).2.1.remoteUser =
      if cfg.sessionType = .serverCache ∧ cfg.fallbackToCookie = true ∧ cfg.cookieChunkSize ≠ 0 then
        ((chunkedValue cfg jar).bind fun text => decode codec cfg text true).bind
          fun state => liveUser state next.now
      else none := by
  cases kind : cfg.sessionType with
  | serverCache =>
      obtain ⟨absent, same⟩ := jar_after_serverCache cfg jar request.now_nonneg
        (setCookie request.context cfg.cookieName "" 0 (sameSiteNone request))
        (Jar.setCookie_removal ..) rfl
      rw [kill_emitted_serverCache codec kind answers, untouched, List.nil_append] at sentNext
      rw [load_remoteUser_of_no_base absent sentNext, same, kind]
      simp only [reduceCtorEq, false_or, true_and]
  | clientCookie =>
      obtain ⟨absent, gone⟩ := jar_after_clientCookie cfg jar request.now_nonneg
        request.context (cookieExpiry cfg z) (sameSiteNone request)
      rw [kill_emitted_clientCookie codec kind, untouched, List.nil_append, sent] at sentNext
      rw [load_remoteUser_of_no_base absent sentNext, gone, kind]
      simp

/-- Let a browser whose cookies give a session log out while the cache answers. Its next request is
anonymous, whatever the cache does then, unless sessions are kept in a server cache with the
fallback to chunked cookies and the chunk cookies hold a live session. -/
theorem kill_logs_out_iff (jar : Jar) {request : Request} (sent : request.cookies = jar.header)
    {caches : Caches} {world : World} {z : ModAuthOpenidc.Session}
    (loaded : load codec cfg request { caches } = (world, z, true)) {next : Request}
    (sentNext : next.cookies = (jar.applyAll request.now
      (kill codec cfg { request with cacheAnswers := true } world z).1.emitted).header)
    (worldNext : World) :
    (load codec cfg next worldNext).2.1.remoteUser = none ↔
      ¬(cfg.sessionType = .serverCache ∧ cfg.fallbackToCookie = true ∧ cfg.cookieChunkSize ≠ 0 ∧
        HoldsChunkedSession codec cfg jar next.now) := by
  have killing : ({ request with cacheAnswers := true } : Request).cookies = jar.header := sent
  rw [load_after_kill codec cfg killing rfl (load_emitted loaded) z sentNext worldNext]
  by_cases exposed : cfg.sessionType = .serverCache ∧ cfg.fallbackToCookie = true ∧
      cfg.cookieChunkSize ≠ 0
  · rw [if_pos exposed, chunkedUser_eq_none_iff]
    obtain ⟨serverCache, fallback, chunked⟩ := exposed
    simp only [serverCache, fallback, chunked, ne_eq, not_false_eq_true, true_and]
  · rw [if_neg exposed]
    refine iff_of_true rfl fun leftover => exposed ?_
    exact ⟨leftover.1, leftover.2.1, leftover.2.2.1⟩

/-- The saved session. -/
def outageState : Object := [("v", .int 1), ("r", .str "alice"), ("e", .int 1000), ("i", .str "id")]

/-- Encoding and decoding of that session, with a given text as its encrypted form. -/
def outageCodec (token : String) : Codec where
  jsonEncode _ := some "session"
  jsonDecodeObject text := if text = "session" then some outageState else none
  jwtCreate text := if text = "session" then some token else none
  jwtVerify text := if text = token then some "session" else none

/-- Nothing is cached and nothing has been emitted. -/
def blankWorld : World where
  caches := ⟨fun _ => none, fun _ => none⟩

/-- A session in one client cookie. -/
def cookieConfig : Config where
  sessionType := .clientCookie
  fallbackToCookie := false
  cookieChunkSize := 0

/-- A browser with a session cookie. -/
def cookieJar : Jar where
  cookies := [{ name := "mod_auth_openidc_session", value := "token" }]

/-- Logging out of a client-cookie session. -/
theorem kill_logs_out_clientCookie :
    ∃ z, load (outageCodec "token") cookieConfig { cookies := cookieJar.header, now := 2 }
        { caches := blankWorld.caches } = (blankWorld, z, true) ∧
      (load (outageCodec "token") cookieConfig
        { cookies := (cookieJar.applyAll 2 (kill (outageCodec "token") cookieConfig
            { cookies := cookieJar.header, now := 2 } blankWorld z).1.emitted).header
          now := 3 } blankWorld).2.1.remoteUser = none := by
  have value : getChunkedCookie cookieJar.header cookieConfig.cookieName
      cookieConfig.cookieChunkSize = some "token" := by decide
  have decoded : decode (outageCodec "token") cookieConfig "token" true = some outageState := rfl
  have fresh : ¬key2timestamp outageState "e" < 2 := by decide
  obtain ⟨z, loaded⟩ : ∃ z, load (outageCodec "token") cookieConfig
      { cookies := cookieJar.header, now := 2 } { caches := blankWorld.caches } =
        (blankWorld, z, true) := by
    have kind : cookieConfig.sessionType = .clientCookie := rfl
    have intact : claimsIntact outageState = true := rfl
    simp only [load, kind, loadCookie, value, decoded, extract, intact, fresh, true_or, if_true,
      Bool.true_eq_false, if_false]
    exact ⟨_, rfl⟩
  have sent : ({ cookies := cookieJar.header, now := 2 } : Request).cookies = cookieJar.header :=
    rfl
  refine ⟨z, loaded, (kill_logs_out_iff cookieJar sent loaded rfl blankWorld).mpr ?_⟩
  rintro ⟨serverCache, -⟩
  exact absurd serverCache (by decide)

/-! ## A session saved during an outage -/

theorem chunk_of_length {text : String} {size : Nat} (length : text.length = size) :
    chunk text size 0 = text := by
  have whole : text.toList.take size = text.toList := by
    rw [List.take_of_length_le]
    rw [String.length_toList, length]
  rw [chunk, Nat.zero_mul, List.drop_zero, whole, String.ofList_toList]

/-- A value which just fills a chunk is stored in that chunk. -/
theorem setChunkedCookie_one (context : CookieContext) (header : Option String) (name : String)
    {text : String} (length : text.length = 256) (expires : Int) (ext : Option String) :
    setChunkedCookie context header name text expires 256 ext =
      ([setCookie context (chunkCookieName name 0) text expires ext,
        setCookie context (chunkCountName name) "1" expires ext,
        setCookie context name "" expires ext], true) := by
  have signed : lengthInt text = 256 := by
    unfold lengthInt
    rw [length]
    decide
  have one : toString (1 : Int) = "1" := rfl
  simp [setChunkedCookie, signed, chunksMax, chunk_of_length length, one]

/-- A session saved while the cache does not answer goes to the cookies. -/
theorem save_emitted_outage {request : Request} (serverCache : cfg.sessionType = .serverCache)
    (fallback : cfg.fallbackToCookie = true) (silent : request.cacheAnswers = false) (world : World)
    {z : ModAuthOpenidc.Session} {state : Object} (present : z.state = some state)
    (noSid : z.sid = none) (noSub : z.sub = none) {plain text : String}
    (encoded : encode codec cfg (stamp z state) false = some plain)
    (encrypted : encode codec cfg (stamp z state) true = some text) (firstTime : Bool) :
    (save codec cfg request world z firstTime).1.emitted = world.emitted ++
      (setChunkedCookie request.context request.cookies cfg.cookieName text (cookieExpiry cfg z)
        cfg.cookieChunkSize (cookieSameSite cfg request firstTime)).1 := by
  simp [save, serverCache, fallback, present, saveCache, noSid, noSub, saveIndex, encoded,
    cacheSetSession, silent, saveCookie, encrypted, World.emit, cookieExpiry]

/-- A server cache with the fallback to chunked cookies. -/
def outageConfig : Config where
  sessionType := .serverCache
  fallbackToCookie := true
  cookieChunkSize := 256

/-- The session of a user logging in. -/
def outageSession : ModAuthOpenidc.Session where
  uuid := some "id"
  remoteUser := some "alice"
  expiry := 1000000000
  state := some []

/-- The login request, while the cache does not answer. -/
def outageLogin : Request where
  cookies := none
  now := 1
  cacheAnswers := false

/-- The browser gets one chunk and the counter. -/
theorem outage_headers {token : String} (length : token.length = 256) :
    (save (outageCodec token) outageConfig outageLogin blankWorld outageSession true).1.emitted =
      [setCookie {} (chunkCookieName outageConfig.cookieName 0) token (-1) (some "SameSite=Lax"),
        setCookie {} (chunkCountName outageConfig.cookieName) "1" (-1) (some "SameSite=Lax"),
        setCookie {} outageConfig.cookieName "" (-1) (some "SameSite=Lax")] := by
  have encoded : encode (outageCodec token) outageConfig (stamp outageSession []) false =
      some "session" := rfl
  have encrypted : encode (outageCodec token) outageConfig (stamp outageSession []) true =
      some token := rfl
  have size : outageConfig.cookieChunkSize = 256 := rfl
  have expiry : cookieExpiry outageConfig outageSession = -1 := rfl
  have sameSite : cookieSameSite outageConfig outageLogin true = some "SameSite=Lax" := rfl
  rw [save_emitted_outage rfl rfl rfl blankWorld rfl rfl rfl encoded encrypted true,
    size, expiry, sameSite, setChunkedCookie_one _ _ _ length]
  rfl

/-- The cookies of the browser after the login. -/
theorem outage_get {token : String} (length : token.length = 256) (name : String) :
    (Jar.empty.applyAll 1
      (save (outageCodec token) outageConfig outageLogin blankWorld outageSession
          true).1.emitted).get
        name =
      if name = outageConfig.cookieName then none
      else if name = chunkCountName outageConfig.cookieName then some "1"
      else if name = chunkCookieName outageConfig.cookieName 0 then some (Jar.cutValue token)
      else none := by
  have fresh : (setCookie {} (chunkCookieName outageConfig.cookieName 0) token (-1)
      (some "SameSite=Lax")).expires.any (fun expires => expires ≤ 1) = false := by
    have nonempty : token ≠ "" := by
      rintro rfl
      simp at length
    simp [setCookie, nonempty]
  rw [outage_headers length, Jar.applyAll, List.foldl_cons, List.foldl_cons, List.foldl_cons,
    List.foldl_nil, Jar.apply_removal (Jar.setCookie_removal ..) _ (by decide), Jar.get_remove,
    Jar.get_apply_store rfl (nameOk_chunkCountName _),
    Jar.get_apply_store fresh (nameOk_chunkCookieName _ 0)]
  rfl

theorem outage_chunkedValue {token : String} (clean : Jar.cutValue token = token) {jar : Jar}
    (counter : jar.get (chunkCountName outageConfig.cookieName) = some "1")
    (first : jar.get (chunkCookieName outageConfig.cookieName 0) = some (Jar.cutValue token)) :
    chunkedValue outageConfig jar = some token := by
  have one : strToInt (some "1") 0 = 1 := by decide
  have joined : joinChunks jar.header outageConfig.cookieName 1 = some token := by
    have read := Jar.getCookie_header jar (nameOk_chunkCookieName outageConfig 0)
    rw [first, clean] at read
    simp [joinChunks, List.range_succ, read, String.join]
  rw [chunkedValue, getChunkedCount_header, counter, one]
  exact joined

/-- A live session in chunk cookies is loaded when there is no base cookie. -/
theorem load_chunked {jar : Jar} {request : Request} (sent : request.cookies = jar.header)
    (serverCache : cfg.sessionType = .serverCache) (fallback : cfg.fallbackToCookie = true)
    (chunked : cfg.cookieChunkSize ≠ 0) (absent : jar.get cfg.cookieName = none) {text : String}
    (assembled : chunkedValue cfg jar = some text) {state : Object}
    (decoded : decode codec cfg text true = some state) (intact : claimsIntact state = true)
    (fresh : request.now ≤ key2timestamp state "e") (world : World) :
    ∃ z, load codec cfg request world = (world, z, true) := by
  have base : getCookie request.cookies cfg.cookieName = none := by
    rw [sent, Jar.getCookie_header _ cfg.cookieNameOk, absent]
  have value : getChunkedCookie request.cookies cfg.cookieName cfg.cookieChunkSize = some text := by
    rw [sent, getChunkedCookie_of_no_base absent, if_neg chunked, assembled]
  simp only [load, serverCache, loadCache, base, fallback, and_self, or_true, if_true, loadCookie,
    value, decoded, extract, intact, Bool.true_eq_false, if_false, Int.not_lt.mpr fresh]
  exact ⟨_, rfl⟩

/-- The logout of a browser which logged in during an outage of the cache: the session is found
again in the chunk cookies, killed while the cache answers, and found once more. -/
theorem outage_logout {token : String} (length : token.length = 256)
    (clean : Jar.cutValue token = token) {jar : Jar}
    (login : jar = Jar.empty.applyAll 1
      (save (outageCodec token) outageConfig outageLogin blankWorld outageSession true).1.emitted) :
    ∃ world z, load (outageCodec token) outageConfig
        { cookies := jar.header, now := 2 } blankWorld =
        (world, z, true) ∧
      (load (outageCodec token) outageConfig
        { cookies := (jar.applyAll 2 (kill (outageCodec token) outageConfig
            { cookies := jar.header, now := 2 } world z).1.emitted).header
          now := 3 } blankWorld).2.1.remoteUser = some "alice" := by
  have counterNe := chunkCountName_ne outageConfig.cookieName
  have chunkNe := chunkCookieName_ne outageConfig.cookieName 0
  have distinct : chunkCookieName outageConfig.cookieName 0 ≠
      chunkCountName outageConfig.cookieName := by decide
  have absent : jar.get outageConfig.cookieName = none := by
    rw [login, outage_get length, if_pos rfl]
  have assembled : chunkedValue outageConfig jar = some token := by
    apply outage_chunkedValue clean
    · rw [login, outage_get length, if_neg counterNe, if_pos rfl]
    · rw [login, outage_get length, if_neg chunkNe, if_neg distinct, if_pos rfl]
  have decoded : decode (outageCodec token) outageConfig token true = some outageState := by
    simp only [decode, outageCodec, outageConfig, Bool.true_eq_false, if_false, if_true,
      Option.bind_some]
    rfl
  have fresh : (2 : Int) ≤ key2timestamp outageState "e" := by decide
  have user : liveUser outageState 3 = some "alice" := by decide
  have sent : ({ cookies := jar.header, now := 2 } : Request).cookies = jar.header := rfl
  obtain ⟨z, loaded⟩ := load_chunked sent rfl rfl (by decide) absent assembled decoded (by decide)
    fresh blankWorld
  refine ⟨blankWorld, z, loaded, ?_⟩
  rw [load_after_kill (outageCodec token) outageConfig sent rfl rfl z rfl blankWorld,
    if_pos ⟨rfl, rfl, by decide⟩, assembled, Option.bind_some, decoded, Option.bind_some]
  exact user

/-- The same with a token of 256 letters. -/
theorem kill_keeps_chunked_session :
    ∃ jar, jar = Jar.empty.applyAll 1 (save (outageCodec (String.ofList (List.replicate 256 'x')))
        outageConfig outageLogin blankWorld outageSession true).1.emitted ∧
      ∃ world z, load (outageCodec (String.ofList (List.replicate 256 'x'))) outageConfig
          { cookies := jar.header, now := 2 } blankWorld = (world, z, true) ∧
        (load (outageCodec (String.ofList (List.replicate 256 'x'))) outageConfig
          { cookies := (jar.applyAll 2
              (kill (outageCodec (String.ofList (List.replicate 256 'x'))) outageConfig
                { cookies := jar.header, now := 2 } world z).1.emitted).header
            now := 3 } blankWorld).2.1.remoteUser = some "alice" := by
  have length (n : Nat) : (String.ofList (List.replicate n 'x')).length = n := by
    rw [String.length_ofList, List.length_replicate]
  have clean (n : Nat) : Jar.cutValue (String.ofList (List.replicate n 'x')) =
      String.ofList (List.replicate n 'x') := by
    have pure : ∀ c ∈ List.replicate n 'x', decide (c ≠ ';') = true := by
      intro c member
      rw [List.eq_of_mem_replicate member]
      decide
    rw [Jar.cutValue, String.toList_ofList, List.takeWhile_eq_self_iff.mpr pure]
  exact ⟨_, rfl, outage_logout (length 256) (clean 256) rfl⟩

end Session

end ModAuthOpenidc
