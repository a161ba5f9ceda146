import ModAuthOpenidc.Proto.State

/-!
# Binding of responses to requests

One browser starts any number of logins and returns with any number of responses, in any order. Each
state it carries belongs to one request: a response is accepted only with the state of an earlier
request, in time and from a browser with the same fingerprint, it gets back what that request
recorded, and no state is accepted twice.
-/

namespace ModAuthOpenidc

namespace State

open Http

variable {crypto : Crypto} {cfg : Config}

/-! ## The proto state of a request -/

theorem Flat.nil : Flat [] := ⟨List.nodup_nil, by simp⟩

theorem Flat.set {object : Object} (flat : Flat object) (name : String) {value : Json}
    (plain : (∃ text, value = .str text) ∨ ∃ number, value = .int number) :
    Flat (object.set name value) := by
  refine ⟨KeyedList.nodup_upsert Prod.fst flat.1 (name, value), ?_⟩
  intro member member_mem
  rcases KeyedList.mem_of_mem_upsert Prod.fst member_mem with rfl | older
  · exact plain
  · exact flat.2 member older

theorem Flat.setStringValue {object : Object} (flat : Flat object) (name : String)
    (value : Option String) : Flat (setStringValue crypto object name value) := by
  unfold State.setStringValue
  cases value.filter crypto.utf8 with
  | none => exact flat
  | some text => exact flat.set name (.inl ⟨text, rfl⟩)

theorem get_setStringValue_of_ne (object : Object) {name other : String} (value : Option String)
    (different : other ≠ name) :
    (setStringValue crypto object name value).get other = object.get other := by
  unfold setStringValue
  cases value.filter crypto.utf8 with
  | none => rfl
  | some text => exact Object.get_set_of_ne _ _ different

theorem getStringValue_setStringValue (object : Object) (name : String) {value : String}
    (accepted : crypto.utf8 value = true) :
    getStringValue (setStringValue crypto object name (some value)) name = some value := by
  simp [setStringValue, Option.filter, accepted, getStringValue, Object.getString, Json.stringValue]

/-- Members that are set later do not change a string that is read back. -/
theorem getStringValue_congr {object object' : Object} {name : String}
    (same : object.get name = object'.get name) :
    getStringValue object name = getStringValue object' name := by
  rw [getStringValue, Object.getString, same, getStringValue, Object.getString]

/-- A proto state is made of strings and numbers and holds the time and the nonce of its request. -/
theorem newProtoState_spec {request : AuthRequest crypto} {provider : Provider} {nonce : String}
    {pkceState : Option String} {protoState : Object} (accepted : crypto.utf8 nonce = true)
    (built : newProtoState crypto request provider nonce pkceState = some protoState) :
    Flat protoState ∧ getTimestamp protoState = request.now / 1000000 * 1000000 ∧
      protoState.get "t" ≠ none ∧ getStringValue protoState "n" = some nonce := by
  simp only [newProtoState, Option.ite_none_left_eq_some] at built
  replace built := built.2
  set start := setStringValue crypto (setStringValue crypto (setStringValue crypto
    (setStringValue crypto [] "ou" (some request.originalUrl)) "om" (some request.originalMethod))
    "i" provider.issuer) "rt" provider.responseType with start_eq
  have flatStart : Flat start :=
    (((Flat.nil.setStringValue "ou" _).setStringValue "om" _).setStringValue "i" _).setStringValue
      "rt" _
  set timed := (setStringValue crypto start "n" (some nonce)).set "t"
    (.int (request.now / 1000000)) with timed_eq
  have flatTimed : Flat timed := (flatStart.setStringValue "n" _).set "t" (.inr ⟨_, rfl⟩)
  have time : timed.get "t" = some (.int (request.now / 1000000)) := Object.get_set_self _ _ _
  have kept : timed.get "n" = (setStringValue crypto start "n" (some nonce)).get "n" :=
    Object.get_set_of_ne _ _ (by decide)
  set finished := setStringValue crypto (setStringValue crypto (setStringValue crypto timed
    "rm" provider.responseMode) "pr" request.prompt) "ps" pkceState with finished_eq
  have flatFinished : Flat finished :=
    ((flatTimed.setStringValue "rm" _).setStringValue "pr" _).setStringValue "ps" _
  have unchanged {name : String} (notMode : name ≠ "rm") (notPrompt : name ≠ "pr")
      (notPkce : name ≠ "ps") : finished.get name = timed.get name := by
    rw [finished_eq, get_setStringValue_of_ne _ _ notPkce, get_setStringValue_of_ne _ _ notPrompt,
      get_setStringValue_of_ne _ _ notMode]
  -- The two members for session management come last and may be missing.
  have shape : Flat protoState ∧ ∀ name, name ≠ "arp" → name ≠ "psc" →
      protoState.get name = finished.get name := by
    split at built
    · obtain rfl := Option.some.inj built
      refine ⟨(flatFinished.setStringValue "arp" _).setStringValue "psc" _, ?_⟩
      intro name notParams notScope
      rw [get_setStringValue_of_ne _ _ notScope, get_setStringValue_of_ne _ _ notParams]
    · obtain rfl := Option.some.inj built
      exact ⟨flatFinished, fun name _ _ => rfl⟩
  obtain ⟨flat, same⟩ := shape
  have stamped : protoState.get "t" = some (.int (request.now / 1000000)) := by
    rw [same "t" (by decide) (by decide), unchanged (by decide) (by decide) (by decide), time]
  have nonced : protoState.get "n" = (setStringValue crypto start "n" (some nonce)).get "n" := by
    rw [same "n" (by decide) (by decide), unchanged (by decide) (by decide) (by decide), kept]
  refine ⟨flat, ?_, ?_, ?_⟩
  · rw [getTimestamp, stamped]
  · rw [stamped]
    exact Option.some_ne_none _
  · rw [getStringValue_congr nonced, getStringValue_setStringValue _ _ accepted]

/-! ## Texts of the alphabet -/

theorem toList_of_base64urlEncode {bytes : List UInt8} {text : String}
    (encoded : base64urlEncode bytes = some text) : text.toList = Base64Url.encode bytes := by
  unfold base64urlEncode at encoded
  split at encoded
  · cases encoded
  · rw [← Option.some.inj encoded, String.toList_ofList]

theorem nameOk_of_alphabet {text : String} (letters : ∀ c ∈ text.toList, c ∈ Base64Url.alphabet) :
    NameOk text := by
  have equal : '=' ∉ Base64Url.alphabet := by decide
  have semicolon : ';' ∉ Base64Url.alphabet := by decide
  have blank : ' ' ∉ Base64Url.alphabet := by decide
  refine ⟨fun member => equal (letters _ member), fun member => semicolon (letters _ member), ?_⟩
  intro first
  exact blank (letters _ (List.mem_of_head? first))

theorem utf8_of_alphabet {text : String} (letters : ∀ c ∈ text.toList, c ∈ Base64Url.alphabet) :
    crypto.utf8 text = true := by
  exact crypto.utf8_ascii text fun c member => Base64Url.alphabet_ascii c (letters c member)

/-- Nonces are texts of the alphabet, all of one length. -/
theorem nonce_spec {request : AuthRequest crypto} {nonce : String}
    (drawn : request.nonce = some nonce) :
    nonce.toList.length = 43 ∧ ∀ c ∈ nonce.toList, c ∈ Base64Url.alphabet := by
  obtain ⟨bytes, random, encoded⟩ := Option.bind_eq_some_iff.mp drawn
  have length := request.random_length bytes random
  rw [toList_of_base64urlEncode encoded, Base64Url.length_encode, length]
  exact ⟨rfl, Base64Url.mem_encode bytes⟩

theorem fingerprint_alphabet {exchange : Exchange} {nonce : Option String} {state : String}
    (hashed : browserFingerprint crypto cfg exchange nonce = some state) :
    ∀ c ∈ state.toList, c ∈ Base64Url.alphabet := by
  obtain ⟨digest, -, encoded⟩ := Option.bind_eq_some_iff.mp hashed
  rw [toList_of_base64urlEncode encoded]
  exact Base64Url.mem_encode digest

/-- Equal fingerprints come from equal digests. -/
theorem digest_of_fingerprint {exchange exchange' : Exchange} {nonce nonce' : Option String}
    {state : String} (hashed : browserFingerprint crypto cfg exchange nonce = some state)
    (hashed' : browserFingerprint crypto cfg exchange' nonce' = some state) :
    ∃ digest, crypto.hashBytes (fingerprintInput cfg exchange nonce) = some digest ∧
      crypto.hashBytes (fingerprintInput cfg exchange' nonce') = some digest := by
  obtain ⟨digest, hash, encoded⟩ := Option.bind_eq_some_iff.mp hashed
  obtain ⟨digest', hash', encoded'⟩ := Option.bind_eq_some_iff.mp hashed'
  have lengths : digest.length = digest'.length := by
    rw [crypto.hashBytes_length _ _ hash, crypto.hashBytes_length _ _ hash']
  have texts : Base64Url.encode digest = Base64Url.encode digest' := by
    rw [← toList_of_base64urlEncode encoded, toList_of_base64urlEncode encoded']
  obtain rfl := Base64Url.encode_inj lengths texts
  exact ⟨digest, hash, hash'⟩

/-- The nonce is a suffix of the hashed text, so texts with different nonces differ. -/
theorem nonce_of_fingerprintInput {exchange exchange' : Exchange} {nonce nonce' : String}
    (length : nonce.toList.length = nonce'.toList.length)
    (same : fingerprintInput cfg exchange (some nonce) = fingerprintInput cfg exchange'
    (some nonce')) :
    nonce = nonce' := by
  have texts := congrArg String.toList same
  simp only [fingerprintInput, String.toList_append, Option.getD_some] at texts
  exact String.toList_inj.mp (List.append_inj_right' texts length)

/-- Different states have different cookies, the missing state included. -/
theorem cookieName_inj {state : String} {other : Option String}
    (letters : ∀ c ∈ state.toList, c ∈ Base64Url.alphabet)
    (same : cookieName cfg other = cookieName cfg (some state)) : other = some state := by
  have texts := congrArg String.toList same
  rw [cookieName, cookieName, String.toList_append, String.toList_append] at texts
  have suffixes := String.toList_inj.mp (List.append_cancel_left texts)
  cases other with
  | none =>
      have parenthesis : '(' ∉ Base64Url.alphabet := by decide
      refine absurd (letters '(' ?_) parenthesis
      have shown : state = "(null)" := suffixes.symm
      rw [shown]
      decide
  | some text => exact congrArg some suffixes

/-! ## What the handlers do to the cookies -/

theorem cookiesDeleteOldest_removals (exchange : Exchange) (rounds : Nat) (number : Int)
    (cookies : List ValidCookie) :
    ∀ set ∈ (cookiesDeleteOldest exchange rounds number cookies).1, Jar.IsRemoval set := by
  induction rounds generalizing number cookies with
  | zero => simp [cookiesDeleteOldest]
  | succ rounds ih =>
      intro set member
      rw [cookiesDeleteOldest] at member
      split at member
      · exact ih _ _ set member
      · rcases List.mem_cons.mp member with rfl | later
        · exact Jar.setCookie_removal ..
        · exact ih _ _ set later

theorem cookiesParseToken_removals (exchange : Exchange) (token : List Char)
    (currentCookieName : Option String) :
    ∀ set ∈ (cookiesParseToken crypto cfg exchange token currentCookieName).1,
      Jar.IsRemoval set := by
  have one (name value : String) : ∀ set ∈
      (cookiesProcessOne crypto cfg exchange name value currentCookieName).1,
      Jar.IsRemoval set := by
    intro set member
    unfold cookiesProcessOne at member
    split at member
    · simp at member
    · split at member
      · rw [List.mem_singleton.mp member]
        exact Jar.setCookie_removal ..
      · dsimp only at member
        split at member
        · rw [List.mem_singleton.mp member]
          exact Jar.setCookie_removal ..
        · simp at member
  intro set member
  unfold cookiesParseToken at member
  dsimp only at member
  split at member
  · simp at member
  · split at member
    · simp at member
    · exact one _ _ set member

/-- Cleaning up only removes cookies. -/
theorem cookiesCleanExpired_removals (crypto : Crypto) (cfg : Config) (exchange : Exchange)
    (cookies currentCookieName : Option String) (deleteOldest : Bool) :
    ∀ set ∈ (cookiesCleanExpired crypto cfg exchange cookies currentCookieName deleteOldest).1,
      Jar.IsRemoval set := by
  have parsed : ∀ set ∈ (((strtok ';' ((cookies.getD "").toList)).map fun token =>
      cookiesParseToken crypto cfg exchange token currentCookieName).flatMap Prod.fst),
      Jar.IsRemoval set := by
    intro set member
    obtain ⟨result, found, emitted⟩ := List.mem_flatMap.mp member
    obtain ⟨token, -, rfl⟩ := List.mem_map.mp found
    exact cookiesParseToken_removals exchange token currentCookieName set emitted
  intro set member
  unfold cookiesCleanExpired at member
  dsimp only at member
  split at member
  · rcases List.mem_append.mp member with older | deleted
    · exact parsed set older
    · exact cookiesDeleteOldest_removals _ _ _ _ set deleted
  · exact parsed set member

/-- An issue is what `oidc_request_authenticate_user` makes of its request. -/
structure Issue.Recorded (cfg : Config) (issue : Issue crypto) : Prop where
  nonce : issue.request.nonce = some issue.nonce
  state : issue.state = browserFingerprint crypto cfg issue.request.toExchange (some issue.nonce)
  protoState : ∃ provider pkceState, issue.request.provider = some provider ∧
    issue.request.pkceState provider = some pkceState ∧
    newProtoState crypto issue.request provider issue.nonce pkceState = some issue.protoState

/-- A request removes cookies and, if it issues a state, stores the proto state under its name. -/
theorem authenticateUser_cases (crypto : Crypto) (cfg : Config) (request : AuthRequest crypto)
    (cookies : Option String) :
    (∃ sets, authenticateUser crypto cfg request cookies = (sets, none) ∧
      ∀ set ∈ sets, Jar.IsRemoval set) ∨
    ∃ sets issue payload cookieValue,
      authenticateUser crypto cfg request cookies =
        (sets ++ [setCookie request.context (cookieName cfg issue.state) cookieValue (-1)
          (samesiteStateCookie cfg request.toExchange)], some issue) ∧
      (∀ set ∈ sets, Jar.IsRemoval set) ∧ issue.request = request ∧ issue.Recorded cfg ∧
      crypto.jsonEncode issue.protoState = some payload ∧
      request.jwtCreate payload = some cookieValue := by
  unfold authenticateUser
  cases chosen : request.provider with
  | none => exact .inl ⟨[], rfl, by simp⟩
  | some provider =>
      dsimp only
      split
      · next nonce pkceState drawn verifier =>
          cases built : newProtoState crypto request provider nonce pkceState with
          | none => exact .inl ⟨[], rfl, by simp⟩
          | some protoState =>
              have removals := cookiesCleanExpired_removals crypto cfg
                request.toExchange cookies none
                cfg.deleteOldestCookies
              simp only [authorizationSetCookie]
              cases sealed : (crypto.jsonEncode protoState).bind request.jwtCreate with
              | none => exact .inl ⟨[], rfl, by simp⟩
              | some cookieValue =>
                  obtain ⟨payload, encoded, created⟩ := Option.bind_eq_some_iff.mp sealed
                  dsimp only
                  split
                  · next sets full =>
                      split at full
                      · obtain ⟨rfl, -⟩ := Prod.mk.inj full
                        exact .inl ⟨_, rfl, removals⟩
                      · simp at full
                  · next sets stored =>
                      split at stored
                      · simp at stored
                      · obtain ⟨rfl, -⟩ := Prod.mk.inj stored
                        refine .inr ⟨_, ⟨request, nonce, _, protoState⟩, payload, cookieValue, rfl,
                          removals, rfl, ?_, encoded, created⟩
                        exact ⟨drawn, rfl, provider, pkceState, chosen, verifier, built⟩
      · exact .inl ⟨[], rfl, by simp⟩

theorem protoStateRestore_removals (crypto : Crypto) (cfg : Config) (exchange : Exchange)
    (cookies : Option String) (state : String) :
    ∀ set ∈ (protoStateRestore crypto cfg exchange cookies state).1, Jar.IsRemoval set := by
  have cleaned := cookiesCleanExpired_removals crypto cfg exchange cookies
    (some (cookieName cfg (some state))) false
  have cleared : ∀ set ∈ (cookiesCleanExpired crypto cfg exchange cookies
      (some (cookieName cfg (some state))) false).1 ++
        [setCookie exchange.context (cookieName cfg (some state)) "" 0 (sameSiteNone exchange)],
      Jar.IsRemoval set := by
    intro set member
    rcases List.mem_append.mp member with older | newer
    · exact cleaned set older
    · rw [List.mem_singleton.mp newer]
      exact Jar.setCookie_removal ..
  unfold protoStateRestore
  dsimp only
  split
  · exact cleaned
  · split
    · exact cleared
    · split
      · exact cleared
      · split
        · exact cleared
        · exact cleared

/-- A response only removes state cookies. -/
theorem responseProcess_removals (crypto : Crypto) (cfg : Config) (response : AuthResponse)
    (cookies : Option String) :
    ∀ set ∈ (responseProcess crypto cfg response cookies).1, Jar.IsRemoval set := by
  unfold responseProcess matchState
  split
  · simp
  · split
    · simp
    · split
      · simp
      · exact protoStateRestore_removals crypto cfg response.toExchange cookies _

/-- What a restored state has been checked for. -/
theorem protoStateRestore_passed {exchange : Exchange} {cookies : Option String} {state : String}
    {restored : Object}
    (passed : (protoStateRestore crypto cfg exchange cookies state).2 = some restored) :
    ∃ cookieValue protoState, getCookie cookies (cookieName cfg (some state)) = some cookieValue ∧
      fromCookie crypto cookieValue = some protoState ∧
      browserFingerprint crypto cfg exchange (getStringValue protoState "n") = some state ∧
      exchange.now ≤ getTimestamp protoState + cfg.timeout * 1000000 ∧
      restored = setStringValue crypto protoState "s" (some state) ∧
      cookieName cfg (some state) ∈
        (protoStateRestore crypto cfg exchange cookies state).1.map SetCookie.name := by
  unfold protoStateRestore at passed ⊢
  dsimp only at passed ⊢
  split at passed
  · cases passed
  · next cookieValue found =>
      split at passed
      · cases passed
      · next protoState opened =>
          split at passed
          · cases passed
          · next agrees =>
              split at passed
              · cases passed
              · next fresh =>
                  refine ⟨cookieValue, protoState, found, opened, not_not.mp agrees,
                    Int.not_lt.mp fresh, (Option.some.inj passed).symm, ?_⟩
                  simp only [if_neg agrees, if_neg fresh, List.map_append, List.mem_append]
                  exact .inr (List.mem_singleton.mpr rfl)

theorem responseProcess_passed {response : AuthResponse} {cookies : Option String}
    {restored : Object}
    (passed : (responseProcess crypto cfg response cookies).2 = some restored) :
    ∃ state, response.state = some state ∧
      (responseProcess crypto cfg response cookies).1 =
        (protoStateRestore crypto cfg response.toExchange cookies state).1 ∧
      (protoStateRestore crypto cfg response.toExchange cookies state).2 = some restored := by
  unfold responseProcess matchState at passed ⊢
  split at passed
  · cases passed
  · next forward =>
      split at passed
      · cases passed
      · next state given =>
          split at passed
          · cases passed
          · next nonempty =>
              refine ⟨state, given, ?_, ?_⟩
              · simp only [forward, nonempty, if_false]
                rfl
              · exact (Option.filter_eq_some_iff.mp passed).1

/-! ## Runs of one browser -/

/-- A cookie value which is no sealed proto state. Session identifiers, pieces of sealed sessions
and CSRF values do not open, since the encryption is authentic; a sealed session opens to an object
without a member `t`. -/
def NotState (crypto : Crypto) (value : String) : Prop :=
  ∀ object, fromCookie crypto value = some object → object.get "t" = none

/-- One HTTP exchange of the browser with the module. -/
inductive Event (crypto : Crypto)
  | request (request : AuthRequest crypto)
  | response (response : AuthResponse)
  /-- The other cookies of the module are set or removed. -/
  | other (now : Int) (sets : List SetCookie)
      (notState : ∀ set ∈ sets, NotState crypto (Jar.cutValue set.value))

/-- The browser's cookies, with a log of the issued states and of the states that passed. -/
structure Browser (crypto : Crypto) where
  jar : Jar := Jar.empty
  issued : List (Issue crypto) := []
  passed : List String := []

/-- One exchange. -/
def Browser.step (cfg : Config) (browser : Browser crypto) : Event crypto → Browser crypto
  | .request request =>
      let (sets, issue) := authenticateUser crypto cfg request browser.jar.header
      { browser with
        jar := browser.jar.applyAll request.now sets
        issued := browser.issued ++ issue.toList }
  | .response response =>
      let (sets, restored) := responseProcess crypto cfg response browser.jar.header
      { browser with
        jar := browser.jar.applyAll response.now sets
        passed := browser.passed ++ if restored.isSome then response.state.toList else [] }
  | .other now sets _ => { browser with jar := browser.jar.applyAll now sets }

/-- Any number of exchanges in order, from a browser without cookies. -/
def run (crypto : Crypto) (cfg : Config) (events : List (Event crypto)) : Browser crypto :=
  events.foldl (Browser.step cfg) {}

/-- The nonces that the requests of a run generate. -/
def nonces (events : List (Event crypto)) : List String :=
  events.filterMap fun
    | .request request => request.nonce
    | _ => none

/-- The exchanges with the state functions. -/
def exchanges (events : List (Event crypto)) : List Exchange :=
  events.filterMap fun
    | .request request => some request.toExchange
    | .response response => some response.toExchange
    | .other .. => none

/-- The hash has no collision among the fingerprints of a run. -/
def CollisionFree (cfg : Config) (events : List (Event crypto)) : Prop :=
  ∀ exchange ∈ exchanges events, ∀ exchange' ∈ exchanges events, ∀ nonce ∈ nonces events,
    ∀ nonce' ∈ nonces events, ∀ digest,
      crypto.hashBytes (fingerprintInput cfg exchange (some nonce)) = some digest →
      crypto.hashBytes (fingerprintInput cfg exchange' (some nonce')) = some digest →
        fingerprintInput cfg exchange (some nonce) = fingerprintInput cfg exchange' (some nonce')

theorem run_concat (events : List (Event crypto)) (event : Event crypto) :
    run crypto cfg (events ++ [event]) = (run crypto cfg events).step cfg event := by
  rw [run, run, List.foldl_append, List.foldl_cons, List.foldl_nil]

theorem nonces_concat (events : List (Event crypto)) (event : Event crypto) :
    nonces (events ++ [event]) = nonces events ++ nonces [event] :=
  List.filterMap_append ..

theorem exchanges_concat (events : List (Event crypto)) (event : Event crypto) :
    exchanges (events ++ [event]) = exchanges events ++ exchanges [event] :=
  List.filterMap_append ..

theorem CollisionFree.earlier {events : List (Event crypto)} {event : Event crypto}
    (collisionFree : CollisionFree cfg (events ++ [event])) : CollisionFree cfg events := by
  intro exchange member exchange' member' nonce drawn nonce' drawn'
  refine collisionFree exchange ?_ exchange' ?_ nonce ?_ nonce' ?_
  · exact exchanges_concat events event ▸ List.mem_append_left _ member
  · exact exchanges_concat events event ▸ List.mem_append_left _ member'
  · exact nonces_concat events event ▸ List.mem_append_left _ drawn
  · exact nonces_concat events event ▸ List.mem_append_left _ drawn'

/-- What holds of a browser after a run: every cookie with a timestamp is the cookie of an issued
state that has not passed yet. -/
structure Bound (cfg : Config) (events : List (Event crypto)) (browser : Browser crypto) :
    Prop where
  held : ∀ name value object, browser.jar.get name = some value →
    fromCookie crypto value = some object → object.get "t" ≠ none →
      ∃ issue ∈ browser.issued, name = cookieName cfg issue.state ∧ object = issue.protoState ∧
        ∀ state ∈ browser.passed, issue.state ≠ some state
  recorded : ∀ issue ∈ browser.issued, issue.Recorded cfg ∧ .request issue.request ∈ events
  distinct : (browser.issued.map Issue.nonce).Sublist (nonces events)
  passed : ∀ state ∈ browser.passed, ∃ issue ∈ browser.issued, issue.state = some state
  once : browser.passed.Nodup

section Run

variable {events : List (Event crypto)} {browser : Browser crypto}

theorem mem_exchanges_of_request {request : AuthRequest crypto}
    (member : .request request ∈ events) : request.toExchange ∈ exchanges events :=
  List.mem_filterMap.mpr ⟨_, member, rfl⟩

theorem mem_exchanges_of_response {response : AuthResponse}
    (member : .response response ∈ events) : response.toExchange ∈ exchanges events :=
  List.mem_filterMap.mpr ⟨_, member, rfl⟩

theorem mem_nonces_of_request {request : AuthRequest crypto} {nonce : String}
    (member : .request request ∈ events) (drawn : request.nonce = some nonce) :
    nonce ∈ nonces events :=
  List.mem_filterMap.mpr ⟨_, member, drawn⟩

/-- Two requests with the same state have drawn the same nonce. -/
theorem nonce_of_state (collisionFree : CollisionFree cfg events) {issue issue' : Issue crypto}
    (recorded : issue.Recorded cfg) (member : .request issue.request ∈ events)
    (recorded' : issue'.Recorded cfg) (member' : .request issue'.request ∈ events) {state : String}
    (given : issue.state = some state) (given' : issue'.state = some state) :
    issue.nonce = issue'.nonce := by
  rw [recorded.state] at given
  rw [recorded'.state] at given'
  obtain ⟨digest, hash, hash'⟩ := digest_of_fingerprint given given'
  have same := collisionFree _ (mem_exchanges_of_request member) _
    (mem_exchanges_of_request member') _ (mem_nonces_of_request member recorded.nonce) _
    (mem_nonces_of_request member' recorded'.nonce) digest hash hash'
  have length : issue.nonce.toList.length = issue'.nonce.toList.length := by
    rw [(nonce_spec recorded.nonce).1, (nonce_spec recorded'.nonce).1]
  exact nonce_of_fingerprintInput length same

/-- Cookies may disappear without harm. -/
theorem Bound.shrink (bound : Bound cfg events browser) {jar : Jar}
    (fewer : ∀ name value, jar.get name = some value → browser.jar.get name = some value) :
    Bound cfg events { browser with jar } where
  held name value object held := bound.held name value object (fewer name value held)
  recorded := bound.recorded
  distinct := bound.distinct
  passed := bound.passed
  once := bound.once

theorem Bound.later (bound : Bound cfg events browser) (event : Event crypto) :
    Bound cfg (events ++ [event]) browser where
  held := bound.held
  recorded issue member := by
    obtain ⟨recorded, earlier⟩ := bound.recorded issue member
    exact ⟨recorded, List.mem_append_left _ earlier⟩
  distinct := by
    rw [nonces_concat]
    exact bound.distinct.trans (List.sublist_append_left _ _)
  passed := bound.passed
  once := bound.once

theorem get_removals {sets : List SetCookie}
    (removals : ∀ set ∈ sets, Jar.IsRemoval set) (jar : Jar)
    (exchange : Exchange) {name value : String}
    (held : (jar.applyAll exchange.now sets).get name = some value) :
    jar.get name = some value ∧ name ∉ sets.map SetCookie.name := by
  have positive : 0 ≤ exchange.now := le_trans (by decide) exchange.now_late
  rw [Jar.get_applyAll_removals removals jar positive] at held
  split at held
  · cases held
  · next notRemoved => exact ⟨held, notRemoved⟩

/-- A response which passes carries the state of an issue that has not passed before. -/
theorem Bound.passes (bound : Bound cfg events browser) {response : AuthResponse}
    {restored : Object}
    (passed : (responseProcess crypto cfg response browser.jar.header).2 = some restored) :
    ∃ state issue, response.state = some state ∧ issue ∈ browser.issued ∧
      issue.state = some state ∧ state ∉ browser.passed ∧
      browserFingerprint crypto cfg response.toExchange (some issue.nonce) = some state ∧
      response.now ≤ issue.request.now + cfg.timeout * 1000000 ∧
      restored = setStringValue crypto issue.protoState "s" (some state) ∧
      cookieName cfg (some state) ∈
        (responseProcess crypto cfg response browser.jar.header).1.map SetCookie.name := by
  obtain ⟨state, given, headers, restores⟩ := responseProcess_passed passed
  obtain ⟨value, protoState, found, opened, fingerprint, fresh, rfl, cleared⟩ :=
    protoStateRestore_passed restores
  have letters := fingerprint_alphabet fingerprint
  have nameOk : NameOk (cookieName cfg (some state)) :=
    nameOk_append cfg.cookiePrefixOk (nameOk_of_alphabet letters)
  rw [Jar.getCookie_header _ nameOk] at found
  -- Without a timestamp the cookie would have expired in 1970.
  have stamped : protoState.get "t" ≠ none := by
    intro missing
    have late := response.now_late
    have limit := cfg.timeout_le
    rw [getTimestamp, missing] at fresh
    dsimp only at fresh
    omega
  obtain ⟨issue, member, name, rfl, unused⟩ := bound.held _ _ _ found opened stamped
  have same := cookieName_inj letters name.symm
  obtain ⟨recorded, -⟩ := bound.recorded issue member
  obtain ⟨provider, pkceState, -, -, built⟩ := recorded.protoState
  obtain ⟨-, time, -, nonce⟩ :=
    newProtoState_spec (utf8_of_alphabet (nonce_spec recorded.nonce).2) built
  refine ⟨state, issue, given, member, same, ?_, ?_, ?_, rfl, headers ▸ cleared⟩
  · intro again
    exact unused state again same
  · rw [← nonce]
    exact fingerprint
  · rw [time] at fresh
    have truncated := Int.ediv_mul_le issue.request.now (show (1000000 : Int) ≠ 0 by decide)
    omega

/-- Requests keep the bound. -/
theorem Bound.request (bound : Bound cfg events browser) {request : AuthRequest crypto}
    (distinct : (nonces (events ++ [.request request])).Nodup)
    (collisionFree : CollisionFree cfg (events ++ [.request request])) :
    Bound cfg (events ++ [.request request]) (browser.step cfg (.request request)) := by
  rcases authenticateUser_cases crypto cfg request browser.jar.header with
    ⟨sets, outcome, removals⟩ | ⟨sets, issue, payload, value, outcome, removals, rfl, recorded,
      encoded, created⟩
  · have kept := (bound.shrink fun name value held =>
      (get_removals removals browser.jar request.toExchange held).1).later (.request request)
    simpa only [Browser.step, outcome, Option.toList_none, List.append_nil] using kept
  · have inserted : Event.request issue.request ∈ events ++ [.request issue.request] :=
      List.mem_append_right _ List.mem_cons_self
    have drawn : nonces [Event.request issue.request] = [issue.nonce] := by
      simp [nonces, recorded.nonce]
    obtain ⟨provider, pkceState, -, -, built⟩ := recorded.protoState
    obtain ⟨flat, -, -, -⟩ :=
      newProtoState_spec (utf8_of_alphabet (nonce_spec recorded.nonce).2) built
    have opens : fromCookie crypto (Jar.cutValue value) = some issue.protoState := by
      rw [Jar.cutValue_of_clean (issue.request.jwtCreate_clean _ _ created), fromCookie,
        issue.request.jwtVerify_create _ _ created, Option.bind_some,
        crypto.jsonDecodeObject_encode _ _ flat encoded]
    have fresh : ∀ state ∈ browser.passed, issue.state ≠ some state := by
      intro state used given
      obtain ⟨older, member, given'⟩ := bound.passed state used
      obtain ⟨recorded', earlier⟩ := bound.recorded older member
      have same := nonce_of_state collisionFree recorded' (List.mem_append_left _ earlier) recorded
        inserted given' given
      rw [nonces_concat, drawn] at distinct
      have before : older.nonce ∈ nonces events := mem_nonces_of_request earlier recorded'.nonce
      exact (List.nodup_append.mp distinct).2.2 _ before _ List.mem_cons_self same
    simp only [Browser.step, outcome, Option.toList_some]
    refine ⟨?_, ?_, ?_, ?_, bound.once⟩
    · intro name held object found opened stamped
      rw [Jar.applyAll, List.foldl_append] at found
      rcases Jar.get_apply_some found with before | ⟨rfl, rfl⟩
      · have old := (get_removals removals browser.jar issue.request.toExchange before).1
        obtain ⟨older, member, rest⟩ := bound.held name held object old opened stamped
        exact ⟨older, List.mem_append_left _ member, rest⟩
      · refine ⟨issue, List.mem_append_right _ List.mem_cons_self, rfl, ?_, fresh⟩
        exact Option.some.inj (opened.symm.trans opens)
    · intro other member
      rcases List.mem_append.mp member with older | newer
      · obtain ⟨recorded', earlier⟩ := bound.recorded other older
        exact ⟨recorded', List.mem_append_left _ earlier⟩
      · rw [List.mem_singleton.mp newer]
        exact ⟨recorded, inserted⟩
    · rw [List.map_append, nonces_concat, drawn]
      exact bound.distinct.append (List.Sublist.refl _)
    · intro state used
      obtain ⟨older, member, given⟩ := bound.passed state used
      exact ⟨older, List.mem_append_left _ member, given⟩

/-- Responses keep the bound. -/
theorem Bound.response (bound : Bound cfg events browser) (response : AuthResponse) :
    Bound cfg (events ++ [.response response]) (browser.step cfg (.response response)) := by
  have removals := responseProcess_removals crypto cfg response browser.jar.header
  have kept := (bound.shrink fun name value held =>
    (get_removals removals browser.jar response.toExchange held).1).later (.response response)
  cases outcome : (responseProcess crypto cfg response browser.jar.header).2 with
  | none =>
      simpa only [Browser.step, outcome, Option.isSome_none, Bool.false_eq_true, if_false,
        List.append_nil] using kept
  | some restored =>
      obtain ⟨state, issue, given, member, issued, unused, -, -, -, cleared⟩ := bound.passes outcome
      simp only [Browser.step, outcome, Option.isSome_some, if_true, given, Option.toList_some]
      refine ⟨?_, kept.recorded, kept.distinct, ?_, ?_⟩
      · intro name value object found opened stamped
        obtain ⟨older, member', name_eq, object_eq, rest⟩ :=
          kept.held name value object found opened stamped
        refine ⟨older, member', name_eq, object_eq, ?_⟩
        intro other used
        rcases List.mem_append.mp used with earlier | now
        · exact rest other earlier
        · rw [List.mem_singleton.mp now]
          intro same
          rw [same] at name_eq
          exact (get_removals removals browser.jar response.toExchange found).2 (name_eq ▸ cleared)
      · intro other used
        rcases List.mem_append.mp used with earlier | now
        · exact bound.passed other earlier
        · rw [List.mem_singleton.mp now]
          exact ⟨issue, member, issued⟩
      · refine List.nodup_append.mpr ⟨bound.once, List.nodup_singleton _, ?_⟩
        rintro other earlier _ now rfl
        rw [List.mem_singleton.mp now] at earlier
        exact unused earlier

/-- Other cookies of the module keep the bound. -/
theorem Bound.other (bound : Bound cfg events browser) (now : Int) (sets : List SetCookie)
    (notState : ∀ set ∈ sets, NotState crypto (Jar.cutValue set.value)) :
    Bound cfg (events ++ [.other now sets notState])
      (browser.step cfg (.other now sets notState)) where
  held name value object found opened stamped := by
    rcases Jar.get_applyAll_some found with before | ⟨set, member, rfl⟩
    · exact bound.held name value object before opened stamped
    · exact absurd (notState set member object opened) stamped
  recorded := (bound.later (.other now sets notState)).recorded
  distinct := (bound.later (.other now sets notState)).distinct
  passed := bound.passed
  once := bound.once

/-- Every run keeps the bound. -/
theorem bound_run (distinct : (nonces events).Nodup) (collisionFree : CollisionFree cfg events) :
    Bound cfg events (run crypto cfg events) := by
  induction events using List.reverseRecOn with
  | nil =>
      refine ⟨?_, ?_, List.Sublist.refl _, ?_, List.nodup_nil⟩
      · intro name value object found
        cases found
      · intro issue member
        cases member
      · intro state member
        cases member
  | append_singleton events event ih =>
      have earlier : (nonces events).Nodup := by
        rw [nonces_concat] at distinct
        exact (List.nodup_append.mp distinct).1
      have bound := ih earlier collisionFree.earlier
      rw [run_concat]
      cases event with
      | request request => exact bound.request distinct collisionFree
      | response response => exact bound.response response
      | other now sets notState => exact bound.other now sets notState

theorem passed_later {state : String} (used : state ∈ (run crypto cfg events).passed)
    (later : List (Event crypto)) : state ∈ (run crypto cfg (events ++ later)).passed := by
  induction later using List.reverseRecOn with
  | nil => simpa using used
  | append_singleton later event ih =>
      rw [← List.append_assoc, run_concat]
      cases event with
      | request request => exact ih
      | response response => exact List.mem_append_left _ ih
      | other now sets notState => exact ih

end Run

/-- A response whose state is accepted belongs to one request of the same browser: the request
issued that very state, at most the timeout ago, to a browser with the same fingerprint, and
everything it recorded is restored. The browser has lost the cookie afterwards, and however the run
continues, the state is not accepted again. -/
theorem response_passes_only_issued (crypto : Crypto) (cfg : Config) (events : List (Event crypto))
    (response : AuthResponse) (distinct : (nonces events).Nodup)
    (collisionFree : CollisionFree cfg (events ++ [.response response])) {restored : Object}
    (passed : (responseProcess crypto cfg response (run crypto cfg events).jar.header).2 =
      some restored) :
    ∃ issue ∈ (run crypto cfg events).issued,
      (.request issue.request ∈ events ∧ issue.Recorded cfg ∧ response.state = issue.state) ∧
      response.now ≤ issue.request.now + cfg.timeout * 1000000 ∧
      fingerprintInput cfg response.toExchange (some issue.nonce) =
        fingerprintInput cfg issue.request.toExchange (some issue.nonce) ∧
      (∀ name, name ≠ "s" → restored.get name = issue.protoState.get name) ∧
      (∀ other ∈ (run crypto cfg events).issued, other.state = issue.state → other = issue) ∧
      (run crypto cfg (events ++ [.response response])).jar.get
          (cookieName cfg issue.state) = none ∧
      ∀ later, (nonces (events ++ [.response response] ++ later)).Nodup →
        CollisionFree cfg (events ++ [.response response] ++ later) →
        ∀ again : AuthResponse, again.state = response.state →
          (responseProcess crypto cfg again
            (run crypto cfg (events ++ [.response response] ++ later)).jar.header).2 = none := by
  have bound := bound_run distinct collisionFree.earlier
  obtain ⟨state, issue, given, member, issued, -, fingerprint, fresh, rfl, cleared⟩ :=
    bound.passes passed
  obtain ⟨recorded, earlier⟩ := bound.recorded issue member
  refine ⟨issue, member, ⟨earlier, recorded, given.trans issued.symm⟩, fresh, ?_, ?_, ?_, ?_, ?_⟩
  · obtain ⟨digest, hash, hash'⟩ := digest_of_fingerprint fingerprint (recorded.state ▸ issued)
    have responded : Event.response response ∈ events ++ [.response response] :=
      List.mem_append_right _ List.mem_cons_self
    have requested : Event.request issue.request ∈ events ++ [.response response] :=
      List.mem_append_left _ earlier
    have drawn := mem_nonces_of_request requested recorded.nonce
    exact collisionFree _ (mem_exchanges_of_response responded) _
      (mem_exchanges_of_request requested) _ drawn _ drawn digest hash hash'
  · intro name different
    exact get_setStringValue_of_ne _ _ different
  · intro other member' same
    obtain ⟨recorded', earlier'⟩ := bound.recorded other member'
    have nonce := nonce_of_state collisionFree.earlier recorded' earlier' recorded earlier
      (same.trans issued) issued
    exact List.inj_on_of_nodup_map (bound.distinct.nodup distinct) member' member nonce
  · have positive : 0 ≤ response.now := le_trans (by decide) response.now_late
    rw [run_concat, issued]
    simp only [Browser.step]
    rw [Jar.get_applyAll_removals (responseProcess_removals _ _ _ _) _ positive, if_pos cleared]
  · intro later distinctLater collisionFreeLater again same
    have used : state ∈ (run crypto cfg (events ++ [.response response])).passed := by
      rw [run_concat]
      simp [Browser.step, passed, given]
    have boundLater := bound_run distinctLater collisionFreeLater
    cases outcome : (responseProcess crypto cfg again
        (run crypto cfg (events ++ [.response response] ++ later)).jar.header).2 with
    | none => rfl
    | some restored' =>
        obtain ⟨state', -, given', -, -, unused, -⟩ := boundLater.passes outcome
        rw [same, given] at given'
        obtain rfl := Option.some.inj given'
        exact absurd (passed_later used later) unused

/-- A nonce of 32 zero bytes. -/
def loginNonce : String := "AAAAAAAAAAAAAAAAAAAAAAAAAAAAAAAAAAAAAAAAAAA"

/-- The proto state of a login. -/
def loginProtoState : Object :=
  [("ou", .str "https://rp/"), ("om", .str "get"), ("i", .str "https://op"), ("rt", .str "code"),
    ("n", .str loginNonce), ("t", .int 1700000000)]

/-- The JSON text of that state. -/
def loginPayload : String :=
  "\x7b\"ou\":\"https://rp/\",\"om\":\"get\",\"i\":\"https://op\",\"rt\":\"code\",\"n\":\"" ++
    loginNonce ++ "\",\"t\":1700000000\x7d"

/-- The text of a proto state with the members of a plain login, if it is that login. -/
def loginEncode : Object → Option String
  | [("ou", .str url), ("om", .str method), ("i", .str issuer), ("rt", .str kind),
      ("n", .str nonce),
      ("t", .int seconds)] =>
      if url = "https://rp/" ∧ method = "get" ∧ issuer = "https://op" ∧ kind = "code" ∧
          nonce = loginNonce ∧ seconds = 1700000000 then
        some loginPayload
      else none
  | _ => none

/-- Libraries which know the texts of this login, with the SHA-256 digest of its fingerprint. -/
def loginCrypto : Crypto where
  jsonEncode := loginEncode
  jsonDecodeObject text := if text = loginPayload then some loginProtoState else none
  jsonDecodeObject_encode object text flat encoded := by
    unfold loginEncode at encoded
    split at encoded
    · split at encoded
      · next same =>
          obtain ⟨rfl, rfl, rfl, rfl, rfl, rfl⟩ := same
          rw [if_pos (Option.some.inj encoded).symm]
          rfl
      · cases encoded
    · cases encoded
  utf8 _ := true
  utf8_ascii _ _ := rfl
  jwtVerify text := if text = "sealed" then some loginPayload else none
  hashBytes input :=
    if input = "Mozilla/5.0" ++ loginNonce then
      some [73, 101, 197, 211, 20, 169, 14, 176, 9, 86, 47, 3, 242, 61, 76, 68, 181,
          12, 212, 215, 195,
        42, 173, 86, 13, 36, 69, 199, 252, 44, 212, 130]
    else none
  hashBytes_length input digest hashed := by
    split at hashed
    · rw [← Option.some.inj hashed]
      rfl
    · cases hashed

/-- The authorization request of the login. -/
def loginRequest : AuthRequest loginCrypto where
  now := 1700000000000000
  userAgent := some "Mozilla/5.0"
  provider := some { issuer := some "https://op", responseType := some "code" }
  random := some (List.replicate 32 0)
  random_length bytes drawn := by
    rw [← Option.some.inj drawn]
    rfl
  originalUrl := "https://rp/"
  jwtCreate payload := if payload = loginPayload then some "sealed" else none
  jwtVerify_create payload text created := by
    split at created
    · next same =>
        rw [← Option.some.inj created, same]
        rfl
    · cases created
  jwtCreate_clean payload text created := by
    split at created
    · rw [← Option.some.inj created]
      decide
    · cases created

/-- The state of the login: its digest in base64url. -/
def loginState : String := "SWXF0xSpDrAJVi8D8j1MRLUM1NfDKq1WDSRFx_ws1II"

/-- The response of the provider, a minute later. -/
def loginResponse : AuthResponse where
  now := 1700000060000000
  userAgent := some "Mozilla/5.0"
  state := some loginState

theorem login_fingerprint {exchange : Exchange} (agent : exchange.userAgent = some "Mozilla/5.0") :
    browserFingerprint loginCrypto {} exchange (some loginNonce) = some loginState := by
  have input : fingerprintInput {} exchange (some loginNonce) = "Mozilla/5.0" ++ loginNonce := by
    simp [fingerprintInput, agent]
  rw [browserFingerprint, input]
  rfl

theorem login_issued : authenticateUser loginCrypto {} loginRequest none =
    ([setCookie {} (cookieName {} (some loginState)) "sealed" (-1) (some "SameSite=Lax")],
      some ⟨loginRequest, loginNonce, some loginState, loginProtoState⟩) := by
  have chosen : loginRequest.provider =
      some { issuer := some "https://op", responseType := some "code" } := rfl
  have drawn : loginRequest.nonce = some loginNonce := rfl
  have verifier : loginRequest.pkceState
      { issuer := some "https://op", responseType := some "code" } = some none := rfl
  have built : newProtoState loginCrypto loginRequest
      { issuer := some "https://op", responseType := some "code" } loginNonce none =
        some loginProtoState := rfl
  have state := login_fingerprint (show loginRequest.toExchange.userAgent = _ from rfl)
  have sealed : (loginCrypto.jsonEncode loginProtoState).bind loginRequest.jwtCreate =
      some "sealed" := rfl
  simp only [authenticateUser, chosen, drawn, verifier, built, state,
    authorizationSetCookie, sealed]
  rfl

theorem run_request (crypto : Crypto) (cfg : Config) (request : AuthRequest crypto) :
    (run crypto cfg [.request request]).jar =
      Jar.empty.applyAll request.now (authenticateUser crypto cfg request none).1 := rfl

theorem login_passes :
    (responseProcess loginCrypto {} loginResponse
      (run loginCrypto {} [.request loginRequest]).jar.header).2 =
        some (loginProtoState.set "s" (.str loginState)) := by
  have nameOk : NameOk (cookieName {} (some loginState)) :=
    nameOk_append (by decide) (nameOk_of_alphabet (fingerprint_alphabet
      (login_fingerprint (show loginRequest.toExchange.userAgent = _ from rfl))))
  have held : (run loginCrypto {} [.request loginRequest]).jar.get
    (cookieName {} (some loginState)) =
      some "sealed" := by
    have stored := @Jar.get_apply_store
      (setCookie {} (cookieName {} (some loginState)) "sealed" (-1)
      (some "SameSite=Lax")) loginRequest.now rfl nameOk Jar.empty (cookieName {} (some loginState))
    rw [run_request, login_issued, Jar.applyAll, List.foldl_cons, List.foldl_nil, stored]
    exact if_pos rfl
  have opened : fromCookie loginCrypto "sealed" = some loginProtoState := rfl
  have nonce : getStringValue loginProtoState "n" = some loginNonce := rfl
  have state := login_fingerprint (show loginResponse.toExchange.userAgent = _ from rfl)
  have fresh : ¬getTimestamp loginProtoState + ({} : Config).timeout * 1000000 <
      loginResponse.toExchange.now := by decide
  have given : loginResponse.state = some loginState := rfl
  have nonempty : loginState ≠ "" := by decide
  have forward : browserBack loginResponse = false := rfl
  simp only [responseProcess, forward, matchState, given, nonempty, protoStateRestore,
    Jar.getCookie_header _ nameOk, held, opened, nonce, state, fresh, Bool.false_eq_true, if_false,
    ne_eq, not_true_eq_false]
  rfl

/-- The login of one browser. -/
theorem response_passes_login : ∃ issue ∈ (run loginCrypto {} [.request loginRequest]).issued,
    loginResponse.state = issue.state ∧
      issue.protoState.get "ou" = (loginProtoState.set "s" (.str loginState)).get "ou" := by
  have distinct : (nonces [Event.request loginRequest]).Nodup := List.nodup_singleton loginNonce
  have agents : ∀ exchange ∈ exchanges
    ([Event.request loginRequest] ++ [Event.response loginResponse]),
      exchange.userAgent = some "Mozilla/5.0" := by
    intro exchange member
    rcases List.mem_cons.mp member with rfl | later
    · rfl
    · rw [List.mem_singleton.mp later]
      rfl
  have collisionFree :
      CollisionFree {} ([Event.request loginRequest] ++ [Event.response loginResponse]) := by
    intro exchange member exchange' member' nonce drawn nonce' drawn' digest _ _
    obtain rfl : nonce = loginNonce := List.mem_singleton.mp drawn
    obtain rfl : nonce' = loginNonce := List.mem_singleton.mp drawn'
    simp only [fingerprintInput, agents exchange member, agents exchange' member']
    rfl
  obtain ⟨issue, member, ⟨-, -, given⟩, -, -, recorded, -⟩ :=
    response_passes_only_issued loginCrypto {} [.request loginRequest] loginResponse distinct
      collisionFree login_passes
  exact ⟨issue, member, given, (recorded "ou" (by decide)).symm⟩

end State

end ModAuthOpenidc
