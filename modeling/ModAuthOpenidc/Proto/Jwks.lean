import ModAuthOpenidc.Metadata.Jwks

/-!
# Looking up verification keys

A token names its key. `oidc_proto_jwks_uri_keys` looks for that key in the set of the provider, and
when the set comes from the cache and has no such key it calls itself once more with a forced
refresh. `oidc_proto_jwt_verify` forces a refresh of its own when a token without a key identifier
does not verify. Whatever tokens arrive, the forced refreshes keep their distance.
-/

namespace ModAuthOpenidc

namespace Jwks

/-- `oidc_jwk_t`, with the key itself as a text. -/
structure Jwk where
  kty : Int
  kid : Option String
  material : String
  deriving DecidableEq, Repr

/-- The keys of an `apr_hash_t`. -/
abbrev Keys := List (String × Jwk)

/-- A parsed token: members of its header, and all of it. -/
structure Token where
  alg : Option String
  kid : Option String
  x5t : Option String
  compact : String
  deriving DecidableEq, Repr

/-- `CJOSE_JWK_KTY_RSA`. -/
def ktyRsa : Int := 1

/-- `CJOSE_JWK_KTY_EC`. -/
def ktyEc : Int := 2

/-- `CJOSE_JWK_KTY_OCT`. -/
def ktyOct : Int := 3

/-- `oidc_alg2kty`. -/
def alg2kty (alg : Option String) : Int :=
  match alg with
  | none => -1
  | some alg =>
      if alg = "dir" then ktyOct
      else if alg.startsWith "RS" then ktyRsa
      else if alg.startsWith "PS" then ktyRsa
      else if alg.startsWith "HS" then ktyOct
      else if alg.startsWith "ES" then ktyEc
      else if alg = "A128KW" ∨ alg = "A192KW" ∨ alg = "A256KW" then ktyOct
      else if alg = "RSA-OAEP" then ktyRsa
      else -1

/-- The functions on keys and signatures. -/
structure Jose where
  /-- `oidc_jwk_parse_json`. -/
  parseJwk : Json → Option Jwk
  /-- `oidc_jwt_verify`. -/
  jwtVerify : Token → Keys → Bool

/-! ## Selecting keys -/

/-- `oidc_json_object_get`, on any value. -/
def member (elem : Json) (name : String) : Option Json :=
  match elem with
  | .obj members => Object.get members name
  | _ => none

/-- `apr_hash_set`. -/
def hashSet (keys : Keys) (name : String) (jwk : Jwk) : Keys :=
    KeyedList.upsert Prod.fst keys (name, jwk)

/-- `oidc_proto_jwks_key_include_any`. -/
def keyIncludeAny (jwk : Jwk) (elem : Json) (result : Keys) : Keys :=
  match (member elem "use").bind Json.stringValue with
  | some use =>
      if use ≠ "sig" then result else hashSet result (jwk.kid.getD (toString result.length)) jwk
  | none => hashSet result (jwk.kid.getD (toString result.length)) jwk

/-- `oidc_proto_jwks_key_apply`: whether the search ends, and the keys. -/
def keyApply (jose : Jose) (jwt : Token) (elem : Json) (result : Keys) : Bool × Keys :=
  match jose.parseJwk elem with
  | none => (false, result)
  | some jwk =>
      if alg2kty jwt.alg ≠ jwk.kty then (false, result)
      else
        match jwt.kid, jwt.x5t with
        | none, none => (false, keyIncludeAny jwk elem result)
        | kid, x5t =>
            if kid.isSome ∧ kid = jwk.kid then (true, hashSet result (kid.getD "") jwk)
            else if x5t.isSome ∧ x5t = (member elem "x5t").bind Json.stringValue then
              (true, hashSet result (x5t.getD "") jwk)
            else (false, result)

/-- The loop of `oidc_proto_jwks_key_get`. -/
def keyLoop (jose : Jose) (jwt : Token) : List Json → Keys → Keys
  | [], result => result
  | elem :: rest, result =>
      match keyApply jose jwt elem result with
      | (true, result) => result
      | (false, result) => keyLoop jose jwt rest result

/-- `oidc_proto_jwks_key_get`. -/
def keyGet (jose : Jose) (jwt : Token) (jwks : Object) (result : Keys) : Keys :=
  match jwks.get "keys" with
  | some (.arr elements) => keyLoop jose jwt elements result
  | _ => result

/-- What `oidc_proto_jwks_uri_keys` returns. -/
structure Found where
  ok : Bool
  keys : Keys
  forceRefresh : Bool
  world : World

namespace Client

variable (client : Client) (jose : Jose)

/-- `oidc_proto_jwks_uri_keys`; the fuel is the number of calls, nothing is returned when it runs
out. -/
def uriKeys (jwt : Token) : Nat → Keys → Bool → World → Option Found
  | 0, _, _, _ => none
  | fuel + 1, keys, forceRefresh, world =>
      let got := client.jwksGet forceRefresh world
      match got.jwks with
      | none => some ⟨false, keys, got.refresh, got.world⟩
      | some jwks =>
          let keys := keyGet jose jwt jwks keys
          if keys.length < 1 ∧ got.refresh = false then uriKeys jwt fuel keys true got.world
          else some ⟨true, keys, got.refresh, got.world⟩

/-- `oidc_proto_jwt_verify_keys_merge`: the keys of the provider come before static keys. -/
def keysMerge (staticKeys dynamicKeys : Keys) : Keys :=
  dynamicKeys.foldl (fun keys key => hashSet keys key.1 key.2) staticKeys

/-- Whether `oidc_proto_jwt_verify` refuses the algorithm of a token. -/
def algRefused (jwt : Token) (alg : Option String) : Bool :=
  match alg with
  | some alg => jwt.alg ≠ some alg
  | none => jwt.alg = none ∨ jwt.alg = some "none"

/-- `oidc_proto_jwt_verify`. -/
def jwtVerify (fuel : Nat) (jwt : Token) (staticKeys : Keys) (alg : Option String) (world : World) :
    Option (Bool × World) :=
  if algRefused jwt alg then some (false, world)
  else if client.jwksUri.uri = none ∧ client.jwksUri.signedUri = none then
    some (jose.jwtVerify jwt (keysMerge staticKeys []), world)
  else if alg2kty jwt.alg = ktyOct then some (jose.jwtVerify jwt (keysMerge staticKeys []), world)
  else
    match client.uriKeys jose jwt fuel [] false world with
    | none => none
    | some found =>
        if found.ok = false then some (false, found.world)
        else if jose.jwtVerify jwt (keysMerge staticKeys found.keys) then some (true, found.world)
        else if jwt.kid.isSome then some (false, found.world)
        else
          -- The keys were from the cache, or the refresh was held back.
          match client.uriKeys jose jwt fuel [] true found.world with
          | none => none
          | some again =>
              some (jose.jwtVerify jwt (keysMerge staticKeys again.keys), again.world)

/-! ## Runs -/

/-- A call that may ask the provider for its keys. -/
inductive Call
  | jwksGet (refresh : Bool)
  | uriKeys (jwt : Token) (keys : Keys) (forceRefresh : Bool)
  | jwtVerify (jwt : Token) (staticKeys : Keys) (alg : Option String)

/-- One call. -/
def step (fuel : Nat) (world : World) : Call → Option World
  | .jwksGet refresh => some (client.jwksGet refresh world).world
  | .uriKeys jwt keys forceRefresh =>
      (client.uriKeys jose jwt fuel keys forceRefresh world).map Found.world
  | .jwtVerify jwt staticKeys alg =>
      (client.jwtVerify jose fuel jwt staticKeys alg world).map Prod.snd

/-- Calls one after the other. -/
def run (fuel : Nat) : List Call → World → Option World
  | [], world => some world
  | call :: calls, world =>
      match client.step jose fuel world call with
      | none => none
      | some world => run fuel calls world

/-! ## What holds after every get holds after every run -/

section Runs

variable {client : Client} {jose : Jose} {Holds : World → Prop}

/-- The search calls itself at most once: a call with a forced refresh does not ask for another. -/
theorem uriKeys_spec (interval_pos : 0 < client.forcedRefreshInterval)
    (kept : ∀ refresh world, Holds world → Holds (client.jwksGet refresh world).world) (jwt : Token)
    {fuel : Nat} (enough : 2 ≤ fuel) (keys : Keys) (forceRefresh : Bool) {world : World}
    (holds : Holds world) :
    ∃ found, client.uriKeys jose jwt fuel keys forceRefresh world = some found ∧ Holds found.world ∧
      found.world.turn ≤ world.turn + 2 := by
  obtain ⟨rest, rfl⟩ := Nat.exists_eq_add_of_le' enough
  obtain ⟨-, turn, -⟩ := client.jwksGet_effect interval_pos forceRefresh world
  have first := kept forceRefresh world holds
  rw [uriKeys]
  dsimp only
  cases (client.jwksGet forceRefresh world).jwks with
  | none => exact ⟨_, rfl, first, by dsimp only; omega⟩
  | some jwks =>
      dsimp only
      split
      · generalize (client.jwksGet forceRefresh world).world = middle at *
        obtain ⟨-, turn', forced⟩ := client.jwksGet_effect interval_pos true middle
        have second := kept true middle first
        rw [uriKeys]
        dsimp only
        rw [forced rfl]
        cases (client.jwksGet true middle).jwks with
        | none => exact ⟨_, rfl, second, by dsimp only; omega⟩
        | some jwks =>
            simp only [Bool.true_eq_false, and_false, if_false]
            exact ⟨_, rfl, second, by dsimp only; omega⟩
      · exact ⟨_, rfl, first, by dsimp only; omega⟩

theorem jwtVerify_spec (interval_pos : 0 < client.forcedRefreshInterval)
    (kept : ∀ refresh world, Holds world → Holds (client.jwksGet refresh world).world)
    {fuel : Nat} (enough : 2 ≤ fuel) (jwt : Token) (staticKeys : Keys) (alg : Option String)
    {world : World} (holds : Holds world) :
    ∃ verified, client.jwtVerify jose fuel jwt staticKeys alg world = some verified ∧
      Holds verified.2 := by
  obtain ⟨found, searched, first, -⟩ :=
    @uriKeys_spec client jose Holds interval_pos kept jwt fuel enough [] false world holds
  obtain ⟨again, refreshed, second, -⟩ :=
    @uriKeys_spec client jose Holds interval_pos kept jwt fuel enough [] true found.world first
  simp only [jwtVerify, searched, refreshed]
  split
  · exact ⟨_, rfl, holds⟩
  · split
    · exact ⟨_, rfl, holds⟩
    · split
      · exact ⟨_, rfl, holds⟩
      · split
        · exact ⟨_, rfl, first⟩
        · split
          · exact ⟨_, rfl, first⟩
          · split
            · exact ⟨_, rfl, first⟩
            · exact ⟨_, rfl, second⟩

/-- Every call returns. -/
theorem step_spec (interval_pos : 0 < client.forcedRefreshInterval)
    (kept : ∀ refresh world, Holds world → Holds (client.jwksGet refresh world).world)
    {fuel : Nat} (enough : 2 ≤ fuel) (call : Call) {world : World} (holds : Holds world) :
    ∃ world', client.step jose fuel world call = some world' ∧ Holds world' := by
  cases call with
  | jwksGet refresh => exact ⟨_, rfl, kept refresh world holds⟩
  | uriKeys jwt keys forceRefresh =>
      obtain ⟨found, searched, after, -⟩ :=
        @uriKeys_spec client jose Holds interval_pos kept jwt fuel enough keys
            forceRefresh world holds
      exact ⟨found.world, by rw [step, searched]; rfl, after⟩
  | jwtVerify jwt staticKeys alg =>
      obtain ⟨verified, ran, after⟩ :=
        @jwtVerify_spec client jose Holds interval_pos kept fuel enough jwt staticKeys
            alg world holds
      exact ⟨verified.2, by rw [step, ran]; rfl, after⟩

theorem run_spec (interval_pos : 0 < client.forcedRefreshInterval)
    (kept : ∀ refresh world, Holds world → Holds (client.jwksGet refresh world).world)
    {fuel : Nat} (enough : 2 ≤ fuel) (calls : List Call) {world : World} (holds : Holds world) :
    ∃ world', client.run jose fuel calls world = some world' ∧ Holds world' := by
  induction calls generalizing world with
  | nil => exact ⟨world, rfl, holds⟩
  | cons call calls ih =>
      obtain ⟨middle, stepped, after⟩ :=
        @step_spec client jose Holds interval_pos kept fuel enough call world holds
      obtain ⟨world', ran, final⟩ := ih after
      exact ⟨world', by simp only [run, stepped, ran], final⟩

end Runs

/-! ## The distance between forced refreshes -/

/-- What holds after any number of gets. -/
structure RateLimited (world : World) : Prop where
  /-- Forced refreshes are an interval apart, and the marker keeps the next one away. -/
  spaced : Throttle.Spaced (client.forcedRefreshInterval * 1000000)
    ((world.fetches.filter Fetch.forced).map Fetch.time) ((client.marker world).map Prod.snd)
  /-- Other requests are made when there is no set in the cache. -/
  ordinary : ∀ fetch ∈ world.fetches, fetch.forced = false →
    fetch.cached.bind client.decodeAndCheckError = none
  /-- The requests belong to different gets. -/
  turns : (world.fetches.map Fetch.turn).Pairwise (· < ·)
  past : ∀ fetch ∈ world.fetches, fetch.turn < world.turn

variable {client} in
theorem RateLimited.get (interval_pos : 0 < client.forcedRefreshInterval) (refresh : Bool)
    {world : World} (limited : client.RateLimited world) :
    client.RateLimited (client.jwksGet refresh world).world := by
  obtain ⟨effect, turn, -⟩ := client.jwksGet_effect interval_pos refresh world
  generalize (client.jwksGet refresh world).world = world' at *
  have turns (request : Fetch) (here : request.turn = world.turn) :
      ((world.fetches ++ [request]).map Fetch.turn).Pairwise (· < ·) ∧
        ∀ fetch ∈ world.fetches ++ [request], fetch.turn < world'.turn := by
    constructor
    · rw [List.map_append, List.pairwise_append]
      refine ⟨limited.turns, List.pairwise_singleton _ _, ?_⟩
      intro earlier known later last
      obtain ⟨fetch, inside, rfl⟩ := List.mem_map.mp known
      rw [List.map_singleton, List.mem_singleton] at last
      rw [last, here]
      exact limited.past fetch inside
    · intro fetch member
      rcases List.mem_append.mp member with earlier | last
      · have before := limited.past fetch earlier
        omega
      · rw [List.mem_singleton.mp last]
        omega
  cases effect with
  | quiet fetches marker =>
      refine ⟨?_, ?_, ?_, ?_⟩
      · rw [fetches, marker]
        exact limited.spaced
      · rw [fetches]
        exact limited.ordinary
      · rw [fetches]
        exact limited.turns
      · intro fetch member
        rw [fetches] at member
        have before := limited.past fetch member
        omega
  | ordinary request kind here missing fetches marker =>
      refine ⟨?_, ?_, ?_, ?_⟩
      · rw [fetches, marker, List.filter_append, List.filter_cons_of_neg (by simp [kind]),
          List.filter_nil, List.append_nil]
        exact limited.spaced
      · intro fetch member other
        rw [fetches] at member
        rcases List.mem_append.mp member with earlier | last
        · exact limited.ordinary fetch earlier other
        · rw [List.mem_singleton.mp last]
          exact missing
      · rw [fetches]
        exact (turns request here).1
      · rw [fetches]
        exact (turns request here).2
  | forced request kind here free fetches marker =>
      refine ⟨?_, ?_, ?_, ?_⟩
      · rw [fetches, marker, List.filter_append, List.filter_cons_of_pos kind, List.filter_nil,
          List.map_append]
        refine limited.spaced.attempt (by omega) ?_
        intro opening waits
        obtain ⟨⟨value, expires⟩, stored, rfl⟩ := Option.map_eq_some_iff.mp waits
        rw [stored] at free
        simpa [ExpiringMap.live] using free
      · intro fetch member other
        rw [fetches] at member
        rcases List.mem_append.mp member with earlier | last
        · exact limited.ordinary fetch earlier other
        · rw [List.mem_singleton.mp last, kind] at other
          cases other
      · rw [fetches]
        exact (turns request here).1
      · rw [fetches]
        exact (turns request here).2

/-- A text that can be cached as a key set. -/
def ValidJwks (text : String) : Prop :=
  ∃ jwks, client.decodeAndCheckError text = some jwks ∧ isValid jwks = true

/-- With a positive interval, in any sequence of calls at any times with any tokens and any answers
of the endpoint, every call returns, two forced refreshes are an interval apart, and other requests
are made only while no valid set is cached. Every get makes at most one request, and a search for
keys makes at most two gets. -/
theorem run_rateLimited (interval_pos : 0 < client.forcedRefreshInterval)
    (cache : String → Option (String × Int)) (calls : List Call) {fuel : Nat} (enough : 2 ≤ fuel) :
    (∃ world, client.run jose fuel calls { cache } = some world ∧
      (world.fetches.filter Fetch.forced).Pairwise (fun first second =>
        first.time + client.forcedRefreshInterval * 1000000 ≤ second.time) ∧
      (∀ fetch ∈ world.fetches, fetch.forced = false →
        ∀ text ∈ fetch.cached, ¬client.ValidJwks text) ∧
      (world.fetches.map Fetch.turn).Pairwise (· < ·)) ∧
    (∀ refresh world, ∃ requests : List Fetch, requests.length ≤ 1 ∧
      (client.jwksGet refresh world).world.fetches = world.fetches ++ requests) ∧
    ∀ jwt keys forceRefresh world, ∃ found,
      client.uriKeys jose jwt 2 keys forceRefresh world = some found ∧
        found.world.turn ≤ world.turn + 2 := by
  refine ⟨?_, ?_, ?_⟩
  · have start : client.RateLimited { cache } := by
      refine ⟨.nil _, ?_, .nil, ?_⟩
      · intro fetch member
        cases member
      · intro fetch member
        cases member
    obtain ⟨world, ran, limited⟩ := @run_spec client jose client.RateLimited interval_pos
      (fun refresh world holds => RateLimited.get interval_pos refresh holds) fuel
          enough calls _ start
    refine ⟨world, ran, List.pairwise_map.mp limited.spaced.apart, ?_, limited.turns⟩
    rintro fetch member other text cached ⟨jwks, decoded, -⟩
    have missing := limited.ordinary fetch member other
    rw [Option.mem_def.mp cached, Option.bind_some, decoded] at missing
    cases missing
  · intro refresh world
    cases (client.jwksGet_effect interval_pos refresh world).1 with
    | quiet fetches marker => exact ⟨[], by simp, by simpa using fetches⟩
    | ordinary request kind here missing fetches marker => exact ⟨[request], le_rfl, fetches⟩
    | forced request kind here free fetches marker => exact ⟨[request], le_rfl, fetches⟩
  · intro jwt keys forceRefresh world
    obtain ⟨found, searched, -, turn⟩ := @uriKeys_spec client jose (fun _ => True) interval_pos
      (fun _ _ _ => trivial) jwt 2 le_rfl keys forceRefresh world trivial
    exact ⟨found, searched, turn⟩

/-- An endpoint with a set without keys, and a get every twenty seconds. -/
def sample : Client where
  jwksUri := { uri := some "https://op.example.com/jwks" }
  parse text := if text = "\x7b\"keys\":[]\x7d" then some (.obj [("keys", .arr [])]) else none
  visits turn := ⟨turn * 20000000, turn * 20000000 + 1000, some "\x7b\"keys\":[]\x7d"⟩

/-- No key and no signature is any good. -/
def sampleJose : Jose := ⟨fun _ => none, fun _ _ => false⟩

/-- A token with an unknown key. -/
def unknownKey : Token := ⟨some "RS256", some "k1", none, "e30.e30.c2ln"⟩

theorem run_rateLimited_unknown_key :
    (∃ world, sample.run sampleJose 2 (List.replicate 4 (.jwtVerify unknownKey [] none))
        { cache := fun _ => none } = some world ∧
      (world.fetches.filter Fetch.forced).Pairwise (fun first second =>
        first.time + sample.forcedRefreshInterval * 1000000 ≤ second.time) ∧
      (∀ fetch ∈ world.fetches, fetch.forced = false →
        ∀ text ∈ fetch.cached, ¬sample.ValidJwks text) ∧
      (world.fetches.map Fetch.turn).Pairwise (· < ·)) ∧
    (∀ refresh world, ∃ requests : List Fetch, requests.length ≤ 1 ∧
      (sample.jwksGet refresh world).world.fetches = world.fetches ++ requests) ∧
    ∀ jwt keys forceRefresh world, ∃ found,
      sample.uriKeys sampleJose jwt 2 keys forceRefresh world = some found ∧
        found.world.turn ≤ world.turn + 2 :=
  run_rateLimited sample sampleJose (by decide) _ _ le_rfl

/-- Four such tokens make one ordinary request and two forced ones. -/
example : ((sample.run sampleJose 2 (List.replicate 4 (.jwtVerify unknownKey [] none))
    { cache := fun _ => none }).map fun world => world.fetches.map fun fetch =>
      (fetch.forced, fetch.time)) = some [(false, 0), (true, 40000000), (true, 120000000)] := by
  decide +kernel

end Client

end Jwks

end ModAuthOpenidc
