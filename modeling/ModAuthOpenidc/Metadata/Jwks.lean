import ModAuthOpenidc.ExpiringMap
import ModAuthOpenidc.Text
import ModAuthOpenidc.Throttle

/-!
# The keys that a provider publishes

`src/metadata/jwks.c` downloads the JSON Web Key Set of a provider and caches it. A caller that
misses a key asks for a forced refresh, which goes past the cache. Since anybody can send a token
with an unknown key, a forced refresh leaves a marker in the cache that keeps other forced refreshes
away for a while.
-/

namespace ModAuthOpenidc

namespace Jwks

open ExpiringMap (live)

/-- `oidc_jwks_uri_t`. -/
structure JwksUri where
  uri : Option String := none
  signedUri : Option String := none
  /-- How many seconds a set is cached, `-1` if that is not configured. -/
  refreshInterval : Int := -1
  /-- Whether there is a `jwk_list` of keys for a signed set. -/
  hasVerifiers : Bool := false

/-- One get: the time until a request is sent, the time when its answer has come, and the answer,
nothing if `oidc_http_get` fails. -/
structure Visit where
  now : Int
  later : Int
  response : Option String

/-- What the calls on one `jwks_uri` depend on. -/
structure Client where
  jwksUri : JwksUri
  /-- `OIDC_JWKS_FORCED_REFRESH_INTERVAL`. -/
  intervalSetting : Option String := none
  /-- `oidc_json_parse`. -/
  parse : String → Option Json
  /-- The payload of a signed set that is parsed, verified with `jwk_list` and valid at a time. -/
  openSigned : Int → String → Option String := fun _ _ => none
  /-- The clock and the endpoint, by the number of the get. -/
  visits : Nat → Visit

/-- A request to the `jwks_uri`. -/
structure Fetch where
  /-- Whether it is a forced refresh. -/
  forced : Bool
  time : Int
  /-- The number of the get that makes it. -/
  turn : Nat
  /-- The set that is cached at this time. -/
  cached : Option String
  deriving DecidableEq, Repr

/-- The section of the cache for key sets, the number of gets so far and their requests. -/
structure World where
  cache : String → Option (String × Int)
  turn : Nat := 0
  fetches : List Fetch := []

/-- What a get returns through its parameters, and the world behind it. -/
structure Got where
  jwks : Option Object
  refresh : Bool
  world : World

/-! ## Settings -/

/-- `oidc_metadata_jwks_cache_key`; a caller has one of the two addresses. -/
def JwksUri.cacheKey (jwksUri : JwksUri) : String := (jwksUri.signedUri.or jwksUri.uri).getD ""

/-- `oidc_metadata_jwks_forced_refresh_key`. -/
def JwksUri.forcedRefreshKey (jwksUri : JwksUri) : String := jwksUri.cacheKey ++ "#forced"

/-- `OIDC_DEFAULT_JWKS_REFRESH_INTERVAL`. -/
def defaultRefreshInterval : Int := 3600

/-- `oidc_cfg_jwks_uri_refresh_interval_get`. -/
def JwksUri.refreshIntervalGet (jwksUri : JwksUri) : Int :=
  if jwksUri.refreshInterval ≠ -1 then jwksUri.refreshInterval else defaultRefreshInterval

/-- `OIDC_METADATA_JWKS_FORCED_REFRESH_INTERVAL_DEFAULT`. -/
def forcedRefreshIntervalDefault : Int := 60

/-- `OIDC_METADATA_JWKS_FORCED_REFRESH_INTERVAL_MAX`. -/
def forcedRefreshIntervalMax : Int := 3600

namespace Client

variable (client : Client)

/-- `oidc_metadata_jwks_forced_refresh_interval`. -/
def forcedRefreshInterval : Int :=
  match client.intervalSetting with
  | none => forcedRefreshIntervalDefault
  | some text =>
      match strToIntChecked text with
      | none => forcedRefreshIntervalDefault
      | some interval =>
          if interval < 0 ∨ forcedRefreshIntervalMax < interval then forcedRefreshIntervalDefault
          else interval

/-! ## Documents -/

/-- `oidc_json_decode_object`. -/
def decodeObject (text : String) : Option Object :=
  match client.parse text with
  | some (.obj members) => some members
  | _ => none

/-- `oidc_json_check_error`: whether a member tells of an error. -/
def checkError (object : Object) : Bool :=
  match object.get "error" with
  | none => false
  | some .null => false
  | some _ => true

/-- `oidc_json_decode_and_check_error`. -/
def decodeAndCheckError (text : String) : Option Object :=
  match client.decodeObject text with
  | none => none
  | some object => if checkError object then none else some object

/-- `oidc_metadata_jwks_is_valid`. -/
def isValid (jwks : Object) : Bool :=
  match jwks.get "keys" with
  | some (.arr _) => true
  | _ => false

/-! ## Gets -/

/-- `oidc_metadata_jwks_forced_refresh_throttled`. -/
def forcedRefreshThrottled (now : Int) (world : World) : Bool :=
  if client.forcedRefreshInterval = 0 then false
  else (live now (world.cache client.jwksUri.forcedRefreshKey)).isSome

/-- `oidc_metadata_jwks_forced_refresh_stamp`. -/
def forcedRefreshStamp (now : Int) (world : World) : World :=
  if client.forcedRefreshInterval = 0 then world
  else
    { world with
      cache := Function.update world.cache client.jwksUri.forcedRefreshKey
        (some ("1", now + client.forcedRefreshInterval * 1000000)) }

/-- The document in an answer of the endpoint. -/
def payload (visit : Visit) : Option String :=
  if client.jwksUri.signedUri.isSome && client.jwksUri.hasVerifiers then
    visit.response.bind (client.openSigned visit.later)
  else visit.response

/-- `oidc_metadata_jwks_retrieve_and_cache`. -/
def retrieveAndCache (forced : Bool) (world : World) : Option Object × World :=
  let visit := client.visits world.turn
  let asked := { world with
    fetches := world.fetches ++
      [⟨forced, visit.now, world.turn, live visit.now (world.cache client.jwksUri.cacheKey)⟩] }
  match client.payload visit with
  | none => (none, asked)
  | some text =>
      match client.decodeAndCheckError text with
      | none => (none, asked)
      | some jwks =>
          if isValid jwks then
            (some jwks, { asked with
              cache := Function.update asked.cache client.jwksUri.cacheKey
                (some (text, visit.later + client.jwksUri.refreshIntervalGet * 1000000)) })
          else (none, asked)

/-- The second half of `oidc_metadata_jwks_get`: the cached set, or an ordinary download. -/
def getCached (attempted : Bool) (now : Int) (refresh : Bool) (world : World) : Got :=
  match (live now (world.cache client.jwksUri.cacheKey)).bind client.decodeAndCheckError with
  | some jwks => ⟨some jwks, refresh, world⟩
  | none =>
      if attempted then ⟨none, refresh, world⟩
      else
        let (jwks, world) := client.retrieveAndCache false world
        ⟨jwks, true, world⟩

/-- `oidc_metadata_jwks_get` without the bookkeeping of gets. -/
def getBody (refresh : Bool) (world : World) : Got :=
  let visit := client.visits world.turn
  if refresh then
    if client.forcedRefreshThrottled visit.now world then client.getCached true visit.now true world
    else
      match client.retrieveAndCache true (client.forcedRefreshStamp visit.now world) with
      | (some jwks, world) => ⟨some jwks, true, world⟩
      | (none, world) => client.getCached true visit.later true world
  else client.getCached false visit.now false world

/-- `oidc_metadata_jwks_get`. -/
def jwksGet (refresh : Bool) (world : World) : Got :=
  let got := client.getBody refresh world
  { got with world := { got.world with turn := got.world.turn + 1 } }

/-! ## What a get does -/

/-- The set is not kept under the name of the marker. -/
theorem forcedRefreshKey_ne (jwksUri : JwksUri) : jwksUri.forcedRefreshKey ≠ jwksUri.cacheKey := by
  intro same
  have lengths := congrArg String.length same
  rw [JwksUri.forcedRefreshKey, String.length_append] at lengths
  have postfix_length : "#forced".length = 7 := by decide
  omega

/-- The marker of the last forced refresh. -/
def marker (world : World) : Option (String × Int) := world.cache client.jwksUri.forcedRefreshKey

/-- The request that a get makes. -/
def request (forced : Bool) (world : World) : Fetch :=
  ⟨forced, (client.visits world.turn).now, world.turn,
    live (client.visits world.turn).now (world.cache client.jwksUri.cacheKey)⟩

/-- A download makes one request and leaves the marker alone. -/
theorem retrieveAndCache_spec (forced : Bool) (world : World) :
    (client.retrieveAndCache forced world).2.fetches =
        world.fetches ++ [client.request forced world] ∧
      (client.retrieveAndCache forced world).2.turn = world.turn ∧
      client.marker (client.retrieveAndCache forced world).2 = client.marker world := by
  unfold retrieveAndCache
  dsimp only
  split
  · exact ⟨rfl, rfl, rfl⟩
  · split
    · exact ⟨rfl, rfl, rfl⟩
    · split
      · exact ⟨rfl, rfl, Function.update_of_ne (forcedRefreshKey_ne _) _ _⟩
      · exact ⟨rfl, rfl, rfl⟩

/-- What a get does to the requests and to the marker. -/
inductive GetEffect (world world' : World) : Prop
  | quiet : world'.fetches = world.fetches → client.marker world' = client.marker world →
      GetEffect world world'
  | ordinary (request : Fetch) : request.forced = false → request.turn = world.turn →
      request.cached.bind client.decodeAndCheckError = none →
      world'.fetches = world.fetches ++ [request] → client.marker world' = client.marker world →
      GetEffect world world'
  | forced (request : Fetch) : request.forced = true → request.turn = world.turn →
      live request.time (client.marker world) = none →
      world'.fetches = world.fetches ++ [request] →
      client.marker world' = some ("1", request.time + client.forcedRefreshInterval * 1000000) →
      GetEffect world world'

/-- After a forced refresh was tried the second half makes no request. -/
theorem getCached_attempted (now : Int) (refresh : Bool) (world : World) :
    (client.getCached true now refresh world).world = world ∧
      (client.getCached true now refresh world).refresh = refresh := by
  simp only [getCached]
  cases (live now (world.cache client.jwksUri.cacheKey)).bind client.decodeAndCheckError with
  | none => exact ⟨rfl, rfl⟩
  | some jwks => exact ⟨rfl, rfl⟩

/-- Without a forced refresh a request is made when there is no set in the cache. -/
theorem getCached_effect (world : World) :
    client.GetEffect world
        (client.getCached false (client.visits world.turn).now false world).world ∧
      (client.getCached false (client.visits world.turn).now false world).world.turn =
      world.turn := by
  obtain ⟨fetches, turn, marker⟩ := client.retrieveAndCache_spec false world
  simp only [getCached]
  cases cached : (live (client.visits world.turn).now
      (world.cache client.jwksUri.cacheKey)).bind client.decodeAndCheckError with
  | none => exact ⟨.ordinary (client.request false world) rfl rfl cached fetches marker, turn⟩
  | some jwks => exact ⟨.quiet rfl rfl, rfl⟩

theorem forcedRefreshThrottled_eq_false {now : Int} {world : World}
    (interval_pos : 0 < client.forcedRefreshInterval)
    (free : client.forcedRefreshThrottled now world = false) :
    live now (client.marker world) = none := by
  rw [forcedRefreshThrottled, if_neg interval_pos.ne'] at free
  simpa [marker] using free

/-- Stamping sets the marker and nothing else. -/
theorem forcedRefreshStamp_spec (interval_pos : 0 < client.forcedRefreshInterval) (now : Int)
    (world : World) :
    client.marker (client.forcedRefreshStamp now world) =
        some ("1", now + client.forcedRefreshInterval * 1000000) ∧
      (client.forcedRefreshStamp now world).fetches = world.fetches ∧
      (client.forcedRefreshStamp now world).turn = world.turn := by
  rw [forcedRefreshStamp, if_neg interval_pos.ne']
  exact ⟨Function.update_self _ _ _, rfl, rfl⟩

/-- Every get makes at most one request: a forced one only when there is no marker, another one only
when there is no set in the cache. -/
theorem jwksGet_effect (interval_pos : 0 < client.forcedRefreshInterval) (refresh : Bool)
    (world : World) :
    client.GetEffect world (client.jwksGet refresh world).world ∧
      (client.jwksGet refresh world).world.turn = world.turn + 1 ∧
      (refresh = true → (client.jwksGet refresh world).refresh = true) := by
  have bookkeeping {world' : World} (effect : client.GetEffect world world') :
      client.GetEffect world { world' with turn := world'.turn + 1 } := by
    cases effect with
    | quiet fetches marker => exact .quiet fetches marker
    | ordinary request kind turn cached fetches marker =>
        exact .ordinary request kind turn cached fetches marker
    | forced request kind turn free fetches marker =>
        exact .forced request kind turn free fetches marker
  suffices body : client.GetEffect world (client.getBody refresh world).world ∧
      (client.getBody refresh world).world.turn = world.turn ∧
      (refresh = true → (client.getBody refresh world).refresh = true) by
    obtain ⟨effect, turn, kept⟩ := body
    exact ⟨bookkeeping effect, congrArg (· + 1) turn, kept⟩
  cases refresh with
  | false =>
      obtain ⟨effect, turn⟩ := client.getCached_effect world
      exact ⟨effect, turn, by simp⟩
  | true =>
      simp only [getBody, if_true]
      cases throttled : client.forcedRefreshThrottled (client.visits world.turn).now world with
      | true =>
          obtain ⟨same, kept⟩ :=
            client.getCached_attempted (client.visits world.turn).now true world
          rw [if_pos rfl, same]
          exact ⟨.quiet rfl rfl, rfl, fun _ => kept⟩
      | false =>
          have free := client.forcedRefreshThrottled_eq_false interval_pos throttled
          obtain ⟨fetches, turn, marker⟩ := client.retrieveAndCache_spec true
            (client.forcedRefreshStamp (client.visits world.turn).now world)
          obtain ⟨stamped, sameFetches, sameTurn⟩ := client.forcedRefreshStamp_spec interval_pos
            (client.visits world.turn).now world
          rw [sameFetches] at fetches
          rw [sameTurn] at turn
          rw [stamped] at marker
          have effect : client.GetEffect world (client.retrieveAndCache true
              (client.forcedRefreshStamp (client.visits world.turn).now world)).2 := by
            refine .forced _ rfl sameTurn ?_ fetches ?_
            · rw [request, sameTurn]
              exact free
            · rw [request, sameTurn]
              exact marker
          simp only [Bool.false_eq_true, if_false]
          generalize client.retrieveAndCache true
            (client.forcedRefreshStamp (client.visits world.turn).now world) = downloaded at *
          obtain ⟨jwks, world'⟩ := downloaded
          cases jwks with
          | some jwks => exact ⟨effect, turn, fun _ => rfl⟩
          | none =>
              obtain ⟨same, kept⟩ :=
                client.getCached_attempted (client.visits world.turn).later true world'
              dsimp only
              rw [same]
              exact ⟨effect, turn, fun _ => kept⟩

end Client

end Jwks

end ModAuthOpenidc
