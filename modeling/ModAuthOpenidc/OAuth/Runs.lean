import ModAuthOpenidc.OAuth.Token

/-!
# Accepting bearer tokens over time

The requests of a virtual host share one cache of validated tokens. A token is accepted because of
one validation: the one that was just made, or the one that the cached result comes from. Over any
sequence of requests the cache holds nothing else, and a cached result is used only before the time
that the validation has set. A response without an `active` member is trusted even if its expiry has
passed.
-/

namespace ModAuthOpenidc

namespace OAuth

open Proto

variable {codec : Session.Codec} {cfg : Config} {request : Request} {cache : TokenCache}

/-! ## Validations -/

/-- What was found valid, and when. -/
structure Validation where
  claims : Object
  time : Int
deriving DecidableEq

/-- The cache, and the validation that the entry of a token comes from. -/
structure Server where
  cache : TokenCache
  source : String → Option Validation

/-- The claims that a validation finds valid. -/
def validated (cfg : Config) (request : Request) : Option Object :=
  if cfg.introspectionEndpoint then
    request.introspection.filter fun response =>
      (introspectionValidate cfg request.now response).isSome
  else (acceptedJwt cfg request).map Jwt.claims

/-- The validation that a request relies on. -/
def used (codec : Session.Codec) (cfg : Config) (server : Server) (request : Request) :
    Option Validation :=
  match getCachedAccessToken codec request server.cache with
  | some _ => server.source request.accessToken
  | none => (validated cfg request).map fun claims => ⟨claims, request.now⟩

/-- What the virtual host is asked to do. -/
inductive Act
  | check (request : Request)
  | remove (now : Int) (accessToken : String)

namespace Server

/-- Nothing is cached yet. -/
def start : Server := ⟨fun _ => none, fun _ => none⟩

/-- The validation behind each entry after a request: a new one is noted when it is cached. -/
def noted (codec : Session.Codec) (cfg : Config) (server : Server) (request : Request) :
    String → Option Validation :=
  if getCachedAccessToken codec request server.cache = none ∧
      request.tokenIntrospectionInterval ≠ -1 then
    match validated cfg request with
    | none => server.source
    | some claims => Function.update server.source request.accessToken (some ⟨claims, request.now⟩)
  else server.source

/-- One act. -/
def step (codec : Session.Codec) (cfg : Config) (server : Server) : Act → Server
  | .check request =>
      ⟨(validateToken codec cfg request server.cache).2, server.noted codec cfg request⟩
  | .remove now accessToken =>
      { server with cache := (revokeAtCacheRemove now accessToken server.cache).2 }

/-- The acts one after the other. -/
def run (codec : Session.Codec) (cfg : Config) (server : Server) (acts : List Act) : Server :=
  acts.foldl (step codec cfg) server

end Server

/-! ## What acceptance should mean -/

/-- The time that the configured expiry claim denotes, in seconds. -/
def denotedExpiry (cfg : Config) (validation : Validation) (value : Rat) : Rat :=
  if cfg.expiryFormatAbsolute then value else validation.time / 1000000 + value

/-- The numeric value of the configured expiry claim. -/
def expiryClaim (cfg : Config) (claims : Object) : Option Rat :=
  (claims.get cfg.expiryClaimName).bind Json.numberValue

/-- An introspection result says at a certain time that the token is valid. -/
def Justified (cfg : Config) (validation : Validation) (now : Int) : Prop :=
  match validation.claims.get "active" with
  | some active => introspectionActiveIsValid active = true
  | none =>
      (cfg.expiryClaimIsMandatory = true → (expiryClaim cfg validation.claims).isSome = true) ∧
      ∀ value, expiryClaim cfg validation.claims = some value → 0 < value →
        ((now / 1000000 : Int) : Rat) ≤ denotedExpiry cfg validation value

/-- A JWT is valid at a certain time and made for this resource server. -/
def JwtValid (cfg : Config) (accessToken : String) (claims : Object) (now : Int) : Prop :=
  ∃ jwt, cfg.jwtParse accessToken = some jwt ∧ jwt.claims = claims ∧
    ((now / 1000000 : Int) : Rat) ≤ jwt.exp ∧ validateJwtIss cfg claims = true ∧
    validateJwtAud cfg claims = true

/-- A request relies on a validation that is recent enough and says that the token is valid. -/
structure Sound (codec : Session.Codec) (cfg : Config) (server : Server) (request : Request)
    (validation : Validation) : Prop where
  recent : (getCachedAccessToken codec request server.cache).isSome = true →
    request.tokenIntrospectionInterval ≠ -1 ∧
      (0 < request.tokenIntrospectionInterval →
        request.now / 1000000 ≤ validation.time / 1000000 + request.tokenIntrospectionInterval)
  introspected : cfg.introspectionEndpoint = true → Justified cfg validation request.now
  jwt : cfg.introspectionEndpoint = false →
    JwtValid cfg request.accessToken validation.claims request.now

/-- A new introspection result without an `active` member does not name a time that has passed. -/
def Timely (codec : Session.Codec) (cfg : Config) (server : Server) (request : Request) : Prop :=
  getCachedAccessToken codec request server.cache = none → cfg.introspectionEndpoint = true →
    cfg.expiryFormatAbsolute = true → ∀ response, request.introspection = some response →
      response.get "active" = none → ∀ value, expiryClaim cfg response = some value → 0 < value →
        ((request.now / 1000000 : Int) : Rat) ≤ value

/-! ## Times -/

/-- Before the whole seconds of a time have passed, its second has not passed. -/
theorem second_le_of_lt_aprTimeFromSec {now : Int} {value : Rat} (nonneg : 0 ≤ now)
    (early : now < Session.aprTimeFromSec ⌊value⌋) : ((now / 1000000 : Int) : Rat) ≤ value := by
  have seconds : now / 1000000 ≤ ⌊value⌋ := by
    unfold Session.aprTimeFromSec at early
    split at early
    · omega
    · split at early <;> omega
  exact (Int.cast_le.mpr seconds).trans (Int.floor_le value)

/-- The same for a time that is counted from the moment of the introspection. -/
theorem second_le_of_lt_aprTimeAdd {now time : Int} {value : Rat} (past : 0 ≤ time)
    (positive : 0 < value) (early : now < aprTimeAdd (Session.aprTimeFromSec ⌊value⌋) time) :
    ((now / 1000000 : Int) : Rat) ≤ (time : Rat) / 1000000 + value := by
  have whole : 0 ≤ ⌊value⌋ := Int.floor_nonneg.mpr positive.le
  have below := Int.floor_le value
  have elapsed : (0 : Rat) ≤ (time : Rat) / 1000000 := by positivity
  have bound : now / 1000000 ≤ ⌊value⌋ ∨ now ≤ ⌊value⌋ * 1000000 + time := by
    unfold aprTimeAdd Session.aprTimeFromSec at early
    split at early
    · omega
    · split at early
      · split at early <;> omega
      · split at early <;> omega
  rcases bound with saturated | bound
  · have cast : ((now / 1000000 : Int) : Rat) ≤ (⌊value⌋ : Rat) := Int.cast_le.mpr saturated
    linarith
  · have cast : (now : Rat) ≤ (⌊value⌋ : Rat) * 1000000 + (time : Rat) := by exact_mod_cast bound
    have floor : ((now / 1000000 : Int) : Rat) * 1000000 ≤ (now : Rat) := by
      exact_mod_cast Int.ediv_mul_le now (by decide)
    linarith

/-! ## The cache over a run -/

/-- A cached result is used before its expiry, within the interval of the location. -/
theorem getCachedAccessToken_eq_some {result : Json}
    (hit : getCachedAccessToken codec request cache = some result) :
    request.tokenIntrospectionInterval ≠ -1 ∧ ∃ text expires entry,
      cache request.accessToken = some (text, expires) ∧ request.now < expires ∧
      codec.jsonDecodeObject text = some entry ∧ entry.get "r" = some result ∧
      (0 < request.tokenIntrospectionInterval →
        request.now / 1000000 ≤ cachedSecond entry + request.tokenIntrospectionInterval) := by
  unfold getCachedAccessToken at hit
  split at hit
  · cases hit
  · next caching =>
      split at hit
      · cases hit
      · next entry decoded =>
          split at hit
          · cases hit
          · next recent =>
              refine ⟨caching, ?_⟩
              obtain ⟨text, live, decoded⟩ := Option.bind_eq_some_iff.mp decoded
              obtain ⟨expires, stored, early⟩ := ExpiringMap.live_eq_some live
              refine ⟨text, expires, entry, stored, early, decoded, hit, fun positive => ?_⟩
              by_contra late
              exact recent ⟨positive, by omega⟩

/-- The validation behind an entry, for a token that is cached until a certain time. -/
structure Backed (cfg : Config) (accessToken : String) (validation : Validation) (expires : Int) :
    Prop where
  time_nonneg : 0 ≤ validation.time
  introspected : cfg.introspectionEndpoint = true →
    introspectionValidate cfg validation.time validation.claims = some expires
  jwt : cfg.introspectionEndpoint = false → ∃ jwt, cfg.jwtParse accessToken = some jwt ∧
    jwt.claims = validation.claims ∧ expires = Session.aprTimeFromSec ⌊jwt.exp⌋

/-- Every entry comes from the validation that is noted for it. -/
def Server.Sourced (codec : Session.Codec) (cfg : Config) (server : Server) : Prop :=
  ∀ accessToken text expires, server.cache accessToken = some (text, expires) →
    ∃ validation, server.source accessToken = some validation ∧
      codec.jsonEncode (cacheEntry validation.claims validation.time) = some text ∧
      Backed cfg accessToken validation expires

/-- A JWT that is accepted has an expiry, and is cached until then. -/
theorem acceptedJwt_eq_some {jwt : Jwt} (accepted : acceptedJwt cfg request = some jwt)
    (cacheUntil : Int) :
    cfg.jwtParse request.accessToken = some jwt ∧
      ((request.now / 1000000 : Int) : Rat) ≤ jwt.exp ∧ validateJwtClaims cfg jwt.claims = true ∧
      parseAndCacheTokenExpiry jwt.claims "exp" true false request.now cacheUntil =
        some (Session.aprTimeFromSec ⌊jwt.exp⌋) := by
  obtain ⟨parsed, checked⟩ := Option.filter_eq_some_iff.mp accepted
  simp only [jwtValidate, validateExp, Env.second, Bool.and_eq_true, decide_eq_true_eq] at checked
  obtain ⟨⟨⟨⟨⟨present, -⟩, current⟩, -⟩, -⟩, claims⟩ := checked
  refine ⟨parsed, of_decide_eq_true current, claims, ?_⟩
  have positive : 0 < jwt.exp := by
    have second : (1 : Int) ≤ request.now / 1000000 := by
      have started := request.now_pos
      omega
    have cast : (1 : Rat) ≤ ((request.now / 1000000 : Int) : Rat) := by exact_mod_cast second
    exact zero_lt_one.trans_le (cast.trans (of_decide_eq_true current))
  have found : (jwt.claims.get "exp").bind Json.numberValue = some jwt.exp := by
    cases read : (jwt.claims.get "exp").bind Json.numberValue with
    | none =>
        refine absurd ?_ present
        rw [Jwt.exp, getTimestamp, read, Option.getD_none]
    | some value => rw [Jwt.exp, getTimestamp, read, Option.getD_some]
  rw [parseAndCacheTokenExpiry, found]
  simp only [positive, if_true]

/-- A new validation is cached, unless caching is off. -/
theorem validateToken_cached (missed : getCachedAccessToken codec request cache = none)
    (caching : request.tokenIntrospectionInterval ≠ -1) {claims : Object}
    (valid : validated cfg request = some claims) :
    ∃ expires, Backed cfg request.accessToken ⟨claims, request.now⟩ expires ∧
      (validateToken codec cfg request cache).2 = Function.update cache request.accessToken
        ((codec.jsonEncode (cacheEntry claims request.now)).map fun text => (text, expires)) := by
  have time : 0 ≤ request.now := by
    have started := request.now_pos
    omega
  unfold validated at valid
  unfold validateToken
  split at valid
  · next introspecting =>
      obtain ⟨answered, checked⟩ := Option.filter_eq_some_iff.mp valid
      obtain ⟨expires, bounded⟩ := Option.isSome_iff_exists.mp checked
      refine ⟨expires, ⟨time, fun _ => bounded, fun off => absurd introspecting (by simp [off])⟩,
        ?_⟩
      rw [if_pos introspecting]
      simp only [resolveAccessToken, missed, introspect, answered, bounded,
        cacheAccessToken, caching,
        if_false]
  · next validating =>
      obtain ⟨jwt, accepted, rfl⟩ := Option.map_eq_some_iff.mp valid
      obtain ⟨parsed, -, -, bounded⟩ := acceptedJwt_eq_some accepted
        (request.now + cacheDefaultExpirySeconds * 1000000)
      refine ⟨_, ⟨time, fun on => absurd on validating, fun _ => ⟨jwt, parsed, rfl, rfl⟩⟩, ?_⟩
      rw [if_neg validating]
      simp only [validateJwtAccessToken, missed, accepted, bounded, cacheAccessToken,
        caching, if_false]

/-- Otherwise the cache stays as it is. -/
theorem validateToken_uncached (unchanged : getCachedAccessToken codec request cache ≠ none ∨
      request.tokenIntrospectionInterval = -1 ∨ validated cfg request = none) :
    (validateToken codec cfg request cache).2 = cache := by
  have off : ∀ cacheUntil response, request.tokenIntrospectionInterval = -1 →
      cacheAccessToken codec request cache cacheUntil response = cache := by
    intro cacheUntil response disabled
    rw [cacheAccessToken, if_pos disabled]
  unfold validateToken
  cases hit : getCachedAccessToken codec request cache with
  | some result =>
      split
      · simp only [resolveAccessToken, hit]
      · simp only [validateJwtAccessToken, hit]
  | none =>
      have unchanged := unchanged.resolve_left (fun found => found hit)
      split
      · next introspecting =>
          simp only [resolveAccessToken, hit, introspect]
          cases answered : request.introspection with
          | none => rfl
          | some response =>
              dsimp only
              cases checked : introspectionValidate cfg request.now response with
              | none => rfl
              | some cacheUntil =>
                  refine off cacheUntil response (unchanged.resolve_right fun invalid => ?_)
                  simp [validated, introspecting, answered, checked] at invalid
      · next validating =>
          simp only [validateJwtAccessToken, hit]
          cases accepted : acceptedJwt cfg request with
          | none => rfl
          | some jwt =>
              obtain ⟨-, -, -, bounded⟩ := acceptedJwt_eq_some accepted
                (request.now + cacheDefaultExpirySeconds * 1000000)
              simp only [bounded]
              refine off _ _ (unchanged.resolve_right fun invalid => ?_)
              simp [validated, validating, accepted] at invalid

/-- An act adds no entry but the one of a validation that is noted. -/
theorem Server.Sourced.step {server : Server} (sourced : server.Sourced codec cfg) (act : Act) :
    (server.step codec cfg act).Sourced codec cfg := by
  intro accessToken text expires stored
  cases act with
  | remove now removed =>
      apply sourced accessToken text expires
      simp only [Server.step, revokeAtCacheRemove] at stored
      split at stored
      · exact stored
      · by_cases same : accessToken = removed
        · subst same
          simp at stored
        · dsimp only at stored
          rwa [Function.update_of_ne same] at stored
  | check request =>
      simp only [Server.step] at stored ⊢
      by_cases noted : getCachedAccessToken codec request server.cache = none ∧
          request.tokenIntrospectionInterval ≠ -1
      · cases valid : validated cfg request with
        | none =>
            rw [validateToken_uncached (Or.inr (Or.inr valid))] at stored
            simp only [Server.noted, if_pos noted, valid]
            exact sourced accessToken text expires stored
        | some claims =>
            obtain ⟨until', backed, cached⟩ := validateToken_cached noted.1 noted.2 valid
            simp only [Server.noted, if_pos noted, valid]
            rw [cached] at stored
            by_cases same : accessToken = request.accessToken
            · subst same
              rw [Function.update_self, Option.map_eq_some_iff] at stored
              obtain ⟨encoded, written, pair⟩ := stored
              cases pair
              exact ⟨_, Function.update_self .., written, backed⟩
            · rw [Function.update_of_ne same] at stored ⊢
              exact sourced accessToken text expires stored
      · rw [Server.noted, if_neg noted]
        rw [not_and_or, not_not] at noted
        rw [validateToken_uncached (noted.imp_right Or.inl)] at stored
        exact sourced accessToken text expires stored

theorem Server.Sourced.run {server : Server} (sourced : server.Sourced codec cfg)
    (acts : List Act) : (server.run codec cfg acts).Sourced codec cfg := by
  induction acts generalizing server with
  | nil => exact sourced
  | cons act rest ih => exact ih (sourced.step act)

theorem Server.start_sourced (codec : Session.Codec) (cfg : Config) :
    Server.start.Sourced codec cfg := by
  intro accessToken text expires stored
  cases stored

/-! ## Acceptance -/

/-- The time that the expiry claim of a validation denotes bounds the entry. -/
theorem Backed.justified {validation : Validation} {accessToken : String} {expires now : Int}
    (backed : Backed cfg accessToken validation expires)
    (introspecting : cfg.introspectionEndpoint = true) (nonneg : 0 ≤ now) (early : now < expires) :
    Justified cfg validation now := by
  have checked := backed.introspected introspecting
  unfold introspectionValidate at checked
  unfold Justified
  cases found : validation.claims.get "active" with
  | some active =>
      simp only [found] at checked
      split at checked
      · next valid => exact valid
      · cases checked
  | none =>
      simp only [found] at checked
      unfold parseAndCacheTokenExpiry at checked
      rw [← expiryClaim] at checked
      cases claimed : expiryClaim cfg validation.claims with
      | none =>
          simp only [claimed] at checked
          split at checked
          · cases checked
          · next optional => exact ⟨fun mandatory => absurd mandatory optional, nofun⟩
      | some value =>
          simp only [claimed] at checked
          refine ⟨fun _ => rfl, ?_⟩
          intro value' same positive
          cases same
          rw [if_pos positive] at checked
          unfold denotedExpiry
          cases absolute : cfg.expiryFormatAbsolute with
          | true =>
              simp only [absolute, if_true, Option.some.injEq] at checked ⊢
              exact second_le_of_lt_aprTimeFromSec nonneg (checked ▸ early)
          | false =>
              simp only [absolute, Bool.false_eq_true, if_false, Option.some.injEq] at checked ⊢
              exact second_le_of_lt_aprTimeAdd backed.time_nonneg positive (checked ▸ early)

/-- A new introspection result says that the token is valid, unless it names a time that has passed.
-/
theorem justified_now_iff {response : Object} {now cacheUntil : Int}
    (checked : introspectionValidate cfg now response = some cacheUntil) :
    Justified cfg ⟨response, now⟩ now ↔ (cfg.expiryFormatAbsolute = true →
      response.get "active" = none → ∀ value, expiryClaim cfg response = some value → 0 < value →
        ((now / 1000000 : Int) : Rat) ≤ value) := by
  unfold introspectionValidate at checked
  unfold Justified
  cases found : response.get "active" with
  | some active =>
      simp only [found] at checked
      split at checked
      · next valid => exact ⟨nofun, fun _ => valid⟩
      · cases checked
  | none =>
      simp only [found] at checked
      have claimed : cfg.expiryClaimIsMandatory = true →
        (expiryClaim cfg response).isSome = true := by
        intro mandatory
        unfold parseAndCacheTokenExpiry at checked
        rw [← expiryClaim, mandatory] at checked
        cases read : expiryClaim cfg response with
        | none =>
            simp only [read, if_true] at checked
            cases checked
        | some value => rfl
      cases absolute : cfg.expiryFormatAbsolute with
      | true =>
          simp only [denotedExpiry, absolute, if_true, forall_const]
          exact ⟨And.right, fun timely => ⟨claimed, timely⟩⟩
      | false =>
          simp only [denotedExpiry, absolute, Bool.false_eq_true, if_false, false_implies, iff_true]
          refine ⟨claimed, ?_⟩
          intro value _ positive
          have floor : ((now / 1000000 : Int) : Rat) * 1000000 ≤ (now : Rat) := by
            exact_mod_cast Int.ediv_mul_le now (by decide)
          linarith

/-- Without a cached result a token is accepted only if it is validated. -/
theorem validated_of_accepted (missed : getCachedAccessToken codec request cache = none)
    (accepted : (validateToken codec cfg request cache).1.isSome = true) :
    ∃ claims, validated cfg request = some claims := by
  unfold validateToken at accepted
  unfold validated
  split at accepted
  · next introspecting =>
      rw [if_pos introspecting]
      simp only [resolveAccessToken, missed, introspect] at accepted
      cases answered : request.introspection with
      | none =>
          rw [answered] at accepted
          cases accepted
      | some response =>
          rw [answered] at accepted
          dsimp only at accepted
          cases checked : introspectionValidate cfg request.now response with
          | none =>
              rw [checked] at accepted
              cases accepted
          | some cacheUntil =>
              exact ⟨response, Option.filter_eq_some_iff.mpr ⟨rfl, by rw [checked]; rfl⟩⟩
  · next validating =>
      rw [if_neg validating]
      simp only [validateJwtAccessToken, missed] at accepted
      cases valid : acceptedJwt cfg request with
      | none =>
          rw [valid] at accepted
          cases accepted
      | some jwt => exact ⟨jwt.claims, rfl⟩

/-- A cached result is used only while the validation that it comes from allows it. -/
theorem sound_of_hit {server : Server} (faithful : codec.Faithful)
    (sourced : server.Sourced codec cfg) {result : Json}
    (hit : getCachedAccessToken codec request server.cache = some result)
    (accepted : (validateToken codec cfg request server.cache).1.isSome = true) :
    ∃ validation, used codec cfg server request = some validation ∧
      Sound codec cfg server request validation := by
  have nonneg : 0 ≤ request.now := by
    have started := request.now_pos
    omega
  obtain ⟨caching, text, expires, entry, stored, early, decoded, read, recent⟩ :=
    getCachedAccessToken_eq_some hit
  obtain ⟨validation, noted, encoded, backed⟩ := sourced _ _ _ stored
  have same : entry = cacheEntry validation.claims validation.time :=
    Option.some.inj (decoded.symm.trans (faithful.decodes _ _ encoded))
  subst same
  refine ⟨validation, by rw [used, hit, noted], ?_, ?_, ?_⟩
  · intro _
    refine ⟨caching, fun positive => ?_⟩
    have second : cachedSecond (cacheEntry validation.claims validation.time) =
        validation.time / 1000000 := by
      simp [cachedSecond, cacheEntry, Handle.integerValue]
    exact second ▸ recent positive
  · intro introspecting
    exact backed.justified introspecting nonneg early
  · intro validating
    obtain ⟨jwt, parsed, claims, bound⟩ := backed.jwt validating
    have cached : result = .obj validation.claims := by
      simpa [cacheEntry, Object.get_set] using read.symm
    simp only [validateToken, validating, Bool.false_eq_true, if_false, validateJwtAccessToken, hit]
      at accepted
    split at accepted
    · next matching =>
        rw [cached, members, validateJwtClaims, Bool.and_eq_true] at matching
        exact ⟨jwt, parsed, claims, second_le_of_lt_aprTimeFromSec nonneg (bound ▸ early),
          matching.1, matching.2⟩
    · cases accepted

/-- In any run a token is accepted because of one validation. It is recent enough and still says
that the token is valid, exactly if no past expiry was taken from a new response without an `active`
member. -/
theorem accepted_iff_timely (codec : Session.Codec) (cfg : Config) (faithful : codec.Faithful)
    (acts : List Act) (request : Request)
    (accepted : (validateToken codec cfg request
      (Server.start.run codec cfg acts).cache).1.isSome = true) :
    ∃ validation, used codec cfg (Server.start.run codec cfg acts) request = some validation ∧
      (Sound codec cfg (Server.start.run codec cfg acts) request validation ↔
        Timely codec cfg (Server.start.run codec cfg acts) request) := by
  have sourced := (Server.start_sourced codec cfg).run acts
  generalize Server.start.run codec cfg acts = server at accepted sourced ⊢
  cases hit : getCachedAccessToken codec request server.cache with
  | some result =>
      obtain ⟨validation, relied, sound⟩ := sound_of_hit faithful sourced hit accepted
      refine ⟨validation, relied, fun _ missed => ?_, fun _ => sound⟩
      rw [hit] at missed
      cases missed
  | none =>
      obtain ⟨claims, valid⟩ := validated_of_accepted hit accepted
      refine ⟨⟨claims, request.now⟩, by rw [used, hit, valid]; rfl, ?_⟩
      have missed : (getCachedAccessToken codec request server.cache).isSome = true → False := by
        rw [hit]
        exact nofun
      cases introspecting : cfg.introspectionEndpoint with
      | true =>
          rw [validated, if_pos introspecting, Option.filter_eq_some_iff] at valid
          obtain ⟨answered, checked⟩ := valid
          obtain ⟨cacheUntil, bounded⟩ := Option.isSome_iff_exists.mp checked
          have justified := justified_now_iff bounded
          constructor
          · intro sound _ _ absolute response given
            rw [answered] at given
            cases given
            exact justified.mp (sound.introspected introspecting) absolute
          · intro timely
            refine ⟨fun found => (missed found).elim, fun _ => ?_, fun off => ?_⟩
            · exact justified.mpr fun absolute => timely hit introspecting absolute claims answered
            · rw [introspecting] at off
              cases off
      | false =>
          rw [validated, introspecting, if_neg Bool.false_ne_true, Option.map_eq_some_iff] at valid
          obtain ⟨jwt, accepted, rfl⟩ := valid
          obtain ⟨parsed, current, matching, -⟩ := acceptedJwt_eq_some accepted 0
          rw [validateJwtClaims, Bool.and_eq_true] at matching
          constructor
          · intro _ _ on
            rw [introspecting] at on
            cases on
          · intro _
            refine ⟨fun found => (missed found).elim, fun on => ?_, fun _ => ?_⟩
            · rw [introspecting] at on
              cases on
            · exact ⟨jwt, parsed, rfl, current, matching.1, matching.2⟩

/-- A resource server that takes the expiry from an absolute `exp`. -/
def sampleConfig : Config where
  introspectionEndpoint := true
  expiryClaimName := "exp"
  expiryFormatAbsolute := true
  jwtParse _ := none

/-- The first second of 1970 is over after a thousand seconds. -/
theorem sampleNow_pos : (1000000 : Int) ≤ 1000000000 := by decide

/-- A request at second 1000 whose introspection names an expiry. -/
def sampleRequest (exp : Int) : Request where
  accessToken := "at"
  now := 1000000000
  now_pos := sampleNow_pos
  introspection := some [("exp", .int exp)]

/-- A codec for the result that is cached. -/
def sampleCodec : Session.Codec :=
  Session.Codec.ofTable [(cacheEntry [("exp", .int 2000)] 1000000000, "entry")]

/-- The second use of a token is decided by what the first one has found. -/
theorem accepted_iff_timely_cached :
    ∃ validation, used sampleCodec sampleConfig (Server.start.run sampleCodec sampleConfig
        [.check (sampleRequest 2000)]) (sampleRequest 0) = some validation ∧
      (Sound sampleCodec sampleConfig (Server.start.run sampleCodec sampleConfig
          [.check (sampleRequest 2000)]) (sampleRequest 0) validation ↔
        Timely sampleCodec sampleConfig (Server.start.run sampleCodec sampleConfig
          [.check (sampleRequest 2000)]) (sampleRequest 0)) :=
  accepted_iff_timely sampleCodec sampleConfig (Session.Codec.faithful_ofTable (by decide))
    [.check (sampleRequest 2000)] (sampleRequest 0) (by decide +kernel)

/-- A response that names second 5 and says nothing else makes a token valid at second 1000. -/
theorem expired_token_accepted :
    (validateToken sampleCodec sampleConfig (sampleRequest 5) Server.start.cache).1.isSome = true ∧
      used sampleCodec sampleConfig Server.start (sampleRequest 5) =
        some ⟨[("exp", .int 5)], 1000000000⟩ ∧
      ¬ Sound sampleCodec sampleConfig Server.start (sampleRequest 5)
        ⟨[("exp", .int 5)], 1000000000⟩ := by
  refine ⟨by decide +kernel, by decide +kernel, fun sound => ?_⟩
  have late := (sound.introspected rfl).2 5 rfl (by decide)
  exact absurd late (by decide +kernel)

end OAuth

end ModAuthOpenidc
