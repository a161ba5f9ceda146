import ModAuthOpenidc.ReplayGuard
import ModAuthOpenidc.Handle.Backchannel

/-!
# Replays of id_tokens and of logout tokens

The nonce of an id_token and the `jti` of a logout token are kept for twice the slack of the time of
issue and ten seconds more. When they are forgotten, the token has become too old.
-/

namespace ModAuthOpenidc

namespace Handle

open Proto ExpiringMap ReplayGuard

/-! ## What the flows do to their section of the cache -/

/-- A computation that does not touch entries which have not expired. -/
def KeepsEntries {α : Type} (now : Int) (flow : Flow α) : Prop :=
  ∀ cache, KeepsLive now cache (flow.exec cache).2

section Frames

variable {α β : Type} {now : Int} {env : Env} {provider : Provider} {jwt : Jwt}

/-- A sequence goes on with the result of its first part. -/
theorem exec_bind_eq (first : Flow α) (next : α → Flow β) (cache : NonceCache) :
    (first >>= next).exec cache =
      match first.exec cache with
      | (some value, middle) => (next value).exec middle
      | (none, middle) => (none, middle) := by
  unfold Flow.exec
  rw [OptionT.run_bind, Option.elimM, StateT.run_bind]
  cases first.run.run cache with
  | mk outcome middle => cases outcome <;> rfl

theorem exec_check_eq (condition : Bool) (cache : NonceCache) :
    (check condition).exec cache = (if condition then some () else none, cache) := by
  cases condition <;> rfl

theorem KeepsEntries.check (condition : Bool) : KeepsEntries now (check condition) := by
  intro cache
  rw [exec_check_eq]
  exact .refl now cache

theorem KeepsEntries.require (result : Option α) : KeepsEntries now (require result) :=
  fun cache => .refl now cache

theorem KeepsEntries.pure (value : α) : KeepsEntries now (pure value : Flow α) :=
  fun cache => .refl now cache

theorem KeepsEntries.bind {first : Flow α} {next : α → Flow β} (before : KeepsEntries now first)
    (after : ∀ value, KeepsEntries now (next value)) : KeepsEntries now (first >>= next) := by
  intro cache
  have kept := before cache
  rw [exec_bind_eq]
  cases done : first.exec cache with
  | mk outcome middle =>
      rw [done] at kept
      cases outcome with
      | none => exact kept
      | some value =>
          intro key entry expires stored early
          exact after value middle key entry expires (kept key entry expires stored early) early

/-- A nonce is checked and noted in one go. -/
theorem idtokenValidateNonce_exec (env : Env) (provider : Provider) (nonce : String) (jwt : Jwt)
    (cache : NonceCache) :
    (idtokenValidateNonce env provider nonce jwt).exec cache =
      if (cacheGetNonce env cache nonce).isNone ∧ jwt.claims.getString "nonce" = some nonce then
        (some (), cacheSetNonce env cache nonce
          (env.now + (provider.idtokenIatSlack * 2 + 10) * 1000000))
      else (none, cache) := by
  have seen : (get : Flow NonceCache).exec cache = (some cache, cache) := rfl
  rw [idtokenValidateNonce, exec_bind_eq, seen]
  dsimp only
  rw [exec_bind_eq, exec_check_eq]
  by_cases unseen : (cacheGetNonce env cache nonce).isNone = true
  · rw [if_pos unseen]
    dsimp only
    rw [exec_bind_eq, exec_check_eq]
    by_cases same : jwt.claims.getString "nonce" = some nonce
    · rw [if_pos (decide_eq_true same), if_pos ⟨unseen, same⟩]
      rfl
    · rw [if_neg (by simpa using same), if_neg fun both => same both.2]
  · rw [if_neg unseen, if_neg fun both => unseen both.1]

theorem logoutBackchannelCheckJtiReplay_exec (env : Env) (provider : Provider) (jwt : Jwt)
    (cache : JtiCache) :
    (logoutBackchannelCheckJtiReplay env provider jwt).exec cache =
      match jwt.claims.getString "jti" with
      | none => (none, cache)
      | some jti =>
          if (cacheGetJti env cache jti).isNone then
            (some (), cacheSetJti env cache jti
              (env.now + (provider.idtokenIatSlack * 2 + 10) * 1000000))
          else (none, cache) := by
  have required : (require (jwt.claims.getString "jti")).exec cache =
      (jwt.claims.getString "jti", cache) := rfl
  rw [logoutBackchannelCheckJtiReplay, exec_bind_eq, required]
  cases jwt.claims.getString "jti" with
  | none => rfl
  | some jti =>
      have seen : (get : Flow JtiCache).exec cache = (some cache, cache) := rfl
      dsimp only
      rw [exec_bind_eq, seen]
      dsimp only
      rw [exec_bind_eq, exec_check_eq]
      by_cases unseen : (cacheGetJti env cache jti).isNone = true
      · rw [if_pos unseen, if_pos unseen]
        rfl
      · rw [if_neg unseen, if_neg unseen]

/-- Noting a key that was not found touches no entry that is still good. -/
theorem keepsLive_cacheSetNonce {env : Env} {cache : NonceCache} {nonce : String}
    (unseen : (cacheGetNonce env cache nonce).isNone = true) (expiry : Int) :
    KeepsLive env.now cache (cacheSetNonce env cache nonce expiry) := by
  unfold cacheSetNonce
  split
  · next answers =>
      rw [cacheGetNonce, if_pos answers, Option.isNone_iff_eq_none] at unseen
      exact .update unseen _
  · exact .refl env.now cache

theorem keepsEntries_idtokenValidateNonce (nonce : String) :
    KeepsEntries env.now (idtokenValidateNonce env provider nonce jwt) := by
  intro cache
  rw [idtokenValidateNonce_exec]
  split
  · next unseen => exact keepsLive_cacheSetNonce unseen.1 _
  · exact .refl env.now cache

theorem keepsEntries_logoutBackchannelCheckJtiReplay :
    KeepsEntries env.now (logoutBackchannelCheckJtiReplay env provider jwt) := by
  intro cache
  rw [logoutBackchannelCheckJtiReplay_exec]
  split
  · exact .refl env.now cache
  · split
    · next unseen => exact keepsLive_cacheSetNonce unseen _
    · exact .refl env.now cache

theorem keepsEntries_validateIdtoken (nonce : Option String) :
    KeepsEntries env.now (validateIdtoken env provider jwt nonce) := by
  have others : KeepsEntries env.now (do
      Proto.check (jwtValidate env jwt
          (if provider.validateIssuer then some provider.issuer else none)
        provider.idtokenIatSlack)
      Proto.check jwt.sub.isSome
      Proto.check (idtokenValidateAudAndAzp provider jwt.claims)) :=
    .bind (.check _) fun _ => .bind (.check _) fun _ => .check _
  cases nonce with
  | none => exact .bind (.pure ()) fun _ => others
  | some nonce => exact .bind (keepsEntries_idtokenValidateNonce nonce) fun _ => others

theorem keepsEntries_logoutBackchannel (jose : Jose) (env : Env)
    (providerForIssuer : Option String → Option Provider) (logoutToken : String) :
    KeepsEntries env.now (logoutBackchannel jose env providerForIssuer logoutToken) := by
  refine .bind (.bind (.require _) fun _ => .bind (.check _) fun _ => .pure _) fun jwt => ?_
  refine .bind (.bind (.require _) fun _ => .bind (.check _) fun _ => .pure _) fun provider => ?_
  refine .bind (.bind (.check _) fun _ => .bind (.check _) fun _ => .check _) fun _ => ?_
  exact .bind (.check _) fun _ => .bind (.check _) fun _ =>
    .bind keepsEntries_logoutBackchannelCheckJtiReplay fun _ => .require _

end Frames

/-! ## What is accepted -/

/-- What the acceptance of a token says about its time of issue, and about the entry it leaves
behind. -/
structure Noted (env : Env) (provider : Provider) (jwt : Jwt) (key : String)
    (cache cache' : NonceCache) : Prop where
  /-- The key had not been seen. -/
  unseen : cacheGetNonce env cache key = none
  /-- It will be. -/
  stored : cache' = cacheSetNonce env cache key
    (env.now + (provider.idtokenIatSlack * 2 + 10) * 1000000)
  window : validateIat env jwt provider.idtokenIatSlack = true

section Accepted

variable {jose : Jose} {env : Env} {provider : Provider} {jwt : Jwt} {cache cache' : NonceCache}

theorem validateIdtoken_noted {nonce : String} {done : Unit}
    (ran : (validateIdtoken env provider jwt (some nonce)).exec cache = (some done, cache')) :
    Noted env provider jwt nonce cache cache' := by
  obtain ⟨_, middle, nonced, ran⟩ := exec_bind ran
  obtain ⟨_, _, validated, ran⟩ := exec_bind ran
  obtain ⟨_, _, subject, audience⟩ := exec_bind ran
  obtain ⟨valid, rfl⟩ := exec_check validated
  obtain ⟨-, rfl⟩ := exec_check subject
  obtain ⟨-, rfl⟩ := exec_check audience
  rw [idtokenValidateNonce_exec] at nonced
  split at nonced
  · next unseen =>
      cases nonced
      simp only [jwtValidate, Bool.and_eq_true] at valid
      exact ⟨Option.isNone_iff_eq_none.mp unseen.1, rfl, valid.2⟩
  · cases nonced

theorem logoutBackchannelParseJwt_spec {logoutToken : String}
    (ran : (logoutBackchannelParseJwt jose logoutToken).exec cache = (some jwt, cache')) :
    jose.jwtParse (some logoutToken) = some jwt ∧ cache' = cache := by
  obtain ⟨token, _, parsed, next⟩ := exec_bind ran
  obtain ⟨_, _, signed, last⟩ := exec_bind next
  obtain ⟨parse, first⟩ := exec_require parsed
  obtain ⟨-, second⟩ := exec_check signed
  obtain ⟨rfl, third⟩ := exec_pure last
  exact ⟨parse, third.trans (second.trans first)⟩

theorem logoutBackchannelGetProvider_spec {providerForIssuer : Option String → Option Provider}
    (ran : (logoutBackchannelGetProvider providerForIssuer jwt).exec cache =
    (some provider, cache')) :
    providerForIssuer jwt.iss = some provider ∧ cache' = cache := by
  obtain ⟨known, _, found, next⟩ := exec_bind ran
  obtain ⟨_, _, pinned, last⟩ := exec_bind next
  obtain ⟨find, first⟩ := exec_require found
  obtain ⟨-, second⟩ := exec_check pinned
  obtain ⟨rfl, third⟩ := exec_pure last
  exact ⟨find, third.trans (second.trans first)⟩

theorem logoutBackchannelVerifyJwt_spec {done : Unit}
    (ran : (logoutBackchannelVerifyJwt jose env jwt provider).exec cache = (some done, cache')) :
    validateIat env jwt provider.idtokenIatSlack = true ∧ cache' = cache := by
  obtain ⟨_, _, signature, next⟩ := exec_bind ran
  obtain ⟨_, _, validated, audience⟩ := exec_bind next
  obtain ⟨-, first⟩ := exec_check signature
  obtain ⟨valid, second⟩ := exec_check validated
  obtain ⟨-, third⟩ := exec_check audience
  simp only [logoutJwtValidate, Bool.and_eq_true] at valid
  exact ⟨valid.2, third.trans (second.trans first)⟩

theorem logoutBackchannelValidateClaims_spec {key : String}
    (ran : (logoutBackchannelValidateClaims env provider jwt).exec cache = (some key, cache')) :
    ∃ jti, jwt.claims.getString "jti" = some jti ∧ cacheGetJti env cache jti = none ∧
      cache' = cacheSetJti env cache jti
        (env.now + (provider.idtokenIatSlack * 2 + 10) * 1000000) := by
  obtain ⟨_, _, events, next⟩ := exec_bind ran
  obtain ⟨_, _, nonce, last⟩ := exec_bind next
  obtain ⟨_, _, fresh, subject⟩ := exec_bind last
  obtain ⟨-, first⟩ := exec_check events
  obtain ⟨-, second⟩ := exec_check nonce
  obtain ⟨-, third⟩ := exec_require subject
  rw [logoutBackchannelCheckJtiReplay_exec, second, first] at fresh
  cases present : jwt.claims.getString "jti" with
  | none =>
      rw [present] at fresh
      cases fresh
  | some jti =>
      rw [present] at fresh
      dsimp only at fresh
      split at fresh
      · next unseen =>
          exact ⟨jti, rfl, Option.isNone_iff_eq_none.mp unseen,
            third.trans (Prod.mk.inj fresh).2.symm⟩
      · cases fresh

theorem logoutBackchannel_noted {providerForIssuer : Option String → Option Provider}
    {logoutToken key : String}
    (ran : (logoutBackchannel jose env providerForIssuer logoutToken).exec cache =
    (some key, cache')) :
    ∃ jwt provider jti, jose.jwtParse (some logoutToken) = some jwt ∧
      providerForIssuer jwt.iss = some provider ∧ jwt.claims.getString "jti" = some jti ∧
      Noted env provider jwt jti cache cache' := by
  obtain ⟨jwt, _, parsed, next⟩ := exec_bind ran
  obtain ⟨provider, _, found, last⟩ := exec_bind next
  obtain ⟨_, _, verified, claims⟩ := exec_bind last
  obtain ⟨parse, first⟩ := logoutBackchannelParseJwt_spec parsed
  obtain ⟨find, second⟩ := logoutBackchannelGetProvider_spec found
  obtain ⟨window, third⟩ := logoutBackchannelVerifyJwt_spec verified
  obtain ⟨jti, present, unseen, stored⟩ := logoutBackchannelValidateClaims_spec claims
  rw [third, second, first] at unseen stored
  exact ⟨jwt, provider, jti, parse, find, present, unseen, stored, window⟩

end Accepted

/-! ## Runs -/

/-- The two sections of the cache that guard against replays. -/
structure ReplayCaches where
  nonce : NonceCache
  jti : JtiCache

/-- The presentation of a token. -/
inductive Presentation
  /-- `oidc_proto_validate_idtoken`. -/
  | idtoken (env : Env) (provider : Provider) (jwt : Jwt) (nonce : Option String)
  /-- `oidc_logout_backchannel`. -/
  | logoutToken (env : Env) (jose : Jose) (providerForIssuer : Option String → Option Provider)
      (token : String)

namespace Presentation

/-- When and over which cache a token is presented. -/
def env : Presentation → Env
  | .idtoken env _ _ _ => env
  | .logoutToken env _ _ _ => env

/-- Whether a token is accepted. -/
def accepted (caches : ReplayCaches) : Presentation → Bool
  | idtoken env provider jwt nonce =>
      ((validateIdtoken env provider jwt nonce).exec caches.nonce).1.isSome
  | logoutToken env jose providerForIssuer token =>
      ((logoutBackchannel jose env providerForIssuer token).exec caches.jti).1.isSome

end Presentation

namespace ReplayCaches

/-- The caches after a presentation. -/
def step (caches : ReplayCaches) : Presentation → ReplayCaches
  | .idtoken env provider jwt nonce =>
      { caches with nonce := ((validateIdtoken env provider jwt nonce).exec caches.nonce).2 }
  | .logoutToken env jose providerForIssuer token =>
      { caches with
        jti := ((logoutBackchannel jose env providerForIssuer token).exec caches.jti).2 }

/-- The caches after a number of presentations. -/
def run (caches : ReplayCaches) (presentations : List Presentation) : ReplayCaches :=
  presentations.foldl step caches

end ReplayCaches

/-- A time of issue which is that of the first token, or another one that was acceptable with it. -/
def AsTimely (env : Env) (provider : Provider) (first second : Jwt) : Prop :=
  second.iat = first.iat ∨ validateIat env second provider.idtokenIatSlack = true

/-- The second presentation is of the same token as the first, as far as its replay goes. -/
inductive Replays : Presentation → Presentation → Prop
  /-- An id_token with the nonce of the first. -/
  | idtoken (env env' : Env) (provider provider' : Provider) (jwt jwt' : Jwt) (nonce : String)
      (slack : provider'.idtokenIatSlack = provider.idtokenIatSlack)
      (timely : AsTimely env provider jwt jwt') :
      Replays (.idtoken env provider jwt (some nonce)) (.idtoken env' provider' jwt' (some nonce))
  /-- A logout token with the `jti` of the first. -/
  | logoutToken (env env' : Env) (jose jose' : Jose)
      (providerForIssuer providerForIssuer' : Option String → Option Provider)
      (token token' : String)
      (same : ∀ jwt jwt' provider provider', jose.jwtParse (some token) = some jwt →
        jose'.jwtParse (some token') = some jwt' → providerForIssuer jwt.iss = some provider →
        providerForIssuer' jwt'.iss = some provider' →
          jwt'.claims.getString "jti" = jwt.claims.getString "jti" ∧
            provider'.idtokenIatSlack = provider.idtokenIatSlack ∧ AsTimely env provider jwt jwt') :
      Replays (.logoutToken env jose providerForIssuer token)
        (.logoutToken env' jose' providerForIssuer' token')

/-- A logout token that is presented twice. -/
theorem Replays.again (env env' : Env) (jose : Jose)
    (providerForIssuer : Option String → Option Provider)
    (token : String) :
    Replays (.logoutToken env jose providerForIssuer token)
      (.logoutToken env' jose providerForIssuer token) := by
  refine .logoutToken _ _ _ _ _ _ _ _ fun jwt jwt' provider provider' parsed parsed' found found' =>
    ?_
  cases parsed.symm.trans parsed'
  cases found.symm.trans found'
  exact ⟨rfl, rfl, .inl rfl⟩

section Runs

theorem step_keepsNonces (caches : ReplayCaches) (presentation : Presentation) :
    KeepsLive presentation.env.now caches.nonce (caches.step presentation).nonce := by
  cases presentation with
  | idtoken env provider jwt nonce => exact keepsEntries_validateIdtoken nonce caches.nonce
  | logoutToken env jose providerForIssuer token => exact .refl _ _

theorem step_keepsJtis (caches : ReplayCaches) (presentation : Presentation) :
    KeepsLive presentation.env.now caches.jti (caches.step presentation).jti := by
  cases presentation with
  | idtoken env provider jwt nonce => exact .refl _ _
  | logoutToken env jose providerForIssuer token =>
      exact keepsEntries_logoutBackchannel jose env providerForIssuer token caches.jti

/-- The window of the time of issue, for a provider. -/
theorem validateIat_window {env : Env} {provider : Provider} {jwt : Jwt}
    (valid : validateIat env jwt provider.idtokenIatSlack = true) :
    ((env.second - provider.idtokenIatSlack : Int) : Rat) ≤ jwt.iat ∧
      jwt.iat ≤ ((env.second + provider.idtokenIatSlack : Int) : Rat) := by
  simp only [validateIat, Bool.and_eq_true, Bool.or_eq_true, decide_eq_true_eq] at valid
  exact valid.2.resolve_left (Int.not_lt.mpr provider.idtokenIatSlack_nonneg)

/-- When the entry of an accepted token has expired, the token has become too old. -/
theorem too_old {env env' : Env} {provider provider' : Provider} {jwt jwt' : Jwt}
    (first : validateIat env jwt provider.idtokenIatSlack = true)
    (second : validateIat env' jwt' provider'.idtokenIatSlack = true)
    (slack : provider'.idtokenIatSlack = provider.idtokenIatSlack)
    (timely : AsTimely env provider jwt jwt')
    (expired : env.now + (provider.idtokenIatSlack * 2 + 10) * 1000000 ≤ env'.now) : False := by
  have latest : jwt'.iat ≤ ((env.second + provider.idtokenIatSlack : Int) : Rat) := by
    rcases timely with same | acceptable
    · rw [same]
      exact (validateIat_window first).2
    · exact (validateIat_window acceptable).2
  have earliest := (validateIat_window second).1
  rw [slack] at earliest
  have overlap : env'.second - provider.idtokenIatSlack ≤ env.second + provider.idtokenIatSlack :=
    Rat.intCast_le_intCast.mp (earliest.trans latest)
  simp only [Env.second] at overlap
  omega

theorem entry_of_noted {env : Env} {provider : Provider} {jwt : Jwt} {key : String}
    {cache cache' : NonceCache} (noted : Noted env provider jwt key cache cache')
    (answers : env.cacheAnswers = true) :
    cache' key = some (key, env.now + (provider.idtokenIatSlack * 2 + 10) * 1000000) := by
  rw [noted.stored, cacheSetNonce, if_pos answers, Function.update_self]

theorem live_of_noted {env : Env} {provider : Provider} {jwt : Jwt} {key : String}
    {cache cache' : NonceCache} (noted : Noted env provider jwt key cache cache')
    (answers : env.cacheAnswers = true) : live env.now (cache key) = none := by
  have unseen := noted.unseen
  rwa [cacheGetNonce, if_pos answers] at unseen

theorem idtoken_noted {caches : ReplayCaches} {env : Env} {provider : Provider} {jwt : Jwt}
    {nonce : String}
    (accepted : (Presentation.idtoken env provider jwt (some nonce)).accepted caches = true) :
    Noted env provider jwt nonce caches.nonce
      (caches.step (.idtoken env provider jwt (some nonce))).nonce := by
  rw [Presentation.accepted] at accepted
  obtain ⟨done, ran⟩ := Option.isSome_iff_exists.mp accepted
  exact validateIdtoken_noted (Prod.ext ran rfl)

theorem logoutToken_noted {caches : ReplayCaches} {env : Env} {jose : Jose}
    {providerForIssuer : Option String → Option Provider} {token : String}
    (accepted : (Presentation.logoutToken env jose providerForIssuer token).accepted
    caches = true) :
    ∃ jwt provider jti, jose.jwtParse (some token) = some jwt ∧
      providerForIssuer jwt.iss = some provider ∧ jwt.claims.getString "jti" = some jti ∧
      Noted env provider jwt jti caches.jti
        (caches.step (.logoutToken env jose providerForIssuer token)).jti := by
  rw [Presentation.accepted] at accepted
  obtain ⟨key, ran⟩ := Option.isSome_iff_exists.mp accepted
  exact logoutBackchannel_noted (Prod.ext ran rfl)

/-- A replay is rejected: as long as the entry of the first presentation is kept, it is found, and
after that the token is too old. -/
theorem replay_rejected (caches : ReplayCaches) {first second : Presentation}
    (between : List Presentation) (replays : Replays first second)
    (ordered : List.Pairwise (fun earlier later => earlier.env.now ≤ later.env.now)
      (first :: between ++ [second]))
    (answers : first.env.cacheAnswers = true ∧ second.env.cacheAnswers = true) :
    ¬(first.accepted caches = true ∧
      second.accepted ((caches.step first).run between) = true) := by
  rintro ⟨accepted, again⟩
  have before : ∀ event ∈ between, event.env.now ≤ second.env.now := by
    intro event member
    rw [List.cons_append, List.pairwise_cons, List.pairwise_append] at ordered
    exact ordered.2.2.2 event member second (List.mem_singleton_self second)
  cases replays with
  | idtoken env env' provider provider' jwt jwt' nonce slack timely =>
      have noted := idtoken_noted accepted
      have noted' := idtoken_noted again
      have expired := expired_of_unseen step_keepsNonces (entry_of_noted noted answers.1) before
        (live_of_noted noted' answers.2)
      exact too_old noted.window noted'.window slack timely expired
  | logoutToken env env' jose jose' providerForIssuer providerForIssuer' token token' same =>
      obtain ⟨jwt, provider, jti, parsed, found, present, noted⟩ := logoutToken_noted accepted
      obtain ⟨jwt', provider', jti', parsed', found', present', noted'⟩ := logoutToken_noted again
      obtain ⟨sameJti, slack, timely⟩ := same _ _ _ _ parsed parsed' found found'
      rw [present, present'] at sameJti
      cases sameJti
      have expired := expired_of_unseen step_keepsJtis (entry_of_noted noted answers.1) before
        (live_of_noted noted' answers.2)
      exact too_old noted.window noted'.window slack timely expired

end Runs

/-! ## A token from the future -/

/-- A provider with the default slack of ten minutes. -/
def slackProvider : Provider where
  issuer := "https://op"
  clientId := "client"
  idtokenIatSlack_nonneg := defaultIatSlack_nonneg

/-- A token which is issued half a second before the window ends, as seen at 1000 seconds. -/
def futureToken : Jwt where
  alg := some "RS256"
  claims := [("iss", .str "https://op"), ("sub", .str "alice"), ("aud", .str "client"),
    ("exp", .int 10000), ("iat", .real (3199 / 2)), ("nonce", .str "n")]

/-- Its presentation at a time in seconds. -/
def futurePresentation (second : Int) : Presentation :=
  .idtoken { now := second * 1000000 } slackProvider futureToken (some "n")

/-- A logout token. -/
def logoutClaims : Object :=
  [("iss", .str "https://op"), ("sub", .str "alice"), ("aud", .str "client"), ("iat", .int 1600),
    ("jti", .str "j"), ("events", .obj [(eventsBlogoutKey, .obj [])])]

/-- A library that knows one token. -/
def logoutJose : Jose where
  jwtParse token := if token = some "token" then some
      { alg := some "RS256", claims := logoutClaims } else none
  jwtVerify _ := true
  hashBytes _ _ := none
  base64urlDecode _ := none

/-- Its presentation at a time in seconds. -/
def logoutPresentation (second : Int) : Presentation :=
  .logoutToken { now := second * 1000000 } logoutJose (fun _ => some slackProvider) "token"

/-- No token has been used. -/
def unused : ReplayCaches := ⟨fun _ => none, fun _ => none⟩

/-- The tokens are accepted, and rejected in the very moment in which they are forgotten. -/
theorem future_rejected :
    (futurePresentation 1000).accepted unused = true ∧
      (logoutPresentation 1000).accepted unused = true ∧
      ¬((futurePresentation 1000).accepted unused = true ∧
        (futurePresentation 2210).accepted
          ((unused.step (futurePresentation 1000)).run [logoutPresentation 1500]) = true) ∧
      ¬((logoutPresentation 1000).accepted unused = true ∧
        (logoutPresentation 2210).accepted
          ((unused.step (logoutPresentation 1000)).run [futurePresentation 2000]) = true) :=
  ⟨by decide +kernel, by decide +kernel,
    replay_rejected _ _ (.idtoken _ _ _ _ _ _ _ rfl (.inl rfl)) (by decide) ⟨rfl, rfl⟩,
    replay_rejected _ _ (.again _ _ _ _ _) (by decide) ⟨rfl, rfl⟩⟩

end Handle

end ModAuthOpenidc
