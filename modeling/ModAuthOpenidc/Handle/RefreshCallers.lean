import ModAuthOpenidc.Handle.TokenRecord

/-!
# Callers with one refresh token

Any number of requests on one machine may want to refresh the same tokens at the same time. They run
`oidc_refresh_token_grant_obtain_tokens` with the same refresh token and share its entry in the
refresh cache. A lock in the entry is claimed under a mutex, which is given up between the polls of
a waiting caller; results and failures are written without the mutex. Each access to the entry or
the mutex, and each exchange with the token endpoint, is one step, and the steps of the callers are
interleaved in any order.
-/

namespace ModAuthOpenidc

namespace Handle

open Proto

/-! ## One caller -/

/-- Where a caller is, before its next step. -/
inductive Pc
  /-- `oidc_refresh_token_cache_get` is entered: lock the mutex. -/
  | start
  /-- With the mutex: read the entry; that many retries are left. -/
  | read (retries : Nat)
  /-- With the mutex: release it after a look at the lock. -/
  | backOff (retries : Nat)
  /-- Sleep until a certain time, then lock the mutex again. -/
  | asleep (retries : Nat) (wake : Int)
  /-- With the mutex: claim the lock in the entry. -/
  | claim
  /-- With the mutex: release it after the claim. -/
  | claimed
  /-- With the mutex: release it and return `FALSE`. -/
  | refuse
  /-- With the mutex: release it and return `TRUE`. -/
  | reuse (tokens : Tokens)
  /-- Call the token endpoint. -/
  | call
  /-- Wait for the token endpoint. -/
  | waiting
  /-- Cache the result and return `TRUE`. -/
  | store (response : TokenResponse)
  /-- Look for the result of another caller after a failure. -/
  | recover (answer : Option Object)
  /-- Lock the refresh token out and return `FALSE`. -/
  | giveUp
  /-- The tokens that were returned, if any. -/
  | done (outcome : Option Tokens)

namespace Pc

/-- The caller has the mutex. -/
def holds : Pc → Bool
  | read _ => true
  | backOff _ => true
  | claim => true
  | claimed => true
  | refuse => true
  | reuse _ => true
  | _ => false

/-- What a caller does after a read, see `oidc_refresh_token_cache_get`. -/
def afterRead (codec : Session.Codec) (retries : Nat) : Option String → Pc
  | none => claim
  | some text =>
      if text = refreshLockValue then
        match retries with
        | 0 => claim
        | retries + 1 => backOff retries
      else if text = refreshFailedLockValue then refuse
      else
        match refreshTokenCacheParse codec text noTokens with
        | none => claim
        | some tokens => reuse tokens

/-- What `oidc_refresh_token_cache_get` returns. -/
def result : Pc → RefreshCacheResult
  | refuse => .abort
  | reuse tokens => .success tokens
  | _ => .error

end Pc

/-- The result for a caller that reads certain values in turn. -/
def polled (codec : Session.Codec) (reads : Nat → Option String) : Nat → Nat → RefreshCacheResult
  | attempt, 0 => (Pc.afterRead codec 0 (reads attempt)).result
  | attempt, retries + 1 =>
      match Pc.afterRead codec (retries + 1) (reads attempt) with
      | .backOff _ => polled codec reads (attempt + 1) retries
      | pc => pc.result

/-- The end of `oidc_refresh_token_cache_get`, for the value that was read last. -/
def lastResult (codec : Session.Codec) : Option String → RefreshCacheResult
  | none => .error
  | some text =>
      if text = refreshFailedLockValue then .abort
      else if text = refreshLockValue then .error
      else
        match refreshTokenCacheParse codec text noTokens with
        | none => .error
        | some tokens => .success tokens

/-- A value other than the lock ends the polling. -/
theorem afterRead_of_ne (codec : Session.Codec) (retries : Nat) {value : Option String}
    (free : value ≠ some refreshLockValue) :
    (Pc.afterRead codec retries value).result = lastResult codec value ∧
      ∀ left, Pc.afterRead codec retries value ≠ .backOff left := by
  cases value with
  | none => exact ⟨rfl, nofun⟩
  | some text =>
      have other : text ≠ refreshLockValue := fun same => free (congrArg some same)
      simp only [Pc.afterRead, lastResult, other, if_false]
      split
      · exact ⟨rfl, nofun⟩
      · cases refreshTokenCacheParse codec text noTokens with
        | none => exact ⟨rfl, nofun⟩
        | some tokens => exact ⟨rfl, nofun⟩

theorem lastResult_awaitRefresh (codec : Session.Codec) (reads : Nat → Option String)
    (retries attempt : Nat) :
    lastResult codec (awaitRefresh reads attempt retries) = polled codec reads attempt retries := by
  induction retries generalizing attempt with
  | zero =>
      by_cases busy : reads attempt = some refreshLockValue
      · simp [awaitRefresh, polled, busy, Pc.afterRead, Pc.result, lastResult, refreshLockValue,
          refreshFailedLockValue]
      · rw [awaitRefresh, polled]
        exact (afterRead_of_ne codec 0 busy).1.symm
  | succ retries ih =>
      by_cases busy : reads attempt = some refreshLockValue
      · rw [awaitRefresh, if_pos busy, ih]
        simp [polled, busy, Pc.afterRead]
      · obtain ⟨result, going⟩ := afterRead_of_ne codec (retries + 1) busy
        rw [awaitRefresh, if_neg busy, polled, ← result]
        split
        · next left stopped => exact absurd stopped (going left)
        · rfl

/-- Step by step a caller finds what the function returns as a whole. -/
theorem refreshTokenCacheGet_eq_polled (codec : Session.Codec) (reads : Nat → Option String) :
    refreshTokenCacheGet codec reads = polled codec reads 0 (refreshLockTtl * 2) :=
  lastResult_awaitRefresh codec reads (refreshLockTtl * 2) 0

/-! ## All callers -/

/-- What the callers share: the time, the entry of the refresh token, and the mutex. -/
structure Shared (ι : Type) where
  clock : Int
  entry : Option (String × Int)
  mutex : Option ι

/-- The value of the entry, unless it has expired. -/
def Shared.value {ι : Type} (shared : Shared ι) : Option String :=
  ExpiringMap.live shared.clock shared.entry

/-- The result that is cached at a certain time. -/
def storedTokens (response : TokenResponse) (now : Int) : Tokens := { response with ts := now }

/-- The next step of a caller, unless it has to wait. The answer of the token endpoint is used by
the step that receives it. -/
def Pc.next {ι : Type} (codec : Session.Codec) (provider : Provider) (i : ι)
    (answer : Option Object)
    (shared : Shared ι) : Pc → Option (Pc × Shared ι)
  | start =>
      if shared.mutex.isNone then some (read (refreshLockTtl * 2), { shared with mutex := some i })
      else none
  | read retries => some (afterRead codec retries shared.value, shared)
  | backOff retries => some (asleep retries (shared.clock + 500000), { shared with mutex := none })
  | asleep retries wake =>
      if wake ≤ shared.clock ∧ shared.mutex.isNone then
        some (read retries, { shared with mutex := some i })
      else none
  | claim => some (claimed,
      { shared with entry := some (refreshLockValue, shared.clock + refreshLockTtl * 1000000) })
  | claimed => some (call, { shared with mutex := none })
  | refuse => some (done none, { shared with mutex := none })
  | reuse tokens => some (done (some tokens), { shared with mutex := none })
  | call => some (waiting, shared)
  | waiting =>
      match answer.bind (tokenEndpointResponseParse provider) with
      | some response => some (store response, shared)
      | none => some (recover answer, shared)
  | store response =>
      let tokens := storedTokens response shared.clock
      some (done (some tokens),
        { shared with
          entry := (codec.jsonEncode (refreshTokenCacheObject tokens)).map fun text =>
            (text, shared.clock + refreshCacheTtl * 1000000) })
  | recover answer =>
      match recoverTokens codec { tokenEndpoint := answer, recovered := shared.value } with
      | some tokens => some (done (some tokens), shared)
      | none => some (giveUp, shared)
  | giveUp =>
      some (done none,
        { shared with
          entry := some (refreshFailedLockValue, shared.clock + refreshCacheTtl * 1000000) })
  | done _ => none

/-- All callers, with a record of those who have called the token endpoint and of the result that
was stored last. -/
structure Race (ι : Type) where
  shared : Shared ι
  pcs : ι → Pc
  called : List ι
  stored : Option (String × Int)

/-- Time passes, or a caller takes a step. -/
inductive RaceEvent (ι : Type)
  | tick (elapsed : Nat)
  | act (i : ι) (answer : Option Object)

namespace Race

variable {ι : Type} [DecidableEq ι]

/-- No caller has done anything. -/
def start (clock : Int) (entry : Option (String × Int)) : Race ι where
  shared := { clock, entry, mutex := none }
  pcs := fun _ => .start
  called := []
  stored := none

/-- One event, if it can happen. -/
def step (codec : Session.Codec) (provider : Provider) (race : Race ι) : RaceEvent ι →
    Option (Race ι)
  | .tick elapsed =>
      some { race with shared := { race.shared with clock := race.shared.clock + elapsed } }
  | .act i answer =>
      match (race.pcs i).next codec provider i answer race.shared with
      | none => none
      | some (pc, shared) =>
          some
            { shared
              pcs := Function.update race.pcs i pc
              called := match race.pcs i with
                | .call => i :: race.called
                | _ => race.called
              stored := match race.pcs i with
                | .store _ => shared.entry
                | _ => race.stored }

/-- The races that events lead to, each under a condition. -/
inductive Reachable (codec : Session.Codec) (provider : Provider)
    (condition : Race ι → RaceEvent ι → Prop) (initial : Race ι) : Race ι → Prop
  | start : Reachable codec provider condition initial initial
  | step {race after : Race ι} (reached : Reachable codec provider condition initial race)
      (event : RaceEvent ι) (met : condition race event)
      (taken : race.step codec provider event = some after) :
      Reachable codec provider condition initial after

variable {codec : Session.Codec} {provider : Provider} {race after : Race ι}

/-- The step of a caller, taken apart. -/
theorem step_act {i : ι} {answer : Option Object}
    (taken : race.step codec provider (.act i answer) = some after) :
    ∃ pc shared, (race.pcs i).next codec provider i answer race.shared = some (pc, shared) ∧
      after.shared = shared ∧ after.pcs = Function.update race.pcs i pc ∧
      after.called = (match race.pcs i with
        | .call => i :: race.called
        | _ => race.called) ∧
      after.stored = match race.pcs i with
        | .store _ => shared.entry
        | _ => race.stored := by
  rw [step] at taken
  split at taken
  · cases taken
  · next pc shared moved =>
      cases taken
      exact ⟨pc, shared, moved, rfl, rfl, rfl, rfl⟩

/-- Events one after the other, as long as they can happen and meet a test. -/
def run (codec : Session.Codec) (provider : Provider) (test : Race ι → RaceEvent ι → Bool) :
    Race ι → List (RaceEvent ι) → Option (Race ι)
  | race, [] => some race
  | race, event :: rest =>
      if test race event then
        (race.step codec provider event).bind fun after => run codec provider test after rest
      else none

theorem Reachable.run {condition : Race ι → RaceEvent ι → Prop} {test : Race ι → RaceEvent ι → Bool}
    (sound : ∀ race event, test race event = true → condition race event) {initial : Race ι}
    {events : List (RaceEvent ι)} (reached : Reachable codec provider condition initial race)
    (ran : race.run codec provider test events = some after) :
    Reachable codec provider condition initial after := by
  induction events generalizing race with
  | nil =>
      cases ran
      exact reached
  | cons event rest ih =>
      rw [Race.run] at ran
      split at ran
      · next met =>
          obtain ⟨middle, taken, ran⟩ := Option.bind_eq_some_iff.mp ran
          exact ih (reached.step event (sound race event met) taken) ran
      · cases ran

end Race

/-- The step of a caller takes no time. -/
theorem Pc.next_clock {ι : Type} {codec : Session.Codec} {provider : Provider} {i : ι}
    {answer : Option Object} {shared shared' : Shared ι} {pc pc' : Pc}
    (moved : pc.next codec provider i answer shared = some (pc', shared')) :
    shared'.clock = shared.clock := by
  cases pc with
  | start =>
      simp only [Pc.next] at moved
      split at moved <;> cases moved
      rfl
  | asleep retries wake =>
      simp only [Pc.next] at moved
      split at moved <;> cases moved
      rfl
  | waiting =>
      simp only [Pc.next] at moved
      split at moved <;> cases moved <;> rfl
  | recover answer =>
      simp only [Pc.next] at moved
      split at moved <;> cases moved <;> rfl
  | done outcome => cases moved
  | _ =>
      cases moved
      rfl

end Handle

end ModAuthOpenidc
