import ModAuthOpenidc.Handle.RefreshRace

/-!
# One refresh for all callers

If nobody has to wait too long, only the first caller with a refresh token calls the token endpoint.
The race goes through three phases: nobody has claimed the lock, one caller holds it and all others
wait, and the outcome of that caller is in the cache for the others to follow.
-/

namespace ModAuthOpenidc

namespace Handle

open Proto

/-- The tokens that callers have in common. -/
structure SameTokens (first second : Tokens) : Prop where
  accessToken : first.accessToken = second.accessToken
  tokenType : first.tokenType = second.tokenType
  idToken : first.idToken = second.idToken
  refreshToken : first.refreshToken = second.refreshToken

/-- Both callers return a failure, or both return the same tokens. -/
def SameOutcome : Option Tokens → Option Tokens → Prop
  | none, none => True
  | some first, some second => SameTokens first second
  | _, _ => False

theorem SameOutcome.refl (outcome : Option Tokens) : SameOutcome outcome outcome := by
  cases outcome with
  | none => trivial
  | some tokens => exact ⟨rfl, rfl, rfl, rfl⟩

theorem SameOutcome.symm {first second : Option Tokens} (same : SameOutcome first second) :
    SameOutcome second first := by
  cases first with
  | none =>
      cases second with
      | none => trivial
      | some tokens => exact same
  | some tokens =>
      cases second with
      | none => exact same
      | some others =>
          exact ⟨same.accessToken.symm, same.tokenType.symm, same.idToken.symm,
            same.refreshToken.symm⟩

theorem SameOutcome.trans {first second third : Option Tokens} (same : SameOutcome first second)
    (also : SameOutcome second third) : SameOutcome first third := by
  cases first with
  | none =>
      cases second with
      | none => exact also
      | some tokens => exact same.elim
  | some tokens =>
      cases second with
      | none => exact same.elim
      | some others =>
          cases third with
          | none => exact also
          | some more =>
              exact ⟨same.accessToken.trans also.accessToken, same.tokenType.trans also.tokenType,
                same.idToken.trans also.idToken, same.refreshToken.trans also.refreshToken⟩

namespace Pc

/-- Before anybody has claimed the lock. -/
def early : Pc → Bool
  | start => true
  | read _ => true
  | claim => true
  | _ => false

/-- Waiting for the outcome of another caller. -/
def waits : Pc → Bool
  | start => true
  | read _ => true
  | backOff _ => true
  | asleep _ _ => true
  | _ => false

/-- Working with the lock. -/
def Works : Pc → Prop
  | claimed => True
  | call => True
  | waiting => True
  | store response => IsLifetime response.expiresIn
  | recover _ => True
  | giveUp => True
  | _ => False

/-- Working with the lock and the token endpoint has been called. -/
def hasCalled : Pc → Bool
  | claimed => false
  | call => false
  | _ => true

/-- Waiting for an outcome, or returning the same one. -/
def Follows (outcome : Option Tokens) : Pc → Prop
  | refuse => outcome = none
  | reuse tokens => SameOutcome (some tokens) outcome
  | done own => SameOutcome own outcome
  | pc => pc.waits = true

/-- An upper bound for the steps that are left. -/
def rank : Pc → Nat
  | start => 8 + 3 * (refreshLockTtl * 2)
  | read retries => 7 + 3 * retries
  | backOff retries => 9 + 3 * retries
  | asleep retries _ => 8 + 3 * retries
  | claim => 6
  | claimed => 5
  | refuse => 1
  | reuse _ => 1
  | call => 4
  | waiting => 3
  | store _ => 1
  | recover _ => 2
  | giveUp => 1
  | done _ => 0

end Pc

/-- The cached outcome. -/
def Records (codec : Session.Codec) (outcome : Option Tokens) (entry : Option (String × Int)) :
    Prop :=
  match outcome with
  | none => ∃ expires, entry = some (refreshFailedLockValue, expires)
  | some tokens => ∃ text expires, entry = some (text, expires) ∧
      codec.jsonEncode (refreshTokenCacheObject tokens) = some text ∧ IsLifetime tokens.expiresIn

namespace Race

variable {ι : Type}

/-- Nobody has to wait too long: a read finds no expired entry, and the last one finds no lock. The
result of a refresh can be encoded. -/
def Patient (codec : Session.Codec) (race : Race ι) : RaceEvent ι → Prop
  | .tick _ => True
  | .act i _ =>
      match race.pcs i with
      | .read retries => (∀ text expires, race.shared.entry = some (text, expires) →
            race.shared.clock < expires) ∧
          (retries = 0 → race.shared.value ≠ some refreshLockValue)
      | .store response => (codec.jsonEncode (refreshTokenCacheObject
          (storedTokens response race.shared.clock))).isSome = true
      | _ => True

/-- The mutex belongs to the one caller that thinks so. -/
def Exclusive (race : Race ι) : Prop :=
  ∀ i, (race.pcs i).holds = true ↔ race.shared.mutex = some i

/-- The phases of a race. -/
inductive Phase (codec : Session.Codec) (race : Race ι) : Prop
  /-- Nobody has claimed the lock. -/
  | fresh (entry : race.shared.entry = none) (called : race.called = [])
      (early : ∀ i, (race.pcs i).early = true)
  /-- One caller holds the lock. -/
  | locked (owner : ι) (expires : Int)
      (entry : race.shared.entry = some (refreshLockValue, expires))
      (works : (race.pcs owner).Works)
      (called : race.called = if (race.pcs owner).hasCalled then [owner] else [])
      (others : ∀ i, i ≠ owner → (race.pcs i).waits = true)
  /-- Its outcome is in the cache. -/
  | settled (owner : ι) (outcome : Option Tokens) (returned : race.pcs owner = .done outcome)
      (entry : Records codec outcome race.shared.entry) (called : race.called = [owner])
      (others : ∀ i, i ≠ owner → (race.pcs i).Follows outcome)

end Race

/-! ## The mutex -/

section Mutex

variable {ι : Type} {codec : Session.Codec} {provider : Provider} {i : ι} {answer : Option Object}
  {shared shared' : Shared ι} {pc pc' : Pc}

theorem holds_afterRead (codec : Session.Codec) (retries : Nat) (value : Option String) :
    (Pc.afterRead codec retries value).holds = true := by
  unfold Pc.afterRead
  split
  · rfl
  · split
    · cases retries with
      | zero => rfl
      | succ retries => rfl
    · split
      · rfl
      · split <;> rfl

/-- A step leaves the mutex alone, locks it when it is free, or releases it. -/
theorem Pc.next_mutex (moved : pc.next codec provider i answer shared = some (pc', shared')) :
    (pc'.holds = pc.holds ∧ shared'.mutex = shared.mutex) ∨
      (pc'.holds = true ∧ shared.mutex = none ∧ shared'.mutex = some i) ∨
      (pc.holds = true ∧ pc'.holds = false ∧ shared'.mutex = none) := by
  cases pc with
  | start =>
      simp only [Pc.next] at moved
      split at moved <;> cases moved
      next free => exact .inr (.inl ⟨rfl, Option.isNone_iff_eq_none.mp free, rfl⟩)
  | read retries =>
      cases moved
      exact .inl ⟨holds_afterRead codec retries _, rfl⟩
  | asleep retries wake =>
      simp only [Pc.next] at moved
      split at moved <;> cases moved
      next free => exact .inr (.inl ⟨rfl, Option.isNone_iff_eq_none.mp free.2, rfl⟩)
  | backOff retries =>
      cases moved
      exact .inr (.inr ⟨rfl, rfl, rfl⟩)
  | claimed =>
      cases moved
      exact .inr (.inr ⟨rfl, rfl, rfl⟩)
  | refuse =>
      cases moved
      exact .inr (.inr ⟨rfl, rfl, rfl⟩)
  | reuse tokens =>
      cases moved
      exact .inr (.inr ⟨rfl, rfl, rfl⟩)
  | waiting =>
      simp only [Pc.next] at moved
      split at moved <;> cases moved <;> exact .inl ⟨rfl, rfl⟩
  | recover answer =>
      simp only [Pc.next] at moved
      split at moved <;> cases moved <;> exact .inl ⟨rfl, rfl⟩
  | done outcome => cases moved
  | _ =>
      cases moved
      exact .inl ⟨rfl, rfl⟩

end Mutex

namespace Race

section Exclusive

variable {ι : Type} {codec : Session.Codec} {provider : Provider} {race after : Race ι}

theorem Exclusive.start (clock : Int) (entry : Option (String × Int)) :
    (start clock entry : Race ι).Exclusive := by
  intro i
  exact ⟨nofun, nofun⟩

/-- Two callers never have the mutex at once. -/
theorem Exclusive.unique (exclusive : race.Exclusive) {i j : ι} (mine : (race.pcs i).holds = true)
    (other : j ≠ i) : (race.pcs j).holds = false := by
  refine Bool.eq_false_iff.mpr fun also => other ?_
  have first := (exclusive i).mp mine
  have second := (exclusive j).mp also
  exact Option.some.inj (second.symm.trans first)

theorem Exclusive.step [DecidableEq ι] (exclusive : race.Exclusive) {event : RaceEvent ι}
    (taken : race.step codec provider event = some after) : after.Exclusive := by
  cases event with
  | tick elapsed =>
      cases taken
      exact exclusive
  | act i answer =>
      obtain ⟨pc, shared, moved, rfl, pcs_eq, -, -⟩ := step_act taken
      intro j
      rw [pcs_eq, Function.update_apply]
      rcases Pc.next_mutex moved with ⟨holds, mutex⟩ | ⟨holds, free, mutex⟩ | ⟨held, holds, mutex⟩
      · rw [mutex]
        split
        · next same =>
            subst same
            rw [holds]
            exact exclusive j
        · exact exclusive j
      · rw [mutex]
        split
        · next same => simp [holds, same]
        · next other =>
            have idle := exclusive j
            rw [free] at idle
            simpa [Ne.symm other] using idle
      · rw [mutex]
        split
        · simp [holds]
        · next other => simp [exclusive.unique held other]

end Exclusive

end Race

/-! ## The phases -/

/-- Nobody is early and has not the mutex, except at the start. -/
theorem Pc.waits_of_early {pc : Pc} (early : pc.early = true) (free : pc.holds = false) :
    pc.waits = true := by
  cases pc with
  | start => rfl
  | read retries => rfl
  | claim => cases free
  | _ => cases early

theorem Pc.follows_of_waits {pc : Pc} (waits : pc.waits = true) (outcome : Option Tokens) :
    pc.Follows outcome := by
  cases pc with
  | refuse => cases waits
  | reuse tokens => cases waits
  | done own => cases waits
  | _ => exact waits

section Waiting

variable {ι : Type} {codec : Session.Codec} {provider : Provider} {i : ι} {answer : Option Object}
  {shared shared' : Shared ι} {pc pc' : Pc}

/-- A waiting caller that does not read the entry goes on waiting. -/
theorem Pc.waits_next (waits : pc.waits = true) (blind : ∀ retries, pc ≠ .read retries)
    (moved : pc.next codec provider i answer shared = some (pc', shared')) :
    pc'.waits = true ∧ shared'.entry = shared.entry := by
  cases pc with
  | start =>
      simp only [Pc.next] at moved
      split at moved <;> cases moved
      exact ⟨rfl, rfl⟩
  | read retries => exact absurd rfl (blind retries)
  | backOff retries =>
      cases moved
      exact ⟨rfl, rfl⟩
  | asleep retries wake =>
      simp only [Pc.next] at moved
      split at moved <;> cases moved
      exact ⟨rfl, rfl⟩
  | _ => cases waits

/-- A waiting caller is not about to call the token endpoint. -/
theorem Pc.ne_call_of_waits (waits : pc.waits = true) : pc ≠ .call := by
  rintro rfl
  cases waits

/-- A caller that reads the outcome of another follows it. -/
theorem follows_afterRead (faithful : codec.Faithful) (unmarked : Unmarked codec)
    {outcome : Option Tokens} (recorded : Records codec outcome shared.entry)
    (current : ∀ text expires, shared.entry = some (text, expires) → shared.clock < expires)
    (retries : Nat) : (Pc.afterRead codec retries shared.value).Follows outcome := by
  cases outcome with
  | none =>
      obtain ⟨expires, entry⟩ := recorded
      have value : shared.value = some refreshFailedLockValue := by
        rw [Shared.value, entry]
        simp [ExpiringMap.live, current _ _ entry]
      rw [value]
      rfl
  | some tokens =>
      obtain ⟨text, expires, entry, encoded, lifetime⟩ := recorded
      have value : shared.value = some text := by
        rw [Shared.value, entry]
        simp [ExpiringMap.live, current _ _ entry]
      obtain ⟨unlocked, unfailed⟩ := unmarked _ text encoded
      rw [value]
      simp only [Pc.afterRead, unlocked, unfailed, if_false,
        refreshTokenCacheParse_cached faithful lifetime encoded noTokens]
      exact ⟨Option.or_none, Option.or_none, Option.or_none, Option.or_none⟩

/-- The lock that is found after a failure is no result. -/
theorem recoverTokens_locked {expires : Int}
    (entry : shared.entry = some (refreshLockValue, expires)) (answer : Option Object) :
    recoverTokens codec { tokenEndpoint := answer, recovered := shared.value } = none := by
  cases value : shared.value with
  | none => rfl
  | some text =>
      obtain ⟨later, same, -⟩ := ExpiringMap.live_eq_some value
      rw [entry] at same
      cases same
      simp [recoverTokens]

end Waiting

namespace Race

variable {ι : Type} {codec : Session.Codec} {provider : Provider} {race after : Race ι}

/-- What a caller does when the outcome of another is in the cache. -/
theorem follows_next (faithful : codec.Faithful) (unmarked : Unmarked codec)
    {outcome : Option Tokens}
    (recorded : Records codec outcome race.shared.entry) {i : ι} {answer : Option Object}
    (follows : (race.pcs i).Follows outcome) (met : race.Patient codec (.act i answer)) {pc : Pc}
    {shared : Shared ι} (moved :
    (race.pcs i).next codec provider i answer race.shared = some (pc, shared)) :
    pc.Follows outcome ∧ shared.entry = race.shared.entry ∧ race.pcs i ≠ .call := by
  cases place : race.pcs i with
  | read retries =>
      simp only [Patient, place] at met
      rw [place] at moved
      cases moved
      exact ⟨follows_afterRead faithful unmarked recorded met.1 retries, rfl, nofun⟩
  | refuse =>
      rw [place] at moved follows
      cases moved
      refine ⟨?_, rfl, nofun⟩
      rw [show outcome = none from follows]
      trivial
  | reuse tokens =>
      rw [place] at moved follows
      cases moved
      exact ⟨follows, rfl, nofun⟩
  | done own =>
      rw [place] at moved
      cases moved
  | _ =>
      rw [place] at moved follows
      obtain ⟨waits, kept⟩ := Pc.waits_next follows nofun moved
      exact ⟨Pc.follows_of_waits waits outcome, kept, Pc.ne_call_of_waits follows⟩

variable [DecidableEq ι]

/-- The caller that claims the lock is the only one. -/
theorem Phase.step_fresh (exclusive : race.Exclusive) (entry : race.shared.entry = none)
    (called : race.called = []) (early : ∀ i, (race.pcs i).early = true) {i : ι}
    {answer : Option Object} (taken : race.step codec provider (.act i answer) = some after) :
    after.Phase codec := by
  obtain ⟨pc, shared, moved, shared_eq, pcs_eq, called_eq, -⟩ := step_act taken
  have own := early i
  cases place : race.pcs i with
  | start =>
      rw [place] at moved called_eq
      simp only [Pc.next] at moved
      split at moved <;> cases moved
      refine .fresh (by rw [shared_eq, entry]) (called_eq.trans called) fun j => ?_
      rw [pcs_eq, Function.update_apply]
      split
      · rfl
      · exact early j
  | read retries =>
      rw [place] at moved called_eq
      have unseen : race.shared.value = none := by
        rw [Shared.value, entry]
        rfl
      simp only [Pc.next, unseen] at moved
      cases moved
      refine .fresh (by rw [shared_eq, entry]) (called_eq.trans called) fun j => ?_
      rw [pcs_eq, Function.update_apply]
      split
      · rfl
      · exact early j
  | claim =>
      have held : (race.pcs i).holds = true := by
        rw [place]
        rfl
      rw [place] at moved called_eq
      cases moved
      have there : after.pcs i = .claimed := by
        rw [pcs_eq, Function.update_self]
      refine .locked i _ (by rw [shared_eq]) ?_ ?_ fun j other => ?_
      · rw [there]
        trivial
      · rw [there]
        exact called_eq.trans called
      · rw [pcs_eq, Function.update_of_ne other]
        exact Pc.waits_of_early (early j) (exclusive.unique held other)
  | _ =>
      rw [place] at own
      cases own

/-- While one caller holds the lock, another one waits. -/
theorem Phase.step_waiting {owner : ι} {expires : Int}
    (entry : race.shared.entry = some (refreshLockValue, expires)) (works : (race.pcs owner).Works)
    (called : race.called = if (race.pcs owner).hasCalled then [owner] else [])
    (others : ∀ i, i ≠ owner → (race.pcs i).waits = true) {i : ι} {answer : Option Object}
    (other : i ≠ owner) (met : race.Patient codec (.act i answer))
    (taken : race.step codec provider (.act i answer) = some after) : after.Phase codec := by
  obtain ⟨pc, shared, moved, shared_eq, pcs_eq, called_eq, -⟩ := step_act taken
  have waits := others i other
  have kept : pc.waits = true ∧ shared.entry = race.shared.entry := by
    by_cases reads : ∃ retries, race.pcs i = .read retries
    · obtain ⟨retries, place⟩ := reads
      simp only [Patient, place] at met
      obtain ⟨current, last⟩ := met
      have value : race.shared.value = some refreshLockValue := by
        rw [Shared.value, entry]
        simp [ExpiringMap.live, current _ _ entry]
      rw [place] at moved
      simp only [Pc.next, value] at moved
      cases moved
      cases retries with
      | zero => exact absurd value (last rfl)
      | succ retries => exact ⟨rfl, rfl⟩
    · exact Pc.waits_next waits (fun retries place => reads ⟨retries, place⟩) moved
  have there : after.pcs owner = race.pcs owner := by
    rw [pcs_eq, Function.update_of_ne (Ne.symm other)]
  refine .locked owner expires (by rw [shared_eq, kept.2, entry]) (by rwa [there]) ?_ fun j apart =>
    ?_
  · rw [there, called_eq, ← called]
    split
    · next calls => exact absurd calls (Pc.ne_call_of_waits waits)
    · rfl
  · rw [pcs_eq, Function.update_apply]
    split
    · exact kept.1
    · exact others j apart

/-- The caller that holds the lock calls the token endpoint once and leaves its outcome in the
cache. -/
theorem Phase.step_owner {owner : ι} {expires : Int}
    (entry : race.shared.entry = some (refreshLockValue, expires)) (works : (race.pcs owner).Works)
    (called : race.called = if (race.pcs owner).hasCalled then [owner] else [])
    (others : ∀ i, i ≠ owner → (race.pcs i).waits = true) {answer : Option Object}
    (met : race.Patient codec (.act owner answer))
    (taken : race.step codec provider (.act owner answer) = some after) : after.Phase codec := by
  obtain ⟨pc, shared, moved, shared_eq, pcs_eq, called_eq, -⟩ := step_act taken
  have there : after.pcs owner = pc := by rw [pcs_eq, Function.update_self]
  have apart : ∀ i, i ≠ owner → (after.pcs i).waits = true := by
    intro i other
    rw [pcs_eq, Function.update_of_ne other]
    exact others i other
  have follow : ∀ outcome, ∀ i, i ≠ owner → (after.pcs i).Follows outcome :=
    fun outcome i other => Pc.follows_of_waits (apart i other) outcome
  cases place : race.pcs owner with
  | claimed =>
      rw [place] at moved called called_eq
      cases moved
      refine .locked owner expires (by rw [shared_eq, entry]) ?_ ?_ apart
      · rw [there]
        trivial
      · rw [there]
        exact called_eq.trans called
  | call =>
      rw [place] at moved called called_eq
      cases moved
      refine .locked owner expires (by rw [shared_eq, entry]) ?_ ?_ apart
      · rw [there]
        trivial
      · rw [there, called_eq, called]
        rfl
  | waiting =>
      rw [place] at moved called called_eq
      simp only [Pc.next] at moved
      split at moved
      · next response received =>
          cases moved
          obtain ⟨object, -, parsed⟩ := Option.bind_eq_some_iff.mp received
          refine .locked owner expires (by rw [shared_eq, entry]) ?_ ?_ apart
          · rw [there]
            exact isLifetime_of_parsed parsed
          · rw [there]
            exact called_eq.trans called
      · cases moved
        refine .locked owner expires (by rw [shared_eq, entry]) ?_ ?_ apart
        · rw [there]
          trivial
        · rw [there]
          exact called_eq.trans called
  | store response =>
      rw [place] at moved called called_eq works
      simp only [Patient, place] at met
      obtain ⟨text, encoded⟩ := Option.isSome_iff_exists.mp met
      cases moved
      refine .settled owner (some (storedTokens response race.shared.clock)) there ?_
        (called_eq.trans called) (follow _)
      rw [shared_eq]
      exact ⟨text, _, by rw [encoded, Option.map_some], encoded, works⟩
  | recover refused =>
      rw [place] at moved called called_eq
      simp only [Pc.next, recoverTokens_locked entry] at moved
      cases moved
      refine .locked owner expires (by rw [shared_eq, entry]) ?_ ?_ apart
      · rw [there]
        trivial
      · rw [there]
        exact called_eq.trans called
  | giveUp =>
      rw [place] at moved called called_eq
      cases moved
      refine .settled owner none there ?_ (called_eq.trans called) (follow _)
      rw [shared_eq]
      exact ⟨_, rfl⟩
  | _ =>
      rw [place] at works
      cases works

/-- An event that meets the condition leads to a phase again. -/
theorem Phase.step (phase : race.Phase codec) (exclusive : race.Exclusive)
    (faithful : codec.Faithful)
    (unmarked : Unmarked codec) {event : RaceEvent ι} (met : race.Patient codec event)
    (taken : race.step codec provider event = some after) : after.Phase codec := by
  cases event with
  | tick elapsed =>
      cases taken
      cases phase with
      | fresh entry called early => exact .fresh entry called early
      | locked owner expires entry works called others =>
          exact .locked owner expires entry works called others
      | settled owner outcome returned entry called others =>
          exact .settled owner outcome returned entry called others
  | act i answer =>
      cases phase with
      | fresh entry called early => exact step_fresh exclusive entry called early taken
      | locked owner expires entry works called others =>
          by_cases own : i = owner
          · subst own
            exact step_owner entry works called others met taken
          · exact step_waiting entry works called others own met taken
      | settled owner outcome returned entry called others =>
          obtain ⟨pc, shared, moved, shared_eq, pcs_eq, called_eq, -⟩ := step_act taken
          have other : i ≠ owner := by
            rintro rfl
            rw [returned] at moved
            cases moved
          obtain ⟨follows, kept, silent⟩ :=
            follows_next faithful unmarked entry (others i other) met moved
          refine .settled owner outcome ?_ (by rwa [shared_eq, kept]) ?_ fun j apart => ?_
          · rw [pcs_eq, Function.update_of_ne (Ne.symm other), returned]
          · rw [called_eq, ← called]
            split
            · next calls => exact absurd calls silent
            · rfl
          · rw [pcs_eq, Function.update_apply]
            split
            · exact follows
            · exact others j apart

theorem phase_of_reachable (faithful : codec.Faithful) (unmarked : Unmarked codec) {clock : Int}
    (reached : Reachable codec provider (Patient codec) (start clock none) race) :
    race.Exclusive ∧ race.Phase codec := by
  induction reached with
  | start => exact ⟨.start clock none, .fresh rfl rfl fun _ => rfl⟩
  | step reached event met taken ih =>
      obtain ⟨exclusive, phase⟩ := ih
      exact ⟨exclusive.step taken, phase.step exclusive faithful unmarked met taken⟩

end Race

/-! ## Every caller returns -/

section Returning

variable {ι : Type} {codec : Session.Codec} {provider : Provider} {i : ι} {answer : Option Object}
  {shared shared' : Shared ι} {pc pc' : Pc}

theorem rank_afterRead (codec : Session.Codec) (retries : Nat) (value : Option String) :
    (Pc.afterRead codec retries value).rank < (Pc.read retries).rank := by
  unfold Pc.afterRead
  split
  · simp only [Pc.rank]
    omega
  · split
    · cases retries with
      | zero =>
          simp only [Pc.rank]
          omega
      | succ retries =>
          simp only [Pc.rank]
          omega
    · split
      · simp only [Pc.rank]
        omega
      · split <;> simp only [Pc.rank] <;> omega

/-- Each step of a caller brings it closer to its return. -/
theorem Pc.rank_next (moved : pc.next codec provider i answer shared = some (pc', shared')) :
    pc'.rank < pc.rank := by
  cases pc with
  | start =>
      simp only [Pc.next] at moved
      split at moved <;> cases moved
      simp only [Pc.rank]
      omega
  | read retries =>
      cases moved
      exact rank_afterRead codec retries _
  | backOff retries =>
      cases moved
      simp only [Pc.rank]
      omega
  | asleep retries wake =>
      simp only [Pc.next] at moved
      split at moved <;> cases moved
      simp only [Pc.rank]
      omega
  | waiting =>
      simp only [Pc.next] at moved
      split at moved <;> cases moved <;> simp [Pc.rank]
  | recover refused =>
      simp only [Pc.next] at moved
      split at moved <;> cases moved <;> simp [Pc.rank]
  | done outcome => cases moved
  | _ =>
      cases moved
      simp [Pc.rank]

/-- What the callers share, after some time. -/
def Shared.later (shared : Shared ι) (elapsed : Nat) : Shared ι :=
  { shared with clock := shared.clock + elapsed }

/-- With the mutex, a caller does not wait for anything. -/
theorem Pc.next_of_holds (holds : pc.holds = true) (codec : Session.Codec)
    (provider : Provider) (i : ι)
    (answer : Option Object) (shared : Shared ι) :
    (pc.next codec provider i answer shared).isSome = true := by
  cases pc with
  | start => cases holds
  | asleep retries wake => cases holds
  | waiting => cases holds
  | recover refused => cases holds
  | done outcome => cases holds
  | _ => rfl

/-- Without it, a caller waits for its release and for the end of its sleep. -/
theorem Pc.next_of_free (free : shared.mutex = none) (running : ∀ outcome, pc ≠ .done outcome)
    (codec : Session.Codec) (provider : Provider) (i : ι) :
    ∃ elapsed : Nat, ∀ answer,
      (pc.next codec provider i answer (shared.later elapsed)).isSome = true := by
  cases pc with
  | start => exact ⟨0, fun answer => by simp [Pc.next, Shared.later, free]⟩
  | asleep retries wake =>
      refine ⟨(wake - shared.clock).toNat, fun answer => ?_⟩
      have awake : wake ≤ shared.clock + (wake - shared.clock).toNat := by omega
      simp only [Pc.next, Shared.later, free, awake, Option.isNone_none, and_self, if_true,
        Option.isSome_some]
  | waiting =>
      refine ⟨0, fun answer => ?_⟩
      simp only [Pc.next]
      split <;> rfl
  | recover refused =>
      refine ⟨0, fun answer => ?_⟩
      simp only [Pc.next]
      split <;> rfl
  | done outcome => exact absurd rfl (running outcome)
  | _ => exact ⟨0, fun answer => rfl⟩

end Returning

namespace Race

variable {ι : Type} [DecidableEq ι] {codec : Session.Codec} {provider : Provider} {race : Race ι}

/-- After some time some caller can take a step, whatever the token endpoint answers; with every
step a caller comes closer to its return. -/
def Progresses (codec : Session.Codec) (provider : Provider) (race : Race ι) : Prop :=
  ∃ (later : Race ι) (elapsed : Nat) (i : ι),
    race.step codec provider (.tick elapsed) = some later ∧ ∀ answer, ∃ after,
      later.step codec provider (.act i answer) = some after ∧
      (after.pcs i).rank < (race.pcs i).rank ∧ ∀ j, j ≠ i → after.pcs j = race.pcs j

/-- A caller that can go on makes progress. -/
theorem progresses_of_next (elapsed : Nat) (i : ι) (able : ∀ answer,
      ((race.pcs i).next codec provider i answer (race.shared.later elapsed)).isSome = true) :
    race.Progresses codec provider := by
  refine ⟨{ race with shared := race.shared.later elapsed }, elapsed, i, rfl, fun answer => ?_⟩
  obtain ⟨⟨pc, shared⟩, moved⟩ := Option.isSome_iff_exists.mp (able answer)
  have taken : ∃ after, step codec provider { race with shared := race.shared.later elapsed }
      (.act i answer) = some after := by
    rw [step, moved]
    exact ⟨_, rfl⟩
  obtain ⟨after, taken⟩ := taken
  obtain ⟨pc', shared', moved', -, pcs_eq, -, -⟩ := step_act taken
  refine ⟨after, taken, ?_, fun j other => ?_⟩
  · rw [pcs_eq, Function.update_self]
    exact Pc.rank_next moved'
  · rw [pcs_eq, Function.update_of_ne other]

/-- The callers do not block each other. -/
theorem Exclusive.progresses (exclusive : race.Exclusive) {i : ι}
    (running : ∀ outcome, race.pcs i ≠ .done outcome) : race.Progresses codec provider := by
  cases mutex : race.shared.mutex with
  | none =>
      obtain ⟨elapsed, able⟩ := Pc.next_of_free mutex running codec provider i
      exact progresses_of_next elapsed i able
  | some holder =>
      have holds := (exclusive holder).mpr mutex
      exact progresses_of_next 0 holder fun answer =>
        Pc.next_of_holds holds codec provider holder answer _

/-- All callers that have returned have returned the same. -/
theorem Phase.sameOutcome (phase : race.Phase codec) {i j : ι} {first second : Option Tokens}
    (returned : race.pcs i = .done first) (also : race.pcs j = .done second) :
    SameOutcome first second := by
  cases phase with
  | fresh entry called early =>
      have own := early i
      rw [returned] at own
      cases own
  | locked owner expires entry works called others =>
      by_cases own : i = owner
      · rw [← own, returned] at works
        cases works
      · have waits := others i own
        rw [returned] at waits
        cases waits
  | settled owner outcome finished entry called others =>
      have agrees : ∀ {k : ι} {result}, race.pcs k = .done result → SameOutcome result outcome := by
        intro k result ended
        by_cases own : k = owner
        · rw [own, finished] at ended
          cases ended
          exact .refl outcome
        · have follows := others k own
          rw [ended] at follows
          exact follows
      exact (agrees returned).trans (agrees also).symm

/-- At most one caller has called the token endpoint, and one has when somebody has returned. -/
theorem Phase.called_once (phase : race.Phase codec) :
    race.called.length ≤ 1 ∧
      ∀ i outcome, race.pcs i = .done outcome → ∃ owner, race.called = [owner] := by
  cases phase with
  | fresh entry called early =>
      refine ⟨by simp [called], fun i outcome returned => ?_⟩
      have own := early i
      rw [returned] at own
      cases own
  | locked owner expires entry works called others =>
      refine ⟨?_, fun i outcome returned => ?_⟩
      · rw [called]
        split <;> simp
      · by_cases own : i = owner
        · rw [← own, returned] at works
          cases works
        · have waits := others i own
          rw [returned] at waits
          cases waits
  | settled owner outcome finished entry called others =>
      exact ⟨by simp [called], fun _ _ _ => ⟨owner, called⟩⟩

/-- Any number of callers enter with one refresh token, for which nothing is cached. If nobody has
to wait too long, the token endpoint is called by at most one of them, and by one as soon as some
caller has returned; all callers that have returned have returned the same outcome; and as long as
some caller has not, the callers come closer to it. -/
theorem refreshed_once (faithful : codec.Faithful) (unmarked : Unmarked codec) {clock : Int}
    (reached : Reachable codec provider (Patient codec) (start clock none) race) :
    race.called.length ≤ 1 ∧
      (∀ i outcome, race.pcs i = .done outcome → ∃ owner, race.called = [owner]) ∧
      (∀ i j first second, race.pcs i = .done first → race.pcs j = .done second →
        SameOutcome first second) ∧
      ∀ i, (∀ outcome, race.pcs i ≠ .done outcome) → race.Progresses codec provider := by
  obtain ⟨exclusive, phase⟩ := phase_of_reachable faithful unmarked reached
  obtain ⟨most, exactly⟩ := phase.called_once
  exact ⟨most, exactly, fun i j first second returned also => phase.sameOutcome returned also,
    fun i running => exclusive.progresses running⟩

end Race

/-- The caller has returned tokens. -/
def Pc.returned : Pc → Bool
  | done (some _) => true
  | _ => false

theorem Pc.returned_eq_true {pc : Pc} (returned : pc.returned = true) :
    ∃ tokens, pc = .done (some tokens) := by
  unfold Pc.returned at returned
  split at returned
  · next tokens => exact ⟨tokens, rfl⟩
  · cases returned

/-- Whether a step lets nobody wait too long. -/
def patientTest (race : Race Bool) : RaceEvent Bool → Bool
  | .tick _ => true
  | .act i _ =>
      match race.pcs i with
      | .read retries => race.shared.entry.all (fun (_, expires) => race.shared.clock < expires) &&
          (retries != 0 || race.shared.value != some refreshLockValue)
      | .store response => (raceCodec.jsonEncode (refreshTokenCacheObject
          (storedTokens response race.shared.clock))).isSome
      | _ => true

theorem patientTest_sound (race : Race Bool) (event : RaceEvent Bool)
    (met : patientTest race event = true) : race.Patient raceCodec event := by
  cases event with
  | tick elapsed => trivial
  | act i answer =>
      cases place : race.pcs i with
      | read retries =>
          simp only [patientTest, place, Bool.and_eq_true, Bool.or_eq_true, bne_iff_ne] at met
          simp only [Race.Patient, place]
          refine ⟨fun text expires entry => ?_, fun last => ?_⟩
          · simpa [entry] using met.1
          · exact met.2.resolve_left (not_not_intro last)
      | store response =>
          simp only [patientTest, place] at met
          simpa only [Race.Patient, place] using met
      | _ => simp only [Race.Patient, place]

/-- One caller refreshes the tokens while the other one sleeps; then the other one finds them. -/
def patientRun : List (RaceEvent Bool) :=
  List.replicate 6 (raceAct false) ++ List.replicate 3 (raceAct true) ++
    [raceAct false, .tick 500000] ++ List.replicate 3 (raceAct true)

theorem refreshed_once_for_two : ∃ race : Race Bool,
    (Race.start 1000000000 none).run raceCodec recordProvider patientTest patientRun = some race ∧
    race.called = [false] ∧
    (∃ first second, race.pcs false = .done (some first) ∧ race.pcs true = .done (some second) ∧
      SameOutcome (some first) (some second)) := by
  obtain ⟨race, ran⟩ :=
    Option.isSome_iff_exists.mp (show ((Race.start 1000000000 none).run raceCodec
    recordProvider patientTest patientRun).isSome = true by decide +kernel)
  have facts : ((Race.start 1000000000 none).run raceCodec recordProvider patientTest
    patientRun).map
      (fun race => (race.called, (race.pcs false).returned, (race.pcs true).returned)) =
      some ([false], true, true) := by decide +kernel
  rw [ran] at facts
  simp only [Option.map_some, Option.some.injEq, Prod.mk.injEq] at facts
  obtain ⟨called, one, two⟩ := facts
  obtain ⟨first, one⟩ := Pc.returned_eq_true one
  obtain ⟨second, two⟩ := Pc.returned_eq_true two
  obtain ⟨-, -, same, -⟩ := Race.refreshed_once raceCodec_faithful raceCodec_unmarked
    (Race.Reachable.start.run patientTest_sound ran)
  exact ⟨race, ran, called, first, second, one, two, same _ _ _ _ one two⟩

end Handle

end ModAuthOpenidc
