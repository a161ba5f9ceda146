import ModAuthOpenidc.Handle.RefreshCallers

/-!
# Whether a cached refresh result lasts

A caller that reads the entry of a refresh token and finds no result goes on to claim the lock, to
lock the token out or to return a failure. If another caller stores its result in the meantime, the
result is overwritten or ignored. If this never happens, a stored result lasts until it expires, and
every caller that returns while it lasts returns tokens.
-/

namespace ModAuthOpenidc

namespace Handle

open Proto

/-- No encoded object is one of the two marks. -/
def Unmarked (codec : Session.Codec) : Prop :=
  ∀ object text, codec.jsonEncode object = some text →
    text ≠ refreshLockValue ∧ text ≠ refreshFailedLockValue

/-- The caller has found no result and will act accordingly. -/
def Pc.resigned : Pc → Bool
  | claim => true
  | refuse => true
  | giveUp => true
  | _ => false

/-- The caller is about to write a mark into the entry. -/
def Pc.marks : Pc → Bool
  | claim => true
  | giveUp => true
  | _ => false

namespace Race

variable {ι : Type}

/-- A caller stores its result only while no other caller acts on an earlier look at the entry. -/
def Undisturbed (race : Race ι) : RaceEvent ι → Prop
  | .tick _ => True
  | .act i _ => ∀ response, race.pcs i = .store response → ∀ j, j ≠ i →
      (race.pcs j).resigned = false

/-- The result that was stored last has not expired. -/
def Lasting (race : Race ι) : Prop :=
  ∃ text expires, race.stored = some (text, expires) ∧ race.shared.clock < expires

/-- While a stored result has not expired, it is in the entry and nobody acts as if it were not. -/
def Respected (codec : Session.Codec) (race : Race ι) : Prop :=
  ∀ text expires, race.stored = some (text, expires) → race.shared.clock < expires →
    race.shared.entry = some (text, expires) ∧ (∃ object, codec.jsonEncode object = some text) ∧
      ∀ i, (race.pcs i).resigned = false

end Race

section Reading

variable {codec : Session.Codec} {text : String}

/-- An encoded object that is read is used. -/
theorem afterRead_encoded (faithful : codec.Faithful) (unmarked : Unmarked codec)
    (encoded : ∃ object, codec.jsonEncode object = some text) (retries : Nat) :
    ∃ tokens, Pc.afterRead codec retries (some text) = .reuse tokens := by
  obtain ⟨object, encoded⟩ := encoded
  obtain ⟨unlocked, unfailed⟩ := unmarked object text encoded
  simp only [Pc.afterRead, unlocked, unfailed, if_false, refreshTokenCacheParse,
    faithful.decodes object text encoded, Option.map_some]
  exact ⟨_, rfl⟩

/-- So is one that is found after a failure. -/
theorem recoverTokens_encoded (faithful : codec.Faithful) (unmarked : Unmarked codec)
    (encoded : ∃ object, codec.jsonEncode object = some text) (answer : Option Object) :
    ∃ tokens, recoverTokens codec { tokenEndpoint := answer, recovered := some text } =
      some tokens := by
  obtain ⟨object, encoded⟩ := encoded
  obtain ⟨unlocked, unfailed⟩ := unmarked object text encoded
  simp only [recoverTokens, unlocked, unfailed, or_self, if_false, refreshTokenCacheParse,
    faithful.decodes object text encoded, Option.map_some]
  exact ⟨_, rfl⟩

end Reading

namespace Race

variable {ι : Type} {codec : Session.Codec} {provider : Provider} {race after : Race ι}

/-- What the step of a caller that does not store a result does while another result lasts: the
entry stays, and the caller neither resigns nor returns a failure. -/
theorem Respected.next (respected : race.Respected codec) (faithful : codec.Faithful)
    (unmarked : Unmarked codec) (lasting : race.Lasting) {i : ι} {answer : Option Object} {pc : Pc}
    {shared : Shared ι} (moved :
    (race.pcs i).next codec provider i answer race.shared = some (pc, shared))
    (silent : ∀ response, race.pcs i ≠ .store response) :
    shared.entry = race.shared.entry ∧ pc.resigned = false ∧ pc ≠ .done none := by
  obtain ⟨text, expires, stored, early⟩ := lasting
  obtain ⟨entry, encoded, nobody⟩ := respected text expires stored early
  have value : race.shared.value = some text := by
    rw [Shared.value, entry]
    simp [ExpiringMap.live, early]
  have own := nobody i
  cases place : race.pcs i with
  | start =>
      simp only [place, Pc.next] at moved
      split at moved
      · cases moved
        exact ⟨rfl, rfl, by simp⟩
      · cases moved
  | read retries =>
      obtain ⟨tokens, used⟩ := afterRead_encoded faithful unmarked encoded retries
      simp only [place, Pc.next, value, used] at moved
      cases moved
      exact ⟨rfl, rfl, by simp⟩
  | backOff retries =>
      simp only [place, Pc.next] at moved
      cases moved
      exact ⟨rfl, rfl, by simp⟩
  | asleep retries wake =>
      simp only [place, Pc.next] at moved
      split at moved
      · cases moved
        exact ⟨rfl, rfl, by simp⟩
      · cases moved
  | claim =>
      rw [place] at own
      cases own
  | claimed =>
      simp only [place, Pc.next] at moved
      cases moved
      exact ⟨rfl, rfl, by simp⟩
  | refuse =>
      rw [place] at own
      cases own
  | reuse tokens =>
      simp only [place, Pc.next] at moved
      cases moved
      exact ⟨rfl, rfl, by simp⟩
  | call =>
      simp only [place, Pc.next] at moved
      cases moved
      exact ⟨rfl, rfl, by simp⟩
  | waiting =>
      simp only [place, Pc.next] at moved
      split at moved
      · cases moved
        exact ⟨rfl, rfl, by simp⟩
      · cases moved
        exact ⟨rfl, rfl, by simp⟩
  | store response => exact absurd place (silent response)
  | recover answer =>
      obtain ⟨tokens, recovered⟩ := recoverTokens_encoded faithful unmarked encoded answer
      simp only [place, Pc.next, value, recovered] at moved
      cases moved
      exact ⟨rfl, rfl, by simp⟩
  | giveUp =>
      rw [place] at own
      cases own
  | done outcome =>
      simp only [place, Pc.next] at moved
      cases moved

variable [DecidableEq ι]

/-- An event that meets the condition keeps a stored result respected. -/
theorem Respected.step (respected : race.Respected codec) (faithful : codec.Faithful)
    (unmarked : Unmarked codec) {event : RaceEvent ι} (met : race.Undisturbed event)
    (taken : race.step codec provider event = some after) : after.Respected codec := by
  intro text expires stored early
  cases event with
  | tick elapsed =>
      cases taken
      exact respected text expires stored (lt_of_le_of_lt (by simp) early)
  | act i answer =>
      obtain ⟨pc, shared, moved, shared_eq, pcs_eq, -, stored_eq⟩ := step_act taken
      rw [shared_eq] at early ⊢
      rw [stored_eq] at stored
      by_cases storing : ∃ response, race.pcs i = .store response
      · obtain ⟨response, place⟩ := storing
        rw [place] at moved stored
        cases moved
        refine ⟨stored, ?_, fun j => ?_⟩
        · obtain ⟨encoded, written, pair⟩ := Option.map_eq_some_iff.mp stored
          cases pair
          exact ⟨_, written⟩
        · rw [pcs_eq, Function.update_apply]
          split
          · rfl
          · next other => exact met response place j other
      · have silent : ∀ response, race.pcs i ≠ .store response :=
          fun response place => storing ⟨response, place⟩
        have same : race.stored = some (text, expires) := by
          rw [← stored]
          split
          · next response place => exact absurd place (silent response)
          · rfl
        rw [Pc.next_clock moved] at early
        obtain ⟨entry, encoded, nobody⟩ := respected text expires same early
        obtain ⟨kept, calm, -⟩ :=
          respected.next faithful unmarked ⟨text, expires, same, early⟩ moved silent
        refine ⟨kept.trans entry, encoded, fun j => ?_⟩
        rw [pcs_eq, Function.update_apply]
        split
        · exact calm
        · exact nobody j

theorem respected_of_reachable (faithful : codec.Faithful) (unmarked : Unmarked codec) {clock : Int}
    {entry : Option (String × Int)}
    (reached : Reachable codec provider Undisturbed (start clock entry) race) :
    race.Respected codec := by
  induction reached with
  | start =>
      intro text expires stored
      cases stored
  | step reached event met taken ih => exact ih.step faithful unmarked met taken

/-- In every run in which no result is stored while another caller acts on an earlier look, a stored
result stays in the entry until it expires, no mark is written over it, and no caller that returns
in that time returns a failure. -/
theorem result_lasts (faithful : codec.Faithful) (unmarked : Unmarked codec) {clock : Int}
    {entry : Option (String × Int)}
    (reached : Reachable codec provider Undisturbed (start clock entry) race)
    (lasting : race.Lasting)
    {event : RaceEvent ι} (taken : race.step codec provider event = some after) :
    race.shared.entry = race.stored ∧
      (∀ i answer, event = .act i answer → (race.pcs i).marks = false) ∧
      ∀ i, after.pcs i = .done none → race.pcs i = .done none := by
  have respected := respected_of_reachable faithful unmarked reached
  obtain ⟨text, expires, stored, early⟩ := lasting
  obtain ⟨there, -, nobody⟩ := respected text expires stored early
  refine ⟨there.trans stored.symm, fun i answer _ => ?_, fun i failed => ?_⟩
  · have calm := nobody i
    cases place : race.pcs i <;> rw [place] at calm <;> first | rfl | cases calm
  · cases event with
    | tick elapsed =>
        cases taken
        exact failed
    | act j answer =>
        obtain ⟨pc, shared, moved, -, pcs_eq, -, -⟩ := step_act taken
        rw [pcs_eq, Function.update_apply] at failed
        split at failed
        · exfalso
          by_cases storing : ∃ response, race.pcs j = .store response
          · obtain ⟨response, place⟩ := storing
            rw [place] at moved
            cases moved
            cases failed
          · exact (respected.next faithful unmarked ⟨text, expires, stored, early⟩ moved
              fun response place => storing ⟨response, place⟩).2.2 failed
        · exact failed

end Race

/-! ## A result that is overwritten -/

/-- The texts of a table are not marks. -/
theorem unmarked_ofTable {table : List (Object × String)}
    (texts : ∀ row ∈ table, row.2 ≠ refreshLockValue ∧ row.2 ≠ refreshFailedLockValue) :
    Unmarked (Session.Codec.ofTable table) := by
  intro object text encoded
  obtain ⟨row, found, rfl⟩ := Option.map_eq_some_iff.mp encoded
  exact texts row (List.mem_of_find?_eq_some found)

/-- The codec of the example. -/
def raceCodec : Session.Codec := recordSettings.codec

theorem raceCodec_faithful : raceCodec.Faithful :=
  Session.Codec.faithful_ofTable (List.nodup_singleton recordText)

theorem raceCodec_unmarked : Unmarked raceCodec := unmarked_ofTable (by decide +kernel)

/-- One of two callers steps, and gets tokens if it asks for them. -/
def raceAct (i : Bool) : RaceEvent Bool := .act i recordDated.tokenEndpoint

/-- A caller stores a result only if the other one does not act on an earlier look. -/
def raceTest (race : Race Bool) : RaceEvent Bool → Bool
  | .tick _ => true
  | .act i _ => !(race.pcs !i).resigned

theorem raceTest_sound (race : Race Bool) (event : RaceEvent Bool)
    (met : raceTest race event = true) :
    race.Undisturbed event := by
  cases event with
  | tick elapsed => trivial
  | act i answer =>
      intro response _ j other
      have opposite : j = !i := by
        cases i <;> cases j <;> first | rfl | exact absurd rfl other
      simpa [raceTest, opposite] using met

/-- A caller that is alone stores its result, and nothing happens to it when the next one comes. -/
theorem result_lasts_alone : ∃ race after : Race Bool,
    (Race.start 1000000000 none).run raceCodec recordProvider raceTest
      (List.replicate 7 (raceAct false)) = some race ∧
    race.Lasting ∧ race.step raceCodec recordProvider (raceAct true) = some after ∧
    race.shared.entry = race.stored ∧
    (∀ i answer, raceAct true = .act i answer → (race.pcs i).marks = false) ∧
    ∀ i, after.pcs i = .done none → race.pcs i = .done none := by
  obtain ⟨race, ran⟩ :=
    Option.isSome_iff_exists.mp (show ((Race.start 1000000000 none).run raceCodec
    recordProvider raceTest (List.replicate 7 (raceAct false))).isSome = true by decide +kernel)
  have facts : ((Race.start 1000000000 none).run raceCodec recordProvider raceTest
      (List.replicate 7 (raceAct false))).map (fun race => (race.stored, race.shared.clock,
        (race.step raceCodec recordProvider (raceAct true)).isSome)) =
      some (some (recordText, 1030000000), 1000000000, true) := by decide +kernel
  rw [ran] at facts
  simp only [Option.map_some, Option.some.injEq, Prod.mk.injEq] at facts
  obtain ⟨stored, clock, enabled⟩ := facts
  obtain ⟨after, taken⟩ := Option.isSome_iff_exists.mp enabled
  have lasting : race.Lasting := ⟨recordText, 1030000000, stored, by rw [clock]; decide⟩
  exact ⟨race, after, ran, lasting, taken, Race.result_lasts raceCodec_faithful raceCodec_unmarked
    (Race.Reachable.start.run raceTest_sound ran) lasting taken⟩

/-- One caller waits six seconds for the token endpoint. The other one looks at the entry when the
lock has expired, and claims the lock after the result was stored. -/
def raceOverwriting : List (RaceEvent Bool) :=
  List.replicate 6 (raceAct false) ++ [.tick 6000000, raceAct true, raceAct true, raceAct false]

/-- The result is lost with the next step, half a minute before it expires. -/
theorem result_overwritten : ∃ race after : Race Bool,
    Race.Reachable raceCodec recordProvider (fun _ _ => True) (Race.start 994000000 none) race ∧
    race.shared.entry = race.stored ∧ race.stored = some (recordText, 1030000000) ∧ race.Lasting ∧
    race.step raceCodec recordProvider (raceAct true) = some after ∧
    (race.pcs true).marks = true ∧
    after.shared.entry = some (refreshLockValue, 1005000000) ∧ after.Lasting := by
  obtain ⟨race, ran⟩ := Option.isSome_iff_exists.mp (show ((Race.start 994000000 none).run raceCodec
    recordProvider (fun _ _ => true) raceOverwriting).isSome = true by decide +kernel)
  have facts : ((Race.start 994000000 none).run raceCodec recordProvider (fun _ _ => true)
      raceOverwriting).map (fun race => (race.shared.entry, race.stored, race.shared.clock,
        (race.pcs true).marks)) =
      some (some (recordText, 1030000000), some (recordText, 1030000000), 1000000000, true) := by
    decide +kernel
  have later : (((Race.start 994000000 none).run raceCodec recordProvider (fun _ _ => true)
      raceOverwriting).bind fun race => (race.step raceCodec recordProvider (raceAct true)).map
        fun after => (after.shared.entry, after.stored, after.shared.clock)) =
      some (some (refreshLockValue, 1005000000), some (recordText, 1030000000), 1000000000) := by
    decide +kernel
  rw [ran] at facts later
  simp only [Option.map_some, Option.some.injEq, Prod.mk.injEq] at facts
  obtain ⟨entry, stored, clock, marks⟩ := facts
  obtain ⟨after, taken, values⟩ := Option.map_eq_some_iff.mp later
  simp only [Prod.mk.injEq] at values
  obtain ⟨entry', stored', clock'⟩ := values
  exact ⟨race, after, Race.Reachable.start.run (fun _ _ _ => trivial) ran,
    entry.trans stored.symm, stored,
    ⟨recordText, 1030000000, stored, by rw [clock]; decide⟩, taken, marks, entry',
    ⟨recordText, 1030000000, stored', by rw [clock']; decide⟩⟩

end Handle

end ModAuthOpenidc
