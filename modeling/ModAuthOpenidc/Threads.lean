import Mathlib.Logic.Function.Basic
import Mathlib.Logic.Relation

/-!
# Programs of threads with shared memory

A program performs operations one after the other and goes on with their answers. Threads run such
programs on a common state, and any thread may be the next. To show that no operation ever goes
wrong, one keeps account of what every thread has in its hands: an operation is allowed for a thread
by its own account only, and a step of one thread leaves the accounts of the others true.
-/

namespace Threads

/-- A program that performs operations and goes on with their answers. -/
inductive Program (Op : Type) (Answer : Op → Type) (α : Type)
  /-- The program has come to its end. -/
  | done (result : α)
  /-- An operation is performed next. -/
  | perform (op : Op) (next : Answer op → Program Op Answer α)

namespace Program

variable {Op : Type} {Answer : Op → Type} {α β : Type}

/-- One program after the other. -/
def bind : Program Op Answer α → (α → Program Op Answer β) → Program Op Answer β
  | done result, rest => rest result
  | perform op next, rest => perform op fun answer => (next answer).bind rest

instance : Monad (Program Op Answer) where
  pure := done
  bind := bind

theorem bind_assoc {γ : Type} (program : Program Op Answer α) (rest : α → Program Op Answer β)
    (last : β → Program Op Answer γ) :
    (program >>= rest) >>= last = program >>= fun value => rest value >>= last := by
  induction program with
  | done value => rfl
  | perform op next ih => exact congrArg (perform op) (funext ih)

/-- A single operation. -/
def call (op : Op) : Program Op Answer (Answer op) := perform op done

/-- The operation that is performed next. -/
def pending : Program Op Answer α → Option Op
  | done _ => none
  | perform op _ => some op

/-- What a program has performed until its end, with the answers it got. -/
inductive Run : Program Op Answer α → List (Sigma Answer) → α → Prop
  | done (result : α) : Run (.done result) [] result
  | perform {op : Op} {next : Answer op → Program Op Answer α} {events : List (Sigma Answer)}
      {result : α} (answer : Answer op) :
      Run (next answer) events result → Run (.perform op next) (⟨op, answer⟩ :: events) result

/-- A run of a sequence is a run of each of its parts. -/
theorem run_bind {program : Program Op Answer α} {rest : α → Program Op Answer β}
    {events : List (Sigma Answer)} {result : β} :
    Run (program >>= rest) events result ↔ ∃ first middle second,
      events = first ++ second ∧ Run program first middle ∧ Run (rest middle) second result := by
  constructor
  · intro run
    induction program generalizing events with
    | done middle => exact ⟨[], middle, events, rfl, .done middle, run⟩
    | perform op next ih =>
        cases run with
        | perform answer later =>
            obtain ⟨first, middle, second, rfl, before, after⟩ := ih answer later
            exact ⟨_, middle, second, rfl, .perform answer before, after⟩
  · rintro ⟨first, middle, second, rfl, before, after⟩
    induction before with
    | done result => exact after
    | perform answer _ ih => exact .perform answer (ih after)

theorem run_pure {value result : α} {events : List (Sigma Answer)}
    (run : Run (pure value : Program Op Answer α) events result) : events = [] ∧ result =
      value := by
  cases run
  exact ⟨rfl, rfl⟩

theorem run_call {op : Op} {result : Answer op} {events : List (Sigma Answer)}
    (run : Run (call op) events result) : events = [⟨op, result⟩] := by
  cases run with
  | perform answer later =>
      cases later
      rfl

/-- Nothing is observed of what a program performs. -/
def Quiet {γ : Type} (observe : Sigma Answer → Option γ) (program : Program Op Answer α) : Prop :=
  ∀ events result, program.Run events result → events.filterMap observe = []

section Quiet

variable {γ : Type} {observe : Sigma Answer → Option γ}

theorem Quiet.pure (value : α) : Quiet observe (pure value : Program Op Answer α) := by
  intro events result run
  obtain ⟨rfl, -⟩ := run_pure run
  rfl

theorem Quiet.call {op : Op} (other : ∀ answer, observe ⟨op, answer⟩ = none) :
    Quiet observe (call op : Program Op Answer (Answer op)) := by
  intro events result run
  obtain rfl := run_call run
  rw [List.filterMap_cons_none (other result), List.filterMap_nil]

theorem Quiet.bind {program : Program Op Answer α} {rest : α → Program Op Answer β}
    (first : Quiet observe program) (second : ∀ value, Quiet observe (rest value)) :
    Quiet observe (program >>= rest) := by
  intro events result run
  obtain ⟨before, value, after, rfl, run, run'⟩ := run_bind.mp run
  rw [List.filterMap_append]
  exact List.append_eq_nil_iff.mpr ⟨first before value run, second value after result run'⟩

theorem Quiet.ite {condition : Prop} [Decidable condition] {program other : Program Op Answer α}
    (first : Quiet observe program) (second : Quiet observe other) :
    Quiet observe (if condition then program else other) := by
  split
  · exact first
  · exact second

end Quiet

end Program

/-! ## Interleaving -/

/-- Threads with their programs, and the state they share. -/
structure System (ι σ Op : Type) (Answer : Op → Type) (α : Type) where
  state : σ
  threads : ι → Program Op Answer α

section Interleaving

variable {ι σ Op α κ : Type} {Answer : Op → Type}

/-- Some thread performs its next operation. The relation says which answers the operation may get
in a state, and which states it may lead to. -/
inductive Step [DecidableEq ι] (effect : ι → (op : Op) → σ → Answer op → σ → Prop) :
    System ι σ Op Answer α → System ι σ Op Answer α → Prop
  | perform {system : System ι σ Op Answer α} (i : ι) {op : Op}
      {next : Answer op → Program Op Answer α} {answer : Answer op} {after : σ}
      (turn : system.threads i = .perform op next) (works : effect i op system.state answer after) :
      Step effect system ⟨after, Function.update system.threads i (next answer)⟩

/-- Any number of steps of any threads. -/
abbrev Steps [DecidableEq ι] (effect : ι → (op : Op) → σ → Answer op → σ → Prop) :
    System ι σ Op Answer α → System ι σ Op Answer α → Prop :=
  Relation.ReflTransGen (Step effect)

/-- A step of the only thread there is. -/
theorem solo {effect : Unit → (op : Op) → σ → Answer op → σ → Prop} {before after : σ} {op : Op}
    {next : Answer op → Program Op Answer α} {answer : Answer op}
    {later : System Unit σ Op Answer α} (works : effect () op before answer after)
    (steps : Steps effect ⟨after, fun _ => next answer⟩ later) :
    Steps effect ⟨before, fun _ => .perform op next⟩ later := by
  refine .head ?_ steps
  have step := @Step.perform Unit σ Op α Answer _ effect
    ⟨before, fun _ => .perform op next⟩ () op next answer after rfl works
  rwa [show Function.update (fun _ : Unit => Program.perform op next) () (next answer) =
    fun _ => next answer from funext fun _ => Function.update_self ..] at step

/-! ## Accounts -/

/-- Accounts of what threads have in their hands. -/
structure Discipline (ι σ κ Op : Type) (Answer : Op → Type) where
  /-- The operations that a thread may perform by its account. -/
  Allowed : κ → Op → Prop
  /-- How an answer changes the account of a thread. Where no account is related, the thread never
  gets the answer. -/
  Becomes : κ → (op : Op) → Answer op → κ → Prop
  /-- The accounts are true. -/
  Agrees : σ → (ι → κ) → Prop

/-- Whatever a thread performs by its account, all accounts are true again. -/
def Discipline.Sound [DecidableEq ι] (discipline : Discipline ι σ κ Op Answer)
    (effect : ι → (op : Op) → σ → Answer op → σ → Prop) : Prop :=
  ∀ i op before answer after accounts, discipline.Agrees before accounts →
    discipline.Allowed (accounts i) op → effect i op before answer after →
      ∃ account, discipline.Becomes (accounts i) op answer account ∧
        discipline.Agrees after (Function.update accounts i account)

/-- By its account, a program performs allowed operations only, and at its end the account and the
result are as asked for. -/
inductive Discipline.Keeps (discipline : Discipline ι σ κ Op Answer) (ends : κ → α → Prop) :
    κ → Program Op Answer α → Prop
  | done {account : κ} {result : α} (final : ends account result) :
      Keeps discipline ends account (.done result)
  | perform {account : κ} {op : Op} {next : Answer op → Program Op Answer α}
      (allowed : discipline.Allowed account op)
      (later : ∀ answer account', discipline.Becomes account op answer account' →
        Keeps discipline ends account' (next answer)) :
      Keeps discipline ends account (.perform op next)

namespace Discipline

variable {discipline : Discipline ι σ κ Op Answer} {account : κ} {β : Type}

theorem Keeps.pure {ends : κ → α → Prop} {result : α} (final : ends account result) :
    discipline.Keeps ends account (pure result) := .done final

/-- The account at the end of one program is that at the start of the next. -/
theorem Keeps.bind {m : κ → α → Prop} {ends : κ → β → Prop} {program : Program Op Answer α}
    {rest : α → Program Op Answer β} (first : discipline.Keeps m account program)
    (second : ∀ account' result, m account' result →
      discipline.Keeps ends account' (rest result)) :
    discipline.Keeps ends account (program >>= rest) := by
  induction first with
  | done final => exact second _ _ final
  | perform allowed _ ih => exact .perform allowed ih

/-- The rule for one operation and what is behind it. -/
theorem Keeps.call {ends : κ → β → Prop} {op : Op} {rest : Answer op → Program Op Answer β}
    (allowed : discipline.Allowed account op)
    (later : ∀ answer account', discipline.Becomes account op answer account' →
      discipline.Keeps ends account' (rest answer)) :
    discipline.Keeps ends account (Program.call op >>= rest) := .perform allowed later

theorem Keeps.last {op : Op} {ends : κ → Answer op → Prop}
    (allowed : discipline.Allowed account op)
    (later : ∀ answer account', discipline.Becomes account op answer account' →
      ends account' answer) :
    discipline.Keeps ends account (Program.call op) :=
  .perform allowed fun answer account' becomes => .done (later answer account' becomes)

theorem Keeps.mono {strong weak : κ → α → Prop} {program : Program Op Answer α}
    (keeps : discipline.Keeps strong account program)
    (weaker : ∀ account result, strong account result → weak account result) :
    discipline.Keeps weak account program := by
  induction keeps with
  | done final => exact .done (weaker _ _ final)
  | perform allowed _ ih => exact .perform allowed ih

end Discipline

/-- Accounts that are true of a system and under which all programs keep to what is allowed. -/
structure Discipline.Holds (discipline : Discipline ι σ κ Op Answer) (ends : κ → α → Prop)
    (system : System ι σ Op Answer α) (accounts : ι → κ) : Prop where
  agrees : discipline.Agrees system.state accounts
  keeps : ∀ i, discipline.Keeps ends (accounts i) (system.threads i)

namespace Discipline

variable {discipline : Discipline ι σ κ Op Answer} {ends : κ → α → Prop}
  {effect : ι → (op : Op) → σ → Answer op → σ → Prop} {system : System ι σ Op Answer α}

/-- A step of one thread leaves the accounts of the others as they are. -/
theorem Holds.step [DecidableEq ι] (sound : discipline.Sound effect) {after :
    System ι σ Op Answer α}
    {accounts : ι → κ} (holds : discipline.Holds ends system accounts)
    (step : Step effect system after) : ∃ accounts', discipline.Holds ends after accounts' := by
  cases step with
  | @perform i op next answer state turn works =>
      have own := holds.keeps i
      rw [turn] at own
      cases own with
      | perform allowed later =>
          obtain ⟨account, becomes, agrees⟩ :=
            sound i op system.state answer state accounts holds.agrees allowed works
          refine ⟨Function.update accounts i account, agrees, fun j => ?_⟩
          by_cases same : j = i
          · subst same
            dsimp only
            rw [Function.update_self, Function.update_self]
            exact later answer account becomes
          · dsimp only
            rw [Function.update_of_ne same, Function.update_of_ne same]
            exact holds.keeps j

theorem Holds.steps [DecidableEq ι] (sound : discipline.Sound effect) {after :
    System ι σ Op Answer α}
    {accounts : ι → κ} (holds : discipline.Holds ends system accounts)
    (steps : Steps effect system after) : ∃ accounts', discipline.Holds ends after accounts' := by
  induction steps with
  | refl => exact ⟨accounts, holds⟩
  | tail _ step ih =>
      obtain ⟨accounts', kept⟩ := ih
      exact kept.step sound step

/-- What a thread is about to perform is allowed by its account. -/
theorem Holds.allowed {accounts : ι → κ} (holds : discipline.Holds ends system accounts) {i : ι}
    {op : Op} (turn : (system.threads i).pending = some op) :
    discipline.Allowed (accounts i) op := by
  have own := holds.keeps i
  cases program : system.threads i with
  | done result =>
      rw [program] at turn
      cases turn
  | perform op' next =>
      rw [program] at turn own
      cases turn
      cases own with
      | perform allowed _ => exact allowed

/-- A thread that has come to its end has the account that was asked for. -/
theorem Holds.final {accounts : ι → κ} (holds : discipline.Holds ends system accounts) {i : ι}
    {result : α} (finished : system.threads i = .done result) : ends (accounts i) result := by
  have own := holds.keeps i
  rw [finished] at own
  cases own with
  | done final => exact final

end Discipline

end Interleaving

end Threads
