import ModAuthOpenidc.Threads

/-!
# Histories of programs

A program may be held to a policy that looks back on what it has performed: which operations it may
perform next, and what it may come to in the end. A program that follows its policy does so alone,
and beside any others with which it shares a state. Whatever all of them keep up together holds at
all times.
-/

namespace Threads

/-- The operations that were performed, with the answers they got. -/
abbrev History {Op : Type} (Answer : Op → Type) := List (Sigma Answer)

namespace Program

variable {Op : Type} {Answer : Op → Type} {α β : Type}

/-- After a history, a program performs only what the policy lets it, and comes only to ends that
are right after all that was performed. -/
inductive Follows (policy : History Answer → Op → Prop) (ends : History Answer → α → Prop) :
    History Answer → Program Op Answer α → Prop
  | done {events : History Answer} {result : α} (final : ends events result) :
      Follows policy ends events (.done result)
  | perform {events : History Answer} {op : Op} {next : Answer op → Program Op Answer α}
      (allowed : policy events op)
      (later : ∀ answer, Follows policy ends (events ++ [⟨op, answer⟩]) (next answer)) :
      Follows policy ends events (.perform op next)

variable {policy : History Answer → Op → Prop} {events : History Answer}

theorem Follows.pure {ends : History Answer → α → Prop} {result : α} (final : ends events result) :
    Follows policy ends events (pure result : Program Op Answer α) := .done final

theorem Follows.call {ends : History Answer → β → Prop} {op : Op}
    {rest : Answer op → Program Op Answer β} (allowed : policy events op)
    (later : ∀ answer, Follows policy ends (events ++ [⟨op, answer⟩]) (rest answer)) :
    Follows policy ends events (Program.call op >>= rest) := .perform allowed later

theorem Follows.last {op : Op} {ends : History Answer → Answer op → Prop}
    (allowed : policy events op) (later : ∀ answer, ends (events ++ [⟨op, answer⟩]) answer) :
    Follows policy ends events (Program.call op) :=
  .perform allowed fun answer => .done (later answer)

/-- What one program comes to is where the next one starts. -/
theorem Follows.bind {middle : History Answer → α → Prop} {ends : History Answer → β → Prop}
    {program : Program Op Answer α} {rest : α → Program Op Answer β}
    (first : Follows policy middle events program)
    (second : ∀ events' value, events <+: events' → middle events' value →
      Follows policy ends events' (rest value)) :
    Follows policy ends events (program >>= rest) := by
  induction first with
  | done final => exact second _ _ List.prefix_rfl final
  | perform allowed _ ih =>
      refine .perform allowed fun answer => ih answer fun events' value before final => ?_
      exact second events' value ((List.prefix_append _ _).trans before) final

theorem Follows.mono {strong weak : History Answer → α → Prop} {program : Program Op Answer α}
    (follows : Follows policy strong events program)
    (weaker : ∀ events' result, events <+: events' → strong events' result → weak events' result) :
    Follows policy weak events program := by
  induction follows with
  | done final => exact .done (weaker _ _ List.prefix_rfl final)
  | perform allowed _ ih =>
      refine .perform allowed fun answer => ih answer fun events' result before final => ?_
      exact weaker events' result ((List.prefix_append _ _).trans before) final

/-- A policy that lets a program do more. -/
theorem Follows.relax {policy' : History Answer → Op → Prop} {ends : History Answer → α → Prop}
    {program : Program Op Answer α} (follows : Follows policy ends events program)
    (more : ∀ events op, policy events op → policy' events op) :
    Follows policy' ends events program := by
  induction follows with
  | done final => exact .done final
  | perform allowed _ ih => exact .perform (more _ _ allowed) ih

theorem Follows.ite {ends : History Answer → α → Prop} {condition : Prop} [Decidable condition]
    {program other : Program Op Answer α}
    (first : condition → Follows policy ends events program)
    (second : ¬condition → Follows policy ends events other) :
    Follows policy ends events (if condition then program else other) := by
  split
  · next holds => exact first holds
  · next fails => exact second fails

/-- A program that runs alone performs nothing that the policy does not let it. -/
theorem Follows.run {ends : History Answer → α → Prop} {program : Program Op Answer α}
    {later : History Answer} {result : α} (follows : Follows policy ends events program)
    (run : Run program later result) :
    (∀ before op answer after, later = before ++ ⟨op, answer⟩ :: after →
      policy (events ++ before) op) ∧ ends (events ++ later) result := by
  induction run generalizing events with
  | done result =>
      cases follows with
      | done final =>
          refine ⟨fun before op answer after same => ?_, by rwa [List.append_nil]⟩
          cases before <;> cases same
  | @perform op next later result answer _ ih =>
      cases follows with
      | perform allowed rest =>
          obtain ⟨policies, final⟩ := ih (rest answer)
          rw [List.append_assoc] at final
          refine ⟨fun before op' answer' after same => ?_, final⟩
          cases before with
          | nil =>
              cases same
              rwa [List.append_nil]
          | cons event before =>
              cases same
              have allowed' := policies before op' answer' after rfl
              rwa [List.append_assoc] at allowed'

/-- What a program is about to perform is let by its policy. -/
theorem Follows.allowed {ends : History Answer → α → Prop} {program : Program Op Answer α}
    (follows : program.Follows policy ends events) {op : Op} (turn : program.pending = some op) :
    policy events op := by
  cases follows with
  | done _ => cases turn
  | perform allowed _ =>
      cases turn
      exact allowed

/-- A program that has come to its end has come to one that is right. -/
theorem Follows.final {ends : History Answer → α → Prop} {result : α}
    (follows : Follows policy ends events (.done result : Program Op Answer α)) :
    ends events result := by
  cases follows with
  | done final => exact final

end Program

/-! ## Beside others -/

/-- A state that programs share, and what each of them has performed. -/
structure Recorded (ι σ : Type) {Op : Type} (Answer : Op → Type) where
  state : σ
  events : ι → History Answer

section Recorded

variable {ι σ Op α : Type} {Answer : Op → Type}

/-- The effect of an operation, which is written down. -/
inductive Recorded.Effect [DecidableEq ι] (effect : (op : Op) → σ → Answer op → σ → Prop) (i : ι) :
    (op : Op) → Recorded ι σ Answer → Answer op → Recorded ι σ Answer → Prop
  | perform {op : Op} {before : Recorded ι σ Answer} {answer : Answer op} {after : σ}
      (works : effect op before.state answer after) :
      Recorded.Effect effect i op before answer
        ⟨after, Function.update before.events i (before.events i ++ [⟨op, answer⟩])⟩

/-- Programs with nothing performed yet. -/
def begin (state : σ) (programs : ι → Program Op Answer α) :
    System ι (Recorded ι σ Answer) Op Answer α :=
  ⟨⟨state, fun _ => []⟩, programs⟩

/-- What programs may come to, in any order of their operations. -/
abbrev Comes [DecidableEq ι] (effect : (op : Op) → σ → Answer op → σ → Prop) (state : σ)
    (programs : ι → Program Op Answer α) : System ι (Recorded ι σ Answer) Op Answer α → Prop :=
  Steps (Recorded.Effect effect) (begin state programs)

variable [DecidableEq ι] {effect : (op : Op) → σ → Answer op → σ → Prop}
  {policy : ι → History Answer → Op → Prop} {ends : ι → History Answer → α → Prop}
  {invariant : Recorded ι σ Answer → Prop} {initial : σ} {programs : ι → Program Op Answer α}
  {system : System ι (Recorded ι σ Answer) Op Answer α}

/-- Each program follows its policy, and all of them keep up the invariant. -/
theorem comes_holds (starts : invariant ⟨initial, fun _ => []⟩)
    (keeps : ∀ i op before answer after, invariant before → policy i (before.events i) op →
      Recorded.Effect effect i op before answer after → invariant after)
    (follows : ∀ i, (programs i).Follows (policy i) (ends i) [])
    (comes : Comes effect initial programs system) :
    invariant system.state ∧
      ∀ i, (system.threads i).Follows (policy i) (ends i) (system.state.events i) := by
  induction comes with
  | refl => exact ⟨starts, follows⟩
  | tail _ step ih =>
      obtain ⟨holds, all⟩ := ih
      cases step with
      | @perform i op next answer after turn works =>
          have own := all i
          rw [turn] at own
          cases own with
          | perform allowed later =>
              refine ⟨keeps i op _ answer after holds allowed works, fun j => ?_⟩
              cases works
              dsimp only
              by_cases same : j = i
              · subst same
                rw [Function.update_self, Function.update_self]
                exact later answer
              · rw [Function.update_of_ne same, Function.update_of_ne same]
                exact all j

omit [DecidableEq ι] in
/-- A step of the only program there is. -/
theorem alone {effect : (op : Op) → σ → Answer op → σ → Prop} {before after : σ}
    {events : Unit → History Answer} {op : Op} {next : Answer op → Program Op Answer α}
    {answer : Answer op} {later : System Unit (Recorded Unit σ Answer) Op Answer α}
    (works : effect op before answer after)
    (steps : Steps (Recorded.Effect effect)
      ⟨⟨after, Function.update events () (events () ++ [⟨op, answer⟩])⟩, fun _ =>
        next answer⟩ later) :
    Steps (Recorded.Effect effect) ⟨⟨before, events⟩, fun _ => .perform op next⟩ later :=
  solo (.perform works) steps

end Recorded

end Threads
