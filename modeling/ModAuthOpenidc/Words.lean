import Mathlib

/-!
# Words and codes

A code writes each letter of an alphabet as a word over another one. If the letters can be told
apart by the beginnings of their words, two texts that begin alike come from letters that begin
alike. A word that goes on as it began is a power of its beginning, and a run of one letter in two
words behind each other lies in one of them unless it crosses from one to the other.
-/

namespace ModAuthOpenidc

namespace Words

variable {α β : Type}

/-! ## Codes -/

/-- Two texts that continue to a common one come from words of which one continues the other. -/
theorem compare {code : α → List β} {Valid : α → Prop}
    (beginnings : ∀ a b s t, Valid a → Valid b → code a ++ s = code b ++ t → a = b)
    {first second : List α} (validFirst : ∀ a ∈ first, Valid a)
    (validSecond : ∀ a ∈ second, Valid a)
    {s t : List β} (same : first.flatMap code ++ s = second.flatMap code ++ t) :
    (∃ rest, second = first ++ rest ∧ s = rest.flatMap code ++ t) ∨
      ∃ rest, first = second ++ rest ∧ rest.flatMap code ++ s = t := by
  induction first generalizing second with
  | nil => exact .inl ⟨second, rfl, same⟩
  | cons a first ih =>
      cases second with
      | nil => exact .inr ⟨a :: first, rfl, same⟩
      | cons b second =>
          rw [List.flatMap_cons, List.flatMap_cons, List.append_assoc, List.append_assoc] at same
          obtain rfl := beginnings a b _ _ (validFirst a List.mem_cons_self)
            (validSecond b List.mem_cons_self) same
          have later := ih (fun c member => validFirst c (List.mem_cons_of_mem a member))
            (fun c member => validSecond c (List.mem_cons_of_mem a member))
            (List.append_cancel_left same)
          rcases later with ⟨rest, rfl, equal⟩ | ⟨rest, rfl, equal⟩
          · exact .inl ⟨rest, rfl, equal⟩
          · exact .inr ⟨rest, rfl, equal⟩

/-! ## Powers -/

/-- A word repeated. -/
def power (n : Nat) (w : List α) : List α := (List.replicate n w).flatten

theorem power_zero (w : List α) : power 0 w = [] := rfl

theorem power_succ (n : Nat) (w : List α) : power (n + 1) w = w ++ power n w := by
  rw [power, List.replicate_succ, List.flatten_cons, power]

theorem power_comm (n : Nat) (w : List α) : power n w ++ w = w ++ power n w := by
  induction n with
  | zero => rw [power_zero, List.nil_append, List.append_nil]
  | succ n ih => rw [power_succ, List.append_assoc, ih]

theorem power_replicate (n k : Nat) (c : α) :
    power n (List.replicate k c) = List.replicate (n * k) c := by
  induction n with
  | zero => rw [power_zero, Nat.zero_mul, List.replicate_zero]
  | succ n ih => rw [power_succ, ih, List.replicate_append_replicate, Nat.succ_mul, Nat.add_comm]

theorem mem_of_mem_power {c : α} {n : Nat} {w : List α} (member : c ∈ power n w) : c ∈ w := by
  obtain ⟨other, repeated, inside⟩ := List.mem_flatten.mp member
  rwa [List.eq_of_mem_replicate repeated] at inside

/-- A repetition that breaks off and is filled up goes on as one more repetition. -/
theorem power_fill {w b rest : List α} (n : Nat) (fill : b ++ rest = w) :
    power n w ++ b ++ rest ++ b = w ++ (power n w ++ b) := by
  calc power n w ++ b ++ rest ++ b = power n w ++ w ++ b := by rw [List.append_assoc _ b, fill]
    _ = w ++ (power n w ++ b) := by rw [power_comm, List.append_assoc]

/-- What begins like itself behind a word is made of this word. -/
theorem period {w q : List α} (nonempty : w ≠ []) (front : q <+: w ++ q) :
    ∃ n g h, w = g ++ h ∧ h ≠ [] ∧ q = power n w ++ g := by
  induction size : q.length using Nat.strong_induction_on generalizing q with
  | _ size ih =>
      rcases List.prefix_or_prefix_of_prefix front (List.prefix_append w q) with short | long
      · obtain ⟨h, rfl⟩ := short
        by_cases whole : h = []
        · subst whole
          rw [List.append_nil] at nonempty front ⊢
          refine ⟨1, [], q, rfl, nonempty, ?_⟩
          rw [power_succ, power_zero, List.append_nil, List.append_nil]
        · exact ⟨0, q, h, rfl, whole, rfl⟩
      · obtain ⟨rest, rfl⟩ := long
        have positive := List.length_pos_of_ne_nil nonempty
        rw [List.length_append] at size
        obtain ⟨n, g, h, cut, other, equal⟩ := ih rest.length (by omega)
          ((List.prefix_append_right_inj w).mp front) rfl
        refine ⟨n + 1, g, h, cut, other, ?_⟩
        rw [power_succ, List.append_assoc, ← equal]

/-- Two words that become the same when one is put in front of a third and the other behind it are
made of two parts in opposite orders. -/
theorem conjugate {w q v : List α} (nonempty : w ≠ []) (same : w ++ q = q ++ v) :
    ∃ n g h, w = g ++ h ∧ h ≠ [] ∧ v = h ++ g ∧ q = power n w ++ g := by
  obtain ⟨n, g, h, cut, other, equal⟩ := period nonempty ⟨v, same.symm⟩
  refine ⟨n, g, h, cut, other, ?_, equal⟩
  have both : power n w ++ (g ++ (h ++ g)) = power n w ++ (g ++ v) := by
    calc power n w ++ (g ++ (h ++ g)) = power n w ++ w ++ g := by
          rw [← List.append_assoc g, ← cut, List.append_assoc]
      _ = w ++ q := by rw [power_comm, List.append_assoc, ← equal]
      _ = power n w ++ (g ++ v) := by rw [same, ← List.append_assoc, ← equal]
  exact (List.append_cancel_left (List.append_cancel_left both)).symm

/-! ## Runs -/

/-- A letter occurs so many times in a row. -/
def HasRun (c : α) (k : Nat) (w : List α) : Prop := List.replicate k c <:+: w

section Runs

variable {c : α} {k : Nat} {a b : List α}

theorem HasRun.length_le (run : HasRun c k a) : k ≤ a.length := by
  have bound := List.IsInfix.length_le run
  rwa [List.length_replicate] at bound

theorem HasRun.mono {j : Nat} (run : HasRun c k a) (less : j ≤ k) : HasRun c j a := by
  refine List.IsInfix.trans ?_ run
  refine ⟨[], List.replicate (k - j) c, ?_⟩
  rw [List.nil_append, List.replicate_append_replicate, Nat.add_sub_cancel' less]

theorem HasRun.inside (run : HasRun c k a) (part : a <:+: b) : HasRun c k b :=
  List.IsInfix.trans run part

/-- A run in two words lies in one of them or crosses from one to the other. -/
theorem HasRun.append (run : HasRun c k (a ++ b)) :
    HasRun c k a ∨ HasRun c k b ∨ (a.getLast? = some c ∧ b.head? = some c) := by
  obtain ⟨s, t, whole⟩ := run
  rw [List.append_assoc, List.append_eq_append_iff] at whole
  rcases whole with ⟨front, rfl, rest⟩ | ⟨rest, rfl, whole⟩
  · rw [List.append_eq_append_iff] at rest
    rcases rest with ⟨more, rfl, -⟩ | ⟨behind, split, rfl⟩
    · exact .inl ⟨s, more, by rw [List.append_assoc]⟩
    · cases front with
      | nil =>
          rw [List.nil_append] at split
          exact .inr (.inl ⟨[], t, by rw [List.nil_append, split]⟩)
      | cons d front =>
          cases behind with
          | nil =>
              rw [List.append_nil] at split
              exact .inl ⟨s, [], by rw [List.append_nil, split]⟩
          | cons e behind =>
              have all : ∀ x ∈ d :: front ++ e :: behind, x = c := by
                rw [← split]
                exact fun x member => List.eq_of_mem_replicate member
              refine .inr (.inr ⟨?_, ?_⟩)
              · rw [List.getLast?_append, List.getLast?_eq_some_getLast (List.cons_ne_nil d front),
                  Option.some_or, all _ (List.mem_append_left _ (List.getLast_mem _))]
              · rw [List.cons_append, List.head?_cons,
                  all e (List.mem_append_right _ List.mem_cons_self)]
  · exact .inr (.inl ⟨rest, t, by rw [whole, List.append_assoc]⟩)

theorem head_power {n : Nat} (head : a.head? ≠ some c) (part : b <+: a) :
    (power n a ++ b).head? ≠ some c := by
  induction n with
  | zero =>
      obtain ⟨rest, rfl⟩ := part
      intro first
      rw [power_zero, List.nil_append] at first
      rw [List.head?_append, first] at head
      exact head rfl
  | succ n ih =>
      intro first
      rw [power_succ, List.append_assoc, List.head?_append, Option.or_eq_some_iff] at first
      rcases first with front | behind
      · exact head front
      · exact ih behind.2

/-- A run in a power of a word that does not begin with its letter lies in the word. -/
theorem HasRun.of_power {n : Nat} (head : a.head? ≠ some c) (part : b <+: a)
    (run : HasRun c k (power n a ++ b)) : HasRun c k a := by
  induction n with
  | zero => exact run.inside part.isInfix
  | succ n ih =>
      rw [power_succ, List.append_assoc] at run
      rcases run.append with front | behind | ⟨-, crossing⟩
      · exact front
      · exact ih behind
      · exact absurd crossing (head_power head part)

end Runs

end Words

end ModAuthOpenidc
