import Mathlib

/-!
# Chains of indexes

A singly linked list stored in an arena is a head index together with a successor function. Index
`0` is the end marker. `Chain next head nodes` says that following `next` from `head` visits exactly
`nodes` and then stops. The list is determined by the head, so finiteness and the absence of cycles
are consequences of its existence. The file also contains the linear search which remembers the
predecessor of its hit, and the surgery that such a search prepares.
-/

namespace IndexChain

/-- Following `next` from the first argument visits the listed nodes and stops at the end marker. -/
inductive Chain (next : Nat → Nat) : Nat → List Nat → Prop
  | nil : Chain next 0 []
  | cons {node : Nat} {rest : List Nat} :
      node ≠ 0 → Chain next (next node) rest → Chain next node (node :: rest)

namespace Chain

variable {next : Nat → Nat} {head : Nat} {nodes : List Nat}

theorem zero_iff (chain : Chain next head nodes) : head = 0 ↔ nodes = [] := by
  cases chain with
  | nil => simp
  | cons nonzero _ => simp [nonzero]

theorem ne_zero (chain : Chain next head nodes) {node : Nat} (member : node ∈ nodes) :
    node ≠ 0 := by
  induction chain with
  | nil => simp at member
  | cons nonzero _ ih =>
      rcases List.mem_cons.mp member with rfl | later
      · exact nonzero
      · exact ih later

/-- A head determines its chain. -/
theorem unique (chain : Chain next head nodes) {nodes' : List Nat}
    (chain' : Chain next head nodes') : nodes = nodes' := by
  induction chain generalizing nodes' with
  | nil =>
      cases chain' with
      | nil => rfl
      | cons nonzero _ => exact absurd rfl nonzero
  | cons nonzero _ ih =>
      cases chain' with
      | nil => exact absurd rfl nonzero
      | cons _ rest' => rw [ih rest']

/-- Every member starts the remaining part of the chain. -/
theorem suffix (chain : Chain next head nodes) {front back : List Nat} {node : Nat}
    (split : nodes = front ++ node :: back) : Chain next node (node :: back) := by
  induction front generalizing head nodes with
  | nil =>
      subst split
      cases chain with
      | cons nonzero rest => exact .cons nonzero rest
  | cons first front ih =>
      subst split
      cases chain with
      | cons _ rest => exact ih rest rfl

/-- A chain visits no node twice: a repeated node would have two different remaining chains. -/
theorem nodup (chain : Chain next head nodes) : nodes.Nodup := by
  induction chain with
  | nil => exact List.nodup_nil
  | @cons node rest nonzero tail ih =>
      refine List.nodup_cons.mpr ⟨?_, ih⟩
      intro again
      obtain ⟨front, back, rfl⟩ := List.append_of_mem again
      have short := tail.suffix rfl
      have long : Chain next node (node :: (front ++ node :: back)) := .cons nonzero tail
      have lengths := congrArg List.length (long.unique short)
      simp only [List.length_cons, List.length_append] at lengths
      omega

/-- Rewriting successors outside the chain does not disturb it. -/
theorem frame (chain : Chain next head nodes) {next' : Nat → Nat}
    (agree : ∀ node ∈ nodes, next' node = next node) : Chain next' head nodes := by
  induction chain with
  | nil => exact .nil
  | cons nonzero _ ih =>
      refine .cons nonzero ?_
      rw [agree _ List.mem_cons_self]
      exact ih fun node member => agree node (List.mem_cons_of_mem _ member)

theorem update_of_notMem (chain : Chain next head nodes) {node target : Nat}
    (outside : node ∉ nodes) : Chain (Function.update next node target) head nodes := by
  apply chain.frame
  intro other member
  refine Function.update_of_ne ?_ _ _
  rintro rfl
  exact outside member

/-- Link a fresh node in front of a chain. -/
theorem push (chain : Chain next head nodes) {node : Nat} (nonzero : node ≠ 0)
    (fresh : node ∉ nodes) : Chain (Function.update next node head) node (node :: nodes) := by
  refine .cons nonzero ?_
  rw [Function.update_self]
  exact chain.update_of_notMem fresh

/-- Unlink the first node by moving the head. -/
theorem pop {node : Nat} {rest : List Nat} (chain : Chain next head (node :: rest)) :
    head = node ∧ Chain next (next node) rest := by
  cases chain with
  | cons _ tail => exact ⟨rfl, tail⟩

/-- Unlink an inner node by redirecting its predecessor. -/
theorem bypass {front back : List Nat} {before node : Nat}
    (chain : Chain next head (front ++ before :: node :: back)) :
    Chain (Function.update next before (next node)) head (front ++ before :: back) := by
  have distinct := chain.nodup
  induction front generalizing head with
  | nil =>
      cases chain with
      | cons nonzero tail =>
          obtain ⟨_, remaining⟩ := tail.pop
          refine .cons nonzero ?_
          rw [Function.update_self]
          apply remaining.update_of_notMem
          intro again
          exact (List.nodup_cons.mp distinct).1 (List.mem_cons_of_mem _ again)
  | cons first front ih =>
      cases chain with
      | cons nonzero tail =>
          have fresh : first ≠ before := by
            rintro rfl
            exact (List.nodup_cons.mp distinct).1 (by simp)
          refine .cons nonzero ?_
          rw [Function.update_of_ne fresh]
          exact ih tail (List.nodup_cons.mp distinct).2

/-- A chain inside `1, …, bound` has at most `bound` nodes. -/
theorem length_le (chain : Chain next head nodes) {bound : Nat}
    (bounded : ∀ node ∈ nodes, node ≤ bound) : nodes.length ≤ bound := by
  have inside : nodes ⊆ List.range' 1 bound := by
    intro node member
    have positive := chain.ne_zero member
    have small := bounded node member
    rw [List.mem_range'_1]
    omega
  simpa using chain.nodup.length_le_of_subset inside

end Chain

/-! ## Search with a trailing predecessor -/

/-- Walk a chain until `stop` holds, remembering the node visited just before.  The answer pairs the
hit (or the end marker) with that predecessor; `none` reports exhausted fuel. -/
def seek (stop : Nat → Bool) (next : Nat → Nat) : Nat → Nat → Nat → Option (Nat × Nat)
  | 0, _, _ => none
  | fuel + 1, before, node =>
      if node = 0 then some (0, before)
      else if stop node then some (node, before)
      else seek stop next fuel node (next node)

/-- A search which meets no hit runs to the end marker. -/
theorem seek_miss {stop : Nat → Bool} {next : Nat → Nat} {head : Nat} {nodes : List Nat}
    (chain : Chain next head nodes) (misses : ∀ node ∈ nodes, stop node = false) (fuel : Nat)
    (enough : nodes.length < fuel) (before : Nat) :
    ∃ last, seek stop next fuel before head = some (0, last) := by
  induction chain generalizing fuel before with
  | nil =>
      obtain ⟨fuel, rfl⟩ := Nat.exists_eq_succ_of_ne_zero (Nat.ne_of_gt enough)
      exact ⟨before, by simp [seek]⟩
  | @cons node rest nonzero _ ih =>
      obtain ⟨fuel, rfl⟩ := Nat.exists_eq_succ_of_ne_zero (Nat.ne_of_gt (Nat.zero_lt_of_lt enough))
      obtain ⟨last, found⟩ := ih (fun other member => misses other (List.mem_cons_of_mem _ member))
        fuel (by simpa using enough) node
      exact ⟨last, by simp [seek, nonzero, misses node List.mem_cons_self, found]⟩

/-- A search stops at its first hit and reports the node before it. -/
theorem seek_hit {stop : Nat → Bool} {next : Nat → Nat} {head node : Nat} {front back : List Nat}
    (chain : Chain next head (front ++ node :: back)) (misses : ∀ other ∈ front, stop other = false)
    (hit : stop node = true) (fuel : Nat) (enough : (front ++ node :: back).length < fuel)
    (before : Nat) :
    seek stop next fuel before head = some (node, front.getLast?.getD before) := by
  induction front generalizing head fuel before with
  | nil =>
      obtain ⟨fuel, rfl⟩ := Nat.exists_eq_succ_of_ne_zero (Nat.ne_of_gt (Nat.zero_lt_of_lt enough))
      obtain ⟨rfl, _⟩ := Chain.pop chain
      have nonzero := chain.ne_zero (show head ∈ _ by simp)
      simp [seek, nonzero, hit]
  | cons first front ih =>
      obtain ⟨fuel, rfl⟩ := Nat.exists_eq_succ_of_ne_zero (Nat.ne_of_gt (Nat.zero_lt_of_lt enough))
      obtain ⟨rfl, tail⟩ := Chain.pop chain
      have nonzero := chain.ne_zero (show head ∈ _ by simp)
      have later := ih tail (fun other member => misses other (List.mem_cons_of_mem _ member))
        fuel (by simpa using enough) head
      rw [seek, if_neg nonzero, if_neg (by simp [misses head List.mem_cons_self]), later]
      rw [List.getLast?_cons, Option.getD_some]

end IndexChain
