import Mathlib

/-!
# Ledgers

Units of several kinds are earned on accounts, paid from there into a common pool, and drawn from
the pool. What was earned is on an account, in the pool or drawn.
-/

/-- The accounts, the pool, and what has been drawn and earned so far. -/
@[ext] structure Ledger (ι κ : Type) where
  held : ι → κ → Int
  pooled : κ → Int
  drawn : κ → Int
  earned : κ → Int

namespace Ledger

variable {ι κ : Type}

/-- Nothing has happened yet. -/
def empty : Ledger ι κ where
  held := fun _ _ => 0
  pooled := fun _ => 0
  drawn := fun _ => 0
  earned := fun _ => 0

/-- One unit is earned. -/
def earn [DecidableEq ι] [DecidableEq κ] (ledger : Ledger ι κ) (i : ι) (k : κ) : Ledger ι κ where
  held := Function.update ledger.held i (Function.update (ledger.held i) k (ledger.held i k + 1))
  pooled := ledger.pooled
  drawn := ledger.drawn
  earned := Function.update ledger.earned k (ledger.earned k + 1)

/-- All that is on one account is paid into the pool. -/
def pay [DecidableEq ι] (ledger : Ledger ι κ) (i : ι) : Ledger ι κ where
  held := Function.update ledger.held i fun _ => 0
  pooled := fun k => ledger.pooled k + ledger.held i k
  drawn := ledger.drawn
  earned := ledger.earned

/-- The pool is emptied. -/
def draw (ledger : Ledger ι κ) : Ledger ι κ where
  held := ledger.held
  pooled := fun _ => 0
  drawn := fun k => ledger.drawn k + ledger.pooled k
  earned := ledger.earned

/-- What can happen. -/
inductive Move [DecidableEq ι] [DecidableEq κ] (ledger : Ledger ι κ) : Ledger ι κ → Prop
  | stay : Move ledger ledger
  | earn (i : ι) (k : κ) : Move ledger (ledger.earn i k)
  | pay (i : ι) : Move ledger (ledger.pay i)
  | draw : Move ledger ledger.draw

/-- Nothing is lost. -/
def Balanced [Fintype ι] (ledger : Ledger ι κ) : Prop :=
  ∀ k, ∑ i, ledger.held i k + ledger.pooled k + ledger.drawn k = ledger.earned k

/-- What is on the accounts changes with the one account. -/
theorem sum_update [DecidableEq ι] [Fintype ι] (held : ι → κ → Int) (i : ι)
    (account : κ → Int) (k : κ) :
    ∑ j, Function.update held i account j k = ∑ j, held j k + (account k - held i k) := by
  have others : ∑ j ∈ Finset.univ.erase i, Function.update held i account j k =
      ∑ j ∈ Finset.univ.erase i, held j k := by
    refine Finset.sum_congr rfl fun j member => ?_
    rw [Function.update_of_ne (Finset.ne_of_mem_erase member)]
  rw [← Finset.add_sum_erase _ _ (Finset.mem_univ i), others, Function.update_self,
    ← Finset.add_sum_erase _ (fun j => held j k) (Finset.mem_univ i)]
  omega

variable [Fintype ι] {ledger : Ledger ι κ}

theorem balanced_empty : (empty : Ledger ι κ).Balanced := by
  intro k
  simp [empty]

theorem Balanced.earn [DecidableEq ι] [DecidableEq κ] (balanced : ledger.Balanced) (i : ι) (k : κ) :
    (ledger.earn i k).Balanced := by
  intro other
  have before := balanced other
  rw [Ledger.earn]
  dsimp only
  rw [sum_update]
  by_cases same : other = k
  · subst same
    rw [Function.update_self, Function.update_self]
    omega
  · rw [Function.update_of_ne same, Function.update_of_ne same]
    omega

theorem Balanced.pay [DecidableEq ι] (balanced : ledger.Balanced) (i : ι) :
    (ledger.pay i).Balanced := by
  intro k
  have before := balanced k
  rw [Ledger.pay]
  dsimp only
  rw [sum_update]
  omega

theorem Balanced.draw (balanced : ledger.Balanced) : ledger.draw.Balanced := by
  intro k
  have before := balanced k
  rw [Ledger.draw]
  dsimp only
  omega

/-- Nothing is ever lost. -/
theorem Balanced.move [DecidableEq ι] [DecidableEq κ] {after : Ledger ι κ}
    (balanced : ledger.Balanced)
    (moved : ledger.Move after) : after.Balanced := by
  cases moved with
  | stay => exact balanced
  | earn i k => exact balanced.earn i k
  | pay i => exact balanced.pay i
  | draw => exact balanced.draw

end Ledger
