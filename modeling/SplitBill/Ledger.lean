import Mathlib.Data.Finsupp.Basic
import Mathlib.Data.Finsupp.Weight
import Mathlib.Algebra.BigOperators.Finprod
import Mathlib.Algebra.Order.BigOperators.Group.Finset

/-! Double-entry bookkeeping over accounts of any type. A posting takes an amount
from one side and gives it to the other; a missing side is the outside, so postings
also issue and retire value. Holdings are finitely supported and never negative. -/
namespace SplitBill
variable {α : Type*}

structure Posting (α : Type*) where
  source : Option α
  target : Option α
  amount : ℤ

namespace Posting

noncomputable def side (account : Option α) (amount : ℤ) : α →₀ ℤ := account.elim 0 (Finsupp.single · amount)
noncomputable def effect (p : Posting α) : α →₀ ℤ := side p.target p.amount - side p.source p.amount

def issued (p : Posting α) : ℤ :=
  (if p.source.isNone then p.amount else 0) - (if p.target.isNone then p.amount else 0)

theorem sideApply [DecidableEq α] (account : Option α) (amount : ℤ) (a : α) :
    side account amount a = if account = some a then amount else 0 := by
  cases account with
  | none => rfl
  | some b => simp [side,Finsupp.single_apply]

theorem effectApply [DecidableEq α] (p : Posting α) (a : α) :
    p.effect a = (if p.target = some a then p.amount else 0) - (if p.source = some a then p.amount else 0) := by
  rw [effect,Finsupp.sub_apply,sideApply,sideApply]

theorem sideTotal (account : Option α) (amount : ℤ) :
    (side account amount).degree = if account.isNone then 0 else amount := by
  cases account <;> simp [side]

theorem effectTotal (p : Posting α) : p.effect.degree = p.issued := by
  have split : ∀ account : Option α, (if account.isNone then (0 : ℤ) else p.amount) =
      p.amount - if account.isNone then p.amount else 0 := by
    intro account
    cases account <;> simp
  rw [effect,map_sub,sideTotal,sideTotal,split,split,issued]
  omega

end Posting

structure Ledger (α : Type*) where
  holding : α →₀ ℤ
  nonneg : ∀ a, 0 ≤ holding a

namespace Ledger

noncomputable def total (l : Ledger α) : ℤ := l.holding.degree

noncomputable def empty : Ledger α := ⟨0,fun _ => le_rfl⟩

def Covers (l : Ledger α) (p : Posting α) : Prop :=
  0 ≤ p.amount ∧ ∀ a, p.source = some a → p.amount ≤ l.holding a

noncomputable def post (l : Ledger α) (p : Posting α) (covered : l.Covers p) : Ledger α where
  holding := l.holding + p.effect
  nonneg := by
    intro a
    classical
    have start := l.nonneg a
    have positive := covered.1
    rw [Finsupp.add_apply,Posting.effectApply]
    by_cases paying : p.source = some a
    · have enough := covered.2 a paying
      rw [if_pos paying]
      split <;> omega
    · rw [if_neg paying]
      split <;> omega

theorem totalEmpty : (empty : Ledger α).total = 0 := map_zero _

theorem totalPost (l : Ledger α) (p : Posting α) (covered : l.Covers p) :
    (l.post p covered).total = l.total + p.issued := by
  rw [total,post,map_add,Posting.effectTotal,total]

theorem totalSum (l : Ledger α) : ∑ᶠ a, l.holding a = l.total := by
  rw [total,Finsupp.degree_apply]
  exact finsum_eq_sum_of_support_subset _ (Finsupp.fun_support_eq l.holding).subset

theorem partBound (l : Ledger α) (accounts : Finset α) : ∑ a ∈ accounts, l.holding a ≤ l.total := by
  classical
  have inside : l.total = ∑ a ∈ accounts ∪ l.holding.support, l.holding a := by
    rw [total,Finsupp.degree_apply]
    exact Finset.sum_subset Finset.subset_union_right fun a _ none => Finsupp.notMem_support_iff.mp none
  rw [inside]
  exact Finset.sum_le_sum_of_subset_of_nonneg Finset.subset_union_left fun a _ _ => l.nonneg a

theorem holdingBound (l : Ledger α) (a : α) : l.holding a ≤ l.total := by
  simpa using l.partBound {a}

theorem pairBound (l : Ledger α) {a b : α} (apart : a ≠ b) : l.holding a + l.holding b ≤ l.total := by
  classical
  simpa [Finset.sum_pair apart] using l.partBound {a,b}

theorem totalNonneg (l : Ledger α) : 0 ≤ l.total := by
  rw [total,Finsupp.degree_apply]
  exact Finset.sum_nonneg fun a _ => l.nonneg a

end Ledger
end SplitBill
