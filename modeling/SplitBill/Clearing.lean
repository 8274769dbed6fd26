import Mathlib.Algebra.BigOperators.Group.Multiset.Basic
import SplitBill.Ledger
import SplitBill.Simulation

/-! Accounts that owe one another. Paying a debt moves its amount and strikes it out in one go. The position
of an account counts what it holds, what it is owed and what it owes; a payment changes nobody's position,
and when all is paid everybody holds exactly that. -/
namespace SplitBill.Clearing
open Simulation
variable {α : Type*}

structure Debt (α : Type*) where
  debtor : α
  creditor : α
  amount : ℤ
  deriving DecidableEq

def Debt.posting (d : Debt α) : Posting α := ⟨some d.debtor,some d.creditor,d.amount⟩

structure Book (α : Type*) where
  ledger : Ledger α
  debts : Multiset (Debt α)
  positive : ∀ d ∈ debts, 0 < d.amount

namespace Book

noncomputable def empty : Book α := ⟨Ledger.empty,0,by simp⟩

noncomputable def post (b : Book α) (p : Posting α) (covered : b.ledger.Covers p) : Book α :=
  {b with ledger := b.ledger.post p covered}

def owe (b : Book α) (more : Multiset (Debt α)) (positive : ∀ d ∈ more, 0 < d.amount) : Book α where
  ledger := b.ledger
  debts := b.debts + more
  positive := by
    intro d member
    rcases Multiset.mem_add.mp member with before | new
    · exact b.positive d before
    · exact positive d new

theorem coversDebt (b : Book α) {d : Debt α} (due : d ∈ b.debts) (enough : d.amount ≤ b.ledger.holding d.debtor) :
    b.ledger.Covers d.posting := by
  refine ⟨(b.positive d due).le,?_⟩
  intro a paying
  cases Option.some.inj paying
  exact enough

noncomputable def pay [DecidableEq α] (b : Book α) (d : Debt α) (due : d ∈ b.debts)
    (enough : d.amount ≤ b.ledger.holding d.debtor) : Book α where
  ledger := b.ledger.post d.posting (b.coversDebt due enough)
  debts := b.debts.erase d
  positive := fun d' member => b.positive d' (Multiset.mem_of_mem_erase member)

noncomputable def claims (debts : Multiset (Debt α)) : α →₀ ℤ := (debts.map fun d => d.posting.effect).sum

noncomputable def position (b : Book α) : α →₀ ℤ := b.ledger.holding + claims b.debts

theorem claimsTotal (debts : Multiset (Debt α)) : (claims debts).degree = 0 := by
  have settled : ∀ d : Debt α, d.posting.effect.degree = 0 := by
    intro d
    simp [Posting.effectTotal,Posting.issued,Debt.posting]
  rw [claims,map_multiset_sum,Multiset.map_map]
  simp [settled]

theorem positionTotal (b : Book α) : b.position.degree = b.ledger.total := by
  rw [position,map_add,claimsTotal,add_zero,Ledger.total]

theorem positionPost (b : Book α) {p : Posting α} (covered : b.ledger.Covers p) :
    (b.post p covered).position = b.position + p.effect := by
  simp only [position,post,Ledger.post]
  exact add_right_comm _ _ _

theorem positionOwe (b : Book α) {more : Multiset (Debt α)} (positive : ∀ d ∈ more, 0 < d.amount) :
    (b.owe more positive).position = b.position + claims more := by
  simp only [position,owe,claims,Multiset.map_add,Multiset.sum_add,add_assoc]

theorem positionPay [DecidableEq α] (b : Book α) {d : Debt α} (due : d ∈ b.debts)
    (enough : d.amount ≤ b.ledger.holding d.debtor) : (b.pay d due enough).position = b.position := by
  have split : claims b.debts = d.posting.effect + claims (b.debts.erase d) := by
    rw [claims,← Multiset.cons_erase due,Multiset.map_cons,Multiset.sum_cons,Multiset.cons_erase due,claims]
  simp only [position,pay,Ledger.post]
  rw [split,add_assoc]

theorem positionCleared (b : Book α) (clear : b.debts = 0) : b.position = b.ledger.holding := by
  rw [position,clear,claims,Multiset.map_zero,Multiset.sum_zero,add_zero]

end Book

inductive Action (α : Type*) where
  | idle
  | post (p : Posting α)
  | owe (more : Multiset (Debt α))
  | pay (d : Debt α)

noncomputable def Action.shift : Action α → α →₀ ℤ
  | .idle => 0
  | .post p => p.effect
  | .owe more => Book.claims more
  | .pay _ => 0

variable [DecidableEq α]

inductive Step : Book α → Action α → Book α → Prop where
  | idle (b : Book α) : Step b .idle b
  | post (b : Book α) {p : Posting α} (covered : b.ledger.Covers p) : Step b (.post p) (b.post p covered)
  | owe (b : Book α) {more : Multiset (Debt α)} (positive : ∀ d ∈ more, 0 < d.amount) :
      Step b (.owe more) (b.owe more positive)
  | pay (b : Book α) {d : Debt α} (due : d ∈ b.debts) (enough : d.amount ≤ b.ledger.holding d.debtor) :
      Step b (.pay d) (b.pay d due enough)

theorem stepPosition (b : Book α) (a : Action α) (b' : Book α) (step : Step b a b') :
    b'.position = b.position + a.shift := by
  cases step with
  | idle => exact (add_zero _).symm
  | post covered => exact b.positionPost covered
  | owe positive => exact b.positionOwe positive
  | pay due enough => rw [b.positionPay due enough,Action.shift,add_zero]

theorem pathPosition {b b' : Book α} {actions : List (Action α)} (path : Path Step b actions b') :
    b'.position = b.position + (actions.map Action.shift).sum := pathSum stepPosition path

def payable (order : List (Debt α)) (a : α) : ℤ := ((order.filter fun d => d.debtor = a).map Debt.amount).sum

theorem payableCons (d : Debt α) (rest : List (Debt α)) (a : α) :
    payable (d :: rest) a = (if d.debtor = a then d.amount else 0) + payable rest a := by
  by_cases own : d.debtor = a
  · simp [payable,own]
  · simp [payable,own]

theorem payableNonneg {order : List (Debt α)} (positive : ∀ d ∈ order, 0 < d.amount) (a : α) : 0 ≤ payable order a := by
  apply List.sum_nonneg
  intro n member
  obtain ⟨d,inside,rfl⟩ := List.mem_map.mp member
  exact (positive d (List.mem_filter.mp inside).1).le

def receivable (order : List (Debt α)) (a : α) : ℤ := ((order.filter fun d => d.creditor = a).map Debt.amount).sum

theorem receivableCons (d : Debt α) (rest : List (Debt α)) (a : α) :
    receivable (d :: rest) a = (if d.creditor = a then d.amount else 0) + receivable rest a := by
  by_cases own : d.creditor = a
  · simp [receivable,own]
  · simp [receivable,own]

theorem claimsApply (order : List (Debt α)) (a : α) :
    Book.claims (order : Multiset (Debt α)) a = receivable order a - payable order a := by
  induction order with
  | nil => rfl
  | cons d rest ih =>
    have first : Book.claims ((d :: rest : List (Debt α)) : Multiset (Debt α)) =
        d.posting.effect + Book.claims (rest : Multiset (Debt α)) := by
      simp [Book.claims]
    rw [first,Finsupp.add_apply,ih,Posting.effectApply,receivableCons,payableCons]
    simp only [Debt.posting,Option.some.injEq]
    omega

/- Whoever holds what he has to pay can pay it, whatever the order: others only add to what he holds. -/
theorem clearsInOrder {b : Book α} {order : List (Debt α)} (part : (order : Multiset (Debt α)) ≤ b.debts)
    (enough : ∀ a, payable order a ≤ b.ledger.holding a) :
    ∃ b', Path Step b (order.map Action.pay) b' ∧ b'.debts = b.debts - order := by
  induction order generalizing b with
  | nil => exact ⟨b,.nil b,(tsub_zero _).symm⟩
  | cons d rest ih =>
    have due : d ∈ b.debts := Multiset.mem_of_le part (Multiset.mem_coe.mpr List.mem_cons_self)
    have positive : ∀ d' ∈ rest, 0 < d'.amount := by
      intro d' member
      exact b.positive d' (Multiset.mem_of_le part (Multiset.mem_coe.mpr (List.mem_cons_of_mem d member)))
    have own : d.amount ≤ b.ledger.holding d.debtor := by
      have all := enough d.debtor
      have later := payableNonneg positive d.debtor
      rw [payableCons,if_pos rfl] at all
      omega
    have still : ∀ a, payable rest a ≤ (b.pay d due own).ledger.holding a := by
      intro a
      have before := enough a
      have amount := (b.positive d due).le
      rw [payableCons] at before
      simp only [Book.pay,Ledger.post,Finsupp.add_apply,Posting.effectApply,Debt.posting,Option.some.injEq]
      by_cases paying : d.debtor = a
      · rw [if_pos paying] at before ⊢
        split <;> omega
      · rw [if_neg paying] at before ⊢
        split <;> omega
    have left : (rest : Multiset (Debt α)) ≤ b.debts.erase d := by
      have whole : d ::ₘ (rest : Multiset (Debt α)) ≤ b.debts := part
      simpa using Multiset.erase_le_erase d whole
    obtain ⟨b',path,gone⟩ := ih (b := b.pay d due own) left still
    refine ⟨b',.cons (.pay b due own) path,?_⟩
    rw [gone]
    change b.debts.erase d - _ = b.debts - (d ::ₘ (rest : Multiset (Debt α)))
    rw [Multiset.sub_cons]

end SplitBill.Clearing
