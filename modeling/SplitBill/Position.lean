import SplitBill.Obligations
import SplitBill.SettlementOrder

/-! Net positions: what an address holds, with what it is still owed on bills and less what it still owes.
Settling moves no position, a bill moves the creator's up and the payers' down, and a token call moves what
it posts; all positions together are the supply. -/
namespace SplitBill.Position
open Host Transition Clearing Simulation Obligations
variable {Address : Type} [DecidableEq Address]

def owed (w : Joint.World Address) (a : Address) : Int := receivable (outstanding w) a
def owing (w : Joint.World Address) (a : Address) : Int := payable (outstanding w) a

def position (w : Joint.World Address) (a : Address) : Int := (Joint.balance w a).val + owed w a - owing w a

def shift (a : Address) : Joint.Call Address → Int
  | .token c =>
      let p := TokenLedger.postingOf c
      (if p.target = some a then p.amount else 0) - (if p.source = some a then p.amount else 0)
  | .bill (.createBill creator payers share _) =>
      (if creator = a then share.val * payers.dedup.length else 0) - (if a ∈ payers then share.val else 0)
  | .bill (.settle _ _) => 0

section Position
variable {tokenAddr : Address} {w : Joint.World Address} {b : Book Address}

theorem positionStands (stands : Stands w b) (a : Address) : b.position a = position w a := by
  rw [Book.position,Finsupp.add_apply,stands.debts,claimsApply,← stands.books.holdings]
  exact (add_sub_assoc _ _ _).symm

theorem receivableShares (payers : List Address) (creator a : Address) (share : Int) :
    receivable (payers.map fun p => (⟨p,creator,share⟩ : Debt Address)) a =
      if creator = a then share * payers.length else 0 := by
  induction payers with
  | nil => simp [receivable]
  | cons p rest ih =>
    rw [List.map_cons,receivableCons,ih,List.length_cons]
    split
    · push_cast
      ring
    · rfl

theorem payableShares {payers : List Address} (distinct : payers.Nodup) (creator a : Address) (share : Int) :
    payable (payers.map fun p => (⟨p,creator,share⟩ : Debt Address)) a = if a ∈ payers then share else 0 := by
  induction payers with
  | nil => simp [payable]
  | cons p rest ih =>
    obtain ⟨absent,distinct⟩ := List.nodup_cons.mp distinct
    rw [List.map_cons,payableCons,ih distinct]
    by_cases own : p = a
    · subst own
      simp [absent]
    · simp [own,Ne.symm own]

theorem shiftAction (a : Address) (w : Joint.World Address) (c : Joint.Call Address) : (action w c).shift a = shift a c := by
  cases c with
  | token c => exact Posting.effectApply _ a
  | bill c =>
    cases c with
    | createBill creator payers share memo =>
      rw [action,Action.shift,claimsApply,receivableShares,payableShares (List.nodup_dedup payers)]
      simp only [List.mem_dedup]
      rfl
    | settle id payer =>
      rw [action]
      cases w.store.bill id <;> rfl

theorem runPosition (healthy : Joint.Healthy tokenAddr w) (stands : Stands w b)
    (inputs : List (Env Address × Joint.Call Address)) (a : Address) :
    position (run (Joint.step tokenAddr) w inputs) a =
      position w a + ((labels (Joint.step tokenAddr) (label tokenAddr) w inputs).map Action.shift).sum a := by
  obtain ⟨b',path,_,there⟩ := runMatches (stepStands tokenAddr) ⟨healthy,stands⟩ inputs
  rw [← positionStands there,← positionStands stands,pathPosition path,Finsupp.add_apply]

theorem settlementsShift (w : Joint.World Address) (calls : List (Env Address × U32 × Address)) :
    ((labels (Joint.step tokenAddr) (label tokenAddr) w (calls.map SettlementOrder.settleInput)).map Action.shift).sum = 0 := by
  induction calls generalizing w with
  | nil => rfl
  | cons c rest ih =>
    have still : (label tokenAddr w (SettlementOrder.settleInput c)).shift = 0 := by
      simp only [label]
      split
      · rfl
      · rw [SettlementOrder.settleInput,action]
        cases w.store.bill c.2.1 <;> rfl
    rw [List.map_cons,labels,List.map_cons,List.sum_cons,still,zero_add]
    exact ih _

end Position

theorem positionsMove (d : Joint.Deployment Address) (inputs : List (Env Address × Joint.Call Address)) :
    let w := d.world inputs
    (∀ env c w', Joint.invoke d.tokenAddr env w c = .ok w' → ∀ a, position w' a = position w a + shift a c) ∧
    (∀ (calls : List (Env Address × U32 × Address)) (a : Address),
      position (run (Joint.step d.tokenAddr) w (calls.map SettlementOrder.settleInput)) a = position w a) ∧
    (Function.support (position w)).Finite ∧ ∑ᶠ a, position w a = (Joint.totalSupply w).val := by
  intro w
  have healthy : Joint.Healthy d.tokenAddr w := Joint.worldHealthy d inputs
  obtain ⟨b,stands⟩ := worldStands d inputs
  have same : b.position = position w := funext (positionStands stands)
  refine ⟨?_,?_,?_,?_⟩
  · intro env c w' ok a
    have stepped := runPosition healthy stands [(env,c)] a
    have left : Joint.step d.tokenAddr w (env,c) = w' := congrArg (commit w) ok
    rw [runCons,runNil,left,labels,labels,labelOk ok,List.map_singleton,List.sum_singleton,shiftAction] at stepped
    exact stepped
  · intro calls a
    rw [runPosition healthy stands,settlementsShift,Finsupp.zero_apply,add_zero]
  · rw [← same]
    exact b.position.hasFiniteSupport
  · rw [← same,Joint.totalSupply,stands.books.total,← b.positionTotal,Finsupp.degree_apply]
    exact finsum_eq_sum_of_support_subset _ (Finsupp.fun_support_eq b.position).subset

end SplitBill.Position
