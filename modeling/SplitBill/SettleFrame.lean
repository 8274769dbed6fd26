import SplitBill.Payable
import SplitBill.SettlementOrder

/-! All that a settlement changes. The share goes from the payer to the creator, the flag of the pair is
set, and no other view of either contract moves; a settlement that traps leaves both as they were. -/
namespace SplitBill.SettleFrame
open Host Transition Joint SettlementOrder
variable {Address : Type} [DecidableEq Address]

structure Settles (w w' : World Address) (id : U32) (q : Address) (bill : BillSplit.Bill Address) : Prop where
  debited : q ≠ bill.creator → (balance w' q).val = (balance w q).val - bill.share.val
  credited : q ≠ bill.creator → (balance w' bill.creator).val = (balance w bill.creator).val + bill.share.val
  ownBill : q = bill.creator → balance w' q = balance w q
  otherBalances : ∀ a, a ≠ q → a ≠ bill.creator → balance w' a = balance w a
  flagged : BillSplit.isSettled w' id q = true
  otherFlags : ∀ k a, (k,a) ≠ (id,q) → BillSplit.isSettled w' k a = BillSplit.isSettled w k a
  allowances : ∀ env source spender,
    StableToken.allowance env w'.token source spender = StableToken.allowance env w.token source spender
  totalSupply : totalSupply w' = totalSupply w
  admin : StableToken.admin w'.token = StableToken.admin w.token
  billCount : BillSplit.billCount w' = BillSplit.billCount w
  bills : ∀ k, BillSplit.getBill w' k = BillSplit.getBill w k
  byCreator : ∀ a, BillSplit.billsByCreator w' a = BillSplit.billsByCreator w a
  byPayer : ∀ a, BillSplit.billsByPayer w' a = BillSplit.billsByPayer w a
  token : BillSplit.token w' = BillSplit.token w

section Settles
variable {w w' : World Address} {id : U32} {q : Address} {bill : BillSplit.Bill Address}

theorem postedOne (stored : w.store.bill id = some bill) (a : Address) : posted w [(id,q)] a =
    (if bill.creator = a then bill.share.val else 0) - (if q = a then bill.share.val else 0) := by
  rw [posted,List.map_singleton,List.sum_singleton,postingOf,stored,Posting.effectApply]
  simp only [Option.some.injEq]

theorem leftSettles (stored : w.store.bill id = some bill) (left : Leaves w w' [(id,q)]) : Settles w w' id q bill := by
  have moved : ∀ a, (balance w' a).val = (balance w a).val +
      ((if bill.creator = a then bill.share.val else 0) - (if q = a then bill.share.val else 0)) := by
    intro a
    rw [left.balance,postedOne stored]
  obtain ⟨flags,store⟩ := left.store
  exact {
    debited := by
      intro other
      rw [moved,if_neg other.symm,if_pos rfl,zero_sub,sub_eq_add_neg]
    credited := by
      intro other
      rw [moved,if_pos rfl,if_neg other,sub_zero]
    ownBill := by
      intro own
      apply MachineInt.ext
      rw [moved,if_pos own.symm,if_pos rfl,sub_self,add_zero]
    otherBalances := by
      intro a payer creator
      apply MachineInt.ext
      rw [moved,if_neg creator.symm,if_neg payer.symm,sub_zero,add_zero]
    flagged := by rw [left.settled,decide_eq_true List.mem_cons_self,Bool.or_true]
    otherFlags := by
      intro k a other
      have absent : (k,a) ∉ [(id,q)] := fun member => other (List.mem_singleton.mp member)
      rw [left.settled,decide_eq_false absent,Bool.or_false]
    allowances := by
      intro env source spender
      rw [StableToken.allowance,StableToken.allowance,left.allowances]
    totalSupply := MachineInt.ext left.totalSupply
    admin := by rw [StableToken.admin,StableToken.admin,StableToken.readAdmin,StableToken.readAdmin,left.admin]
    billCount := by rw [BillSplit.billCount,BillSplit.billCount,store]
    bills := by intro k; rw [BillSplit.getBill,BillSplit.getBill,store]
    byCreator := by intro a; rw [BillSplit.billsByCreator,BillSplit.billsByCreator,store]
    byPayer := by intro a; rw [BillSplit.billsByPayer,BillSplit.billsByPayer,store]
    token := by rw [BillSplit.token,BillSplit.token,store] }

end Settles

theorem settleExactly (d : Deployment Address) (inputs : List (Env Address × Joint.Call Address)) (env : Env Address)
    (id : U32) (q : Address) (auth : env.authorised q = true) (nested : env.nestedAuthorised q = true) :
    let w := d.world inputs
    let settling := invoke d.tokenAddr env w (.bill (.settle id q))
    ((∃ w', settling = .ok w') ↔ ∃ bill, BillSplit.getBill w id = .ok bill ∧ q ∈ bill.payers ∧
      BillSplit.isSettled w id q = false ∧ bill.share.val ≤ (balance w q).val) ∧
    (∀ w', settling = .ok w' → step d.tokenAddr w (env,.bill (.settle id q)) = w' ∧
      ∃ bill, BillSplit.getBill w id = .ok bill ∧ Settles w w' id q bill) ∧
    ∀ trap, settling = .error trap → step d.tokenAddr w (env,.bill (.settle id q)) = w := by
  intro w settling
  have healthy : Healthy d.tokenAddr w := worldHealthy d inputs
  refine ⟨?_,?_,?_⟩
  · constructor
    · intro done
      exact ((Payable.settleSucceeds healthy).mp done).2.2
    · intro ready
      exact (Payable.settleSucceeds healthy).mpr ⟨auth,nested,ready⟩
  · intro w' ok
    refine ⟨congrArg (commit w) ok,?_⟩
    cases invokeEffect ok with
    | @settle _ _ bill t _ found _ _ done =>
      exact ⟨bill,found,leftSettles (BillRegister.getBillExact.mp found) (leavesOne ok)⟩
  · intro trap refused
    exact congrArg (commit w) refused

theorem trialSettles : ∃ w', step 0 (trialDeployment.world
      [trialMint,(trialEnv,.bill (.createBill 2 [1,2] (.lit 5) []))]) (trialEnv,.bill (.settle (.lit 1) 1)) = w' ∧
    BillSplit.isSettled w' (.lit 1) 1 = true ∧ (balance w' 1).val = 95 ∧ (balance w' 2).val = 5 := by
  obtain ⟨succeeds,changes,_⟩ := settleExactly trialDeployment
    [trialMint,(trialEnv,.bill (.createBill 2 [1,2] (.lit 5) []))] trialEnv (.lit 1) 1 rfl rfl
  obtain ⟨w',ok⟩ := succeeds.mpr ⟨_,rfl,by decide,rfl,by decide⟩
  obtain ⟨stepped,bill,found,settles⟩ := changes w' ok
  cases Except.ok.inj found
  exact ⟨w',stepped,settles.flagged,settles.debited (by decide),settles.credited (by decide)⟩

end SplitBill.SettleFrame
