import Mathlib.Algebra.BigOperators.Group.List.Basic
import SplitBill.Joint

/-! Settlements in any order. A settlement writes one flag and posts one amount, both read off the bill,
which no settlement changes. What a run of them leaves is therefore a function of the set of its pairs
and of the sum of its postings, whoever was funded by whom on the way. -/
namespace SplitBill.SettlementOrder
open Host Transition Joint
variable {Address : Type} [DecidableEq Address]

def settleInput (c : Env Address × U32 × Address) : Env Address × Joint.Call Address :=
  (c.1,.bill (.settle c.2.1 c.2.2))

def AllSucceed (tokenAddr : Address) (w : World Address) (calls : List (Env Address × U32 × Address)) : Prop :=
  Along (step tokenAddr) (fun w i => (invoke tokenAddr i.1 w i.2).toOption.isSome = true) w (calls.map settleInput)

structure SameViews (w w' : World Address) : Prop where
  balance : ∀ a, balance w a = balance w' a
  totalSupply : totalSupply w = totalSupply w'
  allowance : ∀ env source spender,
    StableToken.allowance env w.token source spender = StableToken.allowance env w'.token source spender
  admin : StableToken.admin w.token = StableToken.admin w'.token
  decimals : StableToken.decimals w.token = StableToken.decimals w'.token
  name : StableToken.name w.token = StableToken.name w'.token
  symbol : StableToken.symbol w.token = StableToken.symbol w'.token
  settled : ∀ id p, BillSplit.isSettled w id p = BillSplit.isSettled w' id p
  bill : ∀ id, BillSplit.getBill w id = BillSplit.getBill w' id
  billCount : BillSplit.billCount w = BillSplit.billCount w'
  byCreator : ∀ a, BillSplit.billsByCreator w a = BillSplit.billsByCreator w' a
  byPayer : ∀ a, BillSplit.billsByPayer w a = BillSplit.billsByPayer w' a
  token : BillSplit.token w = BillSplit.token w'

def postingOf (w : World Address) (pair : U32 × Address) : Posting Address :=
  match w.store.bill pair.1 with
  | some bill => ⟨some pair.2,some bill.creator,bill.share.val⟩
  | none => ⟨none,none,0⟩

noncomputable def posted (w : World Address) (pairs : List (U32 × Address)) : Address →₀ Int :=
  (pairs.map fun pair => (postingOf w pair).effect).sum

structure Leaves (w w' : World Address) (pairs : List (U32 × Address)) : Prop where
  balance : ∀ a, (balance w' a).val = (balance w a).val + posted w pairs a
  settled : ∀ id p, BillSplit.isSettled w' id p = (BillSplit.isSettled w id p || decide ((id,p) ∈ pairs))
  totalSupply : (totalSupply w').val = (totalSupply w).val
  allowances : w'.token.allowances = w.token.allowances
  admin : w'.token.admin = w.token.admin
  metadata : w'.token.decimals = w.token.decimals ∧ w'.token.name = w.token.name ∧ w'.token.symbol = w.token.symbol
  store : ∃ flags, w'.store = {w.store with settled := flags}

section Leaves
variable {tokenAddr : Address} {env : Env Address} {w w' w'' : World Address} {pairs more : List (U32 × Address)}

theorem leavesPostings (left : Leaves w w' pairs) : postingOf w' = postingOf w := by
  obtain ⟨flags,same⟩ := left.store
  funext pair
  rw [postingOf,postingOf,same]

theorem leavesNothing (w : World Address) : Leaves w w [] where
  balance := by intro a; simp [posted]
  settled := by simp
  totalSupply := rfl
  allowances := rfl
  admin := rfl
  metadata := ⟨rfl,rfl,rfl⟩
  store := ⟨_,rfl⟩

theorem leavesOne {id : U32} {p : Address} (ok : invoke tokenAddr env w (.bill (.settle id p)) = .ok w') :
    Leaves w w' [(id,p)] := by
  cases invokeEffect ok with
  | @settle _ _ bill t _ found _ _ done =>
    have effect := TokenLedger.invokeEffect done
    have stored := BillRegister.getBillExact.mp found
    refine ⟨?_,?_,?_,effect.allowances,effect.admin,TokenLedger.transferMetadata done,_,rfl⟩
    · intro a
      have moved := effect.moves.balance a
      rw [posted,List.map_singleton,List.sum_singleton,postingOf,stored,Posting.effectApply]
      exact moved
    · intro k a
      rw [BillRegister.chargedFlag]
      by_cases same : k = id ∧ a = p
      · simp [same]
      · have other : (k,a) ∉ [(id,p)] := by simpa using same
        simp [same]
    · have supply : (StableToken.totalSupply t).val = (StableToken.totalSupply w.token).val := by
        simpa [TokenLedger.postingOf,Posting.issued] using effect.moves.supply
      exact supply

theorem leavesMore (first : Leaves w w' pairs) (second : Leaves w' w'' more) : Leaves w w'' (pairs ++ more) where
  balance := by
    intro a
    have whole : posted w (pairs ++ more) = posted w pairs + posted w' more := by
      rw [posted,posted,posted,leavesPostings first,List.map_append,List.sum_append]
    rw [second.balance,first.balance,whole,Finsupp.add_apply,add_assoc]
  settled := by
    intro id p
    rw [second.settled,first.settled,Bool.or_assoc]
    simp
  totalSupply := second.totalSupply.trans first.totalSupply
  allowances := second.allowances.trans first.allowances
  admin := second.admin.trans first.admin
  metadata := ⟨second.metadata.1.trans first.metadata.1,second.metadata.2.1.trans first.metadata.2.1,
    second.metadata.2.2.trans first.metadata.2.2⟩
  store := by
    obtain ⟨_,before⟩ := first.store
    obtain ⟨flags,after⟩ := second.store
    exact ⟨flags,by rw [after,before]⟩

theorem runLeaves {calls : List (Env Address × U32 × Address)} (succeed : AllSucceed tokenAddr w calls) :
    Leaves w (run (step tokenAddr) w (calls.map settleInput)) (calls.map Prod.snd) := by
  induction calls generalizing w with
  | nil => exact leavesNothing w
  | cons c rest ih =>
    obtain ⟨returns,later⟩ := succeed
    obtain ⟨env,id,p⟩ := c
    cases result : invoke tokenAddr env w (.bill (.settle id p)) with
    | error trap => simp [settleInput,result,Except.toOption] at returns
    | ok w' =>
      have after : step tokenAddr w (settleInput (env,id,p)) = w' := by simp [step,settleInput,result]
      have tail := ih later
      rw [after] at tail
      have whole := leavesMore (leavesOne result) tail
      simpa [after] using whole

theorem leavesSame {pairs' : List (U32 × Address)} (same : pairs.Perm pairs') (first : Leaves w w' pairs)
    (second : Leaves w w'' pairs') : SameViews w' w'' := by
  have sums : posted w pairs = posted w pairs' := (same.map _).sum_eq
  obtain ⟨flags,one⟩ := first.store
  obtain ⟨flags',other⟩ := second.store
  exact {
    balance := fun a => MachineInt.ext (by rw [first.balance,second.balance,sums])
    totalSupply := MachineInt.ext (first.totalSupply.trans second.totalSupply.symm)
    allowance := by
      intro env source spender
      rw [StableToken.allowance,StableToken.allowance,first.allowances,second.allowances]
    admin := by rw [StableToken.admin,StableToken.admin,StableToken.readAdmin,StableToken.readAdmin,first.admin,second.admin]
    decimals := by rw [StableToken.decimals,StableToken.decimals,first.metadata.1,second.metadata.1]
    name := by rw [StableToken.name,StableToken.name,first.metadata.2.1,second.metadata.2.1]
    symbol := by rw [StableToken.symbol,StableToken.symbol,first.metadata.2.2,second.metadata.2.2]
    settled := by
      intro id p
      rw [first.settled,second.settled]
      simp only [same.mem_iff]
    bill := by intro id; rw [BillSplit.getBill,BillSplit.getBill,one,other]
    billCount := by rw [BillSplit.billCount,BillSplit.billCount,one,other]
    byCreator := by intro a; rw [BillSplit.billsByCreator,BillSplit.billsByCreator,one,other]
    byPayer := by intro a; rw [BillSplit.billsByPayer,BillSplit.billsByPayer,one,other]
    token := by rw [BillSplit.token,BillSplit.token,one,other] }

end Leaves

theorem orderIrrelevant (d : Deployment Address) (inputs : List (Env Address × Joint.Call Address))
    (calls calls' : List (Env Address × U32 × Address)) (same : (calls.map Prod.snd).Perm (calls'.map Prod.snd))
    (first : AllSucceed d.tokenAddr (d.world inputs) calls) (second : AllSucceed d.tokenAddr (d.world inputs) calls') :
    SameViews (run (step d.tokenAddr) (d.world inputs) (calls.map settleInput))
      (run (step d.tokenAddr) (d.world inputs) (calls'.map settleInput)) :=
  leavesSame same (runLeaves first) (runLeaves second)

def twoBills : List (Env Nat × Joint.Call Nat) :=
  [trialMint,(trialEnv,.token (.mint 2 (.lit 5))),(trialEnv,.bill (.createBill 2 [1,2] (.lit 5) [])),
   (trialEnv,.bill (.createBill 1 [2] (.lit 5) []))]
def oneOrder : List (Env Nat × U32 × Nat) := [(trialEnv,.lit 1,1),(trialEnv,.lit 1,2),(trialEnv,.lit 2,2)]
def otherOrder : List (Env Nat × U32 × Nat) := [(trialEnv,.lit 1,1),(trialEnv,.lit 2,2),(trialEnv,.lit 1,2)]

theorem twoBillsEitherWay :
    SameViews (run (step 0) (trialDeployment.world twoBills) (oneOrder.map settleInput))
      (run (step 0) (trialDeployment.world twoBills) (otherOrder.map settleInput)) :=
  orderIrrelevant trialDeployment twoBills oneOrder otherOrder (by decide) ⟨rfl,rfl,rfl,trivial⟩ ⟨rfl,rfl,rfl,trivial⟩

end SplitBill.SettlementOrder
