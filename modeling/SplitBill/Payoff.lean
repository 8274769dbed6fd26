import SplitBill.Payable
import SplitBill.Position

/-! That debts can be paid off. Where the book allows a payment the contracts accept the settlement, so a list
of settlements for which every payer holds what he owes in it goes through in whatever order; when nothing is
left open, everybody holds his position of before. -/
namespace SplitBill.Payoff
open Host BillSplit BillRegister Transition Clearing Simulation Obligations Position SettlementOrder
variable {Address : Type} [DecidableEq Address]

abbrev Order (Address : Type) := Env Address × Bill Address × Address

def debtFor (c : Order Address) : Debt Address := debtOf c.2.1 c.2.2
def callFor (c : Order Address) : Env Address × U32 × Address := (c.1,c.2.1.id,c.2.2)
def Signed (c : Order Address) : Prop := c.1.authorised c.2.2 = true ∧ c.1.nestedAuthorised c.2.2 = true

section Settle
variable {tokenAddr : Address} {env : Env Address} {w : Joint.World Address} {b b' : Book Address}

theorem paySettles (healthy : Joint.Healthy tokenAddr w) (stands : Stands w b) {bill : Bill Address} {q : Address}
    (due : (bill,q) ∈ unsettled w) (signed : env.authorised q = true ∧ env.nestedAuthorised q = true)
    (step : Step b (.pay (debtOf bill q)) b') :
    ∃ w', Joint.invoke tokenAddr env w (.bill (.settle bill.id q)) = .ok w' ∧ Joint.Healthy tokenAddr w' ∧ Stands w' b' ∧
      (unsettled w).Perm ((bill,q) :: unsettled w') := by
  obtain ⟨⟨reg,m⟩,_⟩ := healthy.accounted
  obtain ⟨stored,listed,fresh⟩ := (unsettledExact m).mp due
  cases step with
  | pay inside enough =>
    have able : bill.share.val ≤ (Joint.balance w q).val := by
      rw [Joint.balance,StableToken.balance,stands.books.holdings]
      exact enough
    obtain ⟨w',ok⟩ := (Payable.settleSucceeds healthy).mpr
      ⟨signed.1,signed.2,bill,getBillExact.mpr stored,listed,fresh,able⟩
    have left : Joint.step tokenAddr w (env,.bill (.settle bill.id q)) = w' := congrArg (commit w) ok
    obtain ⟨b'',there,healthy',stands'⟩ :=
      stepStands tokenAddr w (env,.bill (.settle bill.id q)) b ⟨healthy,stands⟩
    have named : label tokenAddr w (env,.bill (.settle bill.id q)) = .pay (debtOf bill q) := by
      rw [labelOk ok]
      simp only [action,stored,Option.elim_some]
    rw [left] at healthy' stands'
    rw [named] at there
    cases there with
    | pay inside enough =>
      refine ⟨w',ok,healthy',stands',?_⟩
      cases Joint.invokeEffect ok with
      | @settle _ _ other t _ found _ _ _ =>
        cases Except.ok.inj (found.symm.trans (getBillExact.mpr stored))
        exact unsettledCharged m (c := ⟨env,bill.id,q,tokenAddr,q,⟨bill.creator,none⟩,bill.share⟩) t stored listed fresh

theorem pathSettles (healthy : Joint.Healthy tokenAddr w) (stands : Stands w b) {calls : List (Order Address)}
    (distinct : (calls.map Prod.snd).Nodup) (due : ∀ c ∈ calls, c.2 ∈ unsettled w) (signed : ∀ c ∈ calls, Signed c)
    (path : Path Step b ((calls.map debtFor).map .pay) b') :
    AllSucceed tokenAddr w (calls.map callFor) ∧
      let w' := run (Joint.step tokenAddr) w ((calls.map callFor).map settleInput)
      Joint.Healthy tokenAddr w' ∧ Stands w' b' ∧ (unsettled w).Perm (calls.map Prod.snd ++ unsettled w') := by
  induction calls generalizing w b with
  | nil =>
    cases path with
    | nil => exact ⟨trivial,healthy,stands,.refl _⟩
  | cons c rest ih =>
    obtain ⟨env,bill,q⟩ := c
    obtain ⟨absent,distinct⟩ := List.nodup_cons.mp distinct
    obtain ⟨own,later⟩ := List.forall_mem_cons.mp due
    obtain ⟨mine,others⟩ := List.forall_mem_cons.mp signed
    cases path with
    | cons first path =>
      obtain ⟨w',ok,healthy',stands',struck⟩ := paySettles healthy stands own mine first
      have left : Joint.step tokenAddr w (settleInput (callFor (env,bill,q))) = w' := congrArg (commit w) ok
      have still : ∀ c ∈ rest, c.2 ∈ unsettled w' := by
        intro c member
        rcases List.mem_cons.mp (struck.mem_iff.mp (later c member)) with same | open'
        · exact absurd (List.mem_map.mpr ⟨c,member,same⟩) absent
        · exact open'
      obtain ⟨succeed,end',there,gone⟩ := ih healthy' stands' distinct still others path
      rw [List.map_cons,List.map_cons,runCons,left]
      refine ⟨⟨?_,?_⟩,end',there,struck.trans (gone.cons _)⟩
      · exact congrArg (fun result => result.toOption.isSome) ok
      · rw [left]
        exact succeed

end Settle

def toPay (calls : List (Order Address)) (a : Address) : Int := payable (calls.map debtFor) a

theorem anyOrderPays (d : Joint.Deployment Address) (inputs : List (Env Address × Joint.Call Address))
    (calls : List (Order Address)) (distinct : (calls.map Prod.snd).Nodup)
    (due : ∀ c ∈ calls, c.2 ∈ unsettled (d.world inputs)) (signed : ∀ c ∈ calls, Signed c)
    (able : ∀ a, toPay calls a ≤ (Joint.balance (d.world inputs) a).val) :
    let w := d.world inputs
    let w' := run (Joint.step d.tokenAddr) w ((calls.map callFor).map settleInput)
    AllSucceed d.tokenAddr w (calls.map callFor) ∧ (unsettled w).Perm (calls.map Prod.snd ++ unsettled w') ∧
    ((∀ due ∈ unsettled w, due ∈ calls.map Prod.snd) →
      (∀ k bill, getBill w' k = .ok bill → ∀ p ∈ bill.payers, isSettled w' k p = true) ∧
      ∀ a, (Joint.balance w' a).val = position w a) := by
  intro w w'
  have healthy : Joint.Healthy d.tokenAddr w := Joint.worldHealthy d inputs
  obtain ⟨⟨reg,m⟩,_⟩ := healthy.accounted
  obtain ⟨b,books,debts⟩ := worldStands d inputs
  have inside : (calls.map Prod.snd).Subperm (unsettled w) := by
    apply distinct.subperm
    intro x member
    obtain ⟨c,mem,rfl⟩ := List.mem_map.mp member
    exact due c mem
  have part : ((calls.map debtFor : List (Debt Address)) : Multiset (Debt Address)) ≤ b.debts := by
    have pairs : calls.map debtFor = (calls.map Prod.snd).map fun due => debtOf due.1 due.2 := by
      rw [List.map_map]
      rfl
    rw [debts,pairs,outstanding]
    exact Multiset.map_le_map (f := fun due : Bill Address × Address => debtOf due.1 due.2) (Multiset.coe_le.mpr inside)
  have enough : ∀ a, payable (calls.map debtFor) a ≤ b.ledger.holding a := by
    intro a
    rw [← books.holdings]
    exact able a
  obtain ⟨b',path,_⟩ := clearsInOrder part enough
  obtain ⟨succeed,healthy',stands',gone⟩ := pathSettles healthy ⟨books,debts⟩ distinct due signed path
  refine ⟨succeed,gone,?_⟩
  intro all
  have nothing : unsettled w' = [] := by
    have nodup := gone.nodup_iff.mp (unsettledNodup m)
    by_contra some
    obtain ⟨x,member⟩ := List.exists_mem_of_ne_nil _ some
    have open' : x ∈ unsettled w := gone.mem_iff.mpr (List.mem_append_right _ member)
    exact (List.nodup_append.mp nodup).2.2 x (all x open') x member rfl
  constructor
  · intro k bill found p listed
    obtain ⟨⟨reg',m'⟩,_⟩ := healthy'.accounted
    have number := (billSound m' found).1
    by_contra fresh
    have missing : (bill,p) ∈ unsettled w' := by
      rw [unsettledExact m',number]
      exact ⟨getBillExact.mp found,listed,eq_false_of_ne_true fresh⟩
    rw [nothing] at missing
    contradiction
  · intro a
    have kept : b'.position = b.position := by
      rw [pathPosition path,List.sum_eq_zero,add_zero]
      intro x member
      obtain ⟨_,inside,rfl⟩ := List.mem_map.mp member
      obtain ⟨_,_,rfl⟩ := List.mem_map.mp inside
      rfl
    have clear : b'.debts = 0 := by
      rw [stands'.debts,outstanding,nothing]
      rfl
    rw [← positionStands ⟨books,debts⟩,← kept,b'.positionCleared clear,← stands'.books.holdings]
    rfl

theorem balanceNonneg {tokenAddr : Address} {w : Joint.World Address} (healthy : Joint.Healthy tokenAddr w) (a : Address) :
    0 ≤ (Joint.balance w a).val := by
  obtain ⟨l,books⟩ := healthy.backed
  exact books.holdings a ▸ l.nonneg a

def twoOwing : List (Env Nat × Joint.Call Nat) :=
  [Joint.trialMint,(Joint.trialEnv,.token (.mint 2 (.lit 10))),(Joint.trialEnv,.bill (.createBill 2 [1,2,1] (.lit 5) [])),
   (Joint.trialEnv,.bill (.createBill 1 [2] (.lit 4) []))]
def lastFirst : List (Order Nat) :=
  (unsettled (Joint.trialDeployment.world twoOwing)).reverse.map fun due => (Joint.trialEnv,due)

theorem lastFirstPays :
    let w := Joint.trialDeployment.world twoOwing
    let w' := run (Joint.step 0) w ((lastFirst.map callFor).map settleInput)
    lastFirst.length = 3 ∧ AllSucceed 0 w (lastFirst.map callFor) ∧ (Joint.balance w' 1).val = 99 ∧
      isSettled w' (.lit 1) 2 = true := by
  intro w w'
  have able : ∀ a, toPay lastFirst a ≤ (Joint.balance w a).val := by
    intro a
    have owed : toPay lastFirst a = (if 2 = a then 4 else 0) + ((if 1 = a then 5 else 0) + ((if 2 = a then 5 else 0) + 0)) := by
      have debts : lastFirst.map debtFor = [⟨2,1,4⟩,⟨1,2,5⟩,⟨2,2,5⟩] := by decide +kernel
      rw [toPay,debts,payableCons,payableCons,payableCons]
      rfl
    have holds := balanceNonneg (Joint.worldHealthy Joint.trialDeployment twoOwing) a
    have one : (Joint.balance w 1).val = 100 := by decide +kernel
    have two : (Joint.balance w 2).val = 10 := by decide +kernel
    rw [owed]
    obtain rfl | not1 := eq_or_ne 1 a
    · rw [one]
      decide
    · obtain rfl | not2 := eq_or_ne 2 a
      · rw [two]
        decide
      · rw [if_neg not1,if_neg not2,if_neg not2]
        exact holds
  have signed : ∀ c ∈ lastFirst, Signed c := by
    intro c member
    obtain ⟨_,_,rfl⟩ := List.mem_map.mp member
    exact ⟨rfl,rfl⟩
  obtain ⟨succeed,_,cleared⟩ := anyOrderPays Joint.trialDeployment twoOwing lastFirst (by decide +kernel)
    (by decide +kernel) signed able
  obtain ⟨settled,balances⟩ := cleared (by decide +kernel)
  refine ⟨by decide +kernel,succeed,?_,?_⟩
  · have moved : position w 1 = 99 := by decide +kernel
    exact (balances 1).trans moved
  · have bill : ∃ b, getBill w' (.lit 1) = .ok b ∧ 2 ∈ b.payers := ⟨_,rfl,by decide +kernel⟩
    obtain ⟨b,found,listed⟩ := bill
    exact settled _ b found 2 listed

end SplitBill.Payoff
