import SplitBill.Authority
import SplitBill.Refusal

/-! When a payer can settle, and who can take that away. What settle asks for is the bill, the listing,
the missing flag and the payer's balance; the credit of the creator never fails. Each of the four is
lost only by a call that the payer authorised, or by a spender the payer has approved. -/
namespace SplitBill.Payable
open Host Transition Joint
variable {Address : Type} [DecidableEq Address]

def Ready (w : World Address) (id : U32) (q : Address) : Prop :=
  ∃ bill, BillSplit.getBill w id = .ok bill ∧ q ∈ bill.payers ∧ BillSplit.isSettled w id q = false ∧
    bill.share.val ≤ (balance w q).val

section Settle
variable {tokenAddr : Address} {env : Env Address} {w w' : World Address} {id : U32} {q : Address}

theorem settleSucceeds (healthy : Healthy tokenAddr w) :
    (∃ w', invoke tokenAddr env w (.bill (.settle id q)) = .ok w') ↔
      env.authorised q = true ∧ env.nestedAuthorised q = true ∧ Ready w id q := by
  constructor
  · intro ⟨w',ok⟩
    cases invokeEffect ok with
    | @settle _ _ bill t auth found listed fresh done =>
      obtain ⟨nested,_,enough⟩ := (TokenLedger.invokeEffect done).admitted
      exact ⟨auth,nested,bill,found,listed,fresh,enough⟩
  · intro ⟨auth,nested,bill,found,listed,fresh,enough⟩
    obtain ⟨⟨⟨reg,m⟩,tally⟩,backed⟩ := healthy
    have positive := (BillRegister.billSound m found).2.1
    have admitted : TokenLedger.Admitted env.nested w.token (.transfer q ⟨bill.creator,none⟩ bill.share) :=
      ⟨nested,positive.le,enough⟩
    obtain ⟨t,paid⟩ := (Refusal.movingSucceeds (Refusal.backedSolvent backed) rfl).mpr admitted
    have sent : deployed tokenAddr env.nested tokenAddr q ⟨bill.creator,none⟩ bill.share w.token = .ok t := by
      rw [deployed,if_pos rfl]
      exact paid
    exact ⟨_,BillSplit.settleExact.mpr
      ⟨auth,bill,BillRegister.getBillExact.mp found,listed,fresh,tokenAddr,tally.wired,t,sent,rfl⟩⟩

theorem flagConsent {c : Joint.Call Address} (ok : invoke tokenAddr env w c = .ok w')
    (fresh : BillSplit.isSettled w id q = false) (flag : BillSplit.isSettled w' id q = true) :
    env.authorised q = true := by
  have kept : ∀ v : World Address, v.store.settled = w.store.settled → BillSplit.isSettled v id q = false := by
    intro v same
    rw [BillSplit.isSettled,same]
    exact fresh
  cases invokeEffect ok with
  | token done => exact absurd (flag.symm.trans (kept _ rfl)) (by decide)
  | createBill created _ =>
    obtain ⟨_,_,_,rfl⟩ := BillSplit.createBillExact.mp created
    exact absurd (flag.symm.trans (kept _ rfl)) (by decide)
  | settle auth _ _ _ _ =>
    rw [BillRegister.chargedFlag] at flag
    split at flag
    · rename_i same
      rw [same.2]
      exact auth
    · exact absurd (flag.symm.trans fresh) (by decide)

end Settle

def drawsOn (q : Address) : Joint.Call Address → Bool
  | .token (.transferFrom _ source _ _) | .token (.burnFrom _ source _) => source = q
  | _ => false

def Foreign (tokenAddr q : Address) (w : World Address) (i : Env Address × Joint.Call Address) : Prop :=
  i.1.authorised q = false ∧ (drawsOn q i.2 = true → (invoke tokenAddr i.1 w i.2).toOption.isSome = false)
instance (tokenAddr q : Address) (w : World Address) (i : Env Address × Joint.Call Address) :
    Decidable (Foreign tokenAddr q w i) := by unfold Foreign; infer_instance

theorem stepReady {tokenAddr : Address} {id : U32} {q : Address} (w : World Address) (i : Env Address × Joint.Call Address)
    (foreign : Foreign tokenAddr q w i) (h : Healthy tokenAddr w ∧ Ready w id q) :
    Healthy tokenAddr (step tokenAddr w i) ∧ Ready (step tokenAddr w i) id q := by
  refine ⟨stepHealthy tokenAddr w i h.1,?_⟩
  have kept := stepExtends h.1 i
  obtain ⟨healthy,ready⟩ := h
  obtain ⟨unsigned,undrawn⟩ := foreign
  unfold step at kept ⊢
  cases result : invoke tokenAddr i.1 w i.2 with
  | error trap => exact ready
  | ok w' =>
    rw [result] at kept
    obtain ⟨bill,found,listed,fresh,enough⟩ := ready
    refine ⟨bill,BillRegister.getBillExact.mpr (kept.bill id bill (BillRegister.getBillExact.mp found)),listed,?_,?_⟩
    · by_contra flag
      have auth := flagConsent result fresh (by simpa using flag)
      exact absurd (auth.symm.trans unsigned) (by decide)
    · -- a smaller balance would need q, or somebody drawing on q
      refine enough.trans (not_lt.mp fun less => ?_)
      obtain ⟨env,c⟩ := i
      cases Authority.lossConsent result less with
      | transfer auth | burn auth | settle auth => exact absurd (auth.symm.trans unsigned) (by decide)
      | @spend c _ _ _ _ call =>
        have drawing : drawsOn q (.token c) = true := by
          rcases call with ⟨target,rfl⟩ | rfl <;> simp [drawsOn]
        have failed := undrawn drawing
        simp [result,Except.toOption] at failed

theorem nobodyElseBlocks (d : Deployment Address) (inputs : List (Env Address × Joint.Call Address)) (env env' : Env Address)
    (id : U32) (q : Address) (can : ∃ w', invoke d.tokenAddr env (d.world inputs) (.bill (.settle id q)) = .ok w')
    (later : List (Env Address × Joint.Call Address))
    (foreign : Along (step d.tokenAddr) (Foreign d.tokenAddr q) (d.world inputs) later)
    (auth : env'.authorised q = true) (nested : env'.nestedAuthorised q = true) :
    ∃ w', invoke d.tokenAddr env' (run (step d.tokenAddr) (d.world inputs) later) (.bill (.settle id q)) = .ok w' := by
  have healthy := worldHealthy d inputs
  obtain ⟨_,_,ready⟩ := (settleSucceeds healthy).mp can
  obtain ⟨healthy,ready⟩ := alongPreserves stepReady ⟨healthy,ready⟩ foreign
  exact (settleSucceeds healthy).mpr ⟨auth,nested,ready⟩

def strangers : Env Nat := {trialEnv with authorised := fun a => a ≠ 1}

def meanwhile : List (Env Nat × Joint.Call Nat) :=
  [(strangers,.token (.mint 2 (.lit 1000))),(strangers,.token (.setAdmin 2)),(strangers,.bill (.settle (.lit 1) 2)),
   (strangers,.token (.transferFrom 2 1 2 (.lit 7))),(strangers,.bill (.createBill 3 [1,3] (.lit 1) []))]

theorem payerStillSettles : ∃ w', invoke 0 trialEnv
    (run (step 0) (trialDeployment.world [trialMint,(trialEnv,.bill (.createBill 2 [1,2] (.lit 5) []))]) meanwhile)
      (.bill (.settle (.lit 1) 1)) = .ok w' :=
  nobodyElseBlocks trialDeployment [trialMint,(trialEnv,.bill (.createBill 2 [1,2] (.lit 5) []))] trialEnv trialEnv
    (.lit 1) 1 ⟨_,rfl⟩ meanwhile (by decide +kernel) rfl rfl

end SplitBill.Payable
