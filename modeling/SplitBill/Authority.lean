import SplitBill.Allowance
import SplitBill.Joint

/-! Whose authority each change of the token needs, first for one token call and
then for any call of either contract. The settle path is the nested transfer, for
which bill-split has asked the payer once more. -/
namespace SplitBill.Authority
open Host Transition
variable {Address : Type} [DecidableEq Address]

section Token
open StableToken TokenLedger
variable {env : Env Address} {s s' : State Address} {c : StableToken.Call Address}

omit [DecidableEq Address] in
theorem storedData {source spender : Address} {amount : I128} (positive : 0 < amount.val)
    (spendable : Spendable env s source spender amount) :
    Temporary.get env s.allowances (source,spender) = some (StableToken.storedAllowance env s source spender) := by
  have allowed := spendable.2
  cases found : Temporary.get env s.allowances (source,spender) with
  | some data => simp [StableToken.storedAllowance,found]
  | none =>
    simp only [StableToken.storedAllowance,found,Option.getD_none,zeroVal] at allowed
    omega

theorem allowanceCases (effect : TokenLedger.Effect env s s' c) (source spender : Address) :
    Temporary.get env s'.allowances (source,spender) = Temporary.get env s.allowances (source,spender) ∨
    (∃ amount expiration, c = .approve source spender amount expiration ∧
      Temporary.get env s'.allowances (source,spender) = some ⟨amount,expiration⟩) ∨
    (∃ amount left, ((∃ target, c = .transferFrom spender source target amount) ∨ c = .burnFrom spender source amount) ∧
      left.val = (StableToken.storedAllowance env s source spender).amount.val - amount.val ∧
      Temporary.get env s'.allowances (source,spender) =
        some ⟨left,(StableToken.storedAllowance env s source spender).expirationLedger⟩) := by
  cases Allowance.entryEffect effect source spender with
  | untouched _ _ same => exact .inl (Temporary.getCongr env same)
  | approved stored => exact .inr (.inl ⟨_,_,rfl,Temporary.getLive stored (Temporary.nowKept ..)⟩)
  | drawn call _ _ lower stored =>
    exact .inr (.inr ⟨_,_,call,lower,Temporary.getLive stored (Temporary.nowKept ..)⟩)

theorem lossPosting (effect : TokenLedger.Effect env s s' c) {a : Address}
    (less : (StableToken.balance s' a).val < (StableToken.balance s a).val) :
    (postingOf c).source = some a ∧ 0 < (postingOf c).amount := by
  have balance := effect.moves.balance a
  have nonneg := effect.moves.affordable.1
  change (readBalance s' a).val < (readBalance s a).val at less
  by_cases paying : (postingOf c).source = some a
  · rw [if_pos paying] at balance
    refine ⟨paying,?_⟩
    split at balance <;> omega
  · rw [if_neg paying] at balance
    split at balance <;> omega

theorem lossCases (effect : TokenLedger.Effect env s s' c) {a : Address}
    (less : (StableToken.balance s' a).val < (StableToken.balance s a).val) :
    (∃ target amount, c = .transfer a target amount) ∨ (∃ amount, c = .burn a amount) ∨
    (∃ spender amount, 0 < amount.val ∧
      ((∃ target, c = .transferFrom spender a target amount) ∨ c = .burnFrom spender a amount)) := by
  obtain ⟨paying,positive⟩ := lossPosting effect less
  cases c <;> simp only [postingOf,reduceCtorEq,Option.some.injEq] at paying positive <;> subst paying <;>
    simp [positive]

theorem transferLoss {source : Address} {target : MuxedAddress Address} {amount : I128}
    (effect : TokenLedger.Effect env s s' (.transfer source target amount)) (a : Address) :
    (StableToken.balance s a).val - (StableToken.balance s' a).val =
      (if source = a then amount.val else 0) - (if target.address = a then amount.val else 0) := by
  have balance := effect.moves.balance a
  simp only [postingOf,Option.some.injEq] at balance
  change (readBalance s a).val - (readBalance s' a).val = _
  omega

theorem spendingReduces {a spender : Address} {amount : I128} (positive : 0 < amount.val)
    (effect : TokenLedger.Effect env s s' c)
    (spends : (∃ target, c = .transferFrom spender a target amount) ∨ c = .burnFrom spender a amount) :
    env.authorised spender = true ∧ ∃ data left, Temporary.get env s.allowances (a,spender) = some data ∧
      env.sequence.val ≤ data.expirationLedger.val ∧ amount.val ≤ data.amount.val ∧
      left.val = data.amount.val - amount.val ∧
      Temporary.get env s'.allowances (a,spender) = some ⟨left,data.expirationLedger⟩ := by
  have auth : env.authorised spender = true := by
    have admitted := effect.admitted
    rcases spends with ⟨target,rfl⟩ | rfl <;> exact admitted.1
  have draws := (Allowance.drawnCall spends).1
  cases Allowance.entryEffect effect a spender with
  | untouched _ idle _ =>
    rw [idle] at draws
    contradiction
  | approved _ => simp at spends
  | @drawn _ taken left call _ spendable lower stored =>
    have same : taken = amount := Option.some.inj ((Allowance.drawnCall call).1.symm.trans draws)
    subst same
    exact ⟨auth,_,left,storedData positive spendable,spendable.1,spendable.2,lower,
      Temporary.getLive stored (Temporary.nowKept ..)⟩

end Token

section Both
open Joint
variable {tokenAddr : Address} {env : Env Address} {w w' : World Address} {c : Joint.Call Address}

def Raised (env : Env Address) (w w' : World Address) (source spender : Address) : Prop :=
  ((storedAllowance w env source spender).elim 0 (fun d => d.amount.val)) <
    ((storedAllowance w' env source spender).elim 0 (fun d => d.amount.val))

inductive Consent (env : Env Address) (w w' : World Address) (a : Address) : Joint.Call Address → Prop
  | transfer {target amount} (auth : env.authorised a = true) : Consent env w w' a (.token (.transfer a target amount))
  | burn {amount} (auth : env.authorised a = true) : Consent env w w' a (.token (.burn a amount))
  | settle {id bill} (auth : env.authorised a = true) (found : BillSplit.getBill w id = .ok bill)
      (listed : a ∈ bill.payers) (fresh : BillSplit.isSettled w id a = false)
      (exact : (balance w a).val - (balance w' a).val = bill.share.val) : Consent env w w' a (.bill (.settle id a))
  | spend {c spender amount data left}
      (call : (∃ target, c = .transferFrom spender a target amount) ∨ c = .burnFrom spender a amount)
      (auth : env.authorised spender = true) (stored : storedAllowance w env a spender = some data)
      (unexpired : env.sequence.val ≤ data.expirationLedger.val) (enough : amount.val ≤ data.amount.val)
      (reduced : left.val = data.amount.val - amount.val)
      (after : storedAllowance w' env a spender = some ⟨left,data.expirationLedger⟩) : Consent env w w' a (.token c)

theorem lossConsent (ok : invoke tokenAddr env w c = .ok w') {a : Address}
    (less : (balance w' a).val < (balance w a).val) : Consent env w w' a c := by
  cases invokeEffect ok with
  | createBill _ token =>
    simp only [balance,token] at less
    omega
  | @settle id payer bill t auth found listed fresh done =>
    have loss := transferLoss (TokenLedger.invokeEffect done) a
    change (balance w a).val - (StableToken.balance t a).val = _ at loss
    change (StableToken.balance t a).val < _ at less
    have payee : payer = a := by
      by_contra other
      rw [if_neg other] at loss
      have nonneg := (TokenLedger.invokeEffect done).admitted.2.1
      split at loss <;> omega
    subst payee
    refine .settle auth found listed fresh ?_
    change (balance w payer).val - (StableToken.balance t payer).val = _
    rw [if_pos rfl] at loss
    split at loss <;> omega
  | @token call t done =>
    have effect := TokenLedger.invokeEffect done
    have admitted := effect.admitted
    rcases lossCases effect less with ⟨target,amount,rfl⟩ | ⟨amount,rfl⟩ | ⟨spender,amount,positive,spends⟩
    · exact .transfer admitted.1
    · exact .burn admitted.1
    · obtain ⟨auth,data,left,stored,unexpired,enough,reduced,after⟩ := spendingReduces positive effect spends
      exact .spend spends auth stored unexpired enough reduced after

theorem raiseApproved (ok : invoke tokenAddr env w c = .ok w') {a spender : Address}
    (more : Raised env w w' a spender) :
    ∃ amount expiration, c = .token (.approve a spender amount expiration) ∧ env.authorised a = true := by
  cases invokeEffect ok with
  | createBill _ token =>
    rw [Raised,storedAllowance,storedAllowance,token] at more
    exact absurd more (lt_irrefl _)
  | settle _ _ _ _ done =>
    have same := (TokenLedger.invokeEffect done).allowances
    simp only [TokenLedger.AllowancesAfter] at same
    simp only [Raised,storedAllowance,BillSplit.charged,same] at more
    exact absurd more (lt_irrefl _)
  | @token call t done =>
    have effect := TokenLedger.invokeEffect done
    have admitted := effect.admitted
    rcases allowanceCases effect a spender with same | ⟨amount,expiration,rfl,_⟩ | ⟨amount,left,spends,lower,after⟩
    · simp only [Raised,storedAllowance,same] at more
      exact absurd more (lt_irrefl _)
    · exact ⟨amount,expiration,rfl,admitted.1⟩
    · -- what is left is the old amount less a nonnegative one
      have nonneg := effect.moves.affordable.1
      have before : (storedAllowance w env a spender).elim 0 (fun d => d.amount.val) =
          (StableToken.storedAllowance env w.token a spender).amount.val := by
        unfold storedAllowance StableToken.storedAllowance
        cases Temporary.get env w.token.allowances (a,spender) <;> rfl
      simp only [Raised,before] at more
      simp only [storedAllowance,after,Option.elim_some] at more
      rcases spends with ⟨target,rfl⟩ | rfl <;>
      · simp only [TokenLedger.postingOf] at nonneg
        omega

theorem supplyMinted (ok : invoke tokenAddr env w c = .ok w') (more : (totalSupply w).val < (totalSupply w').val) :
    ∃ target amount admin, c = .token (.mint target amount) ∧ w.token.admin = some admin ∧
      env.authorised admin = true := by
  cases invokeEffect ok with
  | createBill _ token =>
    simp only [totalSupply,token] at more
    omega
  | settle _ _ _ _ done =>
    have supply := (TokenLedger.invokeEffect done).moves.supply
    simp only [TokenLedger.postingOf,Posting.issued] at supply
    change _ < (StableToken.totalSupply _).val at more
    simp only [totalSupply,BillSplit.charged,supply] at more
    simp at more
  | @token call t done =>
    have effect := TokenLedger.invokeEffect done
    have admitted := effect.admitted
    have supply := effect.moves.supply
    have nonneg := effect.moves.affordable.1
    change (StableToken.totalSupply w.token).val < (StableToken.totalSupply t).val at more
    cases call with
    | mint target amount => exact ⟨target,amount,admitted.2.choose,rfl,admitted.2.choose_spec⟩
    | _ =>
      simp [TokenLedger.postingOf,Posting.issued] at supply nonneg
      omega

theorem adminHandedOver (ok : invoke tokenAddr env w c = .ok w') (changed : w'.token.admin ≠ w.token.admin) :
    ∃ newAdmin admin, c = .token (.setAdmin newAdmin) ∧ w.token.admin = some admin ∧ env.authorised admin = true := by
  cases invokeEffect ok with
  | createBill _ token => exact absurd (congrArg StableToken.State.admin token) changed
  | settle _ _ _ _ done => exact absurd (TokenLedger.invokeEffect done).admin changed
  | @token call t done =>
    have effect := TokenLedger.invokeEffect done
    have admitted := effect.admitted
    have after := effect.admin
    cases call with
    | setAdmin newAdmin => exact ⟨newAdmin,admitted.choose,rfl,admitted.choose_spec⟩
    | _ => exact absurd after changed

theorem changesNeedAuthority (d : Deployment Address) (inputs : List (Env Address × Joint.Call Address))
    (env : Env Address) (c : Joint.Call Address) (w' : World Address)
    (ok : invoke d.tokenAddr env (d.world inputs) c = .ok w') (a : Address) :
    ((balance w' a).val < (balance (d.world inputs) a).val → Consent env (d.world inputs) w' a c) ∧
    (∀ spender, Raised env (d.world inputs) w' a spender →
      ∃ amount expiration, c = .token (.approve a spender amount expiration) ∧ env.authorised a = true) ∧
    ((totalSupply (d.world inputs)).val < (totalSupply w').val →
      ∃ target amount admin, c = .token (.mint target amount) ∧ (d.world inputs).token.admin = some admin ∧
        env.authorised admin = true) ∧
    (w'.token.admin ≠ (d.world inputs).token.admin →
      ∃ newAdmin admin, c = .token (.setAdmin newAdmin) ∧ (d.world inputs).token.admin = some admin ∧
        env.authorised admin = true) :=
  ⟨lossConsent ok,fun _ => raiseApproved ok,supplyMinted ok,adminHandedOver ok⟩

theorem ownTransferConsented : ∃ w',
    invoke 0 trialEnv (trialDeployment.world [trialMint]) (.token (.transfer 1 ⟨2,none⟩ (.lit 30))) = .ok w' ∧
    (balance w' 1).val = 70 ∧ Consent trialEnv (trialDeployment.world [trialMint]) w' 1
      (.token (.transfer 1 ⟨2,none⟩ (.lit 30))) :=
  ⟨_,rfl,rfl,(changesNeedAuthority trialDeployment [trialMint] trialEnv _ _ rfl 1).1 (by decide)⟩

end Both
end SplitBill.Authority
