import SplitBill.Refusal

/-! The allowance as it is read and as it is spent. The view answers zero for what is missing or expired,
spending stops at the expiry before it looks at the amount. Only a draw of nothing tells the two apart. -/
namespace SplitBill.SpendingView
open Host StableToken TokenLedger Allowance Transition
variable {Address : Type} [DecidableEq Address]

/- The expiry check of spend_allowance, for which a missing entry expires at ledger 0. -/
def Unexpired (env : Env Address) (s : State Address) (source spender : Address) : Prop :=
  env.sequence.val ≤ (storedAllowance env s source spender).expirationLedger.val
instance (env : Env Address) (s : State Address) (source spender : Address) : Decidable (Unexpired env s source spender) := by
  unfold Unexpired; infer_instance

section View
variable {env : Env Address} {s s' : State Address} {source spender : Address} {amount : I128}

omit [DecidableEq Address] in
theorem allowanceRead (env : Env Address) (s : State Address) (source spender : Address) :
    allowance env s source spender =
      if Unexpired env s source spender then (storedAllowance env s source spender).amount else zero := by
  cases found : Temporary.get env s.allowances (source,spender) with
  | none =>
    have stored : (storedAllowance env s source spender).amount = zero := by rw [storedAllowance,found]; rfl
    rw [allowance,found,stored,ite_self]
  | some data =>
    have stored : storedAllowance env s source spender = data := by rw [storedAllowance,found]; rfl
    simp only [allowance,found,Unexpired,stored,ge_iff_le]

omit [DecidableEq Address] in
theorem spendableRead (nonneg : 0 ≤ amount.val) : Spendable env s source spender amount ↔
    amount.val ≤ (allowance env s source spender).val ∧ (amount.val = 0 → Unexpired env s source spender) := by
  rw [allowanceRead]
  by_cases unexpired : Unexpired env s source spender
  · rw [if_pos unexpired]
    exact ⟨fun spendable => ⟨spendable.2,fun _ => unexpired⟩,fun enough => ⟨unexpired,enough.1⟩⟩
  · rw [if_neg unexpired]
    constructor
    · intro spendable
      exact absurd spendable.1 unexpired
    · intro ⟨nothing,zeroDraw⟩
      exact absurd (zeroDraw (le_antisymm nothing nonneg)) unexpired

theorem drawnRead {c : Call Address} (ok : invoke env s c = .ok s') (draws : drawn source spender c = some amount) :
    (allowance env s' source spender).val = (allowance env s source spender).val - amount.val := by
  have kept := Temporary.nowKept env s.allowances (source,spender)
  cases entryEffect (invokeEffect ok) source spender with
  | untouched _ idle _ => simp [idle] at draws
  | approved _ => simp [drawn] at draws
  | @drawn _ taken left call nonneg spendable lower stored =>
    have same : taken = amount := Option.some.inj ((drawnCall call).1.symm.trans draws)
    subst same
    have before : allowance env s source spender = (storedAllowance env s source spender).amount := by
      rw [allowanceRead]
      exact if_pos spendable.1
    have after : allowance env s' source spender = left := by
      unfold allowance
      rw [Temporary.getLive stored kept]
      exact if_pos spendable.1
    rw [before,after,lower]

theorem otherRead {c : Call Address} (ok : invoke env s c = .ok s') (draws : drawn source spender c = some amount)
    (env' : Env Address) {owner delegate : Address} (other : (owner,delegate) ≠ (source,spender)) :
    allowance env' s' owner delegate = allowance env' s owner delegate := by
  have elsewhere : ∀ taken, drawn owner delegate c ≠ some taken := by
    intro taken both
    cases c <;> simp only [drawn,reduceCtorEq,Option.ite_none_right_eq_some] at draws both
    all_goals
      obtain ⟨⟨rfl,rfl⟩,_⟩ := draws
      obtain ⟨⟨rfl,rfl⟩,_⟩ := both
      exact other rfl
  cases entryEffect (invokeEffect ok) owner delegate with
  | untouched _ _ same => rw [allowance,allowance,Temporary.getCongr env' same]
  | approved _ => simp [drawn] at draws
  | drawn call _ _ _ _ => exact absurd (drawnCall call).1 (elsewhere _)

end View

theorem spendingMatchesView (admin : Address) (decimal : U32) (name symbol : List UInt8) (inputs : List (Input Address))
    (env : Env Address) (source spender target : Address) (amount : I128) (auth : env.authorised spender = true) :
    let s := run step (constructed admin decimal name symbol) inputs
    ∀ c, c = .transferFrom spender source target amount ∨ c = .burnFrom spender source amount →
      ((∃ s', invoke env s c = .ok s') ↔ 0 ≤ amount.val ∧ amount.val ≤ (allowance env s source spender).val ∧
        amount.val ≤ (balance s source).val ∧ (amount.val = 0 → Unexpired env s source spender)) ∧
      ∀ s', invoke env s c = .ok s' →
        (allowance env s' source spender).val = (allowance env s source spender).val - amount.val ∧
        ∀ env' owner delegate, (owner,delegate) ≠ (source,spender) →
          allowance env' s' owner delegate = allowance env' s owner delegate := by
  intro s c call
  have solvent := Refusal.backedSolvent (runBacked admin decimal name symbol inputs)
  have draws : drawn source spender c = some amount := by
    rcases call with rfl | rfl <;> simp [drawn]
  have moving : (postingOf c).source.isSome = true := by
    rcases call with rfl | rfl <;> rfl
  have needed : Admitted env s c ↔ env.authorised spender = true ∧ 0 ≤ amount.val ∧
      Spendable env s source spender amount ∧ amount.val ≤ (balance s source).val := by
    rcases call with rfl | rfl <;> rfl
  refine ⟨?_,?_⟩
  · rw [Refusal.movingSucceeds solvent moving,needed]
    constructor
    · rintro ⟨_,nonneg,spendable,enough⟩
      obtain ⟨allowed,unexpired⟩ := (spendableRead nonneg).mp spendable
      exact ⟨nonneg,allowed,enough,unexpired⟩
    · rintro ⟨nonneg,allowed,enough,unexpired⟩
      exact ⟨auth,nonneg,(spendableRead nonneg).mpr ⟨allowed,unexpired⟩,enough⟩
  · intro s' ok
    exact ⟨drawnRead ok draws,fun env' _ _ other => otherRead ok draws env' other⟩

theorem nothingRefused :
    let s := run step (constructed 9 (.lit 7) [] []) []
    invoke (ledgerAt 1) s (.transferFrom 2 1 3 (.lit 0)) = .error Error.allowanceExpired.trap ∧
    ¬ ((∃ s', invoke (ledgerAt 1) s (.transferFrom 2 1 3 (.lit 0)) = .ok s') ↔
      0 ≤ (.lit 0 : I128).val ∧ (.lit 0 : I128).val ≤ (allowance (ledgerAt 1) s 1 2).val ∧
      (.lit 0 : I128).val ≤ (balance s 1).val) := by
  intro s
  have refused : invoke (ledgerAt 1) s (.transferFrom 2 1 3 (.lit 0)) = .error Error.allowanceExpired.trap := rfl
  refine ⟨refused,fun agree => ?_⟩
  obtain ⟨s',ok⟩ := agree.mpr ⟨by decide,by decide,by decide⟩
  exact absurd (refused.symm.trans ok) (by simp)

def approvedRun : List (Input Nat) := [(ledgerAt 1,.mint 1 (.lit 10)),(ledgerAt 1,.approve 1 2 (.lit 6) (.lit 3))]

theorem lastLedgerSpends : ∃ s', invoke (ledgerAt 3) (run step (constructed 9 (.lit 7) [] []) approvedRun)
    (.burnFrom 2 1 (.lit 4)) = .ok s' ∧ (allowance (ledgerAt 3) s' 1 2).val = 2 := by
  obtain ⟨succeeds,after⟩ := spendingMatchesView 9 (.lit 7) [] [] approvedRun (ledgerAt 3) 1 2 3 (.lit 4) rfl
    (.burnFrom 2 1 (.lit 4)) (.inr rfl)
  obtain ⟨s',ok⟩ := succeeds.mpr ⟨by decide,by decide,by decide,by decide⟩
  exact ⟨s',ok,(after s' ok).1⟩

end SplitBill.SpendingView
