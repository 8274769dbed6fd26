import SplitBill.Allowance

/-! Why a token call is refused. No single balance bounds what may be credited to it; the supply does,
since the balances are a ledger with the supply as its total. Arithmetic therefore traps only where
the supply itself would leave its range, in a mint. -/
namespace SplitBill.Refusal
open Host StableToken TokenLedger Allowance Transition
variable {Address : Type} [DecidableEq Address]

def signer (s : State Address) : Call Address → Option Address
  | .mint _ _ | .setAdmin _ => s.admin
  | .approve source _ _ _ | .transfer source _ _ | .burn source _ => some source
  | .transferFrom spender _ _ _ | .burnFrom spender _ _ => some spender

inductive Refused (env : Env Address) (s : State Address) (c : Call Address) : Trap → Prop
  | unauthorised {a} (needed : signer s c = some a) (missing : env.authorised a = false) : Refused env s c .unauthorised
  | negative (below : (postingOf c).amount < 0) : Refused env s c Error.negativeAmount.trap
  | expired {source spender amount} (draws : drawn source spender c = some amount)
      (late : (storedAllowance env s source spender).expirationLedger.val < env.sequence.val) :
      Refused env s c Error.allowanceExpired.trap
  | allowance {source spender amount} (draws : drawn source spender c = some amount)
      (little : (storedAllowance env s source spender).amount.val < amount.val) :
      Refused env s c Error.insufficientAllowance.trap
  | balance {a} (paying : (postingOf c).source = some a) (poor : (balance s a).val < (postingOf c).amount) :
      Refused env s c Error.insufficientBalance.trap

structure Solvent (s : State Address) : Prop where
  supply : 0 ≤ (totalSupply s).val
  nonneg : ∀ a, 0 ≤ (readBalance s a).val
  covered : ∀ a, (readBalance s a).val ≤ (totalSupply s).val
  pair : ∀ a b, a ≠ b → (readBalance s a).val + (readBalance s b).val ≤ (totalSupply s).val

omit [DecidableEq Address] in
theorem backedSolvent {s : State Address} (backed : Backed s) : Solvent s := by
  obtain ⟨l,books⟩ := backed
  refine ⟨?_,?_,?_,?_⟩
  · rw [books.total]
    exact l.totalNonneg
  · intro a
    rw [books.holdings]
    exact l.nonneg a
  · intro a
    rw [books.holdings,books.total]
    exact l.holdingBound a
  · intro a b apart
    rw [books.holdings,books.holdings,books.total]
    exact l.pairBound apart

section Helpers
variable {env : Env Address} {s : State Address} {amount : I128} {trap : Trap}

theorem checkNonnegError : checkNonneg amount = .error trap ↔ amount.val < 0 ∧ Error.negativeAmount.trap = trap := by
  simp [checkNonneg]

theorem spendBalanceError (nonneg : 0 ≤ amount.val) {id : Address}
    (refused : spendBalance s id amount = .error trap) :
    (balance s id).val < amount.val ∧ Error.insufficientBalance.trap = trap := by
  have most := (readBalance s id).upper
  simp only [spendBalance,bindError,failIfError,failIfOk,arithmeticError,MachineInt.sub,MachineInt.checkedNone,
    reduceCtorEq,and_false,exists_false,or_false] at refused
  rcases refused with poor | ⟨_,enough,outside,_⟩
  · exact poor
  · omega

theorem spendAllowanceError (nonneg : 0 ≤ amount.val) {source spender : Address}
    (refused : spendAllowance env s source spender amount = .error trap) :
    ((storedAllowance env s source spender).expirationLedger.val < env.sequence.val ∧
      Error.allowanceExpired.trap = trap) ∨
    ((storedAllowance env s source spender).amount.val < amount.val ∧ Error.insufficientAllowance.trap = trap) := by
  have most := (storedAllowance env s source spender).amount.upper
  simp only [spendAllowance,bindError,failIfError,failIfOk,arithmeticError,MachineInt.sub,MachineInt.checkedNone,
    reduceCtorEq,and_false,exists_false,or_false] at refused
  rcases refused with late | ⟨_,_,little | ⟨_,enough,outside,_⟩⟩
  · exact .inl late
  · exact .inr little
  · omega

theorem creditError {id : Address} (refused : creditBalance s id amount = .error trap) :
    (readBalance s id).val + amount.val < -2^127 ∨ 2^127 - 1 < (readBalance s id).val + amount.val := by
  simp only [creditBalance,bindError,arithmeticError,MachineInt.add,MachineInt.checkedNone,reduceCtorEq,and_false,
    exists_false,or_false] at refused
  omega

omit [DecidableEq Address] in
theorem bumpError (refused : bumpSupply s amount = .error trap) :
    (totalSupply s).val + amount.val < -2^127 ∨ 2^127 - 1 < (totalSupply s).val + amount.val := by
  simp only [bumpSupply,bindError,arithmeticError,MachineInt.add,MachineInt.checkedNone,reduceCtorEq,and_false,
    exists_false,or_false] at refused
  have := refused.1
  rw [totalSupply]
  omega

/- After the debit there is room for the credit, at the payer and at anybody else. -/
theorem moveError (solvent : Solvent s) (nonneg : 0 ≤ amount.val) {source target : Address} {e : Event Address}
    (refused : (do
      let s ← spendBalance s source amount
      let s ← creditBalance s target amount
      .ok (publish s e)) = .error trap) :
    (balance s source).val < amount.val ∧ Error.insufficientBalance.trap = trap := by
  rcases bindError.mp refused with poor | ⟨_,paid,refused⟩
  · exact spendBalanceError nonneg poor
  obtain ⟨enough,rest,debited,rfl⟩ := spendExact.mp paid
  rcases bindError.mp refused with outside | ⟨_,_,published⟩ <;> try contradiction
  have outside := creditError outside
  have most := (totalSupply s).upper
  rw [readWritten] at outside
  split at outside
  · have covered := solvent.covered source
    have least := solvent.nonneg source
    omega
  · rename_i other
    have both := solvent.pair target source other
    have least := solvent.nonneg target
    omega

/- The supply covers every balance, so what is burnt can be taken off it. -/
theorem retireError (solvent : Solvent s) (nonneg : 0 ≤ amount.val) {source : Address} {e : Event Address}
    (refused : (do
      let s ← spendBalance s source amount
      let delta ← arithmetic amount.neg
      let s ← bumpSupply s delta
      .ok (publish s e)) = .error trap) :
    (balance s source).val < amount.val ∧ Error.insufficientBalance.trap = trap := by
  rcases bindError.mp refused with poor | ⟨_,paid,refused⟩
  · exact spendBalanceError nonneg poor
  obtain ⟨enough,rest,_,rfl⟩ := spendExact.mp paid
  rcases bindError.mp refused with outside | ⟨delta,negated,refused⟩
  · simp only [arithmeticError,MachineInt.neg,MachineInt.checkedNone] at outside
    have := amount.upper
    omega
  rcases bindError.mp refused with outside | ⟨_,_,published⟩ <;> try contradiction
  have outside := bumpError outside
  simp only [arithmeticOk,MachineInt.negExact] at negated
  have covered := solvent.covered source
  have most := (totalSupply s).upper
  change (totalSupply s).val + delta.val < _ ∨ _ < (totalSupply s).val + delta.val at outside
  omega

theorem loweredSolvent (solvent : Solvent s) {source spender : Address} {left : I128} :
    Solvent (lowered env s source spender left) := ⟨solvent.supply,solvent.nonneg,solvent.covered,solvent.pair⟩

theorem guardedError {a : Address} {rest : Except Trap (State Address)} {c : Call Address}
    (needed : signer s c = some a) (size : (postingOf c).amount = amount.val)
    (refused : (do
      requireAuth env a
      checkNonneg amount
      rest) = .error trap) : Refused env s c trap ∨ 0 ≤ amount.val ∧ rest = .error trap := by
  rcases bindError.mp refused with missing | ⟨_,_,refused⟩
  · obtain ⟨unsigned,rfl⟩ := requireAuthError.mp missing
    exact .inl (.unauthorised needed unsigned)
  rcases bindError.mp refused with below | ⟨_,nonneg,refused⟩
  · obtain ⟨short,rfl⟩ := checkNonnegError.mp below
    exact .inl (.negative (by omega))
  · exact .inr ⟨checkNonnegOk.mp nonneg,refused⟩

theorem drawnError {source spender : Address} {c : Call Address} {rest : State Address → Except Trap (State Address)}
    (draws : drawn source spender c = some amount) (nonneg : 0 ≤ amount.val)
    (refused : (do
      let s ← spendAllowance env s source spender amount
      rest s) = .error trap) :
    Refused env s c trap ∨ ∃ left, rest (lowered env s source spender left) = .error trap := by
  rcases bindError.mp refused with refused | ⟨_,lower,refused⟩
  · rcases spendAllowanceError nonneg refused with ⟨late,rfl⟩ | ⟨little,rfl⟩
    · exact .inl (.expired draws late)
    · exact .inl (.allowance draws little)
  · obtain ⟨_,_,left,_,rfl⟩ := spendAllowanceExact.mp lower
    exact .inr ⟨left,refused⟩

end Helpers

section Calls
variable {env : Env Address} {s : State Address} {trap : Trap}

theorem refusedWhy (solvent : Solvent s) {c : Call Address} (moving : (postingOf c).source.isSome = true)
    (refused : invoke env s c = .error trap) : Refused env s c trap := by
  cases c with
  | mint target amount | setAdmin newAdmin | approve source spender amount expiration => contradiction
  | transfer source target amount =>
    rcases guardedError (c := .transfer source target amount) rfl rfl refused with why | ⟨nonneg,refused⟩
    · exact why
    · obtain ⟨poor,rfl⟩ := moveError solvent nonneg refused
      exact .balance rfl poor
  | transferFrom spender source target amount =>
    rcases guardedError (c := .transferFrom spender source target amount) rfl rfl refused with why | ⟨nonneg,refused⟩
    · exact why
    rcases drawnError (c := .transferFrom spender source target amount) (by simp [drawn]) nonneg refused with why | ⟨left,refused⟩
    · exact why
    · obtain ⟨poor,rfl⟩ := moveError (loweredSolvent solvent) nonneg refused
      exact .balance rfl poor
  | burn source amount =>
    rcases guardedError (c := .burn source amount) rfl rfl refused with why | ⟨nonneg,refused⟩
    · exact why
    · obtain ⟨poor,rfl⟩ := retireError solvent nonneg refused
      exact .balance rfl poor
  | burnFrom spender source amount =>
    rcases guardedError (c := .burnFrom spender source amount) rfl rfl refused with why | ⟨nonneg,refused⟩
    · exact why
    rcases drawnError (c := .burnFrom spender source amount) (by simp [drawn]) nonneg refused with why | ⟨left,refused⟩
    · exact why
    · obtain ⟨poor,rfl⟩ := retireError (loweredSolvent solvent) nonneg refused
      exact .balance rfl poor

theorem refusedNotOverflow {c : Call Address} (why : Refused env s c trap) : trap ≠ .overflow := by
  cases why <;> nofun

theorem refusedNotAdmitted {c : Call Address} (why : Refused env s c trap) : ¬ Admitted env s c := by
  intro admitted
  cases why with
  | unauthorised needed missing =>
    cases c <;> simp only [signer,Option.some.injEq] at needed <;> simp_all [Admitted]
  | negative below =>
    cases c <;> simp only [Admitted,postingOf] at admitted below <;> omega
  | expired draws late =>
    have alive := (drawnAdmitted admitted draws).2.1
    omega
  | allowance draws little =>
    have enough := (drawnAdmitted admitted draws).2.2
    omega
  | balance paying poor =>
    cases c <;> simp only [Admitted,postingOf,reduceCtorEq,Option.some.injEq] at admitted paying poor <;> subst paying <;>
      omega

theorem movingSucceeds (solvent : Solvent s) {c : Call Address} (moving : (postingOf c).source.isSome = true) :
    (∃ s', invoke env s c = .ok s') ↔ Admitted env s c := by
  constructor
  · intro ⟨s',ok⟩
    exact (invokeEffect ok).admitted
  · intro admitted
    cases result : invoke env s c with
    | ok s' => exact ⟨s',rfl⟩
    | error trap => exact absurd admitted (refusedNotAdmitted (refusedWhy solvent moving result))

theorem mintRoom (solvent : Solvent s) (target : Address) {admin : Address} {amount : I128} (stored : s.admin = some admin)
    (auth : env.authorised admin = true) (nonneg : 0 ≤ amount.val) :
    (∃ s', invoke env s (.mint target amount) = .ok s') ↔ (totalSupply s).val + amount.val ≤ 2^127 - 1 := by
  constructor
  · intro ⟨s',ok⟩
    have counted := (invokeEffect ok).moves.supply
    have most := (totalSupply s').upper
    simp [postingOf,Posting.issued] at counted
    omega
  · intro room
    have covered := solvent.covered target
    have least := solvent.nonneg target
    obtain ⟨sum,_,credited⟩ : ∃ sum : I128, _ ∧ sum.val = (readBalance s target).val + amount.val :=
      MachineInt.checkedInRange (by omega) (by omega)
    obtain ⟨supply,_,counted⟩ : ∃ supply : I128, _ ∧ supply.val = (totalSupply s).val + amount.val :=
      MachineInt.checkedInRange (by omega) (by omega)
    simp only [invoke,mint,bindOk,checkNonnegOk,readAdminOk,requireAuthOk,creditExact,bumpExact]
    exact ⟨_,(),nonneg,admin,stored,(),auth,_,⟨sum,credited,rfl⟩,_,⟨supply,counted,rfl⟩,rfl⟩

end Calls

def AllowancesNonneg (s : State Address) : Prop :=
  ∀ source spender data life, s.allowances (source,spender) = some ⟨data,life⟩ → 0 ≤ data.amount.val

theorem stepAllowances : Preserves (@step Address _) AllowancesNonneg := by
  intro s i nonneg
  refine commitKeeps nonneg fun s' ok => ?_
  intro source spender data life found
  obtain ⟨env,c⟩ := i
  have effect := invokeEffect ok
  cases entryEffect effect source spender with
  | untouched _ _ same => exact nonneg source spender data life (same ▸ found)
  | approved stored =>
    cases Option.some.inj (stored.symm.trans found)
    exact effect.admitted.2
  | @drawn _ amount left call _ spendable lower stored =>
    cases Option.some.inj (stored.symm.trans found)
    change 0 ≤ left.val
    rw [lower]
    exact sub_nonneg.mpr spendable.2

omit [DecidableEq Address] in
theorem storedNonneg {s : State Address} (nonneg : AllowancesNonneg s) (env : Env Address) (source spender : Address) :
    0 ≤ (storedAllowance env s source spender).amount.val := by
  unfold storedAllowance Temporary.get
  cases found : Temporary.entry env s.allowances (source,spender) with
  | none => exact le_rfl
  | some e => exact nonneg source spender e.value e.liveUntil (Temporary.entryLive found).1

theorem trapsConfined (admin : Address) (decimal : U32) (name symbol : List UInt8) (inputs : List (Input Address)) :
    let s := run step (constructed admin decimal name symbol) inputs
    (∀ env c trap, (postingOf c).source.isSome = true → invoke env s c = .error trap →
      Refused env s c trap ∧ trap ≠ .overflow) ∧
    (∀ env c s', invoke env s c = .ok s' → (∀ a, 0 ≤ (balance s' a).val) ∧ 0 ≤ (totalSupply s').val ∧
      ∀ env' source spender, 0 ≤ (storedAllowance env' s' source spender).amount.val) ∧
    ∀ env target amount admin', s.admin = some admin' → env.authorised admin' = true → 0 ≤ amount.val →
      ((∃ trap, invoke env s (.mint target amount) = .error trap) ↔
        2^127 - 1 < (totalSupply s).val + amount.val) ∧
      (2^127 - 1 < (totalSupply s).val + amount.val → step s (env,.mint target amount) = s) := by
  intro s
  have backed : Backed s := runBacked admin decimal name symbol inputs
  have allowances : AllowancesNonneg s := runPreserves stepAllowances (fun _ _ _ _ found => by contradiction) inputs
  have solvent := backedSolvent backed
  refine ⟨?_,?_,?_⟩
  · intro env c trap moving refused
    have why := refusedWhy solvent moving refused
    exact ⟨why,refusedNotOverflow why⟩
  · intro env c s' ok
    have after : step s (env,c) = s' := by simp [step,ok]
    have next : Solvent s' := backedSolvent (after ▸ stepBacked s (env,c) backed)
    have later : AllowancesNonneg s' := after ▸ stepAllowances s (env,c) allowances
    exact ⟨next.nonneg,next.supply,storedNonneg later⟩
  · intro env target amount admin' stored auth nonneg
    have room := mintRoom solvent target stored auth nonneg
    have fails : (∃ trap, invoke env s (.mint target amount) = .error trap) ↔
        2^127 - 1 < (totalSupply s).val + amount.val := by
      rw [← not_le,← room]
      cases result : invoke env s (.mint target amount) <;> simp
    refine ⟨fails,?_⟩
    intro beyond
    obtain ⟨trap,refused⟩ := fails.mpr beyond
    simp [step,refused]

end SplitBill.Refusal
