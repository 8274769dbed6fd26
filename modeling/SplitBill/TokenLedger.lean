import SplitBill.Ledger
import SplitBill.StableToken

/-! Every token call is one posting of the double-entry ledger: a mint comes from
outside, a burn goes there, anything else moves value or nothing. The stored
balances and the separate supply counter therefore stay the ledger and its total. -/
namespace SplitBill.TokenLedger
open Host StableToken Transition
variable {Address : Type} [DecidableEq Address]

def postingOf : Call Address → Posting Address
  | .mint target amount => ⟨none,some target,amount.val⟩
  | .setAdmin _ => ⟨none,none,0⟩
  | .approve _ _ _ _ => ⟨none,none,0⟩
  | .transfer source target amount => ⟨some source,some target.address,amount.val⟩
  | .transferFrom _ source target amount => ⟨some source,some target,amount.val⟩
  | .burn source amount => ⟨some source,none,amount.val⟩
  | .burnFrom _ source amount => ⟨some source,none,amount.val⟩

structure Moves (s s' : State Address) (p : Posting Address) : Prop where
  affordable : 0 ≤ p.amount ∧ ∀ a, p.source = some a → p.amount ≤ (readBalance s a).val
  balance : ∀ a, (readBalance s' a).val = (readBalance s a).val +
    ((if p.target = some a then p.amount else 0) - (if p.source = some a then p.amount else 0))
  supply : (totalSupply s').val = (totalSupply s).val + p.issued

def Spendable (env : Env Address) (s : State Address) (source spender : Address) (amount : I128) : Prop :=
  env.sequence.val ≤ (storedAllowance env s source spender).expirationLedger.val ∧
  amount.val ≤ (storedAllowance env s source spender).amount.val

def Admitted (env : Env Address) (s : State Address) : Call Address → Prop
  | .mint _ amount => 0 ≤ amount.val ∧ ∃ admin, s.admin = some admin ∧ env.authorised admin = true
  | .setAdmin _ => ∃ admin, s.admin = some admin ∧ env.authorised admin = true
  | .approve source _ amount _ => env.authorised source = true ∧ 0 ≤ amount.val
  | .transfer source _ amount => env.authorised source = true ∧ 0 ≤ amount.val ∧ amount.val ≤ (balance s source).val
  | .transferFrom spender source _ amount => env.authorised spender = true ∧ 0 ≤ amount.val ∧
      Spendable env s source spender amount ∧ amount.val ≤ (balance s source).val
  | .burn source amount => env.authorised source = true ∧ 0 ≤ amount.val ∧ amount.val ≤ (balance s source).val
  | .burnFrom spender source amount => env.authorised spender = true ∧ 0 ≤ amount.val ∧
      Spendable env s source spender amount ∧ amount.val ≤ (balance s source).val

def adminAfter (s : State Address) : Call Address → Option Address
  | .setAdmin newAdmin => some newAdmin
  | _ => s.admin

def AllowancesAfter (env : Env Address) (s s' : State Address) : Call Address → Prop
  | .approve source spender amount expirationLedger =>
      s'.allowances = Temporary.set env s.allowances (source,spender) ⟨amount,expirationLedger⟩
  | .transferFrom spender source _ amount | .burnFrom spender source amount =>
      ∃ left : I128, left.val = (storedAllowance env s source spender).amount.val - amount.val ∧
        s'.allowances = (lowered env s source spender left).allowances
  | _ => s'.allowances = s.allowances

def eventOf (s : State Address) : Call Address → Option (Event Address)
  | .mint target amount => s.admin.map fun admin =>
      ⟨[.symbol "mint",.address admin,.address target],.one (.i128 amount)⟩
  | .setAdmin newAdmin => s.admin.map fun admin => ⟨[.symbol "set_admin",.address admin],.one (.address newAdmin)⟩
  | .approve source spender amount expirationLedger =>
      some ⟨[.symbol "approve",.address source,.address spender],.tuple [.i128 amount,.u32 expirationLedger]⟩
  | .transfer source target amount =>
      some ⟨[.symbol "transfer",.address source,.address target.address],.one (.i128 amount)⟩
  | .transferFrom _ source target amount =>
      some ⟨[.symbol "transfer",.address source,.address target],.one (.i128 amount)⟩
  | .burn source amount | .burnFrom _ source amount => some ⟨[.symbol "burn",.address source],.one (.i128 amount)⟩

structure Effect (env : Env Address) (s s' : State Address) (c : Call Address) : Prop where
  admitted : Admitted env s c
  moves : Moves s s' (postingOf c)
  admin : s'.admin = adminAfter s c
  allowances : AllowancesAfter env s s' c
  published : ∃ e, eventOf s c = some e ∧ s'.events = s.events ++ [e]

theorem movesNothing (s : State Address) : Moves s s ⟨none,none,0⟩ where
  affordable := by simp
  balance := by simp
  supply := by simp [Posting.issued]

theorem movesIn {s : State Address} {target : Address} {amount : Int} {sum supply : I128} (nonneg : 0 ≤ amount)
    (credited : sum.val = (readBalance s target).val + amount) (counted : supply.val = (totalSupply s).val + amount) :
    Moves s {writeBalance s target sum with totalSupply := some supply} ⟨none,some target,amount⟩ where
  affordable := by simpa using nonneg
  balance := by
    intro a
    change (readBalance (writeBalance s target sum) a).val = _
    rw [readWritten]
    by_cases same : a = target
    · simp [same,credited]
    · simp [same,Ne.symm same]
  supply := by simpa [totalSupply,Posting.issued] using counted

theorem movesAcross {s : State Address} {source target : Address} {amount : Int} {rest sum : I128} (nonneg : 0 ≤ amount)
    (enough : amount ≤ (readBalance s source).val) (debited : rest.val = (readBalance s source).val - amount)
    (credited : sum.val = (readBalance (writeBalance s source rest) target).val + amount) :
    Moves s (writeBalance (writeBalance s source rest) target sum) ⟨some source,some target,amount⟩ where
  affordable := ⟨nonneg,by intro a same; cases Option.some.inj same; exact enough⟩
  balance := by
    -- the recipient is read after the debit, so a transfer to oneself cancels out
    intro a
    rw [readWritten] at credited
    rw [readWritten,readWritten]
    by_cases payee : a = target
    · by_cases payer : target = source
      · simp_all
      · simp_all [Ne.symm payer]
    · by_cases payer : a = source
      · subst payer
        simp [payee,Ne.symm payee,debited,sub_eq_add_neg]
      · simp [payee,payer,Ne.symm payee,Ne.symm payer]
  supply := by
    change (totalSupply s).val = _
    simp [Posting.issued]

theorem movesOut {s : State Address} {source : Address} {amount : Int} {rest supply : I128} (nonneg : 0 ≤ amount)
    (enough : amount ≤ (readBalance s source).val) (debited : rest.val = (readBalance s source).val - amount)
    (counted : supply.val = (totalSupply s).val + -amount) :
    Moves s {writeBalance s source rest with totalSupply := some supply} ⟨some source,none,amount⟩ where
  affordable := ⟨nonneg,by intro a same; cases Option.some.inj same; exact enough⟩
  balance := by
    intro a
    change (readBalance (writeBalance s source rest) a).val = _
    rw [readWritten]
    by_cases same : a = source
    · simp [same,debited,sub_eq_add_neg]
    · simp [same,Ne.symm same]
  supply := by simpa [totalSupply,Posting.issued,sub_eq_add_neg] using counted

theorem invokeEffect {env : Env Address} {s s' : State Address} {c : Call Address} (ok : invoke env s c = .ok s') :
    Effect env s s' c := by
  cases c with
  | mint target amount =>
    simp only [invoke,mint,bindOk,checkNonnegOk,readAdminOk,requireAuthOk,creditExact,bumpExact] at ok
    obtain ⟨_,nonneg,admin,stored,_,auth,_,⟨sum,credited,rfl⟩,_,⟨supply,counted,rfl⟩,last⟩ := ok
    cases Except.ok.inj last
    have moves := movesIn nonneg credited counted
    exact ⟨⟨nonneg,admin,stored,auth⟩,⟨moves.affordable,moves.balance,moves.supply⟩,rfl,rfl,
      _,congrArg (Option.map _) stored,rfl⟩
  | setAdmin newAdmin =>
    simp only [invoke,setAdmin,bindOk,readAdminOk,requireAuthOk] at ok
    obtain ⟨admin,stored,_,auth,last⟩ := ok
    cases Except.ok.inj last
    have moves := movesNothing s
    exact ⟨⟨admin,stored,auth⟩,⟨moves.affordable,moves.balance,moves.supply⟩,rfl,rfl,
      _,congrArg (Option.map _) stored,rfl⟩
  | approve source spender amount expirationLedger =>
    simp only [invoke,approve,bindOk,requireAuthOk,checkNonnegOk] at ok
    obtain ⟨_,auth,_,nonneg,last⟩ := ok
    cases Except.ok.inj last
    have moves := movesNothing s
    exact ⟨⟨auth,nonneg⟩,⟨moves.affordable,moves.balance,moves.supply⟩,rfl,rfl,_,rfl,rfl⟩
  | transfer source target amount =>
    simp only [invoke,transfer,bindOk,requireAuthOk,checkNonnegOk,spendExact,creditExact] at ok
    obtain ⟨_,auth,_,nonneg,_,⟨enough,rest,debited,rfl⟩,_,⟨sum,credited,rfl⟩,last⟩ := ok
    cases Except.ok.inj last
    have moves := movesAcross nonneg enough debited credited
    exact ⟨⟨auth,nonneg,enough⟩,⟨moves.affordable,moves.balance,moves.supply⟩,rfl,rfl,_,rfl,rfl⟩
  | transferFrom spender source target amount =>
    simp only [invoke,transferFrom,bindOk,requireAuthOk,checkNonnegOk,spendAllowanceExact,spendExact,creditExact] at ok
    obtain ⟨_,auth,_,nonneg,_,⟨alive,allowed,left,lower,rfl⟩,_,⟨enough,rest,debited,rfl⟩,_,⟨sum,credited,rfl⟩,last⟩ := ok
    cases Except.ok.inj last
    have moves : Moves s _ ⟨some source,some target,amount.val⟩ := movesAcross nonneg enough debited credited
    exact ⟨⟨auth,nonneg,⟨alive,allowed⟩,enough⟩,⟨moves.affordable,moves.balance,moves.supply⟩,rfl,
      ⟨left,lower,rfl⟩,_,rfl,rfl⟩
  | burn source amount =>
    simp only [invoke,burn,bindOk,requireAuthOk,checkNonnegOk,spendExact,arithmeticOk,MachineInt.negExact,bumpExact] at ok
    obtain ⟨_,auth,_,nonneg,_,⟨enough,rest,debited,rfl⟩,delta,negated,_,⟨supply,counted,rfl⟩,last⟩ := ok
    cases Except.ok.inj last
    rw [negated] at counted
    have moves := movesOut nonneg enough debited counted
    exact ⟨⟨auth,nonneg,enough⟩,⟨moves.affordable,moves.balance,moves.supply⟩,rfl,rfl,_,rfl,rfl⟩
  | burnFrom spender source amount =>
    simp only [invoke,burnFrom,bindOk,requireAuthOk,checkNonnegOk,spendAllowanceExact,spendExact,arithmeticOk,
      MachineInt.negExact,bumpExact] at ok
    obtain ⟨_,auth,_,nonneg,_,⟨alive,allowed,left,lower,rfl⟩,_,⟨enough,rest,debited,rfl⟩,delta,negated,_,
      ⟨supply,counted,rfl⟩,last⟩ := ok
    cases Except.ok.inj last
    rw [negated] at counted
    have moves : Moves s _ ⟨some source,none,amount.val⟩ := movesOut nonneg enough debited counted
    exact ⟨⟨auth,nonneg,⟨alive,allowed⟩,enough⟩,⟨moves.affordable,moves.balance,moves.supply⟩,rfl,
      ⟨left,lower,rfl⟩,_,rfl,rfl⟩

theorem transferMetadata {env : Env Address} {s s' : State Address} {source : Address} {target : MuxedAddress Address}
    {amount : I128} (ok : invoke env s (.transfer source target amount) = .ok s') :
    s'.decimals = s.decimals ∧ s'.name = s.name ∧ s'.symbol = s.symbol := by
  simp only [invoke,transfer,bindOk,spendExact,creditExact] at ok
  obtain ⟨_,_,_,_,_,⟨_,_,_,rfl⟩,_,⟨_,_,rfl⟩,last⟩ := ok
  cases Except.ok.inj last
  exact ⟨rfl,rfl,rfl⟩

structure Books (s : State Address) (l : Ledger Address) : Prop where
  holdings : ∀ a, (readBalance s a).val = l.holding a
  total : (totalSupply s).val = l.total

def Backed (s : State Address) : Prop := ∃ l, Books s l

omit [DecidableEq Address] in
theorem booksConstructed (admin : Address) (decimal : U32) (name symbol : List UInt8) :
    Books (constructed admin decimal name symbol) Ledger.empty where
  holdings := by intro a; rfl
  total := by rw [Ledger.totalEmpty]; rfl

theorem booksCovers {s s' : State Address} {l : Ledger Address} {p : Posting Address} (books : Books s l)
    (moves : Moves s s' p) : l.Covers p :=
  ⟨moves.affordable.1,by intro a paying; rw [← books.holdings]; exact moves.affordable.2 a paying⟩

theorem booksPost {s s' : State Address} {l : Ledger Address} {p : Posting Address} (books : Books s l)
    (moves : Moves s s' p) : Books s' (l.post p (booksCovers books moves)) where
  holdings := by
    intro a
    rw [Ledger.post,Finsupp.add_apply,Posting.effectApply,moves.balance,books.holdings]
  total := by rw [Ledger.totalPost,moves.supply,books.total]

theorem stepBacked : Preserves (@step Address _) Backed := by
  intro s i backed
  refine commitKeeps backed fun s' ok => ?_
  obtain ⟨l,books⟩ := backed
  exact ⟨_,booksPost books (invokeEffect ok).moves⟩

theorem runBacked (admin : Address) (decimal : U32) (name symbol : List UInt8)
    (inputs : List (Env Address × Call Address)) :
    Backed (run step (constructed admin decimal name symbol) inputs) :=
  runPreserves stepBacked ⟨_,booksConstructed admin decimal name symbol⟩ inputs

theorem conservesValue (admin : Address) (decimal : U32) (name symbol : List UInt8)
    (inputs : List (Env Address × Call Address)) :
    let s := run step (constructed admin decimal name symbol) inputs
    (∀ a, 0 ≤ (balance s a).val) ∧
    (Function.support fun a => (balance s a).val).Finite ∧
    ∑ᶠ a, (balance s a).val = (totalSupply s).val ∧
    0 ≤ (totalSupply s).val ∧ (totalSupply s).val ≤ 2^127 - 1 := by
  intro s
  obtain ⟨l,books⟩ : Backed s := runBacked admin decimal name symbol inputs
  have same : (fun a => (balance s a).val) = l.holding := funext books.holdings
  refine ⟨?_,?_,?_,?_,?_⟩
  · intro a
    rw [balance,books.holdings]
    exact l.nonneg a
  · rw [same]
    exact l.holding.hasFiniteSupport
  · rw [same,books.total]
    exact l.totalSum
  · rw [books.total]
    exact l.totalNonneg
  · have := (totalSupply s).upper
    omega

end SplitBill.TokenLedger
