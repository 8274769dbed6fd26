import SplitBill.Host
import SplitBill.Transition

/-! The settlement token. Amounts are i128 and may be negative or extreme; balances
are read with a default of zero and rewritten whole, so two keys that coincide are
read again after the first write. -/
namespace SplitBill.StableToken
open Host

inductive Error where
  | notInitialized
  | insufficientBalance
  | insufficientAllowance
  | negativeAmount
  | allowanceExpired
  deriving DecidableEq, Repr

def Error.code : Error → Nat
  | .notInitialized => 1
  | .insufficientBalance => 2
  | .insufficientAllowance => 3
  | .negativeAmount => 4
  | .allowanceExpired => 5

def Error.trap (e : Error) : Trap := .contractError e.code

structure AllowanceData where
  amount : I128
  expirationLedger : U32
  deriving DecidableEq, Repr

structure State (Address : Type) where
  admin : Option Address
  decimals : Option U32
  name : Option (List UInt8)
  symbol : Option (List UInt8)
  totalSupply : Option I128
  balances : Address → Option I128
  allowances : Temporary (Address × Address) AllowanceData
  events : List (Event Address)

def zero : I128 := .lit 0

@[simp] theorem zeroVal : zero.val = 0 := rfl

variable {Address : Type} [DecidableEq Address]

def constructed (admin : Address) (decimal : U32) (name symbol : List UInt8) : State Address :=
  ⟨some admin,some decimal,some name,some symbol,some zero,fun _ => none,fun _ => none,[]⟩

section Helpers
variable (env : Env Address) (s : State Address)

def publish (e : Event Address) : State Address := {s with events := s.events ++ [e]}

def readAdmin : Except Trap Address := s.admin.elim (.error Error.notInitialized.trap) .ok

def checkNonneg (amount : I128) : Except Trap Unit := failIf (amount.val < 0) Error.negativeAmount.trap

def readBalance (id : Address) : I128 := (s.balances id).getD zero

def writeBalance (id : Address) (amount : I128) : State Address :=
  {s with balances := Function.update s.balances id (some amount)}

-- write_balance(id, read_balance(id) + amount), as the crediting calls spell it out.
def creditBalance (id : Address) (amount : I128) : Except Trap (State Address) := do
  let sum ← arithmetic ((readBalance s id).add amount)
  .ok (writeBalance s id sum)

def spendBalance (id : Address) (amount : I128) : Except Trap (State Address) := do
  let bal := readBalance s id
  failIf (bal.val < amount.val) Error.insufficientBalance.trap
  let rest ← arithmetic (bal.sub amount)
  .ok (writeBalance s id rest)

def storedAllowance (source spender : Address) : AllowanceData :=
  (Temporary.get env s.allowances (source,spender)).getD ⟨zero,.lit 0⟩

def spendAllowance (source spender : Address) (amount : I128) : Except Trap (State Address) := do
  let allowance := storedAllowance env s source spender
  failIf (allowance.expirationLedger.val < env.sequence.val) Error.allowanceExpired.trap
  failIf (allowance.amount.val < amount.val) Error.insufficientAllowance.trap
  let left ← arithmetic (allowance.amount.sub amount)
  let key := (source,spender)
  .ok {s with allowances := Temporary.set env s.allowances key ⟨left,allowance.expirationLedger⟩}

def bumpSupply (delta : I128) : Except Trap (State Address) := do
  let supply ← arithmetic ((s.totalSupply.getD zero).add delta)
  .ok {s with totalSupply := some supply}

end Helpers

section Views
variable (env : Env Address) (s : State Address)

def admin : Except Trap Address := readAdmin s
def totalSupply : I128 := s.totalSupply.getD zero
def balance (id : Address) : I128 := readBalance s id
def decimals : U32 := s.decimals.getD (.lit 0)
def name : List UInt8 := s.name.getD []
def symbol : List UInt8 := s.symbol.getD []

def allowance (source spender : Address) : I128 :=
  match Temporary.get env s.allowances (source,spender) with
  | some a => if a.expirationLedger.val ≥ env.sequence.val then a.amount else zero
  | none => zero

end Views

section Calls
variable (env : Env Address) (s : State Address)

def mint (target : Address) (amount : I128) : Except Trap (State Address) := do
  checkNonneg amount
  let admin ← readAdmin s
  requireAuth env admin
  let s ← creditBalance s target amount
  let s ← bumpSupply s amount
  .ok (publish s ⟨[.symbol "mint",.address admin,.address target],.one (.i128 amount)⟩)

def setAdmin (newAdmin : Address) : Except Trap (State Address) := do
  let admin ← readAdmin s
  requireAuth env admin
  let s := {s with admin := some newAdmin}
  .ok (publish s ⟨[.symbol "set_admin",.address admin],.one (.address newAdmin)⟩)

def approve (source spender : Address) (amount : I128) (expirationLedger : U32) : Except Trap (State Address) := do
  requireAuth env source
  checkNonneg amount
  let s := {s with allowances := Temporary.set env s.allowances (source,spender) ⟨amount,expirationLedger⟩}
  .ok (publish s ⟨[.symbol "approve",.address source,.address spender],.tuple [.i128 amount,.u32 expirationLedger]⟩)

def transfer (source : Address) (target : MuxedAddress Address) (amount : I128) : Except Trap (State Address) := do
  requireAuth env source
  checkNonneg amount
  let toAddr := target.address
  let s ← spendBalance s source amount
  let s ← creditBalance s toAddr amount
  .ok (publish s ⟨[.symbol "transfer",.address source,.address toAddr],.one (.i128 amount)⟩)

def transferFrom (spender source target : Address) (amount : I128) : Except Trap (State Address) := do
  requireAuth env spender
  checkNonneg amount
  let s ← spendAllowance env s source spender amount
  let s ← spendBalance s source amount
  let s ← creditBalance s target amount
  .ok (publish s ⟨[.symbol "transfer",.address source,.address target],.one (.i128 amount)⟩)

def burn (source : Address) (amount : I128) : Except Trap (State Address) := do
  requireAuth env source
  checkNonneg amount
  let s ← spendBalance s source amount
  let delta ← arithmetic amount.neg
  let s ← bumpSupply s delta
  .ok (publish s ⟨[.symbol "burn",.address source],.one (.i128 amount)⟩)

def burnFrom (spender source : Address) (amount : I128) : Except Trap (State Address) := do
  requireAuth env spender
  checkNonneg amount
  let s ← spendAllowance env s source spender amount
  let s ← spendBalance s source amount
  let delta ← arithmetic amount.neg
  let s ← bumpSupply s delta
  .ok (publish s ⟨[.symbol "burn",.address source],.one (.i128 amount)⟩)

end Calls

inductive Call (Address : Type) where
  | mint (target : Address) (amount : I128)
  | setAdmin (newAdmin : Address)
  | approve (source spender : Address) (amount : I128) (expirationLedger : U32)
  | transfer (source : Address) (target : MuxedAddress Address) (amount : I128)
  | transferFrom (spender source target : Address) (amount : I128)
  | burn (source : Address) (amount : I128)
  | burnFrom (spender source : Address) (amount : I128)
  deriving DecidableEq, Repr

def invoke (env : Env Address) (s : State Address) : Call Address → Except Trap (State Address)
  | .mint target amount => mint env s target amount
  | .setAdmin newAdmin => setAdmin env s newAdmin
  | .approve source spender amount expirationLedger => approve env s source spender amount expirationLedger
  | .transfer source target amount => transfer env s source target amount
  | .transferFrom spender source target amount => transferFrom env s spender source target amount
  | .burn source amount => burn env s source amount
  | .burnFrom spender source amount => burnFrom env s spender source amount

def step (s : State Address) (i : Env Address × Call Address) : State Address := commit s (invoke i.1 s i.2)

section Helpers
variable {env : Env Address} {s s' : State Address}

omit [DecidableEq Address] in
@[simp] theorem readAdminOk {a : Address} : readAdmin s = .ok a ↔ s.admin = some a := by
  cases h : s.admin <;> simp [readAdmin,h]

@[simp] theorem checkNonnegOk {amount : I128} {u : Unit} : checkNonneg amount = .ok u ↔ 0 ≤ amount.val := by
  simp [checkNonneg]

theorem readWritten (s : State Address) (id a : Address) (n : I128) :
    readBalance (writeBalance s id n) a = if a = id then n else readBalance s a := by
  by_cases same : a = id
  · simp [readBalance,writeBalance,same]
  · simp [readBalance,writeBalance,same]

def lowered (env : Env Address) (s : State Address) (source spender : Address) (left : I128) : State Address :=
  let key := (source,spender)
  {s with allowances := Temporary.set env s.allowances key ⟨left,(storedAllowance env s source spender).expirationLedger⟩}

@[simp] theorem creditExact {id : Address} {amount : I128} : creditBalance s id amount = .ok s' ↔
    ∃ sum : I128, sum.val = (readBalance s id).val + amount.val ∧ writeBalance s id sum = s' := by
  simp [creditBalance]

@[simp] theorem spendExact {id : Address} {amount : I128} : spendBalance s id amount = .ok s' ↔
    amount.val ≤ (readBalance s id).val ∧
    ∃ rest : I128, rest.val = (readBalance s id).val - amount.val ∧ writeBalance s id rest = s' := by
  simp [spendBalance]

omit [DecidableEq Address] in
@[simp] theorem bumpExact {delta : I128} : bumpSupply s delta = .ok s' ↔
    ∃ supply : I128, supply.val = (totalSupply s).val + delta.val ∧ {s with totalSupply := some supply} = s' := by
  simp [bumpSupply,totalSupply]

@[simp] theorem spendAllowanceExact {source spender : Address} {amount : I128} :
    spendAllowance env s source spender amount = .ok s' ↔
      env.sequence.val ≤ (storedAllowance env s source spender).expirationLedger.val ∧
      amount.val ≤ (storedAllowance env s source spender).amount.val ∧
      ∃ left : I128, left.val = (storedAllowance env s source spender).amount.val - amount.val ∧
        lowered env s source spender left = s' := by
  simp [spendAllowance,lowered]

end Helpers
end SplitBill.StableToken
