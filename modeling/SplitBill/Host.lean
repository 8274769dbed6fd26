import Mathlib.Logic.Function.Basic
import SplitBill.Flow
import SplitBill.MachineInt

/-! The part of the Soroban host that a contract call can observe: what it was
authorised by, the ledger it runs in, traps and temporary storage. A call works
on a copy of the state and hands it back only when it returns, so a trap rolls
everything back, nested calls and events included. -/
namespace SplitBill.Host
variable {Address α β : Type}

inductive Trap where
  | unauthorised
  | panic (message : String)
  | contractError (code : Nat)
  | overflow
  | missingContract
  deriving DecidableEq, Repr

/- `nestedAuthorised` answers the require_auth of a contract called by the one
the transaction names; it need not agree with the authority for the outer call. -/
structure Env (Address : Type) where
  authorised : Address → Bool
  nestedAuthorised : Address → Bool
  sequence : U32
  timestamp : U64
  minTempTtl : Nat

def Env.nested (env : Env Address) : Env Address := {env with authorised := env.nestedAuthorised}

/- A recipient may carry a sub-account number; the host resolves it to its address. -/
structure MuxedAddress (Address : Type) where
  address : Address
  id : Option U64
  deriving DecidableEq, Repr

def requireAuth (env : Env Address) (a : Address) : Except Trap Unit :=
  failIf (env.authorised a = false) .unauthorised
def expect (found : Option α) (message : String) : Except Trap α :=
  found.elim (.error (.panic message)) .ok
def arithmetic (result : Option α) : Except Trap α := result.elim (.error .overflow) .ok

@[simp] theorem requireAuthOk {env : Env Address} {a : Address} {u : Unit} :
    requireAuth env a = .ok u ↔ env.authorised a = true := by
  simp [requireAuth]

@[simp] theorem expectOk {found : Option α} {message : String} {a : α} :
    expect found message = .ok a ↔ found = some a := by
  cases found <;> simp [expect]

@[simp] theorem arithmeticOk {result : Option α} {a : α} : arithmetic result = .ok a ↔ result = some a := by
  cases result <;> simp [arithmetic]

@[simp] theorem requireAuthError {env : Env Address} {a : Address} {trap : Trap} :
    requireAuth env a = .error trap ↔ env.authorised a = false ∧ .unauthorised = trap := by
  simp [requireAuth]

@[simp] theorem arithmeticError {result : Option α} {trap : Trap} :
    arithmetic result = .error trap ↔ result = none ∧ .overflow = trap := by
  cases result <;> simp [arithmetic]

def commit (s : α) (result : Except Trap α) : α := result.toOption.getD s

@[simp] theorem commitOk (s t : α) : commit s (.ok t) = t := rfl
@[simp] theorem commitTrap (s : α) (trap : Trap) : commit s (.error trap) = s := rfl

theorem commitKeeps {P : α → Prop} {s : α} {result : Except Trap α} (before : P s)
    (returned : ∀ t, result = .ok t → P t) : P (commit s result) := by
  cases result with
  | error trap => exact before
  | ok t => exact returned t rfl

inductive Val (Address : Type) where
  | symbol (name : String)
  | address (a : Address)
  | u32 (n : U32)
  | i128 (n : I128)
  | string (bytes : List UInt8)
  deriving DecidableEq, Repr

inductive Data (Address : Type) where
  | one (v : Val Address)
  | tuple (vs : List (Val Address))
  deriving DecidableEq, Repr

structure Event (Address : Type) where
  topics : List (Val Address)
  data : Data Address
  deriving DecidableEq, Repr

/- Temporary storage. An entry past its life reads as absent. Writing over a live
entry keeps its life; a new entry gets the network's minimum, counted from the
ledger that creates it. -/
structure TempEntry (α : Type) where
  value : α
  liveUntil : Nat
  deriving DecidableEq, Repr

abbrev Temporary (κ α : Type) := κ → Option (TempEntry α)

namespace Temporary
variable {κ : Type}

def entry (env : Env Address) (store : Temporary κ α) (k : κ) : Option (TempEntry α) :=
  (store k).filter (fun e => decide (env.sequence.val ≤ e.liveUntil))

def get (env : Env Address) (store : Temporary κ α) (k : κ) : Option α := (entry env store k).map TempEntry.value

def newLife (env : Env Address) : Nat := env.sequence.val.toNat + (env.minTempTtl - 1)

def set [DecidableEq κ] (env : Env Address) (store : Temporary κ α) (k : κ) (v : α) : Temporary κ α :=
  Function.update store k (some ⟨v,((entry env store k).map TempEntry.liveUntil).getD (newLife env)⟩)

theorem entryLive {env : Env Address} {store : Temporary κ α} {k : κ} {e : TempEntry α}
    (found : entry env store k = some e) : store k = some e ∧ env.sequence.val ≤ e.liveUntil := by
  simpa [entry,Option.filter_eq_some_iff] using found

theorem getLive {env : Env Address} {store : Temporary κ α} {k : κ} {v : α} {life : Nat}
    (stored : store k = some ⟨v,life⟩) (alive : env.sequence.val ≤ life) : get env store k = some v := by
  simp [get,entry,stored,Option.filter,alive]

theorem getDead {env : Env Address} {store : Temporary κ α} {k : κ} {v : α} {life : Nat}
    (stored : store k = some ⟨v,life⟩) (dead : life < env.sequence.val) : get env store k = none := by
  simp [get,entry,stored,Option.filter,dead]

theorem getCongr (env : Env Address) {store store' : Temporary κ α} {k : κ} (same : store' k = store k) :
    get env store' k = get env store k := by
  rw [get,get,entry,entry,same]

def lifeAfter (env : Env Address) (store : Temporary κ α) (k : κ) : Nat :=
  ((entry env store k).map TempEntry.liveUntil).getD (newLife env)

theorem nowKept (env : Env Address) (store : Temporary κ α) (k : κ) : env.sequence.val ≤ lifeAfter env store k := by
  unfold lifeAfter
  cases found : entry env store k with
  | none =>
    have := env.sequence.lower
    simp only [Option.map_none,Option.getD_none,newLife]
    omega
  | some e => exact (entryLive found).2

theorem lifeKept {env : Env Address} {store : Temporary κ α} {k : κ} {v : α} {life : Nat}
    (stored : store k = some ⟨v,life⟩) (alive : env.sequence.val ≤ life) : lifeAfter env store k = life := by
  simp [lifeAfter,entry,stored,Option.filter,alive]

variable [DecidableEq κ]

theorem setSame (env : Env Address) (store : Temporary κ α) (k : κ) (v : α) :
    set env store k v k = some ⟨v,lifeAfter env store k⟩ := Function.update_self ..

theorem setOther (env : Env Address) (store : Temporary κ α) {k j : κ} (v : α) (other : j ≠ k) :
    set env store k v j = store j := Function.update_of_ne other ..

end Temporary
end SplitBill.Host
