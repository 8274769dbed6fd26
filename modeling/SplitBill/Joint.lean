import SplitBill.Settlement
import SplitBill.TokenLedger

/-! Both contracts as deployed: the address that bill-split stored at construction is
the stable token's, and settle reaches it by a nested call. A joint run is a run of
bill-split over that token, and its token half is always backed by a ledger. -/
namespace SplitBill.Joint
open Host Transition
variable {Address : Type} [DecidableEq Address]

abbrev World (Address : Type) := BillSplit.World Address (StableToken.State Address)

/- Dispatch by address. Nothing but the token is deployed where settle can call. -/
def deployed (tokenAddr : Address) : BillSplit.Transfer Address (StableToken.State Address) :=
  fun env self source target amount t =>
    if self = tokenAddr then StableToken.transfer env t source target amount else .error .missingContract

inductive Call (Address : Type) where
  | bill (c : BillSplit.Call Address)
  | token (c : StableToken.Call Address)
  deriving DecidableEq, Repr

def invoke (tokenAddr : Address) (env : Env Address) (w : World Address) : Call Address → Except Trap (World Address)
  | .bill c => BillSplit.invoke (deployed tokenAddr) env w c
  | .token c => do
      let t ← StableToken.invoke env w.token c
      .ok {w with token := t}

def step (tokenAddr : Address) (w : World Address) (i : Env Address × Call Address) : World Address :=
  commit w (invoke tokenAddr i.1 w i.2)

structure Deployment (Address : Type) where
  tokenAddr : Address
  admin : Address
  decimal : U32
  name : List UInt8
  symbol : List UInt8

def Deployment.genesis (d : Deployment Address) : World Address :=
  BillSplit.constructed d.tokenAddr (StableToken.constructed d.admin d.decimal d.name d.symbol)

def Deployment.world (d : Deployment Address) (inputs : List (Env Address × Call Address)) : World Address :=
  run (step d.tokenAddr) d.genesis inputs

section Views
variable (w : World Address)

def balance (a : Address) : I128 := StableToken.balance w.token a
def totalSupply : I128 := StableToken.totalSupply w.token
def storedAllowance (env : Env Address) (source spender : Address) : Option StableToken.AllowanceData :=
  Temporary.get env w.token.allowances (source,spender)

end Views

theorem stepBill (tokenAddr : Address) (w : World Address) (i : Env Address × Call Address) :
    ∃ i', step tokenAddr w i = BillSplit.step (deployed tokenAddr) w i' := by
  obtain ⟨env,c⟩ := i
  cases c with
  | bill c => exact ⟨.call env c,rfl⟩
  | token c =>
    cases result : StableToken.invoke env w.token c with
    | error trap => exact ⟨.elsewhere w.token,by simp [step,invoke,result,BillSplit.step,bind,Except.bind]⟩
    | ok t => exact ⟨.elsewhere t,by simp [step,invoke,result,BillSplit.step,bind,Except.bind]⟩

theorem runBill (tokenAddr : Address) (w : World Address) (inputs : List (Env Address × Call Address)) :
    ∃ inputs', run (step tokenAddr) w inputs = run (BillSplit.step (deployed tokenAddr)) w inputs' := by
  induction inputs generalizing w with
  | nil => exact ⟨[],rfl⟩
  | cons i rest ih =>
    obtain ⟨i',same⟩ := stepBill tokenAddr w i
    obtain ⟨rest',tail⟩ := ih (step tokenAddr w i)
    exact ⟨i' :: rest',by rw [runCons,runCons,tail,same]⟩

inductive Effect (tokenAddr : Address) (env : Env Address) (w : World Address) : Call Address → World Address → Prop
  | token {c t} (ok : StableToken.invoke env w.token c = .ok t) : Effect tokenAddr env w (.token c) {w with token := t}
  | createBill {creator payers share memo id w'}
      (ok : BillSplit.createBill env w creator payers share memo = .ok (id,w')) (token : w'.token = w.token) :
      Effect tokenAddr env w (.bill (.createBill creator payers share memo)) w'
  | settle {id payer bill t} (auth : env.authorised payer = true) (found : BillSplit.getBill w id = .ok bill)
      (listed : payer ∈ bill.payers) (fresh : BillSplit.isSettled w id payer = false)
      (ok : StableToken.invoke env.nested w.token (.transfer payer ⟨bill.creator,none⟩ bill.share) = .ok t) :
      Effect tokenAddr env w (.bill (.settle id payer))
        (BillSplit.charged w ⟨env,id,payer,tokenAddr,payer,⟨bill.creator,none⟩,bill.share⟩ t)

theorem invokeEffect {tokenAddr : Address} {env : Env Address} {w w' : World Address} {c : Call Address}
    (ok : invoke tokenAddr env w c = .ok w') : Effect tokenAddr env w c w' := by
  cases c with
  | token c =>
    obtain ⟨t,done,last⟩ := bindOk.mp ok
    cases Except.ok.inj last
    exact .token done
  | bill c =>
    cases c with
    | createBill creator payers share memo =>
      obtain ⟨⟨id,_⟩,created,last⟩ := bindOk.mp ok
      cases Except.ok.inj last
      obtain ⟨_,_,_,rfl⟩ := BillSplit.createBillExact.mp created
      exact .createBill created rfl
    | settle id payer =>
      obtain ⟨auth,bill,found,listed,fresh,addr,_,t,paid,rfl⟩ := BillSplit.settleExact.mp ok
      unfold deployed at paid
      split at paid <;> try contradiction
      rename_i same
      subst same
      exact .settle auth (BillRegister.getBillExact.mpr found) listed fresh paid

theorem stepBacked (tokenAddr : Address) :
    Preserves (step tokenAddr) (fun w : World Address => TokenLedger.Backed w.token) := by
  intro w i backed
  refine commitKeeps (P := fun w : World Address => TokenLedger.Backed w.token) backed fun w' ok => ?_
  obtain ⟨l,books⟩ := backed
  obtain ⟨env,c⟩ := i
  cases invokeEffect ok with
  | token done => exact ⟨_,TokenLedger.booksPost books (TokenLedger.invokeEffect done).moves⟩
  | createBill _ token =>
    rw [token]
    exact ⟨l,books⟩
  | settle _ _ _ _ done => exact ⟨_,TokenLedger.booksPost books (TokenLedger.invokeEffect done).moves⟩

theorem worldAccounted (d : Deployment Address) (inputs : List (Env Address × Call Address)) :
    Settlement.Accounted d.tokenAddr (d.world inputs) := by
  obtain ⟨inputs',same⟩ := runBill d.tokenAddr d.genesis inputs
  rw [Deployment.world,same]
  exact Settlement.runAccounted (deployed d.tokenAddr) d.tokenAddr _ inputs'

theorem worldBacked (d : Deployment Address) (inputs : List (Env Address × Call Address)) :
    TokenLedger.Backed (d.world inputs).token :=
  runPreserves (stepBacked d.tokenAddr) ⟨_,TokenLedger.booksConstructed ..⟩ inputs

structure Healthy (tokenAddr : Address) (w : World Address) : Prop where
  accounted : Settlement.Accounted tokenAddr w
  backed : TokenLedger.Backed w.token

theorem worldHealthy (d : Deployment Address) (inputs : List (Env Address × Call Address)) :
    Healthy d.tokenAddr (d.world inputs) := ⟨worldAccounted d inputs,worldBacked d inputs⟩

theorem stepHealthy (tokenAddr : Address) : Preserves (step tokenAddr) (Healthy tokenAddr : World Address → Prop) := by
  intro w i healthy
  refine ⟨?_,stepBacked tokenAddr w i healthy.backed⟩
  obtain ⟨i',same⟩ := stepBill tokenAddr w i
  rw [same]
  exact Settlement.stepAccounted (deployed tokenAddr) tokenAddr w i' healthy.accounted

theorem stepExtends {tokenAddr : Address} {w : World Address} (healthy : Healthy tokenAddr w)
    (i : Env Address × Call Address) : BillRegister.Extends w (step tokenAddr w i) := by
  obtain ⟨i',same⟩ := stepBill tokenAddr w i
  rw [same]
  exact BillRegister.stepExtends (deployed tokenAddr) w i' healthy.accounted.1

/- A small deployment to try results on: everybody signs, ledger 1, 16 ledgers of life. -/
def trialEnv : Env Nat := ⟨fun _ => true,fun _ => true,.lit 1,.lit 0,16⟩
def trialDeployment : Deployment Nat := ⟨0,9,.lit 7,[],[]⟩
def trialMint : Env Nat × Call Nat := (trialEnv,.token (.mint 1 (.lit 100)))

end SplitBill.Joint
