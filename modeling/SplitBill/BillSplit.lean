import Mathlib.Data.List.Count
import SplitBill.Host
import SplitBill.Transition

/-! The bill-split contract over a token of which nothing is known but that a
transfer returns or traps. The token owns its state; the bill store never sees it.
Views that only unwrap a stored value keep the default or the trap of the source. -/
namespace SplitBill.BillSplit
open Host

def MAX_PAYERS : Nat := 20
def MAX_MEMO_LEN : Nat := 80

structure Bill (Address : Type) where
  id : U32
  creator : Address
  payers : List Address
  share : I128
  memo : List UInt8
  timestamp : U64
  deriving DecidableEq, Repr

/- One field for each variant of DataKey: keys of two variants never meet. -/
structure Storage (Address : Type) where
  token : Option Address
  billCount : Option U32
  bill : U32 → Option (Bill Address)
  settled : U32 × Address → Option Bool
  billsByCreator : Address → Option (List U32)
  billsByPayer : Address → Option (List U32)

structure Charge (Address : Type) where
  env : Env Address
  id : U32
  payer : Address
  token : Address
  source : Address
  target : MuxedAddress Address
  amount : I128

structure World (Address τ : Type) where
  store : Storage Address
  token : τ
  events : List (Event Address)
  charges : List (Charge Address)

abbrev Transfer (Address τ : Type) :=
  Env Address → (self source : Address) → MuxedAddress Address → I128 → τ → Except Trap τ

variable {Address τ : Type} [DecidableEq Address]

def constructed (token : Address) (t : τ) : World Address τ :=
  ⟨⟨some token,some (.lit 0),fun _ => none,fun _ => none,fun _ => none,fun _ => none⟩,t,[],[]⟩

def World.publish (w : World Address τ) (e : Event Address) : World Address τ := {w with events := w.events ++ [e]}

def createdEvent (b : Bill Address) : Event Address :=
  ⟨[.symbol "created",.address b.creator],.tuple [.u32 b.id,.i128 b.share,.string b.memo]⟩
def settledEvent (payer : Address) (id : U32) (share : I128) : Event Address :=
  ⟨[.symbol "settled",.address payer],.tuple [.u32 id,.i128 share]⟩

section Views
variable (w : World Address τ)

def token : Except Trap Address := expect w.store.token "contract not initialized"
def getBill (id : U32) : Except Trap (Bill Address) := expect (w.store.bill id) "bill not found"
def isSettled (id : U32) (payer : Address) : Bool := (w.store.settled (id,payer)).getD false
def billCount : U32 := w.store.billCount.getD (.lit 0)
def billsByCreator (creator : Address) : List U32 := (w.store.billsByCreator creator).getD []
def billsByPayer (payer : Address) : List U32 := (w.store.billsByPayer payer).getD []

end Views

def pushBack (index : Address → Option (List U32)) (key : Address) (id : U32) : Address → Option (List U32) :=
  Function.update index key (some ((index key).getD [] ++ [id]))

def createBill (env : Env Address) (w : World Address τ) (creator : Address) (payers : List Address)
    (share : I128) (memo : List UInt8) : Except Trap (U32 × World Address τ) := do
  requireAuth env creator
  failIf (share.val ≤ 0) (.panic "share must be positive")
  failIf (payers = []) (.panic "payers required")
  failIf (payers.length > MAX_PAYERS) (.panic "too many payers")
  failIf (memo.length > MAX_MEMO_LEN) (.panic "memo too long")
  let nextId ← arithmetic ((billCount w).add (.lit 1))
  let store := {w.store with billCount := some nextId}
  let bill : Bill Address := ⟨nextId,creator,payers,share,memo,env.timestamp⟩
  let store := {store with bill := Function.update store.bill nextId (some bill)}
  let store := {store with billsByCreator := pushBack store.billsByCreator creator nextId}
  let byPayer := payers.foldl (fun index payer => pushBack index payer nextId) store.billsByPayer
  let store := {store with billsByPayer := byPayer}
  let w := {w with store := store}
  .ok (nextId,w.publish (createdEvent bill))

/- The sub-invocation. The token sees the authority given for nested calls only. -/
def invokeTransfer (transfer : Transfer Address τ) (w : World Address τ) (c : Charge Address) :
    Except Trap (World Address τ) := do
  let t ← transfer c.env.nested c.token c.source c.target c.amount w.token
  .ok {w with token := t, charges := w.charges ++ [c]}

def settle (transfer : Transfer Address τ) (env : Env Address) (w : World Address τ) (id : U32) (payer : Address) :
    Except Trap (World Address τ) := do
  requireAuth env payer
  let bill ← expect (w.store.bill id) "bill not found"
  failIf (payer ∉ bill.payers) (.panic "address is not a payer on this bill")
  failIf (isSettled w id payer = true) (.panic "already settled")
  let tokenAddr ← expect w.store.token "contract not initialized"
  let w ← invokeTransfer transfer w ⟨env,id,payer,tokenAddr,payer,⟨bill.creator,none⟩,bill.share⟩
  let w := {w with store := {w.store with settled := Function.update w.store.settled (id,payer) (some true)}}
  .ok (w.publish (settledEvent payer id bill.share))

inductive Call (Address : Type) where
  | createBill (creator : Address) (payers : List Address) (share : I128) (memo : List UInt8)
  | settle (id : U32) (payer : Address)
  deriving DecidableEq, Repr

def invoke (transfer : Transfer Address τ) (env : Env Address) (w : World Address τ) :
    Call Address → Except Trap (World Address τ)
  | .createBill creator payers share memo => do
      let (_,w') ← createBill env w creator payers share memo
      .ok w'
  | .settle id payer => settle transfer env w id payer

/- Between two calls of this contract the token may be used by anybody. -/
inductive Input (Address τ : Type) where
  | call (env : Env Address) (c : Call Address)
  | elsewhere (next : τ)

def step (transfer : Transfer Address τ) (w : World Address τ) : Input Address τ → World Address τ
  | .call env c => commit w (invoke transfer env w c)
  | .elsewhere next => {w with token := next}

def recorded (w : World Address τ) (bill : Bill Address) : World Address τ :=
  {w with
    store := {w.store with
      billCount := some bill.id
      bill := Function.update w.store.bill bill.id (some bill)
      billsByCreator := pushBack w.store.billsByCreator bill.creator bill.id
      billsByPayer := bill.payers.foldl (fun index payer => pushBack index payer bill.id) w.store.billsByPayer}
    events := w.events ++ [createdEvent bill]}

def charged (w : World Address τ) (c : Charge Address) (t : τ) : World Address τ :=
  ⟨{w.store with settled := Function.update w.store.settled (c.id,c.payer) (some true)},t,
    w.events ++ [settledEvent c.payer c.id c.amount],w.charges ++ [c]⟩

def Sound (b : Bill Address) : Prop :=
  0 < b.share.val ∧ b.payers ≠ [] ∧ b.payers.length ≤ MAX_PAYERS ∧ b.memo.length ≤ MAX_MEMO_LEN
instance (b : Bill Address) : Decidable (Sound b) := by unfold Sound; infer_instance

theorem createBillExact {env : Env Address} {w w' : World Address τ} {creator payers share memo id} :
    createBill env w creator payers share memo = .ok (id,w') ↔
      env.authorised creator = true ∧ Sound ⟨id,creator,payers,share,memo,env.timestamp⟩ ∧
      id.val = (billCount w).val + 1 ∧ w' = recorded w ⟨id,creator,payers,share,memo,env.timestamp⟩ := by
  simp only [createBill,bindOk,requireAuthOk,failIfOk,arithmeticOk,MachineInt.addExact,Sound,World.publish,
    Except.ok.injEq,Prod.mk.injEq]
  constructor
  · rintro ⟨_,auth,_,share,_,some,_,few,_,short,_,next,rfl,rfl⟩
    exact ⟨auth,⟨by omega,some,by omega,by omega⟩,next,rfl⟩
  · rintro ⟨auth,⟨share,some,few,short⟩,next,rfl⟩
    exact ⟨(),auth,(),by omega,(),some,(),by omega,(),by omega,id,next,rfl,rfl⟩

theorem settleExact {transfer : Transfer Address τ} {env : Env Address} {w w' : World Address τ} {id payer} :
    settle transfer env w id payer = .ok w' ↔
      env.authorised payer = true ∧ ∃ bill, w.store.bill id = some bill ∧ payer ∈ bill.payers ∧
      isSettled w id payer = false ∧ ∃ tokenAddr, w.store.token = some tokenAddr ∧
      ∃ t, transfer env.nested tokenAddr payer ⟨bill.creator,none⟩ bill.share w.token = .ok t ∧
        w' = charged w ⟨env,id,payer,tokenAddr,payer,⟨bill.creator,none⟩,bill.share⟩ t := by
  simp only [settle,invokeTransfer,bindOk,requireAuthOk,failIfOk,expectOk,World.publish,Except.ok.injEq,
    Decidable.not_not,Bool.not_eq_true]
  constructor
  · rintro ⟨_,auth,bill,found,_,listed,_,fresh,addr,wired,_,⟨t,paid,rfl⟩,rfl⟩
    exact ⟨auth,bill,found,listed,fresh,addr,wired,t,paid,rfl⟩
  · rintro ⟨auth,bill,found,listed,fresh,addr,wired,t,paid,rfl⟩
    exact ⟨(),auth,bill,found,(),listed,(),fresh,addr,wired,_,⟨t,paid,rfl⟩,rfl⟩

theorem stepCases (transfer : Transfer Address τ) (w : World Address τ) (i : Input Address τ) :
    step transfer w i = w ∨
    (∃ t, step transfer w i = {w with token := t}) ∨
    (∃ bill, Sound bill ∧ bill.id.val = (billCount w).val + 1 ∧ step transfer w i = recorded w bill) ∨
    (∃ c bill t, c.env.authorised c.payer = true ∧ w.store.bill c.id = some bill ∧ c.payer ∈ bill.payers ∧
      isSettled w c.id c.payer = false ∧ w.store.token = some c.token ∧
      c = ⟨c.env,c.id,c.payer,c.token,c.payer,⟨bill.creator,none⟩,bill.share⟩ ∧ step transfer w i = charged w c t) := by
  cases i with
  | elsewhere next => exact .inr (.inl ⟨next,rfl⟩)
  | call env c =>
    cases result : invoke transfer env w c with
    | error trap => exact .inl (by simp [step,result])
    | ok w' =>
      have left : step transfer w (.call env c) = w' := by simp [step,result]
      cases c with
      | createBill creator payers share memo =>
        obtain ⟨⟨id,_⟩,created,same⟩ := bindOk.mp result
        cases Except.ok.inj same
        obtain ⟨_,sound,next,rfl⟩ := createBillExact.mp created
        exact .inr (.inr (.inl ⟨_,sound,next,left⟩))
      | settle id payer =>
        obtain ⟨auth,bill,found,listed,fresh,addr,wired,t,_,rfl⟩ := settleExact.mp result
        exact .inr (.inr (.inr ⟨_,bill,t,auth,found,listed,fresh,wired,rfl,left⟩))

end SplitBill.BillSplit
