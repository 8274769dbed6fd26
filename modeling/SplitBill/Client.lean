import SplitBill.Joint
import SplitBill.Pipeline
import SplitBill.ReadCache

/-! The client's reads and writes over both contracts as deployed. A read goes through the cache
under a key made from its view and arguments; a write that returns deletes the keys under its
prefixes. Nothing else is known of the SDK than that it converts addresses and texts. -/
namespace SplitBill.Client
open Host Helpers Pipeline Transition ReadCache
variable {Address : Type} [DecidableEq Address]

structure Config where
  contractId : JsString
  stableTokenId : JsString

structure Sdk (Address : Type) where
  fromString : JsString → Except JsString Address
  addressText : Address → JsString
  stringText : List UInt8 → JsString
  diagnostic : Trap → JsString
  outOfRange : JsString

def BILL_TTL_MS : Int := 10000

inductive Read
  | getBill (id : JsNumber)
  | isSettled (id : JsNumber) (payer : JsString)
  | getBillCount
  | getBillsByPayer (payer : JsString)
  | getBillsByCreator (creator : JsString)
  | getStableBalance (address : JsString)

structure Bill where
  id : Int
  creator : JsString
  payers : List JsString
  share : Int
  memo : JsString
  timestamp : Int
  deriving DecidableEq, Repr

inductive Reply
  | bill (b : Bill)
  | flag (settled : Bool)
  | count (n : Int)
  | ids (ns : List Int)
  | balance (amount : Int)
  deriving DecidableEq, Repr

def key : Read → JsString
  | .getBill id => js "bills:" ++ id.text
  | .isSettled id payer => js "settled:" ++ (id.text ++ (js ":" ++ payer))
  | .getBillCount => js "count"
  | .getBillsByPayer payer => js "bills:by-payer:" ++ payer
  | .getBillsByCreator creator => js "bills:by-creator:" ++ creator
  | .getStableBalance address => js "stable:" ++ address

section Reads
variable (config : Config) (sdk : Sdk Address) (w : Joint.World Address)

def fromString (text : JsString) : Except Thrown Address := (sdk.fromString text).mapError .other

def ranged {lo hi : Int} (value : Int) : Except Thrown (MachineInt lo hi) :=
  (MachineInt.checked lo hi value).elim (.error (.other sdk.outOfRange)) .ok

def toU32 : JsNumber → Except Thrown U32
  | .integer n => ranged sdk n
  | .other _ _ _ => .error (.other sdk.outOfRange)

def readView {α : Type} (view : Except Trap α) : Except Thrown α :=
  view.mapError fun trap => .contract ⟨js "Read failed: " ++ sdk.diagnostic trap,.simulation⟩

def native (raw : BillSplit.Bill Address) : Bill :=
  ⟨raw.id.val,sdk.addressText raw.creator,raw.payers.map sdk.addressText,raw.share.val,sdk.stringText raw.memo,
    raw.timestamp.val⟩

def fetch : Read → Except Thrown Reply
  | .getBill id => do
      let id ← toU32 sdk id
      let raw ← readView sdk (BillSplit.getBill w id)
      return .bill (native sdk raw)
  | .isSettled id payer => do
      let id ← toU32 sdk id
      let payer ← fromString sdk payer
      return .flag (BillSplit.isSettled w id payer)
  | .getBillCount => return .count (BillSplit.billCount w).val
  | .getBillsByPayer payer => do
      let payer ← fromString sdk payer
      return .ids ((BillSplit.billsByPayer w payer).map MachineInt.val)
  | .getBillsByCreator creator => do
      let creator ← fromString sdk creator
      return .ids ((BillSplit.billsByCreator w creator).map MachineInt.val)
  | .getStableBalance address => do
      let address ← fromString sdk address
      return .balance (Joint.balance w address).val

def unconfigured : Read → Option (Except Thrown Reply)
  | .getStableBalance _ => if config.stableTokenId = [] then some (.ok (.balance 0)) else none
  | _ =>
      match ensureContractConfigured config.contractId with
      | .error e => some (.error e)
      | .ok () => none

def direct (r : Read) : Except Thrown Reply := (unconfigured config r).getD (fetch sdk w r)

def read (c : Cache JsString Reply) (looked filled : Int) (r : Read) : Except Thrown Reply × Cache JsString Reply :=
  match unconfigured config r with
  | some answer => (answer,c)
  | none => cached c looked filled BILL_TTL_MS (key r) (fetch sdk w r)

end Reads

def invalidateReads {Value : Type} (c : Cache JsString Value) (search : JsString) : Cache JsString Value :=
  if search = [] then ReadCache.empty else invalidate c fun k => JsString.startsWith k search

inductive Write
  | createBill (request : BillRequest)
  | settleBill (sender : JsString) (billId : JsNumber)

def prefixes : Write → List JsString
  | .createBill _ => [js "bills:",js "count",js "events:"]
  | .settleBill _ billId => [js "settled:" ++ (billId.text ++ js ":"),js "events:",js "stable:"]

def covers (write : Write) (k : JsString) : Bool := (prefixes write).any fun search => JsString.startsWith k search

section Writes
variable (config : Config) (sdk : Sdk Address) (tokenAddr : Address)

def arguments : Write → Except Thrown (BillSplit.Call Address)
  | .createBill request => do
      let creator ← fromString sdk request.sender
      let payers ← request.payers.mapM (fromString sdk)
      let share ← ranged sdk request.shareStroops
      return .createBill creator payers share (JsString.utf8 request.memo)
  | .settleBill sender billId => do
      let id ← toU32 sdk billId
      let payer ← fromString sdk sender
      return .settle id payer

/- A write that is applied and returns, or throws and is not applied. `delivery` is what the network
makes of the signed transaction: the hash under which it is included, or a failure on the way. -/
def submit (env : Env Address) (delivery : Except Thrown JsString) (w : Joint.World Address) (write : Write) :
    Except Thrown (JsString × Joint.World Address) := do
  let call ← arguments sdk write
  ensureContractConfigured config.contractId
  let hash ← delivery
  let w' ← (Joint.invoke tokenAddr env w (.bill call)).mapError fun trap =>
    .contract ⟨decodeSimError (sdk.diagnostic trap),.simulation⟩
  return (hash,w')

structure State (Address : Type) where
  cache : Cache JsString Reply
  world : Joint.World Address

inductive Op (Address : Type)
  | read (looked filled : Int) (r : Read)
  | write (env : Env Address) (delivery : Except Thrown JsString) (write : Write)

def step (s : State Address) : Op Address → State Address
  | .read looked filled r => {s with cache := (read config sdk s.world s.cache looked filled r).2}
  | .write env delivery write =>
      match submit config sdk tokenAddr env delivery s.world write with
      | .ok (_,w') => ⟨(prefixes write).foldl invalidateReads s.cache,w'⟩
      | .error _ => s

end Writes

inductive View
  | bill
  | flag
  | count
  | byPayer
  | byCreator
  | balance
  deriving DecidableEq

def Read.view : Read → View
  | .getBill _ => .bill
  | .isSettled _ _ => .flag
  | .getBillCount => .count
  | .getBillsByPayer _ => .byPayer
  | .getBillsByCreator _ => .byCreator
  | .getStableBalance _ => .balance

def viewOf (k : JsString) : View :=
  if k.head? = some 99 then .count
  else if k.head? = some 115 then if k[1]? = some 101 then .flag else .balance
  else if 58 ∈ k.drop 6 then if k[9]? = some 112 then .byPayer else .byCreator
  else .bill

theorem viewOfKey (r : Read) : viewOf (key r) = r.view := by
  cases r with
  | getBill id =>
    have plain : 58 ∉ (key (.getBill id)).drop 6 := id.textNoColon
    unfold viewOf
    rw [if_neg plain]
    rfl
  | isSettled id payer => rfl
  | getBillCount => rfl
  | getBillsByPayer payer =>
    have colon : 58 ∈ (key (.getBillsByPayer payer)).drop 6 := List.mem_append_left payer (by decide : 58 ∈ js "by-payer:")
    unfold viewOf
    rw [if_pos colon]
    rfl
  | getBillsByCreator creator =>
    have colon : 58 ∈ (key (.getBillsByCreator creator)).drop 6 :=
      List.mem_append_left creator (by decide : 58 ∈ js "by-creator:")
    unfold viewOf
    rw [if_pos colon]
    rfl
  | getStableBalance address => rfl

theorem keyInjective : Function.Injective key := by
  intro a b same
  have views : a.view = b.view := by
    rw [← viewOfKey a,← viewOfKey b,same]
  cases a <;> cases b <;> simp only [Read.view,reduceCtorEq] at views
  case getBill.getBill id id' => rw [JsNumber.textInjective (List.append_cancel_left same)]
  case isSettled.isSettled id payer id' payer' =>
    have parts : id.text = id'.text ∧ payer = payer' :=
      JsString.separated id.textNoColon id'.textNoColon (List.append_cancel_left same)
    rw [JsNumber.textInjective parts.1,parts.2]
  case getBillCount.getBillCount => rfl
  case getBillsByPayer.getBillsByPayer => rw [List.append_cancel_left same]
  case getBillsByCreator.getBillsByCreator => rw [List.append_cancel_left same]
  case getStableBalance.getStableBalance => rw [List.append_cancel_left same]

section Frame
variable {config : Config} {sdk : Sdk Address} {tokenAddr : Address} {env : Env Address}
  {w w' : Joint.World Address} {call : BillSplit.Call Address}

omit [DecidableEq Address] in
theorem rangedExact {lo hi value : Int} {n : MachineInt lo hi} : ranged sdk value = .ok n ↔ n.val = value := by
  rw [← MachineInt.checkedExact]
  unfold ranged
  cases MachineInt.checked lo hi value <;> simp

omit [DecidableEq Address] in
theorem toU32Exact {id : U32} {n : JsNumber} : toU32 sdk n = .ok id ↔ n = .integer id.val := by
  cases n with
  | integer n =>
    rw [toU32,rangedExact,JsNumber.integer.injEq]
    exact eq_comm
  | other text _ _ => simp [toU32]

theorem createBillFrame {request : BillRequest} {r : Read}
    (converted : arguments sdk (.createBill request) = .ok call)
    (applied : Joint.invoke tokenAddr env w (.bill call) = .ok w')
    (spared : covers (.createBill request) (key r) = false) : fetch sdk w' r = fetch sdk w r := by
  simp only [arguments,bindOk] at converted
  obtain ⟨creator,_,payers,_,share,_,last⟩ := converted
  cases last
  cases Joint.invokeEffect applied with
  | createBill created token =>
    obtain ⟨_,_,_,rfl⟩ := BillSplit.createBillExact.mp created
    cases r with
    | isSettled id payer => rfl
    | getStableBalance address => rfl
    | _ => contradiction

theorem settleBillFrame {sender : JsString} {billId : JsNumber} {r : Read}
    (converted : arguments sdk (.settleBill sender billId) = .ok call)
    (applied : Joint.invoke tokenAddr env w (.bill call) = .ok w')
    (spared : covers (.settleBill sender billId) (key r) = false) : fetch sdk w' r = fetch sdk w r := by
  simp only [arguments,bindOk] at converted
  obtain ⟨id,numbered,payer,_,last⟩ := converted
  cases last
  cases Joint.invokeEffect applied with
  | settle _ _ _ _ paid =>
    cases r with
    | isSettled id' payer' =>
      cases asked : toU32 sdk id' with
      | error e => simp only [fetch,asked]; rfl
      | ok n =>
        -- The same number would print the same, and its key would be under the prefix.
        have elsewhere : n ≠ id := by
          intro same
          have number : id' = billId := by
            rw [toU32Exact.mp asked,toU32Exact.mp numbered,same]
          have covered : covers (.settleBill sender billId) (key (.isSettled billId payer')) = true := by
            simp [covers,prefixes,key,← List.append_assoc,JsString.startsWithPrefix]
          rw [number,covered] at spared
          contradiction
        simp only [fetch,asked,okBind,BillRegister.chargedFlag,elsewhere,false_and,if_false]
    | getStableBalance address => contradiction
    | _ => rfl

theorem writeFrame {write : Write} {r : Read} (converted : arguments sdk write = .ok call)
    (applied : Joint.invoke tokenAddr env w (.bill call) = .ok w')
    (spared : covers write (key r) = false) : fetch sdk w' r = fetch sdk w r := by
  cases write with
  | createBill request => exact createBillFrame converted applied spared
  | settleBill sender billId => exact settleBillFrame converted applied spared

theorem submitExact {delivery : Except Thrown JsString} {hash : JsString} {write : Write}
    (returned : submit config sdk tokenAddr env delivery w write = .ok (hash,w')) :
    ∃ call, arguments sdk write = .ok call ∧ Joint.invoke tokenAddr env w (.bill call) = .ok w' := by
  simp only [submit,bindOk,mapErrorOk] at returned
  obtain ⟨call,converted,_,_,_,_,_,applied,last⟩ := returned
  cases last
  exact ⟨call,converted,applied⟩

end Frame

theorem invalidateEach {Value : Type} (c : Cache JsString Value) {searches : List JsString} (some : [] ∉ searches) :
    searches.foldl invalidateReads c = invalidate c fun k => searches.any fun search => JsString.startsWith k search := by
  induction searches generalizing c with
  | nil => rfl
  | cons search rest ih =>
    have present : search ≠ [] := fun empty => some (empty ▸ List.mem_cons_self)
    rw [List.foldl_cons,ih _ fun member => some (List.mem_cons_of_mem _ member),invalidateReads,if_neg present,
      invalidateInvalidate]
    rfl

theorem invalidateAll {Value : Type} (c : Cache JsString Value) (write : Write) :
    (prefixes write).foldl invalidateReads c = invalidate c (covers write) := by
  apply invalidateEach
  intro empty
  cases write with
  | createBill request => nomatch empty
  | settleBill sender billId => nomatch empty

section Sequential
variable (config : Config) (sdk : Sdk Address) (tokenAddr : Address)

theorem stepCoherent : Preserves (step config sdk tokenAddr)
    (fun s : State Address => Coherent key (fetch sdk) s.world s.cache) := by
  intro s op coherent
  cases op with
  | read looked filled r =>
    simp only [step,read]
    split
    · exact coherent
    · exact (cachedExact keyInjective coherent looked filled BILL_TTL_MS r).2
  | write env delivery write =>
    simp only [step]
    split
    · rename_i returned
      obtain ⟨call,converted,applied⟩ := submitExact returned
      rw [invalidateAll]
      exact coherentInvalidate coherent fun r spared => writeFrame converted applied spared
    · exact coherent

theorem cachedReadsDirect (d : Joint.Deployment Address) (inputs : List (Env Address × Joint.Call Address))
    (ops : List (Op Address)) (looked filled : Int) (r : Read) :
    let s := run (step config sdk d.tokenAddr) ⟨ReadCache.empty,d.world inputs⟩ ops
    (read config sdk s.world s.cache looked filled r).1 = direct config sdk s.world r := by
  intro s
  have coherent : Coherent key (fetch sdk) s.world s.cache :=
    runPreserves (stepCoherent config sdk d.tokenAddr) (coherentEmpty (d.world inputs)) ops
  unfold read direct
  cases unconfigured config r with
  | some answer => rfl
  | none => exact (cachedExact keyInjective coherent looked filled BILL_TTL_MS r).1

end Sequential
end SplitBill.Client
