import SplitBill.Outcome
import SplitBill.Shown

/-! The page in use. The form is edited, wallets come and go and loads complete while a split and a settlement
are on their way. Either holds what it was pressed with and shows its phases one by one; its button stays off
until it ends, and what it does to the page then, it does to the page as it has become. -/
namespace SplitBill.Session
open Helpers Pipeline Client SplitFlow Outcome SplitBill.Flow Transition

def inProgress : Status → Bool
  | .progress _ _ => true
  | _ => false

structure Press where
  page : SplitFlow.Page
  script : SplitScript
  address : JsString
  summary : Summary
  passes : admitted page = some (address,summary)

def Press.ending (press : Press) (contractId : JsString) : Ended Thrown (JsString × JsString) × Trace :=
  split contractId press.script press.address press.page.form press.summary ⟨[],[]⟩

structure SettlePress where
  address : JsString
  present : address ≠ []
  bill : Client.Bill
  script : SettleScript

def SettlePress.ending (press : SettlePress) (contractId : JsString) : Ended Thrown JsString × Trace :=
  settleBill contractId press.script press.address (.integer press.bill.id) ⟨[],[]⟩

theorem connectedPresent {page : PageLoads.Page} {a : JsString} (connected : page.connected = some a) : a ≠ [] :=
  of_decide_eq_true (Option.filter_eq_some_iff.mp connected).2

structure App where
  page : PageLoads.Page
  form : Form
  splitStatus : Status
  settleStatus : Status
  splitting : Option (Press × Nat)
  settling : Option (SettlePress × Nat)
  past : List Press
  settled : List SettlePress
  applied : List XlmTransaction

def initial : App := ⟨PageLoads.Page.initial,⟨[],[],[[],[]],true⟩,.idle,.idle,none,none,[],[],[]⟩

inductive Event
  | page (e : PageLoads.Event)
  | pressRefresh
  | setTotalXlm (text : JsString)
  | setMemo (text : JsString)
  | setPayer (i : Nat) (text : JsString)
  | addPayer
  | removePayer (i : Nat)
  | setRecordOnChain (checked : Bool)
  | pressSplit (script : SplitScript)
  | splitMoves
  | pressSettle (row : Nat) (script : SettleScript)
  | settleMoves

def reported (phase : TxStatus) : Status := .progress phase (PHASE_LABELS phase)

/- The payment goes to Horizon once submitting has been shown for the first time. -/
def landed (trace : Trace) (shown : Nat) : List XlmTransaction :=
  if .submitting ∈ trace.phases.take shown then trace.applied else []

def landing (trace : Trace) (shown : Nat) (phase : TxStatus) : List XlmTransaction :=
  if phase = .submitting ∧ .submitting ∉ trace.phases.take shown then trace.applied else []

/- maxLength of the memo field. -/
def MAX_MEMO_UNITS : Nat := 28

def splitPage (s : App) : SplitFlow.Page := ⟨s.page.address,s.form,s.splitStatus⟩

section Steps
variable (config : Config) (stableSymbol : JsString) (s : App)

def pressSplit (script : SplitScript) : App :=
  if inProgress s.splitStatus then s
  else match passes : admitted (splitPage s) with
    | none => s
    | some (address,summary) =>
        {s with
          splitStatus := reported .preparing
          splitting := some (⟨splitPage s,script,address,summary,passes⟩,0)}

def endSplit (press : Press) : Ended Thrown (JsString × JsString) → App
  | .returned (hash,message) =>
      {s with
        splitStatus := .success hash message
        form := s.form.reset
        page := PageLoads.loadBills config (PageLoads.refreshBalance s.page press.address) press.address
        splitting := none
        past := s.past ++ [press]}
  | .threw e => {s with splitStatus := .error (errorText e),splitting := none,past := s.past ++ [press]}
  | .waiting => s

def splitMoves : App :=
  match s.splitting with
  | none => s
  | some (press,shown) =>
      match (press.ending config.contractId).2.phases[shown]? with
      | some phase =>
          {s with
            splitStatus := reported phase
            splitting := some (press,shown + 1)
            applied := s.applied ++ landing (press.ending config.contractId).2 shown phase}
      | none => endSplit config s press (press.ending config.contractId).1

-- The button of a row is there for a payer whose flag is not known to be set.
def pressSettle (row : Nat) (script : SettleScript) : App :=
  match connected : s.page.connected,s.page.bills.bind fun f => f.value[row]? with
  | some a,some b =>
      if inProgress s.settleStatus ∨ config.contractId = [] ∨ Shown.offersSettle s.page a b = false then s
      else {s with
        settleStatus := reported .preparing
        settling := some (⟨a,connectedPresent connected,b,script⟩,0)}
  | _,_ => s

def endSettle (press : SettlePress) : Ended Thrown JsString → App
  | .returned hash =>
      {s with
        settleStatus := .success hash (settleMessage config stableSymbol (.integer press.bill.id))
        page := PageLoads.refreshBalance (PageLoads.loadBills config s.page press.address) press.address
        settling := none
        settled := s.settled ++ [press]}
  | .threw e => {s with settleStatus := .error (errorText e),settling := none,settled := s.settled ++ [press]}
  | .waiting => s

def settleMoves : App :=
  match s.settling with
  | none => s
  | some (press,shown) =>
      match (press.ending config.contractId).2.phases[shown]? with
      | some phase => {s with settleStatus := reported phase,settling := some (press,shown + 1)}
      | none => endSettle config stableSymbol s press (press.ending config.contractId).1

def step : Event → App
  | .page e => {s with page := PageLoads.step config s.page e}
  | .pressRefresh => {s with page := s.page.connected.elim s.page (PageLoads.refreshBalance s.page)}
  | .setTotalXlm text => {s with form := {s.form with totalXlm := text}}
  | .setMemo text => if MAX_MEMO_UNITS < text.length then s else {s with form := {s.form with memo := text}}
  | .setPayer i text => {s with form := {s.form with payers := s.form.payers.set i text}}
  | .addPayer => {s with form := {s.form with payers := s.form.payers ++ [[]]}}
  | .removePayer i =>
      if s.form.payers.length ≤ 1 then s else {s with form := {s.form with payers := s.form.payers.eraseIdx i}}
  | .setRecordOnChain checked =>
      if s.page.connected = none ∨ config.contractId = [] then s
      else {s with form := {s.form with recordOnChain := checked}}
  | .pressSplit script => pressSplit s script
  | .splitMoves => splitMoves config s
  | .pressSettle row script => pressSettle config s row script
  | .settleMoves => settleMoves config stableSymbol s

end Steps

end SplitBill.Session
