import SplitBill.Growth
import SplitBill.Inclusion
import SplitBill.ReadBack
import SplitBill.SplitFlow

/-! What a success on the page stands for. The polling loop reports one only for a transaction that the ledger
has included and executed; so a settlement reported has moved the share and set its flag, and the bill that
the message of a split names is on the chain as the form asked for it, from then on in every later world. -/
namespace SplitBill.Outcome
open Host Helpers Pipeline Client Inclusion SplitFlow Growth SplitBill.Flow Transition
variable {Address : Type}

structure Panel where
  address : Option JsString
  settleStatus : Status
  deriving DecidableEq, Repr

def settleMessage (config : Config) (stableSymbol : JsString) (billId : JsNumber) : JsString :=
  if config.stableTokenId ≠ [] then
    js "Paid " ++ stableSymbol ++ js " share for bill #" ++ billId.text ++ js " via inter-contract transfer."
  else js "Marked bill #" ++ billId.text ++ js " as settled."

def handleSettle (config : Config) (stableSymbol : JsString) (script : SettleScript) (panel : Panel) (billId : JsNumber) :
    Panel × Option JsString :=
  match panel.address with
  | none => (panel,none)
  | some address =>
      if address = [] then (panel,none)
      else match settleBill config.contractId script address billId ⟨[],[]⟩ with
        | (.returned hash,_) =>
            ({panel with settleStatus := .success hash (settleMessage config stableSymbol billId)},some address)
        | (.threw e,_) => ({panel with settleStatus := .error (errorText e)},none)
        | (.waiting,trace) =>
            let phase := trace.phases.getLastD .preparing
            ({panel with settleStatus := .progress phase (PHASE_LABELS phase)},none)

/- The ledger executes what it includes: the transaction is successful where the call returns in the world
that it finds, and its value is the call's. -/
def resultOf [DecidableEq Address] (tokenAddr : Address) (env : Env Address) (w : Joint.World Address) :
    BillSplit.Call Address → Except Trap (Option Int)
  | .createBill creator payers share memo =>
      (BillSplit.createBill env w creator payers share memo).map fun r => some r.1.val
  | .settle id payer => (BillSplit.settle (Joint.deployed tokenAddr) env w id payer).map fun _ => none

def Executes [DecidableEq Address] (tokenAddr : Address) (w : Joint.World Address) (call : BillSplit.Call Address)
    (i : Included Address) : Prop :=
  match resultOf tokenAddr i.ledger w call with
  | .ok value => i.successful = true ∧ i.returnValue = value
  | .error _ => i.successful = false

section Loop
variable {contractId hash : JsString} {a : Attempt Address} {returnValue : Option Int} {t : Trace}

theorem confirmationSource {start : Int} {first : Poll} {polls : List (Int × Poll)}
    (confirmed : confirmation start first polls = some (.ok returnValue)) : Poll.success returnValue ∈ answers first polls := by
  fun_induction confirmation start first polls with
  | case1 => cases confirmed
  | case2 => cases confirmed; exact List.mem_cons_self
  | case3 => cases confirmed
  | case4 => cases confirmed
  | case5 => cases confirmed
  | case6 now next rest early ih => exact List.mem_cons_of_mem _ (ih confirmed)

theorem answerSource {r : Request} (answered : a.answer r = .success returnValue) :
    ∃ i, a.inclusion = some i ∧ i.successful = true ∧ i.returnValue = returnValue := by
  cases r with
  | failed message => contradiction
  | answered time =>
    unfold Attempt.answer at answered
    cases included : a.inclusion with
    | none => simp [included] at answered
    | some i =>
      simp only [included] at answered
      split at answered
      · contradiction
      · split at answered
        · rename_i successful
          cases answered
          exact ⟨i,rfl,successful,rfl⟩
        · contradiction

theorem invocationIncluded (returns : Returns (invokeContract contractId a.script) t (hash,returnValue)) :
    ∃ i, a.inclusion = some i ∧ i.successful = true ∧ i.returnValue = returnValue := by
  rw [invokeContractSends] at returns
  simp only [returnsBind,returnsAttempt,returnsAwait,returnsPure] at returns
  obtain ⟨_,_,_,_,_,_,value,confirmed,same⟩ := returns
  cases same
  have asked : answers a.script.first a.script.polls = a.requests.map a.answer := by
    simp [answers,Attempt.script,Attempt.requests]
  have source := confirmationSource confirmed
  rw [asked] at source
  obtain ⟨r,_,answered⟩ := List.mem_map.mp source
  exact answerSource answered

end Loop

section Executed
variable [DecidableEq Address] {tokenAddr : Address} {w : Joint.World Address} {i : Included Address}

theorem callExecuted {call : BillSplit.Call Address} (executes : Executes tokenAddr w call i)
    (successful : i.successful = true) : ∃ w', Joint.invoke tokenAddr i.ledger w (.bill call) = .ok w' := by
  unfold Executes at executes
  cases call with
  | createBill creator payers share memo =>
    cases created : BillSplit.createBill i.ledger w creator payers share memo with
    | error trap => simp [resultOf,created,Except.map,successful] at executes
    | ok r => exact ⟨r.2,by simp [Joint.invoke,BillSplit.invoke,created]⟩
  | settle id payer =>
    cases settled : BillSplit.settle (Joint.deployed tokenAddr) i.ledger w id payer with
    | error trap => simp [resultOf,settled,Except.map,successful] at executes
    | ok w' => exact ⟨w',settled⟩

theorem createdValue {creator : Address} {payers : List Address} {share : I128} {memo : List UInt8}
    (executes : Executes tokenAddr w (.createBill creator payers share memo) i) (successful : i.successful = true) :
    i.returnValue = some ((BillSplit.billCount w).val + 1) := by
  unfold Executes at executes
  cases created : BillSplit.createBill i.ledger w creator payers share memo with
  | error trap => simp [resultOf,created,Except.map,successful] at executes
  | ok r =>
    obtain ⟨id,w'⟩ := r
    simp only [resultOf,created,Except.map] at executes
    rw [executes.2,(BillSplit.createBillExact.mp created).2.2.1]

end Executed

theorem convertedCall {sdk : Sdk Address} {write : Write} {u : Unit} (converts : converted sdk write = .ok u) :
    ∃ call, arguments sdk write = .ok call := by
  unfold converted at converts
  split at converts
  · rename_i call sends
    exact ⟨call,sends⟩
  · contradiction

theorem appliedInvocation {contractId hash : JsString} {a : Attempt Address} {returnValue : Option Int} {t : Trace}
    [DecidableEq Address] {sdk : Sdk Address} {tokenAddr : Address} {w : Joint.World Address} {write : Write} {u : Unit}
    (returns : Returns (invokeContract contractId a.script) t (hash,returnValue)) (sent : converted sdk write = .ok u)
    (executes : ∀ call, arguments sdk write = .ok call → ∀ i ∈ a.inclusion, Executes tokenAddr w call i) :
    ∃ call i w', arguments sdk write = .ok call ∧ a.inclusion = some i ∧ i.successful = true ∧
      i.returnValue = returnValue ∧ Executes tokenAddr w call i ∧ Joint.invoke tokenAddr i.ledger w (.bill call) = .ok w' := by
  obtain ⟨i,included,successful,value⟩ := invocationIncluded returns
  obtain ⟨call,sends⟩ := convertedCall sent
  have execution := executes call sends i included
  obtain ⟨w',applied⟩ := callExecuted execution successful
  exact ⟨call,i,w',sends,included,successful,value,execution,applied⟩

section Settle
variable {config : Config} {stableSymbol address hash message : JsString} {panel : Panel} {billId : JsNumber}

theorem settleReturned {script : SettleScript} (connected : panel.address = some address) (present : address ≠ [])
    (success : (handleSettle config stableSymbol script panel billId).1.settleStatus = .success hash message) :
    message = settleMessage config stableSymbol billId ∧ script.arguments address billId = .ok () ∧
      ∃ returnValue, Returns (invokeContract config.contractId script.call) ⟨[],[]⟩ (hash,returnValue) := by
  simp only [handleSettle,connected,if_neg present] at success
  have returns : Returns (settleBill config.contractId script address billId) ⟨[],[]⟩ hash ∧
      message = settleMessage config stableSymbol billId := by
    unfold Returns
    generalize settleBill config.contractId script address billId ⟨[],[]⟩ = ending at success
    obtain ⟨result,trace⟩ := ending
    cases result with
    | returned hash' => cases success; exact ⟨rfl,rfl⟩
    | threw e => cases success
    | waiting => cases success
  refine ⟨returns.2,?_⟩
  simp only [settleBill,returnsBind,returnsAttempt,returnsPure,attemptState] at returns
  obtain ⟨⟨_,arguments,⟨_,returnValue⟩,returned,rfl⟩,_⟩ := returns
  exact ⟨arguments,returnValue,returned⟩

end Settle

section Split
variable {contractId address hash message : JsString} {script : SplitScript} {page : SplitFlow.Page} {s : Summary}

theorem splitReturned (passes : admitted page = some (address,s))
    (success : (handleSplit contractId script page).1.splitStatus = .success hash message) :
    if page.form.recordOnChain = true ∧ contractId ≠ [] then
      ∃ result t, Returns (invokeContract contractId script.bill.call) t result ∧
        script.bill.arguments (billRequest address page.form.memo s) = .ok () ∧
        message = js "Split sent and recorded as bill #" ++ billIdText result.2 ++ js "."
    else message = js "Split sent." := by
  rw [handleSplitAdmitted passes] at success
  have returns : Returns (split contractId script address page.form s) ⟨[],[]⟩ (hash,message) := by
    unfold Returns
    generalize split contractId script address page.form s ⟨[],[]⟩ = ending at success
    obtain ⟨result,trace⟩ := ending
    cases result with
    | returned done =>
      obtain ⟨hash',message'⟩ := done
      cases success
      rfl
    | threw e => cases success
    | waiting => cases success
  obtain ⟨xlmHash,_,rest⟩ := returnsBind.mp returns
  split
  · rename_i recording
    rw [if_pos recording] at rest
    obtain ⟨result,created,same⟩ := returnsBind.mp rest
    cases returnsPure.mp same
    obtain ⟨_,converts,returned⟩ := returnsBind.mp created
    exact ⟨result,_,returned,returnsAttempt.mp converts,rfl⟩
  · rename_i plain
    rw [if_neg plain] at rest
    cases returnsPure.mp rest
    rfl

end Split

section Theorems
variable [DecidableEq Address] (config : Config) (sdk : Sdk Address) (d : Joint.Deployment Address)
  (before : List (Env Address × Joint.Call Address)) (a : Attempt Address)

def settleScript : SettleScript := ⟨fun sender billId => converted sdk (.settleBill sender billId),a.script⟩

theorem successMoved (stableSymbol address : JsString) (panel : Panel) (billId : JsNumber)
    (connected : panel.address = some address) (present : address ≠ [])
    (executes : ∀ call, arguments sdk (.settleBill address billId) = .ok call →
      ∀ i ∈ a.inclusion, Executes d.tokenAddr (d.world before) call i) (hash message : JsString)
    (success : (handleSettle config stableSymbol (settleScript sdk a) panel billId).1.settleStatus = .success hash message) :
    message = settleMessage config stableSymbol billId ∧
    ∃ k payer bill i w', billId = .integer k.val ∧ sdk.fromString address = .ok payer ∧ a.inclusion = some i ∧
      i.successful = true ∧ Joint.invoke d.tokenAddr i.ledger (d.world before) (.bill (.settle k payer)) = .ok w' ∧
      Joint.step d.tokenAddr (d.world before) (i.ledger,.bill (.settle k payer)) = w' ∧
      BillSplit.getBill (d.world before) k = .ok bill ∧ payer ∈ bill.payers ∧
      BillSplit.isSettled (d.world before) k payer = false ∧
      SettleFrame.Settles (d.world before) w' k payer bill ∧
      ∀ later, BillSplit.isSettled (run (Joint.step d.tokenAddr) w' later) k payer = true := by
  obtain ⟨told,sent,returnValue,returned⟩ := settleReturned connected present success
  have healthy : Joint.Healthy d.tokenAddr (d.world before) := Joint.worldHealthy d before
  obtain ⟨call,i,w',sends,included,successful,_,_,applied⟩ := appliedInvocation returned sent executes
  simp only [arguments,bindOk] at sends
  obtain ⟨k,number,payer,named,last⟩ := sends
  cases last
  have stepped : Joint.step d.tokenAddr (d.world before) (i.ledger,.bill (.settle k payer)) = w' :=
    congrArg (commit _) applied
  have left := SettlementOrder.leavesOne applied
  refine ⟨told,k,payer,?_⟩
  cases Joint.invokeEffect applied with
  | @settle _ _ bill t _ found listed unset _ =>
    have settles := SettleFrame.leftSettles (BillRegister.getBillExact.mp found) left
    refine ⟨bill,i,_,toU32Exact.mp number,mapErrorOk.mp named,included,successful,applied,stepped,found,listed,unset,
      settles,?_⟩
    intro later
    have after : Joint.Healthy d.tokenAddr _ := stepped ▸ Joint.stepHealthy d.tokenAddr _ (i.ledger,.bill (.settle k payer)) healthy
    exact (leadsGrown after ⟨later,rfl⟩).kept.flag k payer settles.flagged

def billScript : BillScript := ⟨fun request => converted sdk (.createBill request),a.script⟩

theorem successRecorded (contractId : JsString) (faithful : ReadBack.Faithful sdk) (xlm : XlmScript) (page : SplitFlow.Page)
    (address : JsString) (s : Summary) (passes : admitted page = some (address,s))
    (executes : ∀ call, arguments sdk (.createBill (billRequest address page.form.memo s)) = .ok call →
      ∀ i ∈ a.inclusion, Executes d.tokenAddr (d.world before) call i) (hash message : JsString)
    (success : (handleSplit contractId ⟨xlm,billScript sdk a⟩ page).1.splitStatus = .success hash message) :
    (handleSplit contractId ⟨xlm,billScript sdk a⟩ page).2 = [xlmTransaction address (payments s) page.form.memo] ∧
    if page.form.recordOnChain = true ∧ contractId ≠ [] then
      ∃ bill i w' total, a.inclusion = some i ∧
        Joint.step d.tokenAddr (d.world before)
          (i.ledger,.bill (.createBill bill.creator bill.payers bill.share bill.memo)) = w' ∧
        CreateFrame.Creates (d.world before) w' bill ∧
        message = js "Split sent and recorded as bill #" ++ JsString.decimalInt bill.id.val ++ js "." ∧
        sdk.addressText bill.creator = address ∧ bill.payers.map sdk.addressText = cleanPayers page.form ∧
        xlmToStroops page.form.totalXlm = .ok total ∧ bill.share.val = total / (cleanPayers page.form).length ∧
        bill.memo = JsString.utf8 page.form.memo ∧
        ∀ later, BillSplit.getBill (run (Joint.step d.tokenAddr) w' later) bill.id = .ok bill
    else message = js "Split sent." := by
  have paid := successPaid passes (by rw [success]; rfl)
  refine ⟨paid,?_⟩
  have told := splitReturned passes success
  split
  · rename_i recording
    rw [if_pos recording] at told
    obtain ⟨⟨billHash,returnValue⟩,t,returned,sent,rfl⟩ := told
    have healthy : Joint.Healthy d.tokenAddr (d.world before) := Joint.worldHealthy d before
    obtain ⟨call,i,w',sends,included,successful,value,execution,applied⟩ := appliedInvocation returned sent executes
    obtain ⟨bill,rfl,creates,_,sender,payers,share,memo⟩ := ReadBack.requestCreated faithful healthy.accounted.1 sends applied
    have stepped : Joint.step d.tokenAddr (d.world before)
        (i.ledger,.bill (.createBill bill.creator bill.payers bill.share bill.memo)) = w' := congrArg (commit _) applied
    have named : returnValue = some bill.id.val := by
      rw [← value,createdValue execution successful,creates.numbered]
    obtain ⟨_,found⟩ := admittedSummary passes
    obtain ⟨_,anyone,total,amount,rfl⟩ := summaryExact.mp found
    refine ⟨bill,i,w',total,included,stepped,creates,?_,sender.symm,payers.symm,amount,?_,memo,?_⟩
    · rw [named]
      rfl
    · rw [← share]
      exact Int.tdiv_eq_ediv_of_nonneg (xlmToStroopsPositive amount).le
    · intro later
      have after : Joint.Healthy d.tokenAddr w' := stepped ▸ Joint.stepHealthy d.tokenAddr _ _ healthy
      exact BillRegister.getBillExact.mpr ((leadsGrown after ⟨later,rfl⟩).kept.bill _ _
        (BillRegister.getBillExact.mp creates.stored))
  · rename_i plain
    rwa [if_neg plain] at told

end Theorems

def promptAttempt (returnValue : Option Int) : Attempt JsString where
  account := .ok ()
  built := .ok ()
  builtAt := 0
  simulation := .success
  prepared := .ok ()
  signature := .ok ()
  parsed := .ok ()
  sent := .pending (js "s")
  inclusion := some ⟨3000,ReadBack.textEnv,true,returnValue⟩
  first := .answered 500
  start := 600
  polls := [(600,.answered 4000)]
  valid := by
    rintro i ⟨⟩
    have inTime : (0 : Int) ≤ 3000 ∧ (3000 : Int) ≤ 0 + VALID_MS := by decide
    exact inTime
  refused := by simp

def shareOfB : List (Env JsString × Joint.Call JsString) :=
  ReadBack.fundedB ++ [(ReadBack.textEnv,.bill (.createBill (js "A") [js "B"] (.lit 5) []))]

theorem shareOfBMoved : ∃ w', BillSplit.isSettled (ReadBack.textDeployment.world shareOfB) (.lit 1) (js "B") = false ∧
    Joint.invoke (js "T") ReadBack.textEnv (ReadBack.textDeployment.world shareOfB) (.bill (.settle (.lit 1) (js "B"))) =
      .ok w' ∧
    BillSplit.isSettled w' (.lit 1) (js "B") = true ∧ (Joint.balance w' (js "B")).val = 95 := by
  have executes : ∀ call, arguments ReadBack.textSdk (.settleBill (js "B") (.integer 1)) = .ok call →
      ∀ i ∈ (promptAttempt none).inclusion, Executes (js "T") (ReadBack.textDeployment.world shareOfB) call i := by
    rintro call ⟨⟩ i ⟨⟩
    exact ⟨rfl,rfl⟩
  obtain ⟨_,k,payer,bill,i,w',number,named,included,_,returned,_,found,_,unset,settles,_⟩ :=
    successMoved ReadBack.textConfig ReadBack.textSdk ReadBack.textDeployment shareOfB (promptAttempt none) (js "BILL")
      (js "B") ⟨some (js "B"),.idle⟩ (.integer 1) rfl (by decide) executes _ _ rfl
  cases named
  cases included
  obtain rfl : (.lit 1 : U32) = k := MachineInt.ext (JsNumber.integer.inj number)
  cases found
  exact ⟨w',unset,returned,settles.flagged,settles.debited (by decide)⟩

def dinnerPage : SplitFlow.Page := ⟨some (js "GBUYER"),⟨js "12.5",js "Dîner à trois",trialPayers,true⟩,.idle⟩
def dinnerSummary : Summary := ⟨125000000,[41666666,41666666,41666668],trialPayers⟩

def dinnerScript : SplitScript := ⟨trialScript.xlm,billScript ReadBack.textSdk (promptAttempt (some 1))⟩

theorem trialSplitRecorded : (handleSplit (js "C") dinnerScript dinnerPage).2 =
      [xlmTransaction (js "GBUYER") (payments dinnerSummary) (js "Dîner à trois")] ∧
    ∃ bill w', Joint.step (js "T") (ReadBack.textDeployment.world [])
      (ReadBack.textEnv,.bill (.createBill bill.creator bill.payers bill.share bill.memo)) = w' ∧
    BillSplit.getBill w' (.lit 1) = .ok bill ∧ bill.payers = trialPayers ∧ bill.share.val = 41666666 ∧
    bill.memo = JsString.utf8 (js "Dîner à trois") := by
  have passes : admitted dinnerPage = some (js "GBUYER",dinnerSummary) := by decide +kernel
  have payers : cleanPayers dinnerPage.form = trialPayers := by decide +kernel
  have success : (handleSplit (js "C") dinnerScript dinnerPage).1.splitStatus =
      .success (js "a") (js "Split sent and recorded as bill #1.") := by decide +kernel
  have executes : ∀ call, arguments ReadBack.textSdk (.createBill (billRequest (js "GBUYER") dinnerPage.form.memo
      dinnerSummary)) = .ok call →
      ∀ i ∈ (promptAttempt (some 1)).inclusion, Executes (js "T") (ReadBack.textDeployment.world []) call i := by
    rintro call ⟨⟩ i ⟨⟩
    exact ⟨rfl,rfl⟩
  obtain ⟨paid,recorded⟩ := successRecorded ReadBack.textSdk ReadBack.textDeployment [] (promptAttempt (some 1)) (js "C")
    ReadBack.textSdkFaithful trialScript.xlm dinnerPage _ _ passes executes _ _ success
  rw [if_pos (by decide)] at recorded
  obtain ⟨bill,i,w',total,included,stepped,creates,_,_,listed,amount,share,memo,_⟩ := recorded
  cases included
  have number : bill.id = .lit 1 := MachineInt.ext creates.numbered
  have whole : xlmToStroops dinnerPage.form.totalXlm = .ok 125000000 := by decide +kernel
  rw [whole] at amount
  cases amount
  rw [payers] at listed share
  exact ⟨paid,bill,w',stepped,number ▸ creates.stored,(List.map_id _).symm.trans listed,share,memo⟩

end SplitBill.Outcome
