import SplitBill.Helpers

/-! The two write pipelines of the client: the classic payment transaction and the contract
call. What Horizon, the RPC node, the wallet and the SDK answer is given by a script, one
answer a step; every answer may be a failure, whichever step has answered before. -/
namespace SplitBill.Pipeline
open Helpers SplitBill.Flow

inductive TxStatus
  | preparing
  | signing
  | submitting
  | confirming
  deriving DecidableEq, Repr

structure Payment where
  destination : JsString
  amountStroops : Int
  deriving DecidableEq, Repr

structure XlmTransaction where
  source : JsString
  operations : List (JsString × JsString)
  memo : Option JsString
  deriving DecidableEq, Repr

structure Trace where
  phases : List TxStatus
  applied : List XlmTransaction
  deriving DecidableEq, Repr

abbrev Step (α : Type) := Flow Thrown Trace α

def onStatus (phase : TxStatus) : Step Unit := act fun t => {t with phases := t.phases ++ [phase]}
def apply (tx : XlmTransaction) : Step Unit := act fun t => {t with applied := t.applied ++ [tx]}

def orElse (message : JsString) (fallback : String) : JsString := if message = [] then js fallback else message

def signingFailure (message : JsString) : Thrown :=
  .contract ⟨orElse message "Signing was rejected.",.rejected⟩

/- A submission may be applied although its answer gets lost on the way back. -/
inductive Submission
  | accepted (hash : JsString)
  | rejected (detail : JsString)
  | lost (detail : JsString)
  deriving DecidableEq, Repr

inductive LoadFailure
  | notFound
  | failed (message : JsString)
  deriving DecidableEq, Repr

def loadFailure : LoadFailure → Thrown
  | .notFound => .contract ⟨js "Sender account does not exist on testnet — fund it from friendbot first.",.rpc⟩
  | .failed message => .contract ⟨js "Could not load sender account: " ++ message,.rpc⟩

structure XlmScript where
  account : Except LoadFailure Unit
  built : XlmTransaction → Except JsString Unit
  signature : Except JsString Unit
  parsed : Except JsString Unit
  submission : Submission

def stroopsAsXlmString (stroops : Int) : JsString := formatStroops 10000000 stroops

def memoText (memo : JsString) : Option JsString :=
  if memo ≠ [] ∧ JsString.trim memo ≠ [] then some (memo.take 28) else none

def xlmTransaction (sender : JsString) (payments : List Payment) (memo : JsString) : XlmTransaction :=
  ⟨sender,payments.map fun p => (p.destination,stroopsAsXlmString p.amountStroops),memoText memo⟩

def submitTransaction (submission : Submission) (tx : XlmTransaction) : Step JsString :=
  match submission with
  | .accepted hash => do
      apply tx
      onStatus .confirming
      return hash
  | .rejected detail => throwing (.contract ⟨js "Submission rejected: " ++ detail,.submission⟩)
  | .lost detail => do
      apply tx
      throwing (.contract ⟨js "Submission rejected: " ++ detail,.submission⟩)

def signedXlmSplit (script : XlmScript) (sender : JsString) (payments : List Payment) (memo : JsString) :
    Step XlmTransaction := do
  attempt (failIf (payments.length = 0) (validationFailure "At least one payment is required.")) id
  attempt (failIf (100 < payments.length)
    (validationFailure "Too many payments — Stellar caps a transaction at 100 ops.")) id
  onStatus .preparing
  attempt script.account loadFailure
  let tx := xlmTransaction sender payments memo
  attempt (script.built tx) .other
  onStatus .signing
  attempt script.signature signingFailure
  onStatus .submitting
  attempt script.parsed .other
  return tx

def sendXlmSplit (script : XlmScript) (sender : JsString) (payments : List Payment) (memo : JsString) :
    Step JsString := do
  let tx ← signedXlmSplit script sender payments memo
  submitTransaction script.submission tx

inductive Simulation
  | failed (message : JsString)
  | error (raw : JsString)
  | success
  deriving DecidableEq, Repr

inductive Sent
  | failed (message : JsString)
  | error (result : Option JsString)
  | pending (hash : JsString)
  deriving DecidableEq, Repr

/- One answer of getTransaction; a success may come without a return value. -/
inductive Poll
  | failed (message : JsString)
  | notFound
  | success (returnValue : Option Int)
  | failedOnChain
  deriving DecidableEq, Repr

structure ContractScript where
  account : Except JsString Unit
  built : Except JsString Unit
  simulation : Simulation
  prepared : Except JsString Unit
  signature : Except JsString Unit
  parsed : Except JsString Unit
  sent : Sent
  first : Poll
  start : Int
  polls : List (Int × Poll)

def simulated : Simulation → Except Thrown Unit
  | .failed message => .error (.other message)
  | .error raw => .error (.contract ⟨decodeSimError raw,.simulation⟩)
  | .success => .ok ()

def sentHash : Sent → Except Thrown JsString
  | .failed message => .error (.other message)
  | .error result => .error (.contract ⟨js "Submission rejected: " ++ result.getD (js "unknown"),.submission⟩)
  | .pending hash => .ok hash

/- The polling loop. A poll comes with the clock as the loop read it before; none is a loop
that is still sleeping between two polls. -/
def confirmation (start : Int) : Poll → List (Int × Poll) → Option (Except Thrown (Option Int))
  | .failed message, _ => some (.error (.other message))
  | .success returnValue, _ => some (.ok returnValue)
  | .failedOnChain, _ => some (.error (.contract ⟨js "Transaction failed on-chain: FAILED",.submission⟩))
  | .notFound, [] => none
  | .notFound, (now,next) :: rest =>
      if now - start > 30000 then
        some (.error (.contract ⟨js "Timed out waiting for confirmation.",.rpc⟩))
      else confirmation start next rest

def ensureContractConfigured (contractId : JsString) : Except Thrown Unit :=
  failIf (contractId = []) (validationFailure
    "No bill-split contract configured. Set VITE_CONTRACT_ID in frontend/.env after deploying.")

def invokeContract (contractId : JsString) (script : ContractScript) : Step (JsString × Option Int) := do
  attempt (ensureContractConfigured contractId) id
  onStatus .preparing
  attempt script.account fun message => .contract ⟨js "Could not load account: " ++ message,.rpc⟩
  attempt script.built .other
  attempt (simulated script.simulation) id
  attempt script.prepared .other
  onStatus .signing
  attempt script.signature signingFailure
  onStatus .submitting
  attempt script.parsed .other
  let hash ← attempt (sentHash script.sent) id
  onStatus .confirming
  let returnValue ← await (confirmation script.start script.first script.polls)
  return (hash,returnValue)

structure BillRequest where
  sender : JsString
  payers : List JsString
  shareStroops : Int
  memo : JsString
  deriving DecidableEq, Repr

structure BillScript where
  arguments : BillRequest → Except JsString Unit
  call : ContractScript

def createBill (contractId : JsString) (script : BillScript) (request : BillRequest) :
    Step (JsString × Option Int) := do
  attempt (script.arguments request) .other
  invokeContract contractId script.call

structure SettleScript where
  arguments : JsString → JsNumber → Except JsString Unit
  call : ContractScript

def settleBill (contractId : JsString) (script : SettleScript) (sender : JsString) (billId : JsNumber) :
    Step JsString := do
  attempt (script.arguments sender billId) .other
  let result ← invokeContract contractId script.call
  return result.1

/- A number prints as its digits; what is not there converts to NaN. -/
def billIdText (returnValue : Option Int) : JsString := returnValue.elim (js "NaN") JsString.decimalInt

theorem onStatusKeeps (phase : TxStatus) : Keeps Trace.applied (onStatus phase) :=
  keepsAct fun _ => rfl

section Payment
variable {script : XlmScript} {sender memo : JsString} {payments : List Payment} {t : Trace}

def XlmScript.Reaches (script : XlmScript) (sender : JsString) (payments : List Payment) (memo : JsString) : Prop :=
  payments ≠ [] ∧ payments.length ≤ 100 ∧ script.account = .ok () ∧
    script.built (xlmTransaction sender payments memo) = .ok () ∧ script.signature = .ok () ∧ script.parsed = .ok ()

theorem signedReturns {tx : XlmTransaction} : Returns (signedXlmSplit script sender payments memo) t tx ↔
    script.Reaches sender payments memo ∧ xlmTransaction sender payments memo = tx := by
  simp [signedXlmSplit,onStatus,XlmScript.Reaches,and_assoc,unitOk]

theorem signedKeeps (script : XlmScript) (sender memo : JsString) (payments : List Payment) :
    Keeps Trace.applied (signedXlmSplit script sender payments memo) :=
  keepsBind (keepsAttempt _ _) fun _ => keepsBind (keepsAttempt _ _) fun _ => keepsBind (onStatusKeeps _) fun _ =>
    keepsBind (keepsAttempt _ _) fun _ => keepsBind (keepsAttempt _ _) fun _ => keepsBind (onStatusKeeps _) fun _ =>
    keepsBind (keepsAttempt _ _) fun _ => keepsBind (onStatusKeeps _) fun _ =>
    keepsBind (keepsAttempt _ _) fun _ => keepsPure _

theorem sendXlmSplitReturns {hash : JsString} : Returns (sendXlmSplit script sender payments memo) t hash ↔
    script.Reaches sender payments memo ∧ script.submission = .accepted hash := by
  have last : ∀ tx u, Returns (submitTransaction script.submission tx) u hash ↔ script.submission = .accepted hash := by
    intro tx u
    cases script.submission <;> simp [submitTransaction,apply,onStatus]
  simp [sendXlmSplit,signedReturns,last]

theorem sendXlmSplitLost (reaches : script.Reaches sender payments memo) {detail : JsString}
    (lost : script.submission = .lost detail) : Throws (sendXlmSplit script sender payments memo) t := by
  rw [sendXlmSplit,throwsBind]
  right
  exact ⟨_,signedReturns.mpr ⟨reaches,rfl⟩,by simp [submitTransaction,lost,apply]⟩

theorem sendXlmSplitApplied (reaches : script.Reaches sender payments memo)
    (taken : ∀ detail, script.submission ≠ .rejected detail) :
    (sendXlmSplit script sender payments memo t).2.applied = t.applied ++ [xlmTransaction sender payments memo] := by
  have before := signedKeeps script sender memo payments t
  rw [sendXlmSplit,bindState (signedReturns.mpr ⟨reaches,rfl⟩),← before]
  cases outcome : script.submission with
  | accepted hash => rfl
  | rejected detail => exact absurd outcome (taken detail)
  | lost detail => rfl

theorem sendXlmSplitNothing
    (stops : script.Reaches sender payments memo → ∃ detail, script.submission = .rejected detail) :
    (sendXlmSplit script sender payments memo t).2.applied = t.applied := by
  have before := signedKeeps script sender memo payments t
  rw [sendXlmSplit,← before]
  by_cases reaches : script.Reaches sender payments memo
  · obtain ⟨detail,rejected⟩ := stops reaches
    rw [bindState (signedReturns.mpr ⟨reaches,rfl⟩),rejected]
    rfl
  · rw [bindStopped fun tx returns => reaches (signedReturns.mp returns).1]

end Payment

def answers (first : Poll) (polls : List (Int × Poll)) : List Poll := first :: polls.map Prod.snd
def readings (polls : List (Int × Poll)) : List Int := polls.map Prod.fst

def StopsAt (start : Int) (first : Poll) (polls : List (Int × Poll)) (k : Nat) : Prop :=
  ∀ i < k, (answers first polls)[i]? = some .notFound ∧ ∃ now, (readings polls)[i]? = some now ∧ now - start ≤ 30000

def PollsFail (start : Int) (first : Poll) (polls : List (Int × Poll)) : Prop :=
  ∃ k, StopsAt start first polls k ∧
    ((answers first polls)[k]? = some .failedOnChain ∨ (∃ message, (answers first polls)[k]? = some (.failed message)) ∨
      (answers first polls)[k]? = some .notFound ∧ ∃ now, (readings polls)[k]? = some now ∧ 30000 < now - start)

def ContractScript.Fails (script : ContractScript) : Prop :=
  (∃ m, script.account = .error m) ∨ (∃ m, script.built = .error m) ∨ script.simulation ≠ .success ∨
    (∃ m, script.prepared = .error m) ∨ (∃ m, script.signature = .error m) ∨ (∃ m, script.parsed = .error m) ∨
    (∀ hash, script.sent ≠ .pending hash) ∨ PollsFail script.start script.first script.polls

theorem stopsAtNext {start now : Int} {next : Poll} {rest : List (Int × Poll)} {k : Nat} (early : now - start ≤ 30000) :
    StopsAt start .notFound ((now,next) :: rest) (k + 1) ↔ StopsAt start next rest k := by
  constructor
  · intro stops i before
    exact stops (i + 1) (by omega)
  · intro stops i before
    cases i with
    | zero => exact ⟨rfl,now,rfl,early⟩
    | succ i => exact stops i (by omega)

theorem stopsLater {start : Int} {first : Poll} {polls : List (Int × Poll)} {k : Nat}
    (stops : StopsAt start first polls (k + 1)) :
    ∃ now next rest, first = .notFound ∧ polls = (now,next) :: rest ∧ now - start ≤ 30000 := by
  obtain ⟨found,now,reading,early⟩ := stops 0 (by omega)
  cases polls with
  | nil => contradiction
  | cons poll rest =>
    cases Option.some.inj found
    cases Option.some.inj reading
    exact ⟨_,_,rest,rfl,rfl,early⟩

theorem pollsFailHere {start : Int} {first : Poll} {polls : List (Int × Poll)}
    (last : ∀ now next rest, first = .notFound → polls = (now,next) :: rest → 30000 < now - start) :
    PollsFail start first polls ↔ first = .failedOnChain ∨ (∃ message, first = .failed message) ∨
      first = .notFound ∧ ∃ now, (readings polls)[0]? = some now ∧ 30000 < now - start := by
  constructor
  · intro ⟨k,stops,fails⟩
    cases k with
    | zero => simpa [answers] using fails
    | succ k =>
      obtain ⟨now,next,rest,found,more,early⟩ := stopsLater stops
      exact absurd (last now next rest found more) early.not_gt
  · intro fails
    exact ⟨0,fun i before => absurd before (by omega),by simpa [answers] using fails⟩

theorem pollsFailNext {start now : Int} {next : Poll} {rest : List (Int × Poll)} (early : now - start ≤ 30000) :
    PollsFail start .notFound ((now,next) :: rest) ↔ PollsFail start next rest := by
  constructor
  · intro ⟨k,stops,fails⟩
    cases k with
    | zero =>
      have late : 30000 < now - start := by simpa [answers,readings] using fails
      exact absurd late early.not_gt
    | succ k => exact ⟨k,(stopsAtNext early).mp stops,fails⟩
  · intro ⟨k,stops,fails⟩
    exact ⟨k + 1,(stopsAtNext early).mpr stops,fails⟩

theorem confirmationFails {start : Int} {first : Poll} {polls : List (Int × Poll)} :
    (∃ e, confirmation start first polls = some (.error e)) ↔ PollsFail start first polls := by
  fun_induction confirmation start first polls with
  | case1 polls message => simp [pollsFailHere]
  | case2 polls returnValue => simp [pollsFailHere]
  | case3 polls => simp [pollsFailHere]
  | case4 => simp [pollsFailHere,readings]
  | case5 now next rest late =>
    have here : ∀ n p r, Poll.notFound = .notFound → (now,next) :: rest = (n,p) :: r → 30000 < n - start := by
      intro n p r _ same
      cases same
      exact late
    simp [pollsFailHere here,readings,late]
  | case6 now next rest early ih => exact ih.trans (pollsFailNext (not_lt.mp early)).symm

theorem simulatedFails {simulation : Simulation} :
    (∃ e, simulated simulation = .error e) ↔ simulation ≠ .success := by
  cases simulation <;> simp [simulated]

theorem sentFails {sent : Sent} : (∃ e, sentHash sent = .error e) ↔ ∀ hash, sent ≠ .pending hash := by
  cases sent <;> simp [sentHash]

theorem invokeContractThrows {contractId : JsString} {script : ContractScript} {t : Trace} (set : contractId ≠ []) :
    Throws (invokeContract contractId script) t ↔ script.Fails := by
  rw [ContractScript.Fails,← simulatedFails,← sentFails,← confirmationFails]
  simp [invokeContract,ensureContractConfigured,onStatus,set]

def signedInvocation (contractId : JsString) (script : ContractScript) : Step Unit := do
  attempt (ensureContractConfigured contractId) id
  onStatus .preparing
  attempt script.account fun message => .contract ⟨js "Could not load account: " ++ message,.rpc⟩
  attempt script.built .other
  attempt (simulated script.simulation) id
  attempt script.prepared .other
  onStatus .signing
  attempt script.signature signingFailure
  onStatus .submitting
  attempt script.parsed .other

theorem invokeContractSends {contractId : JsString} {script : ContractScript} : invokeContract contractId script = (do
    signedInvocation contractId script
    let hash ← attempt (sentHash script.sent) id
    onStatus .confirming
    let returnValue ← await (confirmation script.start script.first script.polls)
    return (hash,returnValue)) := by
  simp only [invokeContract,signedInvocation,bindAssoc]

theorem invokeContractUnset {script : ContractScript} {t : Trace} : Throws (invokeContract [] script) t := by
  simp [invokeContract,ensureContractConfigured]

theorem invokeContractFails {contractId : JsString} {script : ContractScript} {t : Trace} :
    Throws (invokeContract contractId script) t ↔ contractId = [] ∨ script.Fails := by
  by_cases unset : contractId = []
  · subst unset
    exact iff_of_true invokeContractUnset (.inl rfl)
  · rw [invokeContractThrows unset,or_iff_right unset]

theorem invokeContractKeeps {contractId : JsString} {script : ContractScript} :
    Keeps Trace.applied (invokeContract contractId script) := by
  exact keepsBind (keepsAttempt _ _) fun _ => keepsBind (onStatusKeeps _) fun _ =>
    keepsBind (keepsAttempt _ _) fun _ => keepsBind (keepsAttempt _ _) fun _ =>
    keepsBind (keepsAttempt _ _) fun _ => keepsBind (keepsAttempt _ _) fun _ =>
    keepsBind (onStatusKeeps _) fun _ => keepsBind (keepsAttempt _ _) fun _ =>
    keepsBind (onStatusKeeps _) fun _ => keepsBind (keepsAttempt _ _) fun _ =>
    keepsBind (keepsAttempt _ _) fun _ => keepsBind (onStatusKeeps _) fun _ =>
    keepsBind (keepsAwait _) fun _ => keepsPure _

section Record
variable {contractId : JsString} {script : BillScript} {request : BillRequest} {t : Trace}

def BillScript.Fails (script : BillScript) (request : BillRequest) : Prop :=
  (∃ m, script.arguments request = .error m) ∨ script.call.Fails

theorem createBillThrows (set : contractId ≠ []) :
    Throws (createBill contractId script request) t ↔ script.Fails request := by
  simp [createBill,BillScript.Fails,invokeContractThrows set]

theorem createBillKeeps : Keeps Trace.applied (createBill contractId script request) :=
  keepsBind (keepsAttempt _ _) fun _ => invokeContractKeeps

end Record

end SplitBill.Pipeline
