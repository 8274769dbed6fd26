import SplitBill.Client

/-! A write and the ledger that may include its transaction. The client stops asking thirty seconds
after it began to; the transaction stays valid for sixty after it was built. What the ledger has
executed is a list of calls of the contracts, in the order in which it included them. -/
namespace SplitBill.Inclusion
open Host Helpers Pipeline Client SplitBill.Flow Transition

-- setTimeout(60)
def VALID_MS : Int := 60000

structure Included (Address : Type) where
  time : Int
  ledger : Env Address
  successful : Bool
  returnValue : Option Int

inductive Request
  | answered (time : Int)
  | failed (message : JsString)

/- One call of a write: what it meets on its way, and when the ledger includes the transaction if
it ever does. A transaction whose submission is answered with ERROR was not taken. -/
structure Attempt (Address : Type) where
  account : Except JsString Unit
  built : Except JsString Unit
  builtAt : Int
  simulation : Simulation
  prepared : Except JsString Unit
  signature : Except JsString Unit
  parsed : Except JsString Unit
  sent : Sent
  inclusion : Option (Included Address)
  first : Request
  start : Int
  polls : List (Int × Request)
  valid : ∀ i ∈ inclusion, builtAt ≤ i.time ∧ i.time ≤ builtAt + VALID_MS
  refused : ∀ result, sent = .error result → inclusion = none

namespace Attempt
variable {Address : Type} (a : Attempt Address)

def answer : Request → Poll
  | .failed message => .failed message
  | .answered time =>
      match a.inclusion with
      | none => .notFound
      | some i =>
          if time < i.time then .notFound
          else if i.successful then .success i.returnValue
          else .failedOnChain

def script : ContractScript :=
  ⟨a.account,a.built,a.simulation,a.prepared,a.signature,a.parsed,a.sent,a.answer a.first,a.start,
    a.polls.map fun poll => (poll.1,a.answer poll.2)⟩

def Signed : Prop :=
  a.account = .ok () ∧ a.built = .ok () ∧ a.simulation = .success ∧ a.prepared = .ok () ∧ a.signature = .ok () ∧
    a.parsed = .ok ()
instance : Decidable a.Signed := by unfold Signed; infer_instance

def requests : List Request := a.first :: a.polls.map Prod.snd
def readings : List Int := a.polls.map Prod.fst

def GivesUp (inclusion : Int) : Prop :=
  ∃ k : Nat, (∀ j < k, (∃ time < inclusion, a.requests[j]? = some (Request.answered time)) ∧
      ∃ now, a.readings[j]? = some now ∧ now - a.start ≤ 30000) ∧
    ((∃ message, a.requests[k]? = some (Request.failed message)) ∨
      (∃ time < inclusion, a.requests[k]? = some (Request.answered time)) ∧
        ∃ now, a.readings[k]? = some now ∧ 30000 < now - a.start)

end Attempt

section Write
variable {Address : Type} (contractId : JsString) (sdk : Sdk Address)

def converted (write : Write) : Except JsString Unit :=
  match arguments sdk write with
  | .ok _ => .ok ()
  | .error e => .error e.message

def perform (a : Attempt Address) : Write → Step Unit
  | .createBill request => do
      let _ ← createBill contractId ⟨fun request => converted sdk (.createBill request),a.script⟩ request
      return ()
  | .settleBill sender billId => do
      let _ ← settleBill contractId ⟨fun sender billId => converted sdk (.settleBill sender billId),a.script⟩ sender billId
      return ()

def applied (write : Write) (a : Attempt Address) : Option (Env Address × Joint.Call Address) :=
  match arguments sdk write with
  | .error _ => none
  | .ok call =>
      if contractId ≠ [] ∧ a.Signed then
        (a.inclusion.filter Included.successful).map fun i => (i.ledger,.bill call)
      else none

def AppliesUnseen (write : Write) (a : Attempt Address) : Prop :=
  (∃ call, arguments sdk write = .ok call) ∧ contractId ≠ [] ∧ a.Signed ∧
    ∃ i, a.inclusion = some i ∧ i.successful = true ∧
      ((∃ message, a.sent = .failed message) ∨ (∃ hash, a.sent = .pending hash) ∧ a.GivesUp i.time)

end Write

section Unseen
variable {Address : Type} {contractId : JsString} {sdk : Sdk Address} {a : Attempt Address} {i : Included Address}

theorem performThrows {write : Write} {t : Trace} : Throws (perform contractId sdk a write) t ↔
    (∀ call, arguments sdk write ≠ .ok call) ∨ contractId = [] ∨ a.script.Fails := by
  have refuses : (∃ m, converted sdk write = .error m) ↔ ∀ call, arguments sdk write ≠ .ok call := by
    unfold converted
    cases arguments sdk write <;> simp
  have passes : (∃ u, converted sdk write = .ok u) ↔ ¬ ∀ call, arguments sdk write ≠ .ok call := by
    unfold converted
    cases arguments sdk write <;> simp
  rw [← refuses]
  cases write with
  | createBill request => simp [perform,createBill,invokeContractFails]
  | settleBill sender billId => simp [perform,settleBill,invokeContractFails]

theorem signedExact {t : Trace} : Returns (signedInvocation contractId a.script) t () ↔ contractId ≠ [] ∧ a.Signed := by
  have simulates : (∃ u, simulated a.simulation = .ok u) ↔ a.simulation = .success := by
    cases a.simulation <;> simp [simulated]
  simp [signedInvocation,Attempt.script,Attempt.Signed,ensureContractConfigured,onStatus,unitOk,simulates]

theorem signedFails (signed : a.Signed) : a.script.Fails ↔
    (∀ hash, a.sent ≠ .pending hash) ∨ PollsFail a.start a.script.first a.script.polls := by
  obtain ⟨account,built,simulation,prepared,signature,parsed⟩ := signed
  simp [ContractScript.Fails,Attempt.script,account,built,simulation,prepared,signature,parsed]

theorem answerNotFound (included : a.inclusion = some i) (r : Request) :
    a.answer r = .notFound ↔ ∃ time < i.time, r = .answered time := by
  cases r with
  | failed message => simp [Attempt.answer]
  | answered time =>
    simp only [Attempt.answer,included,Request.answered.injEq,exists_eq_right']
    split
    · simp_all
    · split <;> simp_all

theorem answerFailed (included : a.inclusion = some i) (r : Request) (message : JsString) :
    a.answer r = .failed message ↔ r = .failed message := by
  cases r with
  | failed message' => simp [Attempt.answer]
  | answered time =>
    simp only [Attempt.answer,included,reduceCtorEq,iff_false]
    split
    · simp
    · split <;> simp

theorem answerSuccessful (included : a.inclusion = some i) (successful : i.successful = true) (r : Request) :
    a.answer r ≠ .failedOnChain := by
  cases r with
  | failed message => simp [Attempt.answer]
  | answered time =>
    simp only [Attempt.answer,included,successful,if_true]
    split <;> simp

theorem pollsFailUnseen (included : a.inclusion = some i) (successful : i.successful = true) :
    PollsFail a.start a.script.first a.script.polls ↔ a.GivesUp i.time := by
  have answers : answers a.script.first a.script.polls = a.requests.map a.answer := by
    simp [answers,Attempt.script,Attempt.requests]
  have readings : readings a.script.polls = a.readings := by
    simp [readings,Attempt.script,Attempt.readings,Function.comp_def]
  have notFound : ∀ k : Nat, (a.requests.map a.answer)[k]? = some Poll.notFound ↔
      ∃ time < i.time, a.requests[k]? = some (Request.answered time) := by
    intro k
    simp only [List.getElem?_map,Option.map_eq_some_iff,answerNotFound included]
    grind
  have failed : ∀ (k : Nat) message, (a.requests.map a.answer)[k]? = some (Poll.failed message) ↔
      a.requests[k]? = some (Request.failed message) := by
    intro k message
    simp only [List.getElem?_map,Option.map_eq_some_iff,answerFailed included,exists_eq_right]
  have onChain : ∀ k : Nat, (a.requests.map a.answer)[k]? ≠ some Poll.failedOnChain := by
    intro k
    simp only [List.getElem?_map,ne_eq,Option.map_eq_some_iff,not_exists,not_and]
    exact fun r _ => answerSuccessful included successful r
  simp only [PollsFail,StopsAt,answers,readings,notFound,failed,onChain,false_or]
  rfl

theorem appliedExact {write : Write} : (applied contractId sdk write a).isSome = true ↔
    (∃ call, arguments sdk write = .ok call) ∧ contractId ≠ [] ∧ a.Signed ∧
      ∃ i, a.inclusion = some i ∧ i.successful = true := by
  unfold applied
  cases arguments sdk write with
  | error e => simp
  | ok call =>
    by_cases signed : contractId ≠ [] ∧ a.Signed
    · simp [signed,Option.isSome_filter,Option.any_eq_true]
    · simp only [if_neg signed,Option.isSome_none,Bool.false_eq_true,false_iff]
      exact fun h => signed ⟨h.2.1,h.2.2.1⟩

theorem throwsApplied {write : Write} {t : Trace} :
    Throws (perform contractId sdk a write) t ∧ (applied contractId sdk write a).isSome = true ↔
      AppliesUnseen contractId sdk write a := by
  rw [performThrows,appliedExact]
  constructor
  · rintro ⟨throws,⟨call,converts⟩,set,signed,i,included,successful⟩
    refine ⟨⟨call,converts⟩,set,signed,i,included,successful,?_⟩
    have fails : a.script.Fails := by
      rcases throws with refused | unset | fails
      · exact absurd converts (refused call)
      · exact absurd unset set
      · exact fails
    rw [signedFails signed,pollsFailUnseen included successful] at fails
    cases outcome : a.sent with
    | failed message => exact .inl ⟨message,rfl⟩
    | error result => exact absurd (a.refused result outcome) (by simp [included])
    | pending hash =>
      right
      simpa [outcome] using fails
  · intro ⟨converts,set,signed,i,included,successful,unseen⟩
    refine ⟨.inr (.inr ?_),converts,set,signed,i,included,successful⟩
    rw [signedFails signed,pollsFailUnseen included successful]
    rcases unseen with ⟨message,lost⟩ | ⟨_,gives⟩
    · exact .inl fun hash => by simp [lost]
    · exact .inr gives

end Unseen

section Retry
variable {Address : Type} [DecidableEq Address] {contractId : JsString} {sdk : Sdk Address}

def ledger (contractId : JsString) (sdk : Sdk Address) (tokenAddr : Address) (w : Joint.World Address) (write : Write)
    (attempts : List (Attempt Address)) : Joint.World Address :=
  run (Joint.step tokenAddr) w (attempts.filterMap (applied contractId sdk write))

theorem stepOneBill (tokenAddr : Address) (w : Joint.World Address) (i : Env Address × Joint.Call Address) :
    (BillSplit.billCount (Joint.step tokenAddr w i)).val ≤ (BillSplit.billCount w).val + 1 := by
  obtain ⟨i',same⟩ := Joint.stepBill tokenAddr w i
  rw [same]
  rcases BillSplit.stepCases (Joint.deployed tokenAddr) w i' with
    kept | ⟨t,kept⟩ | ⟨bill,_,next,kept⟩ | ⟨c,b,t,_,_,_,_,_,_,kept⟩
  · rw [kept]
    omega
  · rw [kept]
    change (BillSplit.billCount w).val ≤ _
    omega
  · rw [kept,← next]
    exact le_rfl
  · rw [kept]
    change (BillSplit.billCount w).val ≤ _
    omega

end Retry

theorem errorMeansNotApplied {Address : Type} [DecidableEq Address] (contractId : JsString) (sdk : Sdk Address) :
    (∀ (write : Write) (a : Attempt Address) (t : Trace),
      (Throws (perform contractId sdk a write) t → applied contractId sdk write a = none) ↔
        ¬ AppliesUnseen contractId sdk write a) ∧
    ∀ (request : BillRequest) (failing : List (Attempt Address)) (final : Attempt Address) (t : Trace),
      (∀ a ∈ failing, Throws (perform contractId sdk a (.createBill request)) t ∧
        ¬ AppliesUnseen contractId sdk (.createBill request) a) →
      ∀ (tokenAddr : Address) (w : Joint.World Address),
        (BillSplit.billCount (ledger contractId sdk tokenAddr w (.createBill request) (failing ++ [final]))).val ≤
          (BillSplit.billCount w).val + 1 := by
  have one : ∀ (write : Write) (a : Attempt Address) (t : Trace),
      (Throws (perform contractId sdk a write) t → applied contractId sdk write a = none) ↔
        ¬ AppliesUnseen contractId sdk write a := by
    intro write a t
    rw [← throwsApplied (t := t),not_and,Bool.not_eq_true,Option.isSome_eq_false_iff,Option.isNone_iff_eq_none]
  refine ⟨one,?_⟩
  intro request failing final t unseen tokenAddr w
  have nothing : failing.filterMap (applied contractId sdk (.createBill request)) = [] := by
    rw [List.filterMap_eq_nil_iff]
    intro a member
    obtain ⟨throws,safe⟩ := unseen a member
    exact (one _ a t).mpr safe throws
  rw [ledger,List.filterMap_append,nothing,List.nil_append]
  cases last : applied contractId sdk (.createBill request) final with
  | none => simp [last]
  | some call => simpa [last] using stepOneBill tokenAddr w call

def trialSdk : Sdk Nat := ⟨fun text => .ok text.length,fun n => List.replicate n 65,fun _ => [],fun _ => [],[]⟩
def trialRequest : BillRequest := ⟨js "A",[js "BB"],5,[]⟩

def lateAttempt : Attempt Nat where
  account := .ok ()
  built := .ok ()
  builtAt := 0
  simulation := .success
  prepared := .ok ()
  signature := .ok ()
  parsed := .ok ()
  sent := .pending (js "a")
  inclusion := some ⟨45000,Joint.trialEnv,true,some 1⟩
  first := .answered 500
  start := 600
  polls := (List.range 20).map fun k : Nat => (600 + 1600 * (k : Int),.answered (2150 + 1600 * (k : Int)))
  valid := by decide
  refused := by simp

def nextAttempt : Attempt Nat := {lateAttempt with
  builtAt := 50000
  sent := .pending (js "b")
  inclusion := some ⟨53000,Joint.trialEnv,true,some 2⟩
  first := .answered 51000
  start := 51100
  polls := [(51100,.answered 54000)]
  valid := by decide
  refused := by simp}

theorem lateInclusionTwoBills :
    Throws (perform (js "C") trialSdk lateAttempt (.createBill trialRequest)) ⟨[],[]⟩ ∧
    (applied (js "C") trialSdk (.createBill trialRequest) lateAttempt).isSome = true ∧
    Returns (perform (js "C") trialSdk nextAttempt (.createBill trialRequest)) ⟨[],[]⟩ () ∧
    (BillSplit.billCount (ledger (js "C") trialSdk 0 Joint.trialDeployment.genesis (.createBill trialRequest)
      [lateAttempt,nextAttempt])).val = 2 := by
  refine ⟨⟨.contract ⟨js "Timed out waiting for confirmation.",.rpc⟩,?_⟩,?_,?_,?_⟩
  · decide +kernel
  · decide +kernel
  · rfl
  · decide +kernel

def silentAttempt : Attempt Nat := {lateAttempt with
  inclusion := none
  valid := by simp
  refused := by simp}

theorem silentTimeoutOneBill :
    (BillSplit.billCount (ledger (js "C") trialSdk 0 Joint.trialDeployment.genesis (.createBill trialRequest)
      [silentAttempt,nextAttempt])).val ≤ 1 := by
  have silent : ¬ AppliesUnseen (js "C") trialSdk (.createBill trialRequest) silentAttempt := by
    intro ⟨_,_,_,i,included,_⟩
    contradiction
  have throws : Throws (perform (js "C") trialSdk silentAttempt (.createBill trialRequest)) ⟨[],[]⟩ :=
    ⟨.contract ⟨js "Timed out waiting for confirmation.",.rpc⟩,by decide +kernel⟩
  exact (errorMeansNotApplied (js "C") trialSdk).2 trialRequest [silentAttempt] nextAttempt ⟨[],[]⟩
    (fun a member => List.mem_singleton.mp member ▸ ⟨throws,silent⟩) 0 Joint.trialDeployment.genesis

end SplitBill.Inclusion
