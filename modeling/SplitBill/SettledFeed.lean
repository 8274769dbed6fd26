import SplitBill.Client

/-! The feed of settlements. The contract publishes two kinds of events under one contract id, the node
hands out the first of a window up to a limit, and the client keeps what is called settled and turns it
round. The limit is spent before the settlements are told from the creations. -/
namespace SplitBill.SettledFeed
open Host Helpers Client BillSplit Transition

structure EventRecord (Address : Type) where
  id : JsString
  ledger : Int
  ledgerClosedAt : JsString
  txHash : JsString
  contractId : JsString
  event : Event Address

structure SettledEvent where
  id : JsString
  ledger : Int
  ledgerClosedAt : JsString
  billId : Int
  payer : JsString
  share : Int
  txHash : JsString
  deriving DecidableEq, Repr

structure Rpc (Address : Type) where
  getLatestLedger : Except Thrown Int
  getEvents : (startLedger : Int) → (contractIds : List JsString) → (limit : Nat) →
    Except Thrown (List (EventRecord Address))

inductive Native
  | string (text : JsString)
  | number (n : Int)
  | bigint (n : Int)

def Native.text : Native → JsString
  | .string text => text
  | .number n | .bigint n => JsString.decimalInt n

def Native.integer : Native → Option Int
  | .string _ => none
  | .number n | .bigint n => some n

variable {Address τ : Type}

def scValToNative (sdk : Sdk Address) : Val Address → Native
  | .symbol name => .string (js name)
  | .address a => .string (sdk.addressText a)
  | .u32 n => .number n.val
  | .i128 n => .bigint n.val
  | .string bytes => .string (sdk.stringText bytes)

/- One round of the loop. What is skipped and what is caught both add nothing. The contract publishes
a pair of numbers under this name, see `worldPublished`; other values are left to the last case. -/
def decoded (sdk : Sdk Address) (r : EventRecord Address) : Option SettledEvent :=
  let topics := r.event.topics.map (scValToNative sdk)
  let topicName := topics[0]?.elim [] Native.text
  if topicName ≠ js "settled" then none
  else
    let payer := topics[1]?.elim [] Native.text
    match r.event.data with
    | .tuple (billId :: share :: _) => do
        let billId ← (scValToNative sdk billId).integer
        let share ← (scValToNative sdk share).integer
        some ⟨r.id,r.ledger,r.ledgerClosedAt,billId,payer,share,r.txHash⟩
    | _ => none

def fetchSettledFresh (contractId : JsString) (sdk : Sdk Address) (rpc : Rpc Address) (ledgersBack : Int) (limit : Nat) :
    Except Thrown (List SettledEvent) := do
  let latest ← rpc.getLatestLedger
  let startLedger := max (latest - ledgersBack) 1
  let events ← rpc.getEvents startLedger [contractId] limit
  return (events.filterMap (decoded sdk)).reverse

inductive Published : Event Address → Prop
  | created (bill : BillSplit.Bill Address) : Published (createdEvent bill)
  | settled (payer : Address) (id : U32) (share : I128) : Published (settledEvent payer id share)

theorem worldPublished [DecidableEq Address] (transfer : Transfer Address τ) (token : Address) (t : τ)
    (inputs : List (BillSplit.Input Address τ)) :
    ∀ e ∈ (run (BillSplit.step transfer) (constructed token t) inputs).events, Published e := by
  refine runPreserves (P := fun w : BillSplit.World Address τ => ∀ e ∈ w.events, Published e) ?_ (by simp [constructed]) inputs
  intro w i published
  rcases stepCases transfer w i with same | ⟨t,same⟩ | ⟨bill,_,_,same⟩ | ⟨c,bill,t,_,_,_,_,_,_,same⟩ <;> rw [same]
  · exact published
  · exact published
  · intro e member
    rcases List.mem_append.mp member with before | last
    · exact published e before
    · rw [List.mem_singleton.mp last]
      exact .created bill
  · intro e member
    rcases List.mem_append.mp member with before | last
    · exact published e before
    · rw [List.mem_singleton.mp last]
      exact .settled ..

theorem loggedPublished [DecidableEq Address] (transfer : Transfer Address τ) (token : Address) (t : τ)
    (inputs : List (BillSplit.Input Address τ)) {contractId : JsString} {records : List (EventRecord Address)}
    (logged : (records.filter fun r => r.contractId == contractId).map EventRecord.event =
      (run (BillSplit.step transfer) (constructed token t) inputs).events) :
    ∀ r ∈ records, r.contractId = contractId → Published r.event := by
  intro r member own
  apply worldPublished transfer token t inputs
  rw [← logged]
  exact List.mem_map_of_mem (List.mem_filter.mpr ⟨member,by simpa using own⟩)

structure History (Address : Type) (contractId : JsString) where
  records : List (EventRecord Address)
  published : ∀ r ∈ records, r.contractId = contractId → Published r.event
  distinct : (records.map EventRecord.id).Nodup

def matching (startLedger : Int) (contractIds : List JsString) (r : EventRecord Address) : Bool :=
  startLedger ≤ r.ledger && contractIds.contains r.contractId

/- What the node is documented to answer: of the matching events from the start ledger on, the first. -/
structure Serves (rpc : Rpc Address) {contractId : JsString} (history : History Address contractId) (latest : Int) : Prop where
  latestLedger : rpc.getLatestLedger = .ok latest
  events : ∀ startLedger contractIds limit, rpc.getEvents startLedger contractIds limit =
    .ok ((history.records.filter (matching startLedger contractIds)).take limit)

section Feed
variable {contractId : JsString} (sdk : Sdk Address) {rpc : Rpc Address} (history : History Address contractId)

def window (startLedger : Int) : List (EventRecord Address) :=
  history.records.filter (matching startLedger [contractId])

def isSettlement (r : EventRecord Address) : Bool :=
  match r.event.topics with
  | .symbol name :: _ => name = "settled"
  | _ => false

inductive Shows : EventRecord Address → SettledEvent → Prop
  | settled {r payer id share} (published : r.event = settledEvent payer id share) :
      Shows r ⟨r.id,r.ledger,r.ledgerClosedAt,id.val,sdk.addressText payer,share.val,r.txHash⟩

def newest (startLedger : Int) (limit : Nat) : List (EventRecord Address) :=
  ((window history startLedger).filter isSettlement).reverse.take limit

def ShowsNewest (rpc : Rpc Address) (latest ledgersBack : Int) (limit : Nat) : Prop :=
  ∃ feed, fetchSettledFresh contractId sdk rpc ledgersBack limit = .ok feed ∧
    List.Forall₂ (Shows sdk) (newest history (max (latest - ledgersBack) 1) limit) feed

variable {sdk history}

theorem showsId {r : EventRecord Address} {e : SettledEvent} (shows : Shows sdk r e) : e.id = r.id := by
  cases shows
  rfl

theorem decodedCreated (sdk : Sdk Address) {r : EventRecord Address} {bill : BillSplit.Bill Address} (published : r.event = createdEvent bill) :
    decoded sdk r = none ∧ isSettlement r = false := by
  have other : js "created" ≠ js "settled" := by decide
  constructor
  · rw [decoded,published]
    exact if_pos other
  · rw [isSettlement,published]
    rfl

theorem decodedSettled (sdk : Sdk Address) {r : EventRecord Address} {payer : Address} {id : U32} {share : I128}
    (published : r.event = settledEvent payer id share) : isSettlement r = true ∧
    decoded sdk r = some ⟨r.id,r.ledger,r.ledgerClosedAt,id.val,sdk.addressText payer,share.val,r.txHash⟩ := by
  constructor
  · rw [isSettlement,published]
    rfl
  · rw [decoded,published]
    exact if_neg (not_not_intro rfl)

theorem decodesSettlements (sdk : Sdk Address) (records : List (EventRecord Address)) (published : ∀ r ∈ records, Published r.event) :
    List.Forall₂ (Shows sdk) (records.filter isSettlement) (records.filterMap (decoded sdk)) := by
  induction records with
  | nil => exact .nil
  | cons r rest ih =>
    obtain ⟨first,others⟩ := List.forall_mem_cons.mp published
    generalize event : r.event = e at first
    cases first with
    | created bill =>
      obtain ⟨skipped,other⟩ := decodedCreated sdk event
      rw [List.filter_cons_of_neg (by simp [other]),List.filterMap_cons_none skipped]
      exact ih others
    | settled payer id share =>
      obtain ⟨kept,shown⟩ := decodedSettled sdk event
      rw [List.filter_cons_of_pos kept,List.filterMap_cons_some shown]
      exact .cons (.settled event) (ih others)

theorem windowPublished (startLedger : Int) {r : EventRecord Address} (member : r ∈ window history startLedger) :
    Published r.event := by
  obtain ⟨inside,fits⟩ := List.mem_filter.mp member
  obtain ⟨_,own⟩ := Bool.and_eq_true_iff.mp fits
  exact history.published r inside (List.mem_singleton.mp (List.contains_iff_mem.mp own))

theorem feedExact (sdk : Sdk Address) {latest : Int} (serves : Serves rpc history latest) (ledgersBack : Int) (limit : Nat) :
    ∃ feed, fetchSettledFresh contractId sdk rpc ledgersBack limit = .ok feed ∧
      List.Forall₂ (Shows sdk) (((window history (max (latest - ledgersBack) 1)).take limit).filter isSettlement).reverse feed := by
  generalize start : max (latest - ledgersBack) 1 = startLedger
  have events : rpc.getEvents startLedger [contractId] limit = .ok ((window history startLedger).take limit) :=
    serves.events startLedger [contractId] limit
  refine ⟨_,?_,List.rel_reverse
    (decodesSettlements sdk _ fun r member => windowPublished startLedger (List.mem_of_mem_take member))⟩
  rw [fetchSettledFresh,serves.latestLedger,okBind]
  simp only [start,events]
  rfl

theorem showsIds {records : List (EventRecord Address)} {feed : List SettledEvent}
    (shows : List.Forall₂ (Shows sdk) records feed) : feed.map SettledEvent.id = records.map EventRecord.id := by
  induction shows with
  | nil => rfl
  | cons first _ ih => rw [List.map_cons,List.map_cons,showsId first,ih]

theorem windowDistinct (history : History Address contractId) (startLedger : Int) :
    (((window history startLedger).filter isSettlement).map EventRecord.id).Nodup := by
  have inside : ((window history startLedger).filter isSettlement).Sublist history.records :=
    List.filter_sublist.trans List.filter_sublist
  exact history.distinct.sublist (inside.map EventRecord.id)

theorem feedNewest {latest : Int} (serves : Serves rpc history latest) (ledgersBack : Int) {limit : Nat} (some : 0 < limit) :
    ShowsNewest sdk history rpc latest ledgersBack limit ↔
      ∀ r ∈ (window history (max (latest - ledgersBack) 1)).drop limit, isSettlement r = false := by
  obtain ⟨feed,fetched,shown⟩ := feedExact sdk serves ledgersBack limit
  have distinct := windowDistinct history (max (latest - ledgersBack) 1)
  unfold ShowsNewest newest
  generalize window history (max (latest - ledgersBack) 1) = w at *
  have whole : w.filter isSettlement = (w.take limit).filter isSettlement ++ (w.drop limit).filter isSettlement := by
    rw [← List.filter_append,List.take_append_drop]
  have few : ((w.take limit).filter isSettlement).length ≤ limit :=
    (List.length_filter_le ..).trans (List.length_take_le ..)
  rw [whole] at distinct ⊢
  generalize (w.take limit).filter isSettlement = kept at *
  constructor
  · intro ⟨again,same,newest⟩ r late
    cases Except.ok.inj (fetched.symm.trans same)
    by_contra settlement
    have beyond : (w.drop limit).filter isSettlement ≠ [] := by
      apply List.ne_nil_of_mem
      exact List.mem_filter.mpr ⟨late,eq_true_of_ne_false settlement⟩
    obtain ⟨before,last,split⟩ : ∃ before last, (w.drop limit).filter isSettlement = before ++ [last] :=
      ⟨_,_,(List.dropLast_append_getLast beyond).symm⟩
    obtain ⟨n,rfl⟩ := Nat.exists_eq_add_one.mpr some
    rw [split] at distinct newest
    have ids := (showsIds newest).symm.trans (showsIds shown)
    rw [← List.append_assoc,List.reverse_concat,List.take_succ_cons,List.map_cons] at ids
    have member : last.id ∈ kept.map EventRecord.id := by
      rw [← List.mem_reverse,← List.map_reverse,← ids]
      exact List.mem_cons_self
    rw [List.map_append,List.map_append] at distinct
    exact (List.nodup_append.mp distinct).2.2 _ member _ (by simp) rfl
  · intro none
    have nothing : (w.drop limit).filter isSettlement = [] :=
      List.filter_eq_nil_iff.mpr fun r late => by rw [none r late]; exact Bool.false_ne_true
    rw [nothing,List.append_nil,List.take_of_length_le (by rwa [List.length_reverse])]
    exact ⟨feed,fetched,shown⟩

end Feed

def answering (records : List (EventRecord Nat)) (latest : Int) : Rpc Nat where
  getLatestLedger := .ok latest
  getEvents startLedger contractIds limit :=
    .ok ((records.filter (matching startLedger contractIds)).take limit)

def plainSdk : Sdk Nat := ⟨fun text => .error text,JsString.decimal,fun _ => [],fun _ => [],[]⟩

def recorded (n : Nat) (e : Event Nat) : EventRecord Nat := ⟨JsString.decimal n,10,js "2026-01-01T00:00:00Z",js "tx",js "C",e⟩

def trialBill (n : Nat) : BillSplit.Bill Nat := ⟨.lit n,7,[8],.lit 5,[],.lit 0⟩

def createdThenSettled (n : Nat) : List (EventRecord Nat) :=
  (List.range n).map (fun k => recorded k (createdEvent (trialBill (k + 1)))) ++
    [recorded n (settledEvent 8 (.lit n) (.lit 5))]

def billsFirst (n : Nat) : History Nat (js "C") where
  records := createdThenSettled n
  published := by
    intro r member _
    rcases List.mem_append.mp member with before | last
    · obtain ⟨k,_,rfl⟩ := List.mem_map.mp before
      exact .created _
    · rw [List.mem_singleton.mp last]
      exact .settled ..
  distinct := by
    have ids : (createdThenSettled n).map EventRecord.id = (List.range (n + 1)).map JsString.decimal := by
      rw [createdThenSettled,List.range_succ,List.map_append,List.map_append,List.map_map]
      rfl
    rw [ids]
    exact List.nodup_range.map JsString.decimalInjective

theorem answeringServes (n : Nat) (latest : Int) : Serves (answering (createdThenSettled n) latest) (billsFirst n) latest :=
  ⟨rfl,fun _ _ _ => rfl⟩

theorem settlementCrowdedOut :
    fetchSettledFresh (js "C") plainSdk (answering (createdThenSettled 50) 10) 5000 50 = .ok [] ∧
    (newest (billsFirst 50) 1 50).length = 1 ∧
    ¬ ShowsNewest plainSdk (billsFirst 50) (answering (createdThenSettled 50) 10) 10 5000 50 := by
  have empty : fetchSettledFresh (js "C") plainSdk (answering (createdThenSettled 50) 10) 5000 50 = .ok [] := by
    decide +kernel
  have one : (newest (billsFirst 50) 1 50).length = 1 := by decide +kernel
  refine ⟨empty,one,?_⟩
  intro ⟨feed,fetched,shows⟩
  cases Except.ok.inj (empty.symm.trans fetched)
  have length := shows.length_eq
  exact absurd (one.symm.trans length) (by decide)

theorem settlementShown :
    ShowsNewest plainSdk (billsFirst 49) (answering (createdThenSettled 49) 10) 10 5000 50 :=
  (feedNewest (answeringServes 49 10) 5000 (by decide)).mpr (by decide +kernel)

end SplitBill.SettledFeed
