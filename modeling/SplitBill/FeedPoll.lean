import SplitBill.BillLog
import SplitBill.SettledFeed

/-! The feed on the page. A poll reads through the cache, asks the node for its latest ledger and then for the
events, and shows what it gets, whichever poll is answered first. Each line is a settlement of the chain with a
transfer of its own on the token; and where no poll starts before the last one is over, the feed never goes back. -/
namespace SplitBill.FeedPoll
open Host Helpers Client ReadCache SettledFeed Transition
variable {Address : Type} [DecidableEq Address]

def EVENTS_TTL_MS : Int := 4000

structure Label where
  id : JsString
  ledger : Int
  ledgerClosedAt : JsString
  txHash : JsString

def Label.record (l : Label) (contractId : JsString) (e : Event Address) : EventRecord Address :=
  ⟨l.id,l.ledger,l.ledgerClosedAt,l.txHash,contractId,e⟩

/- A feed, and how many records the node had when it gave the answer. Nothing of the code looks at the number. -/
structure Stamped where
  feed : List SettledEvent
  seen : Nat

inductive Fetch
  | asked
  | windowed (latest : Int)
  | answered (stamped : Stamped)

structure State (Address : Type) where
  world : Joint.World Address
  records : List (EventRecord Address)
  clock : Int
  cache : Cache JsString Stamped
  fetches : List Fetch
  events : Stamped
  cancelled : Bool

def initial (w : Joint.World Address) : State Address := ⟨w,[],0,ReadCache.empty,[],⟨[],0⟩,false⟩

inductive Action (Address : Type)
  | apply (env : Env Address) (call : Joint.Call Address) (label : Label)
  | foreign (record : EventRecord Address)
  | elapse (time : Nat)
  | poll
  | latest (k : Nat) (sequence : Int)
  | answer (k : Nat)
  | deliver (k : Nat)
  | fail (k : Nat)
  | returned (write : Write)
  | unmount

def served (latest : Int) (records : List (EventRecord Address)) : Rpc Address where
  getLatestLedger := .ok latest
  getEvents startLedger contractIds limit := .ok ((records.filter (matching startLedger contractIds)).take limit)

section Steps
variable (contractId : JsString) (sdk : Sdk Address) (tokenAddr : Address) (ledgersBack : Int) (limit : Nat)

def eventsKey : JsString := js "events:" ++ JsString.decimalInt ledgersBack ++ js ":" ++ JsString.decimal limit

def published (w w' : Joint.World Address) : List (Event Address) := w'.events.drop w.events.length

-- A poll that hits has its answer at once; the interval is gone with the page.
def poll (s : State Address) : State Address :=
  if s.cancelled ∨ contractId = [] then s
  else match lookup s.cache s.clock (eventsKey ledgersBack limit) with
    | some stamped => {s with events := stamped}
    | none => {s with fetches := s.fetches ++ [.asked]}

def answer (s : State Address) (k : Nat) : State Address :=
  match s.fetches[k]? with
  | some (.windowed latest) =>
      match fetchSettledFresh contractId sdk (served latest s.records) ledgersBack limit with
      | .ok feed => {s with fetches := s.fetches.set k (.answered ⟨feed,s.records.length⟩)}
      | .error _ => {s with fetches := s.fetches.eraseIdx k}
  | _ => s

-- The cache is filled even for a page that is gone.
def deliver (s : State Address) (k : Nat) : State Address :=
  match s.fetches[k]? with
  | some (.answered stamped) =>
      {s with
        fetches := s.fetches.eraseIdx k
        cache := fill s.cache s.clock EVENTS_TTL_MS (eventsKey ledgersBack limit) stamped
        events := if s.cancelled then s.events else stamped}
  | _ => s

def step (s : State Address) : Action Address → State Address
  | .apply env call label =>
      let w' := Joint.step tokenAddr s.world (env,call)
      {s with world := w',records := s.records ++ (published s.world w').map (label.record contractId)}
  | .foreign record => if record.contractId = contractId then s else {s with records := s.records ++ [record]}
  | .elapse time => {s with clock := s.clock + time}
  | .poll => poll contractId ledgersBack limit s
  | .latest k sequence =>
      match s.fetches[k]? with
      | some .asked => {s with fetches := s.fetches.set k (.windowed sequence)}
      | _ => s
  | .answer k => answer contractId sdk ledgersBack limit s k
  | .deliver k => deliver ledgersBack limit s k
  | .fail k => {s with fetches := s.fetches.eraseIdx k}
  | .returned write => {s with cache := (prefixes write).foldl invalidateReads s.cache}
  | .unmount => {s with cancelled := true}

end Steps

section Pairs
variable {α β γ : Type} {R : α → β → Prop} {S : β → γ → Prop} {T : α → γ → Prop}
variable {as as' : List α} {bs : List β} {cs : List γ}

theorem pairsThinned (pairs : List.Forall₂ R as bs) (inside : as'.Sublist as) :
    ∃ bs', bs'.Sublist bs ∧ List.Forall₂ R as' bs' := by
  induction inside generalizing bs with
  | slnil => exact ⟨[],List.nil_sublist _,.nil⟩
  | cons a _ ih =>
    cases pairs with
    | cons _ rest =>
      obtain ⟨bs',thin,related⟩ := ih rest
      exact ⟨bs',thin.cons _,related⟩
  | cons_cons a _ ih =>
    cases pairs with
    | cons first rest =>
      obtain ⟨bs',thin,related⟩ := ih rest
      exact ⟨_ :: bs',thin.cons_cons _,.cons first related⟩

theorem pairsJoined (one : ∀ a b c, R a b → S b c → T a c) (left : List.Forall₂ R as bs)
    (right : List.Forall₂ S bs cs) : List.Forall₂ T as cs := by
  induction left generalizing cs with
  | nil =>
    cases right
    exact .nil
  | cons first _ ih =>
    cases right with
    | cons second rest => exact .cons (one _ _ _ first second) (ih rest)

end Pairs

section Log
variable {contractId : JsString} {sdk : Sdk Address} {tokenAddr : Address} {ledgersBack : Int} {limit : Nat}
variable {w : Joint.World Address} {records : List (EventRecord Address)}

def Answer (contractId : JsString) (sdk : Sdk Address) (ledgersBack : Int) (limit : Nat)
    (records : List (EventRecord Address)) (stamped : Stamped) : Prop :=
  stamped.seen ≤ records.length ∧ ∃ latest,
    fetchSettledFresh contractId sdk (served latest (records.take stamped.seen)) ledgersBack limit = .ok stamped.feed

def own (contractId : JsString) (r : EventRecord Address) : Bool := r.contractId == contractId

omit [DecidableEq Address] in
theorem answerLater {stamped : Stamped} (given : Answer contractId sdk ledgersBack limit records stamped)
    (more : List (EventRecord Address)) : Answer contractId sdk ledgersBack limit (records ++ more) stamped := by
  obtain ⟨early,latest,fetched⟩ := given
  refine ⟨?_,latest,?_⟩
  · rw [List.length_append]
    omega
  · rw [List.take_append_of_le_length early]
    exact fetched

omit [DecidableEq Address] in
theorem answerFetched (latest : Int) :
    fetchSettledFresh contractId sdk (served latest records) ledgersBack limit =
      .ok ((((records.filter (matching (max (latest - ledgersBack) 1) [contractId])).take limit).filterMap
        (decoded sdk)).reverse) := rfl

theorem eventsGrow (tokenAddr : Address) (w : Joint.World Address) (i : Env Address × Joint.Call Address) :
    w.events <+: (Joint.step tokenAddr w i).events := by
  obtain ⟨i',same⟩ := Joint.stepBill tokenAddr w i
  rw [same]
  rcases BillSplit.stepCases (Joint.deployed tokenAddr) w i' with
    idle | ⟨t,moved⟩ | ⟨bill,_,_,created⟩ | ⟨c,bill,t,_,_,_,_,_,_,settled⟩
  · rw [idle]
  · rw [moved]
  · rw [created]
    exact List.prefix_append ..
  · rw [settled]
    exact List.prefix_append ..

theorem settledInside (tally : Settlement.Tally tokenAddr w) {p : Address} {id : U32} {share : I128}
    (member : BillSplit.settledEvent p id share ∈ w.events) : BillSplit.isSettled w id p = true ∧
      ∃ bill, BillSplit.getBill w id = .ok bill ∧ p ∈ bill.payers := by
  have listed : BillSplit.settledEvent p id share ∈ Settlement.settlementsFor w id p := by
    refine List.mem_filter.mpr ⟨member,?_⟩
    simp [BillSplit.settledEvent,Settlement.settledPair]
  cases flag : BillSplit.isSettled w id p with
  | false =>
    rw [(tally.unpaid id p flag).2] at listed
    contradiction
  | true =>
    obtain ⟨bill,_,found,payer,_⟩ := tally.paid id p flag
    exact ⟨rfl,bill,found,payer⟩

omit [DecidableEq Address] in
theorem settlementRecord {r : EventRecord Address} (published : Published r.event) :
    isSettlement r = (Settlement.settledPair r.event).isSome := by
  generalize event : r.event = e at published
  cases published with
  | created bill =>
    rw [isSettlement,event]
    rfl
  | settled payer id share =>
    rw [isSettlement,event]
    rfl

inductive Paid (sdk : Sdk Address) (w : Joint.World Address) : SettledEvent → Event Address → Prop
  | settled {id : U32} {bill : BillSplit.Bill Address} {p : Address} {e : SettledEvent}
      (found : BillSplit.getBill w id = .ok bill) (listed : p ∈ bill.payers) (flag : BillSplit.isSettled w id p = true)
      (number : e.billId = id.val) (payer : e.payer = sdk.addressText p) (share : e.share = bill.share.val) :
      Paid sdk w e (BillLog.transferEvent p bill.creator bill.share)

theorem linePaid (tally : Settlement.Tally tokenAddr w) {r : EventRecord Address} {e : SettledEvent}
    {t : Event Address} (shows' : Shows sdk r e) (member : r.event ∈ w.events) (pays : BillLog.Pays w r.event t) : Paid sdk w e t := by
  cases shows' with
  | settled event =>
    rw [event] at member pays
    obtain ⟨flag,bill,found,listed⟩ := settledInside tally member
    generalize paying : BillSplit.settledEvent _ _ _ = said at pays
    cases pays with
    | settled found' =>
      cases paying
      cases Except.ok.inj (found'.symm.trans found)
      exact .settled found listed flag rfl rfl rfl

theorem answerPaid (healthy : Joint.Healthy tokenAddr w) (backed : BillLog.Backed w)
    (published : ∀ e ∈ w.events, Published e)
    (logged : (records.filter (own contractId)).map EventRecord.event = w.events) {stamped : Stamped}
    (given : Answer contractId sdk ledgersBack limit records stamped) :
    ∃ transfers, transfers.Sublist w.token.events ∧ List.Forall₂ (Paid sdk w) stamped.feed.reverse transfers := by
  obtain ⟨_,latest,fetched⟩ := given
  rw [answerFetched] at fetched
  rw [← Except.ok.inj fetched,List.reverse_reverse]
  generalize max (latest - ledgersBack) 1 = startLedger
  generalize asked : ((records.take stamped.seen).filter (matching startLedger [contractId])).take limit = window
  have inside : window.Sublist (records.filter (own contractId)) := by
    have fits : ∀ r : EventRecord Address, matching startLedger [contractId] r = true → own contractId r = true := by
      intro r matches'
      simpa [own] using (Bool.and_eq_true_iff.mp matches').2
    rw [← asked]
    exact (List.take_sublist ..).trans ((List.monotone_filter_right _ fits).trans ((List.take_sublist ..).filter _))
  have each : ∀ r ∈ records.filter (own contractId), r.event ∈ w.events := by
    intro r member
    rw [← logged]
    exact List.mem_map_of_mem member
  have settlements : ((records.filter (own contractId)).filter isSettlement).map EventRecord.event =
      BillLog.settlements w := by
    rw [BillLog.settlements,← logged,List.filter_map]
    congr 1
    exact List.filter_congr fun r member => settlementRecord (published _ (each r member))
  have shows' := decodesSettlements sdk window fun r member => published _ (each r (inside.subset member))
  obtain ⟨transfers,thin,pays⟩ := backed
  rw [← settlements] at pays
  obtain ⟨transfers',thinner,paid⟩ := pairsThinned pays ((inside.filter isSettlement).map EventRecord.event)
  rw [List.forall₂_map_left_iff] at paid
  have logs : ∀ r ∈ window.filter isSettlement, r.event ∈ w.events :=
    fun r member => each r (inside.subset (List.mem_filter.mp member).1)
  have both := (List.forall₂_and_left (p := fun r : EventRecord Address => r.event ∈ w.events) _ _).mpr ⟨logs,paid⟩
  refine ⟨transfers',thinner.trans thin,pairsJoined ?_ shows'.flip both⟩
  rintro e r t shown ⟨member,pays⟩
  exact linePaid healthy.accounted.2 shown member pays

end Log

section Feed
variable {contractId : JsString} {sdk : Sdk Address} {d : Joint.Deployment Address} {ledgersBack : Int} {limit : Nat}
variable {s : State Address}

structure Held (contractId : JsString) (sdk : Sdk Address) (d : Joint.Deployment Address) (ledgersBack : Int)
    (limit : Nat) (s : State Address) : Prop where
  world : Leads (Joint.step d.tokenAddr) d.genesis s.world
  logged : (s.records.filter (own contractId)).map EventRecord.event = s.world.events
  shown : Answer contractId sdk ledgersBack limit s.records s.events
  cache : Everywhere (fun _ stamped => Answer contractId sdk ledgersBack limit s.records stamped) s.cache
  fetches : ∀ stamped, .answered stamped ∈ s.fetches → Answer contractId sdk ledgersBack limit s.records stamped

theorem heldInitial : Held contractId sdk d ledgersBack limit (initial d.genesis) where
  world := leadsHere _ _
  logged := rfl
  shown := ⟨le_rfl,0,by simp [answerFetched,initial]⟩
  cache := everywhereEmpty
  fetches := by simp [initial]

theorem heldLogged (h : Held contractId sdk d ledgersBack limit s) {w' : Joint.World Address}
    (world : Leads (Joint.step d.tokenAddr) s.world w') {more : List (EventRecord Address)}
    (logged : w'.events = s.world.events ++ (more.filter (own contractId)).map EventRecord.event) :
    Held contractId sdk d ledgersBack limit {s with world := w',records := s.records ++ more} where
  world := leadsMore h.world world
  logged := by
    rw [List.filter_append,List.map_append,h.logged,logged]
  shown := answerLater h.shown more
  cache := fun k entry found => answerLater (h.cache k entry found) more
  fetches := fun stamped member => answerLater (h.fetches stamped member) more

theorem heldMoved (h : Held contractId sdk d ledgersBack limit s) {s' : State Address} (world : s'.world = s.world)
    (records : s'.records = s.records) (shown : Answer contractId sdk ledgersBack limit s.records s'.events)
    (cache : Everywhere (fun _ stamped => Answer contractId sdk ledgersBack limit s.records stamped) s'.cache)
    (fetches : ∀ stamped, .answered stamped ∈ s'.fetches → .answered stamped ∈ s.fetches ∨
      Answer contractId sdk ledgersBack limit s.records stamped) : Held contractId sdk d ledgersBack limit s' where
  world := by
    rw [world]
    exact h.world
  logged := by
    rw [world,records]
    exact h.logged
  shown := by
    rw [records]
    exact shown
  cache := by
    rw [records]
    exact cache
  fetches := by
    rw [records]
    exact fun stamped member => (fetches stamped member).elim (h.fetches stamped) id

theorem applyLogged (w : Joint.World Address) (i : Env Address × Joint.Call Address) (label : Label) :
    let w' := Joint.step d.tokenAddr w i
    w'.events = w.events ++
      (((published w w').map (label.record contractId)).filter (own contractId)).map EventRecord.event := by
  intro w'
  have all : ((published w w').map (label.record contractId)).filter (own contractId) =
      (published w w').map (label.record contractId) := by
    rw [List.filter_eq_self]
    intro r member
    obtain ⟨e,_,rfl⟩ := List.mem_map.mp member
    simp [own,Label.record]
  have told : (published w w').map (EventRecord.event ∘ label.record contractId) = published w w' := List.map_id _
  obtain ⟨new,grown⟩ := eventsGrow d.tokenAddr w i
  rw [all,List.map_map,told,published,← grown,List.drop_left]

theorem stepHeld :
    Preserves (step contractId sdk d.tokenAddr ledgersBack limit) (Held contractId sdk d ledgersBack limit) := by
  intro s a h
  cases a with
  | apply env call label => exact heldLogged h (leadsStep _ _ (env,call)) (applyLogged s.world (env,call) label)
  | foreign record =>
    simp only [step]
    split
    · exact h
    · rename_i other
      refine heldLogged h (leadsHere _ _) ?_
      simp [own,other]
  | elapse time => exact heldMoved h rfl rfl h.shown h.cache fun stamped member => .inl member
  | poll =>
    simp only [step,poll]
    split
    · exact h
    · split
      · rename_i stamped hit
        exact heldMoved h rfl rfl (everywhereLookup h.cache hit) h.cache fun stamped member => .inl member
      · refine heldMoved h rfl rfl h.shown h.cache fun stamped member => .inl ?_
        simpa using member
  | latest k sequence =>
    simp only [step]
    split
    · refine heldMoved h rfl rfl h.shown h.cache fun stamped member => .inl ?_
      rcases List.mem_or_eq_of_mem_set member with before | now
      · exact before
      · cases now
    · exact h
  | answer k =>
    simp only [step,answer]
    split
    · rename_i latest _
      rw [answerFetched]
      refine heldMoved h rfl rfl h.shown h.cache fun stamped member => ?_
      rcases List.mem_or_eq_of_mem_set member with before | now
      · exact .inl before
      · cases now
        refine .inr ⟨le_rfl,latest,?_⟩
        rw [List.take_length,answerFetched]
    · exact h
  | deliver k =>
    simp only [step,deliver]
    split
    · rename_i stamped waits
      have given := h.fetches stamped (List.mem_of_getElem? waits)
      refine heldMoved h rfl rfl ?_ (everywhereFill h.cache given) fun stamped member =>
        .inl (List.mem_of_mem_eraseIdx member)
      dsimp only
      split
      · exact h.shown
      · exact given
    · exact h
  | fail k => exact heldMoved h rfl rfl h.shown h.cache fun stamped member => .inl (List.mem_of_mem_eraseIdx member)
  | returned write =>
    refine heldMoved h rfl rfl h.shown ?_ fun stamped member => .inl member
    simp only [step,invalidateAll]
    exact everywhereInvalidate h.cache fun _ _ _ given => given
  | unmount => exact heldMoved h rfl rfl h.shown h.cache fun stamped member => .inl member

theorem runHeld (d : Joint.Deployment Address) (actions : List (Action Address)) :
    Held contractId sdk d ledgersBack limit
      (run (step contractId sdk d.tokenAddr ledgersBack limit) (initial d.genesis) actions) :=
  runPreserves stepHeld heldInitial actions

theorem heldPaid (h : Held contractId sdk d ledgersBack limit s) : ∃ transfers,
    transfers.Sublist s.world.token.events ∧ List.Forall₂ (Paid sdk s.world) s.events.feed.reverse transfers := by
  obtain ⟨inputs,reached⟩ := h.world
  have healthy : Joint.Healthy d.tokenAddr s.world := reached ▸ Joint.worldHealthy d inputs
  have start : Joint.Healthy d.tokenAddr d.genesis ∧ BillLog.Backed d.genesis :=
    ⟨Joint.worldHealthy d [],[],.refl _,.nil⟩
  have backed : BillLog.Backed s.world := reached ▸ (runPreserves (BillLog.stepTransfers d.tokenAddr) start inputs).2
  have published : ∀ e ∈ s.world.events, Published e := by
    obtain ⟨inputs',same⟩ := Joint.runBill d.tokenAddr d.genesis inputs
    rw [← reached,same]
    exact worldPublished (Joint.deployed d.tokenAddr) d.tokenAddr _ inputs'
  exact answerPaid healthy backed published h.logged h.shown

end Feed

theorem feedPaid (contractId : JsString) (sdk : Sdk Address) (d : Joint.Deployment Address) (ledgersBack : Int)
    (limit : Nat) (actions : List (Action Address)) :
    let s := run (step contractId sdk d.tokenAddr ledgersBack limit) (initial d.genesis) actions
    Answer contractId sdk ledgersBack limit s.records s.events ∧ ∃ transfers,
      transfers.Sublist s.world.token.events ∧ List.Forall₂ (Paid sdk s.world) s.events.feed.reverse transfers := by
  intro s
  have h : Held contractId sdk d ledgersBack limit s := runHeld d actions
  exact ⟨h.shown,heldPaid h⟩

def Action.polls : Action Address → Bool
  | .poll => true
  | _ => false

def Calm (s : State Address) (a : Action Address) : Prop := a.polls = true → s.fetches.length = 0
instance (s : State Address) (a : Action Address) : Decidable (Calm s a) := by unfold Calm; infer_instance

section Onwards
variable {contractId : JsString} {sdk : Sdk Address} {d : Joint.Deployment Address} {ledgersBack : Int} {limit : Nat}
variable {s : State Address}

structure Onwards (ledgersBack : Int) (limit : Nat) (s : State Address) : Prop where
  alone : s.fetches.length ≤ 1
  cached : ∀ entry, s.cache (eventsKey ledgersBack limit) = some entry → s.events.seen ≤ entry.value.seen
  fetched : ∀ stamped, .answered stamped ∈ s.fetches → s.events.seen ≤ stamped.seen

theorem recordsGrow (contractId : JsString) (sdk : Sdk Address) (d : Joint.Deployment Address) (ledgersBack : Int)
    (limit : Nat) (s : State Address) (a : Action Address) :
    ∃ more, (step contractId sdk d.tokenAddr ledgersBack limit s a).records = s.records ++ more := by
  cases a with
  | apply env call label => exact ⟨_,rfl⟩
  | foreign record =>
    simp only [step]
    split
    · exact ⟨[],(List.append_nil _).symm⟩
    · exact ⟨_,rfl⟩
  | elapse time | fail k | returned write | unmount => exact ⟨[],(List.append_nil _).symm⟩
  | poll =>
    refine ⟨[],?_⟩
    simp only [step,poll,List.append_nil]
    split
    · rfl
    · split <;> rfl
  | latest k sequence =>
    refine ⟨[],?_⟩
    simp only [step,List.append_nil]
    split <;> rfl
  | answer k =>
    refine ⟨[],?_⟩
    simp only [step,answer,List.append_nil]
    split
    · rw [answerFetched]
    · rfl
  | deliver k =>
    refine ⟨[],?_⟩
    simp only [step,deliver,List.append_nil]
    split <;> rfl

theorem stepOnwards (h : Held contractId sdk d ledgersBack limit s) (on : Onwards ledgersBack limit s)
    {a : Action Address} (calm : Calm s a) : Onwards ledgersBack limit (step contractId sdk d.tokenAddr ledgersBack limit s a) ∧
      s.events.seen ≤ (step contractId sdk d.tokenAddr ledgersBack limit s a).events.seen := by
  cases a with
  | apply env call label | elapse time | unmount => exact ⟨⟨on.alone,on.cached,on.fetched⟩,le_rfl⟩
  | foreign record =>
    simp only [step]
    split <;> exact ⟨⟨on.alone,on.cached,on.fetched⟩,le_rfl⟩
  | poll =>
    have none : s.fetches = [] := List.length_eq_zero_iff.mp (calm rfl)
    simp only [step,poll]
    split
    · exact ⟨on,le_rfl⟩
    · split
      · rename_i stamped hit
        obtain ⟨entry,stored,_,same⟩ := lookupEntry hit
        refine ⟨⟨on.alone,?_,by simp [none]⟩,same ▸ on.cached entry stored⟩
        intro entry' found
        cases Option.some.inj (stored.symm.trans found)
        exact (congrArg Stamped.seen same).ge
      · exact ⟨⟨by simp [none],on.cached,by simp [none]⟩,le_rfl⟩
  | latest k sequence =>
    simp only [step]
    split
    · refine ⟨⟨by simpa using on.alone,on.cached,fun stamped member => ?_⟩,le_rfl⟩
      rcases List.mem_or_eq_of_mem_set member with before | now
      · exact on.fetched stamped before
      · cases now
    · exact ⟨on,le_rfl⟩
  | answer k =>
    simp only [step,answer]
    split
    · rw [answerFetched]
      refine ⟨⟨by simpa using on.alone,on.cached,fun stamped member => ?_⟩,le_rfl⟩
      rcases List.mem_or_eq_of_mem_set member with before | now
      · exact on.fetched stamped before
      · cases now
        exact h.shown.1
    · exact ⟨on,le_rfl⟩
  | deliver k =>
    simp only [step,deliver]
    split
    · rename_i stamped waits
      have later := on.fetched stamped (List.mem_of_getElem? waits)
      have shown : s.events.seen ≤ (if s.cancelled then s.events else stamped).seen ∧
          (if s.cancelled then s.events else stamped).seen ≤ stamped.seen := by
        split
        · exact ⟨le_rfl,later⟩
        · exact ⟨later,le_rfl⟩
      have last : s.fetches.eraseIdx k = [] := by
        have inside := (List.getElem?_eq_some_iff.mp waits).1
        apply List.length_eq_zero_iff.mp
        rw [List.length_eraseIdx_of_lt inside]
        have := on.alone
        omega
      refine ⟨⟨by simp [last],?_,by simp [last]⟩,shown.1⟩
      intro entry found
      have put : entry = ⟨stamped,s.clock + EVENTS_TTL_MS⟩ := by
        simpa [fill] using found.symm
      rw [put]
      exact shown.2
    · exact ⟨on,le_rfl⟩
  | fail k =>
    refine ⟨⟨(List.length_eraseIdx_le ..).trans on.alone,on.cached,fun stamped member => ?_⟩,le_rfl⟩
    exact on.fetched stamped (List.mem_of_mem_eraseIdx member)
  | returned write =>
    refine ⟨⟨on.alone,?_,on.fetched⟩,le_rfl⟩
    simp only [step,invalidateAll]
    intro entry found
    exact on.cached entry (invalidatedEntry found)

end Onwards

theorem feedOnwards (contractId : JsString) (sdk : Sdk Address) (d : Joint.Deployment Address) (ledgersBack : Int)
    (limit : Nat) (before after : List (Action Address))
    (calm : Along (step contractId sdk d.tokenAddr ledgersBack limit) Calm (initial d.genesis) (before ++ after)) :
    let s := run (step contractId sdk d.tokenAddr ledgersBack limit) (initial d.genesis) before
    let t := run (step contractId sdk d.tokenAddr ledgersBack limit) (initial d.genesis) (before ++ after)
    s.events.seen ≤ t.events.seen ∧ Answer contractId sdk ledgersBack limit t.records s.events ∧
      Answer contractId sdk ledgersBack limit t.records t.events := by
  intro s t
  obtain ⟨first,later⟩ := alongAppend.mp calm
  have on : Onwards ledgersBack limit s := by
    have both := alongPreserves (P := fun s => Held contractId sdk d ledgersBack limit s ∧ Onwards ledgersBack limit s)
      (fun u a allowed known => ⟨stepHeld u a known.1,(stepOnwards known.1 known.2 allowed).1⟩)
      ⟨heldInitial,⟨Nat.zero_le _,by simp [initial,ReadCache.empty],by simp [initial]⟩⟩ first
    exact both.2
  have held : Held contractId sdk d ledgersBack limit s := runHeld d before
  have onwards : run (step contractId sdk d.tokenAddr ledgersBack limit) s after = t := (runAppend ..).symm
  have known := alongPreserves (P := fun u => Held contractId sdk d ledgersBack limit u ∧ Onwards ledgersBack limit u ∧
      s.events.seen ≤ u.events.seen ∧ Answer contractId sdk ledgersBack limit u.records s.events)
    ?_ ⟨held,on,le_rfl,held.shown⟩ later
  · rw [onwards] at known
    exact ⟨known.2.2.1,known.2.2.2,known.1.shown⟩
  · rintro u a allowed ⟨held,on,seen,given⟩
    obtain ⟨on',more⟩ := stepOnwards held on allowed
    obtain ⟨new,grown⟩ := recordsGrow contractId sdk d ledgersBack limit u a
    exact ⟨stepHeld u a held,on',seen.trans more,grown ▸ answerLater given new⟩

def trialLabel (n : Nat) : Label := ⟨JsString.decimal n,10,js "2026-01-01T00:00:00Z",js "tx"⟩
def firstLook : List (Action Nat) :=
  [.apply Joint.trialEnv (.token (.mint 1 (.lit 100))) (trialLabel 0),
    .apply Joint.trialEnv (.bill (.createBill 2 [1] (.lit 5) [])) (trialLabel 1),.poll,.latest 0 10,.answer 0,.deliver 0]
def secondLook : List (Action Nat) :=
  [.apply Joint.trialEnv (.bill (.settle (.lit 1) 1)) (trialLabel 2),.elapse 5000,.poll,.latest 0 11,.answer 0,.deliver 0]

theorem secondLookShows :
    let s := run (step (js "C") plainSdk 0 5000 50) (initial Joint.trialDeployment.genesis) firstLook
    let t := run (step (js "C") plainSdk 0 5000 50) (initial Joint.trialDeployment.genesis) (firstLook ++ secondLook)
    s.events.feed = [] ∧ t.events.feed.map SettledEvent.billId = [1] ∧ s.events.seen ≤ t.events.seen := by
  refine ⟨by decide +kernel,by decide +kernel,?_⟩
  exact (feedOnwards (js "C") plainSdk Joint.trialDeployment 5000 50 firstLook secondLook (by decide +kernel)).1

def overlapping : List (Action Nat) := firstLook.take 5 ++ secondLook.take 3 ++ [.latest 1 11,.answer 1,.deliver 1]
def shownAfter (actions : List (Action Nat)) : List Int :=
  let s := run (step (js "C") plainSdk 0 5000 50) (initial Joint.trialDeployment.genesis) actions
  s.events.feed.map SettledEvent.billId

example : shownAfter overlapping = [1] ∧ shownAfter (overlapping ++ [.deliver 0]) = [] := by decide +kernel

end SplitBill.FeedPoll
