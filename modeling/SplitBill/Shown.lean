import SplitBill.StaleReads
import SplitBill.PageLoads
import SplitBill.Payable

/-! What the page shows beside what the chain says. The loads are served by the client's replies, which may
be old, in any order and for any wallet; what the page shows of them is on the chain all the same, and the
button it offers for a bill is one that the contract can grant. -/
namespace SplitBill.Shown
open Host Helpers Transition Client BillList Growth StaleReads
variable {Address : Type} [DecidableEq Address]

structure Site (Address : Type) where
  watched : Watched Address
  page : PageLoads.Page

structure BalanceLine where
  assetType : JsString
  balance : JsString

structure AccountError where
  status : Option Int
  message : JsString

def fetchXlmBalance (account : Except AccountError (List BalanceLine)) : Except JsString PageLoads.XlmBalance :=
  match account with
  | .ok balances => .ok ⟨((balances.find? fun b => b.assetType = js "native").map BalanceLine.balance).getD (js "0"),true⟩
  | .error e => if e.status = some 404 then .ok ⟨js "0",false⟩ else .error e.message

/- A load and a refresh are served by replies that the client has handed over; none is a read that failed.
A split or a settlement that has gone through starts both for the wallet that sent it. -/
inductive Event (Address : Type)
  | network (move : Move Address)
  | connect (a : JsString)
  | disconnect
  | pressRefresh
  | wentThrough (sender : JsString)
  | refreshed (k : Nat) (account : Except AccountError (List BalanceLine)) (served : Option Nat)
  | loaded (k : Nat) (served : Read → Option Nat)

def handed (results : List ReadRace.Result) (r : Read) (served : Option Nat) : Except Thrown Reply :=
  match served.bind fun n => results[n]? with
  | some result => if key result.read = key r then .ok result.stamped.reply else .error (.other [])
  | none => .error (.other [])

def amountOf : Reply → Int
  | .balance amount => amount
  | _ => 0

def stableAnswer (s : Site Address) (k : Nat) (served : Option Nat) : Except Thrown Int :=
  match s.page.refreshes[k]? with
  | some a => (handed s.watched.client.results (.getStableBalance a) served).map amountOf
  | none => .error (.other [])

section Steps
variable (config : Config) (sdk : Sdk Address) (tokenAddr : Address)

def step (s : Site Address) : Event Address → Site Address
  | .network move => {s with watched := StaleReads.step config sdk tokenAddr s.watched move}
  | .connect a => {s with page := PageLoads.step config s.page (.connect a)}
  | .disconnect => {s with page := PageLoads.step config s.page .disconnect}
  | .pressRefresh => {s with page := s.page.connected.elim s.page (PageLoads.refreshBalance s.page)}
  | .wentThrough sender => {s with page := PageLoads.loadBills config (PageLoads.refreshBalance s.page sender) sender}
  | .refreshed k account served =>
      {s with page := PageLoads.step config s.page (.refreshed k (fetchXlmBalance account) (stableAnswer s k served))}
  | .loaded k served =>
      {s with page := PageLoads.step config s.page (.loaded k fun r => handed s.watched.client.results r (served r))}

end Steps

def initial (w : Joint.World Address) : Site Address := ⟨StaleReads.initial w,PageLoads.Page.initial⟩

def paid (page : PageLoads.Page) (b : Bill) (p : JsString) : Bool :=
  (page.settledMap.bind fun f => f.value (settledKey b.id p)).getD false
def offersSettle (page : PageLoads.Page) (a : JsString) (b : Bill) : Bool := b.payers.contains a && !paid page b a

def OnChain (sdk : Sdk Address) (w : Joint.World Address) (b : Bill) : Prop :=
  ∃ k stored, BillSplit.getBill w k = .ok stored ∧ b = native sdk stored
def PaidOnChain (sdk : Sdk Address) (w : Joint.World Address) (id : Int) (p : JsString) : Prop :=
  ∃ k a, k.val = id ∧ sdk.fromString p = .ok a ∧ BillSplit.isSettled w k a = true

structure Listed (sdk : Sdk Address) (w : Joint.World Address) (wallet : JsString) (bills : List Bill) : Prop where
  stored : ∀ b ∈ bills, OnChain sdk w b
  own : ∀ b ∈ bills, belongs wallet b = true
  sorted : bills.Pairwise fun b c => c.id < b.id

structure ShowsChain (sdk : Sdk Address) (w : Joint.World Address) (page : PageLoads.Page) : Prop where
  count : ∀ n, page.billCount = some n → n ≤ (BillSplit.billCount w).val
  bills : ∀ f, page.bills = some f → Listed sdk w f.wallet f.value
  flags : ∀ f, page.settledMap = some f → ∀ id p, f.value (settledKey id p) = some true → PaidOnChain sdk w id p

def Known (sdk : Sdk Address) (w : Joint.World Address) (r : Read) (reply : Reply) : Prop :=
  ∃ now, fetch sdk w r = .ok now ∧ Grows reply now

theorem settledKeyInjective {id id' : Int} {p p' : JsString} (same : settledKey id p = settledKey id' p') :
    id = id' ∧ p = p' := by
  simp only [settledKey,List.append_assoc] at same
  obtain ⟨numbers,rest⟩ := JsString.separated (JsString.decimalIntNoColon id) (JsString.decimalIntNoColon id') same
  exact ⟨JsString.decimalIntInjective numbers,rest⟩

theorem settledFound {answer : Int × JsString → Except Thrown Reply} {bills : List Bill} {k : JsString} {flag : Bool}
    (found : settledFlags answer bills k = some flag) :
    ∃ entry, settledKey entry.1 entry.2 = k ∧ answer entry = .ok (.flag flag) := by
  have each : ∀ k flag, settledFlags answer bills k = some flag →
      ∃ entry, settledKey entry.1 entry.2 = k ∧ answer entry = .ok (.flag flag) := by
    unfold settledFlags
    refine List.foldlRecOn (motive := fun settled : JsString → Option Bool => ∀ k flag, settled k = some flag →
      ∃ entry : Int × JsString, settledKey entry.1 entry.2 = k ∧ answer entry = .ok (.flag flag)) _ _ nofun ?_
    intro settled before entry _ k flag found
    cases answered : (answer entry).toOption.bind flagOf with
    | none =>
      simp only [answered] at found
      exact before k flag found
    | some new =>
      simp only [answered] at found
      rcases ReadCache.updateFound found with ⟨same,put⟩ | old
      · cases put
        obtain ⟨reply,replied,read⟩ := Option.bind_eq_some_iff.mp answered
        cases reply <;> cases read
        cases served : answer entry <;> rw [served] at replied <;> cases replied
        exact ⟨entry,same.symm,served⟩
      · exact before k flag old
  exact each k flag found

section Page
variable {config : Config} {sdk : Sdk Address} {w w' : Joint.World Address} {page : PageLoads.Page}

omit [DecidableEq Address] in
theorem knownBill {id : Int} {b : Bill} (known : Known sdk w (.getBill (.integer id)) (.bill b)) :
    ∃ k stored, k.val = id ∧ BillSplit.getBill w k = .ok stored ∧ b = native sdk stored := by
  obtain ⟨now,answered,grows⟩ := known
  cases grows
  simp only [fetch,readView,bindOk,mapErrorOk,toU32Exact,JsNumber.integer.injEq] at answered
  obtain ⟨k,number,stored,found,same⟩ := answered
  cases same
  exact ⟨k,stored,number.symm,found,rfl⟩

omit [DecidableEq Address] in
theorem knownFlag {id : Int} {p : JsString} (known : Known sdk w (.isSettled (.integer id) p) (.flag true)) :
    PaidOnChain sdk w id p := by
  obtain ⟨now,answered,grows⟩ := known
  cases grows
  simp only [fetch,bindOk,toU32Exact,JsNumber.integer.injEq,fromString,mapErrorOk] at answered
  obtain ⟨k,number,a,converted,same⟩ := answered
  exact ⟨k,a,number.symm,converted,Reply.flag.inj (Except.ok.inj same)⟩

theorem readBill (registered : BillRegister.Registered w) {reads : Read → Except Thrown Reply}
    (known : ∀ r reply, reads r = .ok reply → Known sdk w r reply) {id : Int} {b : Bill}
    (read : (reads (.getBill (.integer id))).toOption.bind billOf = some b) : OnChain sdk w b ∧ b.id = id := by
  obtain ⟨reply,replied,same⟩ := Option.bind_eq_some_iff.mp read
  cases reply <;> cases same
  cases served : reads (.getBill (.integer id)) <;> rw [served] at replied <;> cases replied
  obtain ⟨k,stored,number,found,rfl⟩ := knownBill (known _ _ served)
  obtain ⟨reg,m⟩ := registered
  refine ⟨⟨k,stored,found,rfl⟩,?_⟩
  change stored.id.val = id
  rw [(BillRegister.billSound m found).1,number]

theorem visibleListed (registered : BillRegister.Registered w) {reads : Read → Except Thrown Reply}
    (known : ∀ r reply, reads r = .ok reply → Known sdk w r reply) (a : JsString) (count : Int) :
    Listed sdk w a (visible a ((billIds count).map fun id => reads (.getBill (.integer id)))) where
  stored := by
    intro b member
    obtain ⟨listed,_⟩ := List.mem_filter.mp (List.mem_reverse.mp member)
    obtain ⟨answer,asked,read⟩ := List.mem_filterMap.mp listed
    obtain ⟨id,_,rfl⟩ := List.mem_map.mp asked
    exact (readBill registered known read).1
  own := by
    intro b member
    exact (List.mem_filter.mp (List.mem_reverse.mp member)).2
  sorted := by
    have ids : (billIds count).Pairwise (· < ·) := by
      rw [billIds,List.pairwise_map]
      exact List.pairwise_lt_range.imp fun before => by omega
    rw [visible,List.pairwise_reverse]
    apply List.Pairwise.filter
    rw [List.filterMap_map,List.pairwise_filterMap]
    refine ids.imp ?_
    intro i j before b first c second
    obtain ⟨_,here⟩ := readBill registered known first
    obtain ⟨_,there⟩ := readBill registered known second
    omega

theorem advanceShows (registered : BillRegister.Registered w) (shows' : ShowsChain sdk w page) (load : PageLoads.Load)
    {reads : Read → Except Thrown Reply} (known : ∀ r reply, reads r = .ok reply → Known sdk w r reply) :
    ShowsChain sdk w (PageLoads.advance page load reads) := by
  obtain ⟨wallet,stage⟩ := load
  cases stage with
  | counting =>
    simp only [PageLoads.advance]
    cases served : reads .getBillCount with
    | error e => exact ⟨shows'.count,shows'.bills,shows'.flags⟩
    | ok reply =>
      refine ⟨?_,shows'.bills,shows'.flags⟩
      rintro n ⟨⟩
      obtain ⟨now,answered,grows⟩ := known _ _ served
      cases answered
      cases grows with
      | count more => exact more
  | scanning count =>
    refine ⟨shows'.count,?_,shows'.flags⟩
    rintro f ⟨⟩
    exact visibleListed registered known wallet count
  | flagging bills =>
    refine ⟨shows'.count,shows'.bills,?_⟩
    rintro f ⟨⟩ id p flag
    obtain ⟨⟨id',p'⟩,same,served⟩ := settledFound flag
    obtain ⟨rfl,rfl⟩ := settledKeyInjective same
    exact knownFlag (known _ _ served)

omit [DecidableEq Address] in
theorem showsLater (grown : Grown w w') (shows' : ShowsChain sdk w page) : ShowsChain sdk w' page where
  count := fun n shown => (shows'.count n shown).trans grown.kept.counter
  bills := by
    intro f shown
    have listed := shows'.bills f shown
    refine ⟨?_,listed.own,listed.sorted⟩
    intro b member
    obtain ⟨k,stored,found,same⟩ := listed.stored b member
    exact ⟨k,stored,BillRegister.getBillExact.mpr (grown.kept.bill k stored (BillRegister.getBillExact.mp found)),same⟩
  flags := by
    intro f shown id p flag
    obtain ⟨k,a,number,converted,settled⟩ := shows'.flags f shown id p flag
    exact ⟨k,a,number,converted,grown.kept.flag k a settled⟩

omit [DecidableEq Address] in
theorem paidFlag (shows' : ShowsChain sdk w page) {b : Bill} {p : JsString} (pill : paid page b p = true) :
    PaidOnChain sdk w b.id p := by
  cases flag : page.settledMap.bind fun f => f.value (settledKey b.id p) with
  | none => simp [paid,flag] at pill
  | some settled =>
    obtain ⟨f,shown,found⟩ := Option.bind_eq_some_iff.mp flag
    rw [paid,flag] at pill
    cases pill
    exact shows'.flags f shown b.id p found

end Page

structure Truthful (sdk : Sdk Address) (tokenAddr : Address) (s : Site Address) : Prop where
  kept : Kept sdk tokenAddr none s.watched
  shows' : ShowsChain sdk s.watched.client.world s.page
  balance : ∀ f, s.page.stableBalance = some f → f.value = stroopsToXlm 0 ∨
    ∃ m ∈ s.watched.past, ∃ a, sdk.fromString f.wallet = .ok a ∧ f.value = stroopsToXlm (Joint.balance m.2 a).val

section Site
variable {config : Config} {sdk : Sdk Address} {tokenAddr : Address} {s : Site Address}

theorem truthfulInitial {w : Joint.World Address} (healthy : Joint.Healthy tokenAddr w) :
    Truthful sdk tokenAddr (initial w) where
  kept := keptInitial healthy
  shows' := ⟨nofun,nofun,nofun⟩
  balance := nofun

theorem handedSeen (kept : Kept sdk tokenAddr none s.watched) {r : Read} {served : Option Nat} {reply : Reply}
    (replied : handed s.watched.client.results r served = .ok reply) : ∃ m ∈ s.watched.past, fetch sdk m.2 r = .ok reply := by
  unfold handed at replied
  split at replied
  · rename_i result found
    split at replied
    · rename_i same
      cases replied
      obtain ⟨n,_,there⟩ := Option.bind_eq_some_iff.mp found
      obtain ⟨m,inside,answered⟩ := kept.results result (List.mem_of_getElem? there)
      exact ⟨m,inside,keyInjective same ▸ answered⟩
    · contradiction
  · contradiction

theorem handedKnown (kept : Kept sdk tokenAddr none s.watched) {r : Read} {served : Option Nat} {reply : Reply}
    (replied : handed s.watched.client.results r served = .ok reply) : Known sdk s.watched.client.world r reply := by
  obtain ⟨m,inside,answered⟩ := handedSeen kept replied
  obtain ⟨healthy,leads⟩ := kept.past m inside
  exact fetchGrows sdk (leadsGrown healthy leads) answered

theorem worldRegistered (kept : Kept sdk tokenAddr none s.watched) : BillRegister.Registered s.watched.client.world :=
  (kept.past _ kept.now).1.accounted.1

omit [DecidableEq Address] in
theorem refreshedBalance {k : Nat} {xlm : Except JsString PageLoads.XlmBalance} {stable : Except Thrown Int}
    {f : PageLoads.Fetched JsString}
    (shown : (PageLoads.step config s.page (.refreshed k xlm stable)).stableBalance = some f) :
    s.page.stableBalance = some f ∨ s.page.refreshes[k]? = some f.wallet ∧ f.value = stroopsToXlm (stable.toOption.getD 0) := by
  simp only [PageLoads.step] at shown
  cases waits : s.page.refreshes[k]? with
  | none =>
    rw [waits] at shown
    exact .inl shown
  | some a =>
    rw [waits] at shown
    cases xlm with
    | error message => exact .inl shown
    | ok answer =>
      simp only [PageLoads.finishRefreshOk] at shown
      split at shown
      · exact .inl shown
      · cases shown
        exact .inr ⟨rfl,rfl⟩

omit [DecidableEq Address] in
theorem showsSame {w : Joint.World Address} {page page' : PageLoads.Page} (shows' : ShowsChain sdk w page)
    (count : page'.billCount = page.billCount) (bills : page'.bills = page.bills)
    (flags : page'.settledMap = page.settledMap) : ShowsChain sdk w page' where
  count := by
    rw [count]
    exact shows'.count
  bills := by
    rw [bills]
    exact shows'.bills
  flags := by
    rw [flags]
    exact shows'.flags

theorem stepTruthful (s : Site Address) (e : Event Address) (h : Truthful sdk tokenAddr s) :
    Truthful sdk tokenAddr (step config sdk tokenAddr s e) := by
  obtain ⟨kept,shows',balance⟩ := h
  cases e with
  | network move =>
    have after : Kept sdk tokenAddr none (StaleReads.step config sdk tokenAddr s.watched move) :=
      stepKept s.watched move (promptNone _ move) kept
    obtain ⟨healthy,leads⟩ := after.past _ (List.mem_append_left _ kept.now)
    refine ⟨after,showsLater (leadsGrown healthy leads) shows',?_⟩
    intro f shown
    refine (balance f shown).imp_right ?_
    intro ⟨m,member,seen⟩
    exact ⟨m,List.mem_append_left _ member,seen⟩
  | connect a =>
    have same : PageLoads.step config s.page (.connect a) = PageLoads.onConnect config s.page a := rfl
    simp only [step,same,PageLoads.onConnect,PageLoads.loadBills,PageLoads.refreshBalance]
    split
    · exact ⟨kept,showsSame shows' rfl rfl rfl,balance⟩
    · split
      · exact ⟨kept,showsSame shows' rfl rfl rfl,balance⟩
      · exact ⟨kept,showsSame shows' rfl rfl rfl,balance⟩
  | disconnect => exact ⟨kept,showsSame shows' rfl rfl rfl,by simp [PageLoads.step,PageLoads.onDisconnect,step]⟩
  | pressRefresh =>
    simp only [step]
    cases s.page.connected with
    | none => exact ⟨kept,shows',balance⟩
    | some a => exact ⟨kept,showsSame shows' rfl rfl rfl,balance⟩
  | wentThrough sender =>
    simp only [step,PageLoads.loadBills,PageLoads.refreshBalance]
    split
    · exact ⟨kept,showsSame shows' rfl rfl rfl,balance⟩
    · exact ⟨kept,showsSame shows' rfl rfl rfl,balance⟩
  | refreshed k account served =>
    have page : ShowsChain sdk s.watched.client.world (step config sdk tokenAddr s (.refreshed k account served)).page := by
      simp only [step,PageLoads.step]
      split
      · exact shows'
      · cases fetchXlmBalance account with
        | error message => exact showsSame shows' rfl rfl rfl
        | ok answer =>
          rw [PageLoads.finishRefreshOk]
          exact showsSame shows' rfl rfl rfl
    refine ⟨kept,page,?_⟩
    intro f shown
    rcases refreshedBalance shown with before | ⟨waits,value⟩
    · exact balance f before
    · rw [stableAnswer,waits] at value
      cases answer : handed s.watched.client.results (.getStableBalance f.wallet) served with
      | error e =>
        left
        simpa [answer,Except.map,Except.toOption] using value
      | ok reply =>
        obtain ⟨m,member,answered⟩ := handedSeen kept answer
        simp only [fetch,bindOk,fromString,mapErrorOk] at answered
        obtain ⟨a,converted,same⟩ := answered
        cases same
        right
        refine ⟨m,member,a,converted,?_⟩
        simpa [answer,Except.map,Except.toOption,amountOf] using value
  | loaded k served =>
    simp only [step,PageLoads.step]
    split
    · exact ⟨kept,shows',balance⟩
    · rename_i load waits
      have waiting : ShowsChain sdk s.watched.client.world {s.page with loads := s.page.loads.eraseIdx k} :=
        showsSame shows' rfl rfl rfl
      refine ⟨kept,?_,?_⟩
      · exact advanceShows (worldRegistered kept) waiting load fun r reply => handedKnown kept
      · have same : (PageLoads.advance {s.page with loads := s.page.loads.eraseIdx k} load fun r =>
            handed s.watched.client.results r (served r)).stableBalance = s.page.stableBalance := by
          obtain ⟨wallet,stage⟩ := load
          cases stage with
          | counting =>
            simp only [PageLoads.advance]
            split <;> rfl
          | scanning count => rfl
          | flagging bills => rfl
        rw [same]
        exact balance

end Site

theorem pageTellsTruth (config : Config) (sdk : Sdk Address) (d : Joint.Deployment Address)
    (inputs : List (Env Address × Joint.Call Address)) (events : List (Event Address)) :
    let s := run (step config sdk d.tokenAddr) (initial (d.world inputs)) events
    let w := s.watched.client.world
    (∀ n, s.page.billCount = some n → n ≤ (BillSplit.billCount w).val) ∧
    (∀ f, s.page.bills = some f → f.value.Pairwise (fun b c => c.id < b.id) ∧ ∀ b ∈ f.value, belongs f.wallet b = true ∧
      (∃ k stored, BillSplit.getBill w k = .ok stored ∧ b = native sdk stored) ∧
      ∀ p, paid s.page b p = true → ∃ k a, k.val = b.id ∧ sdk.fromString p = .ok a ∧ BillSplit.isSettled w k a = true) ∧
    ∀ f, s.page.stableBalance = some f → f.value = stroopsToXlm 0 ∨
      ∃ m ∈ s.watched.past, ∃ a, sdk.fromString f.wallet = .ok a ∧ f.value = stroopsToXlm (Joint.balance m.2 a).val := by
  intro s w
  obtain ⟨_,shows',balance⟩ : Truthful sdk d.tokenAddr s :=
    runPreserves stepTruthful (truthfulInitial (Joint.worldHealthy d inputs)) events
  refine ⟨shows'.count,?_,balance⟩
  intro f shown
  have listed := shows'.bills f shown
  refine ⟨listed.sorted,?_⟩
  intro b member
  exact ⟨listed.own b member,listed.stored b member,fun p => paidFlag shows'⟩

theorem offeredSettles (config : Config) (sdk : Sdk Address) (roundTrips : ∀ a, sdk.fromString (sdk.addressText a) = .ok a)
    (d : Joint.Deployment Address) (inputs : List (Env Address × Joint.Call Address)) (events : List (Event Address)) :
    let s := run (step config sdk d.tokenAddr) (initial (d.world inputs)) events
    let w := s.watched.client.world
    ∀ f, s.page.bills = some f → ∀ b ∈ f.value, ∀ a ∈ b.payers, ∃ k payer,
      arguments sdk (.settleBill a (.integer b.id)) = .ok (.settle k payer) ∧
      (∀ env, (∃ w', Joint.invoke d.tokenAddr env w (.bill (.settle k payer)) = .ok w') ↔
        env.authorised payer = true ∧ env.nestedAuthorised payer = true ∧ BillSplit.isSettled w k payer = false ∧
          b.share ≤ (Joint.balance w payer).val) ∧
      (offersSettle s.page a b = false → BillSplit.isSettled w k payer = true) := by
  intro s w f shown b member a listed
  obtain ⟨kept,shows',_⟩ : Truthful sdk d.tokenAddr s :=
    runPreserves stepTruthful (truthfulInitial (Joint.worldHealthy d inputs)) events
  have healthy : Joint.Healthy d.tokenAddr w := (kept.past _ kept.now).1
  obtain ⟨k,stored,found,rfl⟩ := (shows'.bills f shown).stored b member
  obtain ⟨payer,inside,rfl⟩ := List.mem_map.mp listed
  have number : stored.id = k := by
    obtain ⟨⟨reg,m⟩,_⟩ := healthy.accounted
    exact (BillRegister.billSound m found).1
  have numbered : toU32 sdk (.integer (native sdk stored).id) = .ok k := by
    rw [toU32Exact,← number]
    rfl
  refine ⟨k,payer,?_,?_,?_⟩
  · simp [arguments,numbered,fromString,roundTrips,Except.mapError]
  · intro env
    rw [Payable.settleSucceeds healthy]
    refine and_congr_right fun _ => and_congr_right fun _ => ?_
    constructor
    · rintro ⟨bill,same,_,fresh,enough⟩
      cases Except.ok.inj (found.symm.trans same)
      exact ⟨fresh,enough⟩
    · rintro ⟨fresh,enough⟩
      exact ⟨stored,found,inside,fresh,enough⟩
  · intro hidden
    have pill : paid s.page (native sdk stored) (sdk.addressText payer) = true := by
      simpa [offersSettle,listed] using hidden
    obtain ⟨k',payer',same,converted,settled⟩ := paidFlag shows' pill
    rw [roundTrips] at converted
    cases converted
    rw [← MachineInt.ext (same.trans (congrArg MachineInt.val number))]
    exact settled

def numberSdk : Sdk Nat := ⟨fun text => .ok (JsString.digitsValue text),JsString.decimal,fun _ => [],fun _ => [],[]⟩

def oneShareOwed : List (Event Nat) :=
  .connect (js "1") :: (ReadRace.wholeRead 0 .getBillCount ++ ReadRace.wholeRead 0 (.getBill (.integer 1)) ++
    ReadRace.wholeRead 0 (.isSettled (.integer 1) (js "1"))).map (fun action => .network (.own action)) ++
  [.loaded 0 fun _ => some 0,.loaded 0 fun _ => some 1,.loaded 0 fun _ => some 2]

theorem oneShareSettles :
    let w := Joint.trialDeployment.world [Joint.trialMint,(Joint.trialEnv,.bill (.createBill 2 [1] (.lit 5) []))]
    let s := run (step ReadRace.trialConfig numberSdk 0) (initial w) oneShareOwed
    (s.page.bills.map fun f => f.value.map (offersSettle s.page (js "1"))) = some [true] ∧
      ∃ w', Joint.invoke 0 Joint.trialEnv s.watched.client.world (.bill (.settle (.lit 1) 1)) = .ok w' := by
  intro w s
  have offered : (s.page.bills.map fun f => f.value.map (offersSettle s.page (js "1"))) = some [true] := by decide +kernel
  have listed : ∀ f ∈ s.page.bills, ∀ b ∈ f.value, js "1" ∈ b.payers ∧ b.id = 1 ∧ b.share = 5 := by decide +kernel
  have funded : BillSplit.isSettled s.watched.client.world (.lit 1) 1 = false ∧
      (5 : Int) ≤ (Joint.balance s.watched.client.world 1).val := by decide +kernel
  refine ⟨offered,?_⟩
  obtain ⟨f,shown,flags⟩ := Option.map_eq_some_iff.mp offered
  obtain ⟨b,member,_⟩ := List.mem_map.mp (flags ▸ List.mem_singleton_self true)
  obtain ⟨inside,number,share⟩ := listed f shown b member
  obtain ⟨k,payer,sent,succeeds,_⟩ :=
    offeredSettles ReadRace.trialConfig numberSdk (fun a => congrArg Except.ok (JsString.decimalValue a)) Joint.trialDeployment
      [Joint.trialMint,(Joint.trialEnv,.bill (.createBill 2 [1] (.lit 5) []))] oneShareOwed f shown b member (js "1") inside
  rw [number] at sent
  cases sent
  exact (succeeds Joint.trialEnv).mpr ⟨rfl,rfl,funded.1,share ▸ funded.2⟩

end SplitBill.Shown
