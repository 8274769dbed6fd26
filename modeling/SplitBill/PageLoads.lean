import SplitBill.BillList

/-! The wallet on the page and the two loads that a change of it starts. A load knows the wallet it was
started for and writes what it has fetched whoever is connected by then; what stands on the page
carries the wallet for which it was fetched. Calls in flight complete in any order. -/
namespace SplitBill.PageLoads
open Helpers Client BillList Transition

structure Fetched (α : Type) where
  wallet : JsString
  value : α

inductive Stage
  | counting
  | scanning (count : Int)
  | flagging (bills : List Client.Bill)
  deriving DecidableEq, Repr

structure Load where
  wallet : JsString
  stage : Stage
  deriving DecidableEq, Repr

structure Page where
  address : Option JsString
  balance : Option (Fetched JsString)
  stableBalance : Option (Fetched JsString)
  balanceLoading : Bool
  balanceError : Option JsString
  billCount : Option Int
  bills : Option (Fetched (List Client.Bill))
  billsLoading : Bool
  settledMap : Option (Fetched (JsString → Option Bool))
  refreshes : List JsString
  loads : List Load

def Page.initial : Page := ⟨none,none,none,false,none,none,none,false,none,[],[]⟩

/- An empty address counts as none. -/
def Page.connected (s : Page) : Option JsString := s.address.filter (· ≠ [])

structure XlmBalance where
  balance : JsString
  funded : Bool

inductive Event
  | connect (a : JsString)
  | disconnect
  | refreshed (k : Nat) (xlm : Except JsString XlmBalance) (stable : Except Thrown Int)
  | loaded (k : Nat) (reads : Read → Except Thrown Reply)

def refreshBalance (s : Page) (a : JsString) : Page :=
  {s with balanceLoading := true,balanceError := none,refreshes := s.refreshes ++ [a]}

def loadBills (config : Config) (s : Page) (a : JsString) : Page :=
  if config.contractId = [] then s else {s with billsLoading := true,loads := s.loads ++ [⟨a,.counting⟩]}

def onConnect (config : Config) (s : Page) (a : JsString) : Page :=
  let unchanged := s.address = some a
  let s := {s with address := some a}
  if unchanged ∨ a = [] then s else loadBills config (refreshBalance s a) a

def onDisconnect (s : Page) : Page :=
  {s with address := none,balance := none,stableBalance := none,balanceError := none}

/- The rest of refreshBalance. A token balance that could not be read counts as zero. -/
def finishRefresh (config : Config) (s : Page) (a : JsString) (xlm : Except JsString XlmBalance) (stable : Except Thrown Int) :
    Page :=
  match xlm with
  | .error message => {s with balanceError := some message,balanceLoading := false}
  | .ok answer =>
      let s :=
        if answer.funded then {s with balance := some ⟨a,answer.balance⟩}
        else {s with
          balance := some ⟨a,js "0"⟩
          balanceError := some (js "Account not funded on testnet. Use friendbot to fund it.")}
      let s :=
        if config.stableTokenId = [] then s
        else {s with stableBalance := some ⟨a,stroopsToXlm (stable.toOption.getD 0)⟩}
      {s with balanceLoading := false}

def advance (s : Page) (load : Load) (reads : Read → Except Thrown Reply) : Page :=
  match load.stage with
  | .counting =>
      match reads .getBillCount with
      | .error _ => {s with billsLoading := false}
      | .ok reply => {s with billCount := some (countOf reply),loads := s.loads ++ [⟨load.wallet,.scanning (countOf reply)⟩]}
  | .scanning count =>
      let out := visible load.wallet ((billIds count).map fun id => reads (.getBill (.integer id)))
      {s with bills := some ⟨load.wallet,out⟩,loads := s.loads ++ [⟨load.wallet,.flagging out⟩]}
  | .flagging bills =>
      let settled := settledFlags (fun entry => reads (.isSettled (.integer entry.1) entry.2)) bills
      {s with settledMap := some ⟨load.wallet,settled⟩,billsLoading := false}

def step (config : Config) (s : Page) : Event → Page
  | .connect a => onConnect config s a
  | .disconnect => onDisconnect s
  | .refreshed k xlm stable =>
      match s.refreshes[k]? with
      | none => s
      | some a => finishRefresh config {s with refreshes := s.refreshes.eraseIdx k} a xlm stable
  | .loaded k reads =>
      match s.loads[k]? with
      | none => s
      | some load => advance {s with loads := s.loads.eraseIdx k} load reads

theorem loadInThree {config : Config} {s : Page} {others : List Load} {a : JsString} {reads : Read → Except Thrown Reply}
    {l : Loaded} (waits : s.loads = ⟨a,.counting⟩ :: others) (set : config.contractId ≠ [])
    (loads : loadBillsForCurrentUser config.contractId reads a = .ok (some l)) :
    run (step config) s [.loaded 0 reads,.loaded others.length reads,.loaded others.length reads] = {s with
      billCount := some l.billCount
      bills := some ⟨a,l.bills⟩
      settledMap := some ⟨a,l.settledMap⟩
      billsLoading := false
      loads := others} := by
  simp only [loadBillsForCurrentUser,if_neg set,bindOk] at loads
  obtain ⟨reply,counted,same⟩ := loads
  cases same
  have last : ∀ load : Load, (others ++ [load]).eraseIdx others.length = others := by
    intro load
    rw [List.eraseIdx_append_of_length_le le_rfl,Nat.sub_self]
    exact List.append_nil others
  simp [step,waits,advance,counted,last]

def Own {α : Type} (a : JsString) (shown : Option (Fetched α)) : Prop := ∀ f ∈ shown, f.wallet = a

def Load.scans (l : Load) : Prop := ∀ bills, l.stage ≠ .flagging bills

def BillsAwaited (loads : List Load) (a : JsString) : Prop := ∃ l ∈ loads, l.wallet = a ∧ l.scans
def FlagsAwaited (loads : List Load) (a : JsString) : Prop := ∃ l ∈ loads, l.wallet = a

/- A step after which nothing foreign can stay. A call for another wallet than the connected one writes only
while one for the connected wallet that has still to write the same is in flight; one for the connected
wallet fails only where what it would have replaced is that wallet's own, or another such call is in flight. -/
def Careful (s : Page) : Event → Prop
  | .refreshed k xlm _ =>
      match s.refreshes[k]?,s.connected,xlm with
      | some a,some b,.ok _ => a = b ∨ b ∈ s.refreshes.eraseIdx k
      | some a,some b,.error _ => a = b → Own b s.balance ∧ Own b s.stableBalance ∨ b ∈ s.refreshes.eraseIdx k
      | _,_,_ => True
  | .loaded k reads =>
      match s.loads[k]?,s.connected with
      | some load,some b =>
          let others := s.loads.eraseIdx k
          match load.stage,reads .getBillCount with
          | .counting,.ok _ => True
          | .counting,.error _ => load.wallet = b →
              (Own b s.bills ∨ BillsAwaited others b) ∧ (Own b s.settledMap ∨ FlagsAwaited others b)
          | .scanning _,_ => load.wallet = b ∨ BillsAwaited others b
          | .flagging _,_ => load.wallet = b ∨ FlagsAwaited others b
      | _,_ => True
  | _ => True

theorem otherRemains {α : Type} {l : List α} {k : Nat} {a b : α} (taken : l[k]? = some a) (member : b ∈ l) :
    b = a ∨ b ∈ l.eraseIdx k := by
  obtain ⟨i,found⟩ := List.mem_iff_getElem?.mp member
  by_cases same : i = k
  · subst same
    exact .inl (Option.some.inj (found.symm.trans taken))
  · exact .inr (List.mem_eraseIdx_iff_getElem?.mpr ⟨i,same,found⟩)

structure Due (config : Config) (s : Page) : Prop where
  balance : ∀ b, s.connected = some b → Own b s.balance ∨ b ∈ s.refreshes
  stableBalance : ∀ b, s.connected = some b → Own b s.stableBalance ∨ b ∈ s.refreshes
  bills : ∀ b, s.connected = some b → Own b s.bills ∨ BillsAwaited s.loads b
  settledMap : ∀ b, s.connected = some b → Own b s.settledMap ∨ FlagsAwaited s.loads b
  untouched : config.stableTokenId = [] → s.stableBalance = none
  unloaded : config.contractId = [] → s.loads = [] ∧ s.bills = none ∧ s.settledMap = none

theorem ownNone {α : Type} (a : JsString) : Own a (none : Option (Fetched α)) := by
  intro f absurd
  contradiction

theorem ownSome {α : Type} {a b : JsString} {value : α} (same : a = b) : Own b (some ⟨a,value⟩) := by
  intro f shown
  cases shown
  exact same

section Steps
variable {config : Config} {s : Page} {b : JsString}

theorem billsMore {loads more : List Load} (awaited : BillsAwaited loads b) : BillsAwaited (loads ++ more) b := by
  obtain ⟨l,member,rest⟩ := awaited
  exact ⟨l,List.mem_append_left more member,rest⟩

theorem flagsMore {loads more : List Load} (awaited : FlagsAwaited loads b) : FlagsAwaited (loads ++ more) b := by
  obtain ⟨l,member,wallet⟩ := awaited
  exact ⟨l,List.mem_append_left more member,wallet⟩

theorem billsNext {loads : List Load} {l : Load} (wallet : l.wallet = b) (scans : l.scans) : BillsAwaited (loads ++ [l]) b :=
  ⟨l,List.mem_append_right loads List.mem_cons_self,wallet,scans⟩

theorem flagsNext {loads : List Load} {l : Load} (wallet : l.wallet = b) : FlagsAwaited (loads ++ [l]) b :=
  ⟨l,List.mem_append_right loads List.mem_cons_self,wallet⟩

theorem dueInitial : Due config Page.initial where
  balance := by simp [Page.initial,Page.connected]
  stableBalance := by simp [Page.initial,Page.connected]
  bills := by simp [Page.initial,Page.connected]
  settledMap := by simp [Page.initial,Page.connected]
  untouched := fun _ => rfl
  unloaded := fun _ => ⟨rfl,rfl,rfl⟩

theorem dueConnect (due : Due config s) (a : JsString) : Due config (onConnect config s a) := by
  simp only [onConnect]
  split
  · rename_i kept
    have before : ∀ b, ({s with address := some a} : Page).connected = some b → s.connected = some b := by
      intro b now
      rcases kept with unchanged | empty
      · rw [Page.connected,unchanged]
        exact now
      · simp [Page.connected,empty] at now
    exact {due with
      balance := fun b now => due.balance b (before b now)
      stableBalance := fun b now => due.stableBalance b (before b now)
      bills := fun b now => due.bills b (before b now)
      settledMap := fun b now => due.settledMap b (before b now)}
  · have only : ∀ b, Option.filter (fun x : JsString => decide (x ≠ [])) (some a) = some b → a = b := by
      intro b now
      exact Option.some.inj (Option.filter_eq_some_iff.mp now).1
    have asked : ∀ b, Option.filter (fun x : JsString => decide (x ≠ [])) (some a) = some b → b ∈ s.refreshes ++ [a] :=
      fun b now => List.mem_append_right _ (List.mem_singleton.mpr (only b now).symm)
    by_cases unset : config.contractId = []
    · obtain ⟨idle,none,empty⟩ := due.unloaded unset
      rw [loadBills,if_pos unset]
      exact {due with
        balance := fun b now => .inr (asked b now)
        stableBalance := fun b now => .inr (asked b now)
        bills := fun b _ => .inl (none ▸ ownNone b)
        settledMap := fun b _ => .inl (empty ▸ ownNone b)}
    · rw [loadBills,if_neg unset]
      exact {due with
        balance := fun b now => .inr (asked b now)
        stableBalance := fun b now => .inr (asked b now)
        bills := fun b now => .inr (billsNext (only b now) nofun)
        settledMap := fun b now => .inr (flagsNext (only b now))
        unloaded := fun empty => absurd empty unset}

theorem dueDisconnect (due : Due config s) : Due config (onDisconnect s) where
  balance := by simp [onDisconnect,Page.connected]
  stableBalance := by simp [onDisconnect,Page.connected]
  bills := by simp [onDisconnect,Page.connected]
  settledMap := by simp [onDisconnect,Page.connected]
  untouched := fun _ => rfl
  unloaded := due.unloaded

theorem finishRefreshOk {a : JsString} {answer : XlmBalance} {stable : Except Thrown Int} :
    finishRefresh config s a (.ok answer) stable = {s with
      balance := some ⟨a,if answer.funded then answer.balance else js "0"⟩
      stableBalance :=
        if config.stableTokenId = [] then s.stableBalance else some ⟨a,stroopsToXlm (stable.toOption.getD 0)⟩
      balanceError :=
        if answer.funded then s.balanceError
        else some (js "Account not funded on testnet. Use friendbot to fund it.")
      balanceLoading := false} := by
  simp only [finishRefresh]
  cases answer.funded <;> by_cases unset : config.stableTokenId = [] <;> simp [unset]

theorem dueRefreshed (due : Due config s) {k : Nat} {xlm : Except JsString XlmBalance} {stable : Except Thrown Int}
    (careful : Careful s (.refreshed k xlm stable)) : Due config (step config s (.refreshed k xlm stable)) := by
  simp only [step]
  cases taken : s.refreshes[k]? with
  | none => exact due
  | some a =>
    simp only [Careful,taken] at careful
    cases xlm with
    | error message =>
      have both : ∀ b, s.connected = some b → Own b s.balance ∧ Own b s.stableBalance ∨ b ∈ s.refreshes.eraseIdx k := by
        intro b now
        simp only [now] at careful
        by_cases same : a = b
        · exact careful same
        · have kept : b ∈ s.refreshes → b ∈ s.refreshes.eraseIdx k :=
            fun waits => (otherRemains taken waits).resolve_left (Ne.symm same)
          rcases due.balance b now with xlm | waits
          · exact (due.stableBalance b now).imp (fun stable => ⟨xlm,stable⟩) kept
          · exact .inr (kept waits)
      exact {due with
        balance := fun b now => (both b now).imp_left And.left
        stableBalance := fun b now => (both b now).imp_left And.right}
    | ok answer =>
      have wrote : ∀ b, s.connected = some b → a = b ∨ b ∈ s.refreshes.eraseIdx k := by
        intro b now
        simpa only [now] using careful
      simp only [finishRefreshOk]
      refine {due with
        balance := fun b now => (wrote b now).imp_left ownSome
        stableBalance := fun b now => (wrote b now).imp_left fun same => ?_
        untouched := fun unset => (if_pos unset).trans (due.untouched unset)}
      by_cases unset : config.stableTokenId = []
      · rw [if_pos unset,due.untouched unset]
        exact ownNone b
      · rw [if_neg unset]
        exact ownSome same

theorem dueLoaded (due : Due config s) {k : Nat} {reads : Read → Except Thrown Reply}
    (careful : Careful s (.loaded k reads)) : Due config (step config s (.loaded k reads)) := by
  simp only [step]
  cases taken : s.loads[k]? with
  | none => exact due
  | some load =>
    have set : config.contractId ≠ [] := by
      intro unset
      rw [(due.unloaded unset).1] at taken
      contradiction
    have billsElse : ∀ b, load.wallet ≠ b ∨ ¬ load.scans → BillsAwaited s.loads b →
        BillsAwaited (s.loads.eraseIdx k) b := by
      intro b other ⟨l,member,wallet,scans⟩
      have different : l ≠ load := by
        rintro rfl
        exact other.elim (· wallet) (· scans)
      exact ⟨l,(otherRemains taken member).resolve_left different,wallet,scans⟩
    have flagsElse : ∀ b, load.wallet ≠ b → FlagsAwaited s.loads b → FlagsAwaited (s.loads.eraseIdx k) b := by
      intro b other ⟨l,member,wallet⟩
      have different : l ≠ load := fun same => other (same ▸ wallet)
      exact ⟨l,(otherRemains taken member).resolve_left different,wallet⟩
    obtain ⟨wallet,stage⟩ := load
    simp only [Careful,taken] at careful
    cases stage with
    | counting =>
      cases counted : reads .getBillCount with
      | error e =>
        have both : ∀ b, s.connected = some b →
            (Own b s.bills ∨ BillsAwaited (s.loads.eraseIdx k) b) ∧ (Own b s.settledMap ∨ FlagsAwaited (s.loads.eraseIdx k) b) := by
          intro b now
          by_cases same : wallet = b
          · simp only [now,counted] at careful
            exact careful same
          · exact ⟨(due.bills b now).imp_right (billsElse b (.inl same)),(due.settledMap b now).imp_right (flagsElse b same)⟩
        simp only [advance,counted]
        exact {due with
          bills := fun b now => (both b now).1
          settledMap := fun b now => (both b now).2
          unloaded := fun unset => absurd unset set}
      | ok reply =>
        simp only [advance,counted]
        exact {due with
          bills := fun b now => (due.bills b now).imp_right fun waits =>
            if same : wallet = b then billsNext same nofun else billsMore (billsElse b (.inl same) waits)
          settledMap := fun b now => (due.settledMap b now).imp_right fun waits =>
            if same : wallet = b then flagsNext same else flagsMore (flagsElse b same waits)
          unloaded := fun unset => absurd unset set}
    | scanning count =>
      have wrote : ∀ b, s.connected = some b → wallet = b ∨ BillsAwaited (s.loads.eraseIdx k) b := by
        intro b now
        simpa only [now] using careful
      simp only [advance]
      exact {due with
        bills := fun b now => (wrote b now).imp ownSome billsMore
        settledMap := fun b now => (due.settledMap b now).imp_right fun waits =>
          if same : wallet = b then flagsNext same else flagsMore (flagsElse b same waits)
        unloaded := fun unset => absurd unset set}
    | flagging bills =>
      have wrote : ∀ b, s.connected = some b → wallet = b ∨ FlagsAwaited (s.loads.eraseIdx k) b := by
        intro b now
        simpa only [now] using careful
      have scanned : ¬ Load.scans ⟨wallet,.flagging bills⟩ := fun scans => scans bills rfl
      simp only [advance]
      exact {due with
        bills := fun b now => (due.bills b now).imp_right (billsElse b (.inr scanned))
        settledMap := fun b now => (wrote b now).imp_left ownSome
        unloaded := fun unset => absurd unset set}

theorem stepDue (s : Page) (e : Event) (careful : Careful s e) (due : Due config s) : Due config (step config s e) := by
  cases e with
  | connect a => exact dueConnect due a
  | disconnect => exact dueDisconnect due
  | refreshed k xlm stable => exact dueRefreshed due careful
  | loaded k reads => exact dueLoaded due careful

end Steps

def Quiet (s : Page) (a : JsString) : Prop := s.connected = some a ∧ s.refreshes = [] ∧ s.loads = []

def ShowsOnly (a : JsString) (s : Page) : Prop :=
  Own a s.balance ∧ Own a s.stableBalance ∧ Own a s.bills ∧ Own a s.settledMap

theorem dueQuiet {config : Config} {s : Page} {a : JsString} (due : Due config s) (quiet : Quiet s a) : ShowsOnly a s := by
  obtain ⟨now,refreshed,loaded⟩ := quiet
  have noRefresh : a ∉ s.refreshes := by
    rw [refreshed]
    exact List.not_mem_nil
  have noFlags : ¬ FlagsAwaited s.loads a := by
    rw [loaded]
    rintro ⟨l,member,_⟩
    contradiction
  have noBills : ¬ BillsAwaited s.loads a := fun ⟨l,member,wallet,_⟩ => noFlags ⟨l,member,wallet⟩
  exact ⟨(due.balance a now).resolve_right noRefresh,(due.stableBalance a now).resolve_right noRefresh,
    (due.bills a now).resolve_right noBills,(due.settledMap a now).resolve_right noFlags⟩

structure Foreign (s : Page) (b : JsString) : Prop where
  connected : s.connected = some b
  stays : (¬ Own b s.balance ∨ ¬ Own b s.stableBalance) ∧ b ∉ s.refreshes ∨
    ¬ Own b s.bills ∧ ¬ BillsAwaited s.loads b ∨ ¬ Own b s.settledMap ∧ ¬ FlagsAwaited s.loads b

theorem ownOther {α : Type} {a b : JsString} {value : α} (other : a ≠ b) : ¬ Own b (some ⟨a,value⟩) :=
  fun own => other (own _ rfl)

section Careless
variable {config : Config} {s : Page} {b : JsString}

theorem billsSnoc {loads : List Load} {l : Load} {bills : List Client.Bill} (flags : l.stage = .flagging bills)
    (awaited : BillsAwaited (loads ++ [l]) b) : BillsAwaited loads b := by
  obtain ⟨m,member,own,scans⟩ := awaited
  rcases List.mem_append.mp member with other | next
  · exact ⟨m,other,own,scans⟩
  · rw [List.mem_singleton.mp next] at scans
    exact absurd flags (scans bills)

theorem flagsSnoc {loads : List Load} {l : Load} (awaited : FlagsAwaited (loads ++ [l]) b) :
    l.wallet = b ∨ FlagsAwaited loads b := by
  obtain ⟨m,member,own⟩ := awaited
  rcases List.mem_append.mp member with other | next
  · exact .inr ⟨m,other,own⟩
  · exact .inl (List.mem_singleton.mp next ▸ own)

theorem carelessForeign {e : Event} (careless : ¬ Careful s e) : ∃ b, Foreign (step config s e) b := by
  cases e with
  | connect a | disconnect => exact absurd trivial careless
  | refreshed k xlm stable =>
    simp only [Careful,step] at careless ⊢
    cases taken : s.refreshes[k]? with
    | none => simp [taken] at careless
    | some a =>
      cases now : s.connected with
      | none => simp [taken,now] at careless
      | some b =>
        cases xlm with
        | error message =>
          simp only [taken,now,not_forall,not_or] at careless
          obtain ⟨_,shown,gone⟩ := careless
          exact ⟨b,now,.inl ⟨not_and_or.mp shown,gone⟩⟩
        | ok answer =>
          simp only [taken,now,not_or] at careless
          simp only [finishRefreshOk]
          exact ⟨b,now,.inl ⟨.inl (ownOther careless.1),careless.2⟩⟩
  | loaded k reads =>
    simp only [Careful,step] at careless ⊢
    cases taken : s.loads[k]? with
    | none => simp [taken] at careless
    | some load =>
      cases now : s.connected with
      | none => simp [taken,now] at careless
      | some b =>
        obtain ⟨wallet,stage⟩ := load
        simp only [taken,now] at careless
        cases stage with
        | counting =>
          cases counted : reads .getBillCount with
          | ok reply => simp [counted] at careless
          | error e =>
            simp only [counted,not_forall,not_and_or,not_or] at careless
            obtain ⟨_,stays⟩ := careless
            simp only [advance,counted]
            exact ⟨b,now,.inr stays⟩
        | scanning count =>
          simp only [not_or] at careless
          simp only [advance]
          exact ⟨b,now,.inr (.inl ⟨ownOther careless.1,fun awaited => careless.2 (billsSnoc rfl awaited)⟩)⟩
        | flagging bills =>
          simp only [not_or] at careless
          simp only [advance]
          exact ⟨b,now,.inr (.inr ⟨ownOther careless.1,careless.2⟩)⟩

def unavailable : Read → Except Thrown Reply := fun _ => .error (.other [])

def Stage.left : Stage → Nat
  | .counting => 1
  | .scanning _ => 2
  | .flagging _ => 1

def outstanding (s : Page) : Nat := s.refreshes.length + (s.loads.map fun l => l.stage.left).sum

theorem refreshEnds (config : Config) (foreign : Foreign s b) {a : JsString} {rest : List JsString} (waits : s.refreshes = a :: rest) :
    Foreign (step config s (.refreshed 0 (.error []) (.ok 0))) b ∧
      outstanding (step config s (.refreshed 0 (.error []) (.ok 0))) < outstanding s := by
  have after : step config s (.refreshed 0 (.error []) (.ok 0)) =
      {s with refreshes := rest,balanceError := some [],balanceLoading := false} := by
    simp [step,waits,finishRefresh]
  rw [after]
  constructor
  · have gone : b ∉ s.refreshes → b ∉ rest := by
      rw [waits]
      exact mt (List.mem_cons_of_mem a)
    exact ⟨foreign.connected,foreign.stays.imp_left (And.imp_right gone)⟩
  · simp [outstanding,waits]

theorem loadEnds (config : Config) (foreign : Foreign s b) {l : Load} {rest : List Load} (waits : s.loads = l :: rest) :
    Foreign (step config s (.loaded 0 unavailable)) b ∧ outstanding (step config s (.loaded 0 unavailable)) < outstanding s := by
  have noFlags : ¬ FlagsAwaited s.loads b → l.wallet ≠ b ∧ ¬ FlagsAwaited rest b := by
    rw [waits]
    exact fun none => ⟨fun own => none ⟨l,List.mem_cons_self,own⟩,
      fun ⟨m,member,own⟩ => none ⟨m,List.mem_cons_of_mem l member,own⟩⟩
  have noBills : ¬ BillsAwaited s.loads b → (l.scans → l.wallet ≠ b) ∧ ¬ BillsAwaited rest b := by
    rw [waits]
    exact fun none => ⟨fun scans own => none ⟨l,List.mem_cons_self,own,scans⟩,
      fun ⟨m,member,own⟩ => none ⟨m,List.mem_cons_of_mem l member,own⟩⟩
  obtain ⟨wallet,stage⟩ := l
  obtain ⟨now,stays⟩ := foreign
  cases stage with
  | counting =>
    have after : step config s (.loaded 0 unavailable) = {s with loads := rest,billsLoading := false} := by
      simp [step,waits,advance,unavailable]
    rw [after]
    refine ⟨⟨now,?_⟩,by simp [outstanding,waits,Stage.left]⟩
    exact stays.imp_right (Or.imp (fun h => ⟨h.1,(noBills h.2).2⟩) fun h => ⟨h.1,(noFlags h.2).2⟩)
  | scanning count =>
    simp only [step,waits,advance,List.getElem?_cons_zero,List.eraseIdx_zero,List.tail_cons]
    refine ⟨⟨now,stays.imp_right (Or.imp (fun h => ?_) fun h => ?_)⟩,?_⟩
    · exact ⟨ownOther ((noBills h.2).1 nofun),fun awaited => (noBills h.2).2 (billsSnoc rfl awaited)⟩
    · exact ⟨h.1,fun awaited => (flagsSnoc awaited).elim (noFlags h.2).1 (noFlags h.2).2⟩
    · simp [outstanding,waits,Stage.left]
      omega
  | flagging bills =>
    simp only [step,waits,advance,List.getElem?_cons_zero,List.eraseIdx_zero,List.tail_cons]
    refine ⟨⟨now,?_⟩,by simp [outstanding,waits,Stage.left]⟩
    exact stays.imp_right (Or.imp (fun h => ⟨h.1,(noBills h.2).2⟩) fun h =>
      ⟨ownOther (noFlags h.2).1,(noFlags h.2).2⟩)

theorem foreignQuiet (config : Config) (foreign : Foreign s b) : ∃ rest, let t := run (step config) s rest
    Quiet t b ∧ ¬ ShowsOnly b t := by
  induction size : outstanding s using Nat.strong_induction_on generalizing s with
  | _ n ih =>
    subst size
    cases asked : s.refreshes with
    | cons a others =>
      obtain ⟨next,less⟩ := refreshEnds config foreign asked
      obtain ⟨rest,ends⟩ := ih _ less next rfl
      exact ⟨_ :: rest,ends⟩
    | nil =>
      cases loading : s.loads with
      | cons l others =>
        obtain ⟨next,less⟩ := loadEnds config foreign loading
        obtain ⟨rest,ends⟩ := ih _ less next rfl
        exact ⟨_ :: rest,ends⟩
      | nil =>
        refine ⟨[],⟨foreign.connected,asked,loading⟩,?_⟩
        intro ⟨balance,stableBalance,bills,settledMap⟩
        rcases foreign.stays with ⟨no | no,_⟩ | ⟨no,_⟩ | ⟨no,_⟩
        · exact no balance
        · exact no stableBalance
        · exact no bills
        · exact no settledMap

end Careless

theorem pageShowsConnected (config : Config) (events : List Event) :
    let s := run (step config) Page.initial events
    (Along (step config) Careful Page.initial events → ∀ a, Quiet s a → ShowsOnly a s) ∧
    ∀ e, ¬ Careful s e → ∃ rest a, let t := run (step config) s (e :: rest)
      Quiet t a ∧ ¬ ShowsOnly a t := by
  intro s
  constructor
  · intro careful a quiet
    exact dueQuiet (alongPreserves stepDue dueInitial careful) quiet
  · intro e careless
    obtain ⟨b,foreign⟩ := carelessForeign careless
    obtain ⟨rest,ends⟩ := foreignQuiet config foreign
    exact ⟨rest,b,ends⟩

def trialConfig : Config := ⟨js "C",js "T"⟩
def trialBalance : Except JsString XlmBalance := .ok ⟨js "7",true⟩

def trialReads : Read → Except Thrown Reply
  | .getBillCount => .ok (.count 1)
  | .getBill _ => .ok (.bill ⟨1,js "A",[js "D"],5,[],0⟩)
  | .isSettled _ _ => .ok (.flag false)
  | _ => .error (.other [])

def slowFirstWallet : List Event :=
  [.connect (js "A"),.disconnect,.connect (js "B"),.refreshed 1 trialBalance (.ok 0),.loaded 1 trialReads,
   .loaded 1 trialReads,.loaded 1 trialReads,.refreshed 0 trialBalance (.ok 0),.loaded 0 trialReads,.loaded 0 trialReads,
   .loaded 0 trialReads]

theorem slowFirstWalletShown :
    let s := run (step trialConfig) Page.initial slowFirstWallet
    Quiet s (js "B") ∧ s.balance.map Fetched.wallet = some (js "A") ∧ s.stableBalance.map Fetched.wallet = some (js "A") ∧
      s.bills.map Fetched.wallet = some (js "A") ∧ s.bills.map (fun f => f.value.length) = some 1 ∧
      s.settledMap.map Fetched.wallet = some (js "A") := by
  refine ⟨⟨?_,?_,?_⟩,?_,?_,?_,?_,?_⟩ <;> decide +kernel

def promptFirstWallet : List Event :=
  [.connect (js "A"),.refreshed 0 trialBalance (.ok 0),.loaded 0 trialReads,.loaded 0 trialReads,.loaded 0 trialReads,
   .disconnect,.connect (js "B"),.refreshed 0 trialBalance (.ok 0),.loaded 0 trialReads,.loaded 0 trialReads,
   .loaded 0 trialReads]

theorem promptFirstWalletReplaced :
    ShowsOnly (js "B") (run (step trialConfig) Page.initial promptFirstWallet) := by
  have careful : Along (step trialConfig) Careful Page.initial promptFirstWallet :=
    ⟨trivial,.inl rfl,trivial,.inl rfl,.inl rfl,trivial,trivial,.inl rfl,trivial,.inl rfl,.inl rfl,trivial⟩
  exact (pageShowsConnected trialConfig promptFirstWallet).1 careful (js "B")
    ⟨by decide +kernel,by decide +kernel,by decide +kernel⟩

end SplitBill.PageLoads
