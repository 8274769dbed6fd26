import SplitBill.Client

/-! The bills on the page. A load counts the bills, reads every one of them, keeps those of the wallet
and asks for the flag of each of their payers; the contract's own indexes are not read. An id whose
read fails is left out, and so is a flag. -/
namespace SplitBill.BillList
open Host Helpers Client Transition
variable {Address : Type} [DecidableEq Address]

def countOf : Reply → Int
  | .count n => n
  | _ => 0

def billOf : Reply → Option Client.Bill
  | .bill b => some b
  | _ => none

def flagOf : Reply → Option Bool
  | .flag settled => some settled
  | _ => none

def billIds (count : Int) : List Int := (List.range count.toNat).map fun i : Nat => (i : Int) + 1

def belongs (a : JsString) (b : Client.Bill) : Bool := b.creator = a ∨ a ∈ b.payers

def visible (a : JsString) (answers : List (Except Thrown Reply)) : List Client.Bill :=
  ((answers.filterMap fun answer => answer.toOption.bind billOf).filter (belongs a)).reverse

def settledKey (id : Int) (payer : JsString) : JsString := JsString.decimalInt id ++ js ":" ++ payer

def flagReads (bills : List Client.Bill) : List (Int × JsString) :=
  bills.flatMap fun b => b.payers.map fun p => (b.id,p)

def settledFlags (answer : Int × JsString → Except Thrown Reply) (bills : List Client.Bill) : JsString → Option Bool :=
  (flagReads bills).foldl
    (fun settled entry => match (answer entry).toOption.bind flagOf with
      | some flag => Function.update settled (settledKey entry.1 entry.2) (some flag)
      | none => settled)
    fun _ => none

structure Loaded where
  billCount : Int
  bills : List Client.Bill
  settledMap : JsString → Option Bool

def loadBillsForCurrentUser (contractId : JsString) (read : Read → Except Thrown Reply) (a : JsString) :
    Except Thrown (Option Loaded) :=
  if contractId = [] then .ok none
  else do
    let count := countOf (← read .getBillCount)
    let bills := visible a ((billIds count).map fun id => read (.getBill (.integer id)))
    let settledMap := settledFlags (fun entry => read (.isSettled (.integer entry.1) entry.2)) bills
    return some ⟨count,bills,settledMap⟩

section Scan
variable {config : Config} {sdk : Sdk Address} {w : Joint.World Address} {reg : BillRegister.Bills Address}

omit [DecidableEq Address] in
theorem directConfigured (set : config.contractId ≠ []) :
    direct config sdk w .getBillCount = fetch sdk w .getBillCount ∧
      ∀ id, direct config sdk w (.getBill id) = fetch sdk w (.getBill id) := by
  simp [direct,unconfigured,Pipeline.ensureContractConfigured,failIf,set]

omit [DecidableEq Address] in
theorem fetchBill {k : U32} {b : BillSplit.Bill Address} (stored : w.store.bill k = some b) :
    fetch sdk w (.getBill (.integer k.val)) = .ok (.bill (native sdk b)) := by
  simp only [fetch,bindOk,toU32Exact,readView,mapErrorOk]
  exact ⟨k,rfl,b,BillRegister.getBillExact.mpr stored,rfl⟩

theorem scanReads (m : BillRegister.Mirrors w reg) (set : config.contractId ≠ []) :
    (billIds (BillSplit.billCount w).val).map (fun id => direct config sdk w (.getBill (.integer id))) =
      reg.records.map fun r => .ok (.bill (native sdk r)) := by
  rw [m.counted]
  apply List.ext_getElem
  · simp [billIds]
  · intro i left right
    have inside : i < reg.records.length := by simpa using right
    have number := reg.numbered i _ (List.getElem?_eq_getElem inside)
    have stored := (m.stored _ reg.records[i]).mpr ⟨List.getElem_mem inside,rfl⟩
    simp only [billIds,List.getElem_map,List.getElem_range,← number,(directConfigured set).2]
    exact fetchBill stored

theorem belongsNative (distinct : Function.Injective sdk.addressText) (a : Address) (r : BillSplit.Bill Address) :
    belongs (sdk.addressText a) (native sdk r) = decide (r.creator = a ∨ a ∈ r.payers) := by
  simp [belongs,native,distinct.eq_iff,List.mem_map_of_injective distinct]

theorem visibleRecords (distinct : Function.Injective sdk.addressText) (a : Address) (records : List (BillSplit.Bill Address)) :
    visible (sdk.addressText a) (records.map fun r => .ok (.bill (native sdk r))) =
      ((records.filter fun r => r.creator = a ∨ a ∈ r.payers).map (native sdk)).reverse := by
  have kept : belongs (sdk.addressText a) ∘ native sdk = fun r => decide (r.creator = a ∨ a ∈ r.payers) :=
    funext (belongsNative distinct a)
  have read : (records.map fun r => (.ok (.bill (native sdk r)) : Except Thrown Reply)).filterMap
      (fun answer => answer.toOption.bind billOf) = records.map (native sdk) := by
    simp [List.filterMap_map,Function.comp_def,Except.toOption,billOf]
  rw [visible,read,List.filter_map,kept]

theorem loadsRecords (m : BillRegister.Mirrors w reg) (set : config.contractId ≠ [])
    (distinct : Function.Injective sdk.addressText) (a : Address) : ∃ settledMap,
    loadBillsForCurrentUser config.contractId (direct config sdk w) (sdk.addressText a) =
      .ok (some ⟨(BillSplit.billCount w).val,
        ((reg.records.filter fun r => r.creator = a ∨ a ∈ r.payers).map (native sdk)).reverse,settledMap⟩) := by
  have count : direct config sdk w .getBillCount = .ok (.count (BillSplit.billCount w).val) := (directConfigured set).1
  simp only [loadBillsForCurrentUser,if_neg set,count,okBind,countOf,scanReads m set,visibleRecords distinct]
  exact ⟨_,rfl⟩

end Scan

theorem scanMatchesIndexes (config : Config) (sdk : Sdk Address) (set : config.contractId ≠ [])
    (distinct : Function.Injective sdk.addressText)
    (transfer : BillSplit.Transfer Address (StableToken.State Address)) (token : Address) (t : StableToken.State Address)
    (inputs : List (BillSplit.Input Address (StableToken.State Address))) (a : Address) :
    let w := run (BillSplit.step transfer) (BillSplit.constructed token t) inputs
    ∃ loaded, loadBillsForCurrentUser config.contractId (direct config sdk w) (sdk.addressText a) = .ok (some loaded) ∧
      loaded.bills.Pairwise (fun b c => c.id < b.id) ∧
      ∀ b, b ∈ loaded.bills ↔ ∃ k stored, (k ∈ BillSplit.billsByCreator w a ∨ k ∈ BillSplit.billsByPayer w a) ∧
        BillSplit.getBill w k = .ok stored ∧ b = native sdk stored := by
  intro w
  obtain ⟨reg,m⟩ : BillRegister.Registered w := BillRegister.runRegistered transfer token t inputs
  obtain ⟨settledMap,loads⟩ := loadsRecords m set distinct a
  refine ⟨_,loads,?_,?_⟩
  · rw [List.pairwise_reverse,List.pairwise_map]
    exact (reg.increasing.filter _).imp fun before => before
  · intro b
    simp only [List.mem_reverse,List.mem_map,List.mem_filter,decide_eq_true_eq,m.created,m.owed,Register.onceMembers,
      Register.oftenMembers,List.count_pos_iff]
    constructor
    · intro ⟨r,⟨member,mine⟩,same⟩
      have stored := BillRegister.getBillExact.mpr ((m.stored r.id r).mpr ⟨member,rfl⟩)
      exact ⟨r.id,r,mine.imp (fun h => ⟨r,member,h,rfl⟩) (fun h => ⟨r,member,h,rfl⟩),stored,same.symm⟩
    · intro ⟨k,stored,mine,found,same⟩
      have found := BillRegister.getBillExact.mp found
      have only : ∀ r ∈ reg.records, r.id = k → r = stored := by
        intro r member number
        exact Option.some.inj (((m.stored k r).mpr ⟨member,number⟩).symm.trans found)
      refine ⟨stored,⟨((m.stored k stored).mp found).1,?_⟩,same.symm⟩
      rcases mine with ⟨r,member,made,number⟩ | ⟨r,member,listed,number⟩
      · exact .inl (only r member number ▸ made)
      · exact .inr (only r member number ▸ listed)

def plainConfig : Config := ⟨js "C",[]⟩
def plainSdk : Sdk Nat := ⟨fun text => .error text,JsString.decimal,fun _ => [],fun _ => [],[]⟩

def threeBills : List (BillSplit.Input Nat (StableToken.State Nat)) :=
  [.call Joint.trialEnv (.createBill 2 [1,1] (.lit 5) []),.call Joint.trialEnv (.createBill 3 [4] (.lit 5) []),
   .call Joint.trialEnv (.createBill 1 [1,2] (.lit 5) [])]

theorem twoOfThreeListed :
    let w := run (BillSplit.step (Joint.deployed 0)) (BillSplit.constructed 0 (StableToken.constructed 9 (.lit 7) [] [])) threeBills
    ∃ loaded, loadBillsForCurrentUser plainConfig.contractId (direct plainConfig plainSdk w) (plainSdk.addressText 1) =
        .ok (some loaded) ∧
      loaded.bills.Pairwise (fun b c => c.id < b.id) ∧
      ∃ b, b ∈ loaded.bills ∧ b.id = 3 := by
  intro w
  obtain ⟨loaded,loads,sorted,members⟩ := scanMatchesIndexes plainConfig plainSdk (by decide) JsString.decimalInjective
    (Joint.deployed 0) 0 (StableToken.constructed 9 (.lit 7) [] []) threeBills 1
  exact ⟨loaded,loads,sorted,_,(members _).mpr ⟨.lit 3,_,.inl (by decide +kernel),rfl,rfl⟩,rfl⟩

end SplitBill.BillList
