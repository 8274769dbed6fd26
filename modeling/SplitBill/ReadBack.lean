import SplitBill.Client
import SplitBill.CreateFrame
import SplitBill.SettleFrame

/-! What the client reads after a write of its own. A bill comes back as it was asked for, at the end of the
lists it belongs to; a settlement comes back as a flag and a balance moved. The reads go through the cache,
the write through the SDK's conversions, both contracts and the keys it deletes. -/
namespace SplitBill.ReadBack
open Host Helpers Pipeline Transition ReadCache Client
variable {Address : Type}

def byteOrderMark : Char := Char.ofNat 0xFEFF

/- The conversions of the SDK: an address has one text, and a string comes back in UTF-16. Its decoder drops a
byte order mark at the start of a string; nothing is asked of such strings. -/
structure Faithful (sdk : Sdk Address) : Prop where
  addresses : ∀ text a, sdk.fromString text = .ok a ↔ text = sdk.addressText a
  strings : ∀ chars : List Char, chars.head? ≠ some byteOrderMark →
    sdk.stringText (chars.flatMap String.utf8EncodeChar) = JsString.encode chars

section Answers
variable {config : Config} {sdk : Sdk Address} {w : Joint.World Address}

def Answers (config : Config) (sdk : Sdk Address) (s : State Address) (r : Read) (reply : Reply) : Prop :=
  ∀ looked filled, (read config sdk s.world s.cache looked filled r).1 = .ok reply

def Configured (config : Config) (r : Read) : Prop := unconfigured config r = none

theorem configuredView (set : config.contractId ≠ []) (r : Read) (view : ∀ a, r ≠ .getStableBalance a) :
    Configured config r := by
  cases r with
  | getStableBalance a => exact absurd rfl (view a)
  | _ => simp [Configured,unconfigured,ensureContractConfigured,failIf,set]

theorem answersFetched {s : State Address} (coherent : Coherent key (fetch sdk) s.world s.cache) {r : Read}
    (configured : Configured config r) {reply : Reply} (answered : fetch sdk s.world r = .ok reply) :
    Answers config sdk s r reply := by
  intro looked filled
  unfold Configured at configured
  unfold Client.read
  rw [configured]
  exact (cachedExact keyInjective coherent looked filled BILL_TTL_MS r).1.trans answered

theorem addressesOf (faithful : Faithful sdk) {texts : List JsString} {as : List Address}
    (converted : texts.mapM (fromString sdk) = .ok as) : texts = as.map sdk.addressText := by
  induction texts generalizing as with
  | nil =>
    cases converted
    rfl
  | cons text rest ih =>
    simp only [List.mapM_cons,bindOk] at converted
    obtain ⟨a,first,others,later,last⟩ := converted
    cases last
    rw [List.map_cons,← ih later,(faithful.addresses text a).mp (mapErrorOk.mp first)]

theorem addressTextInjective (faithful : Faithful sdk) : Function.Injective sdk.addressText := by
  intro a b same
  have one := (faithful.addresses _ a).mpr rfl
  rw [same,(faithful.addresses _ b).mpr rfl] at one
  cases one
  rfl

theorem getBillFetched {k : U32} {b : BillSplit.Bill Address} (stored : BillSplit.getBill w k = .ok b) :
    fetch sdk w (.getBill (.integer k.val)) = .ok (.bill (native sdk b)) := by
  simp only [fetch,bindOk,toU32Exact,readView,mapErrorOk]
  exact ⟨k,rfl,b,stored,rfl⟩

theorem isSettledFetched {k : U32} {p : JsString} {a : Address} (converted : sdk.fromString p = .ok a) :
    fetch sdk w (.isSettled (.integer k.val) p) = .ok (.flag (BillSplit.isSettled w k a)) := by
  simp only [fetch,bindOk,toU32Exact,fromString,mapErrorOk]
  exact ⟨k,rfl,a,converted,rfl⟩

theorem byPayerFetched {p : JsString} {a : Address} (converted : sdk.fromString p = .ok a) :
    fetch sdk w (.getBillsByPayer p) = .ok (.ids ((BillSplit.billsByPayer w a).map MachineInt.val)) := by
  simp only [fetch,bindOk,fromString,mapErrorOk]
  exact ⟨a,converted,rfl⟩

theorem byCreatorFetched {p : JsString} {a : Address} (converted : sdk.fromString p = .ok a) :
    fetch sdk w (.getBillsByCreator p) = .ok (.ids ((BillSplit.billsByCreator w a).map MachineInt.val)) := by
  simp only [fetch,bindOk,fromString,mapErrorOk]
  exact ⟨a,converted,rfl⟩

theorem balanceFetched {p : JsString} {a : Address} (converted : sdk.fromString p = .ok a) :
    fetch sdk w (.getStableBalance p) = .ok (.balance (Joint.balance w a).val) := by
  simp only [fetch,bindOk,fromString,mapErrorOk]
  exact ⟨a,converted,rfl⟩

end Answers

section Writes
variable [DecidableEq Address] {config : Config} {sdk : Sdk Address} {tokenAddr : Address} {w w' : Joint.World Address}

theorem stepHealthy : Preserves (step config sdk tokenAddr) (fun s : State Address => Joint.Healthy tokenAddr s.world) := by
  intro s op healthy
  cases op with
  | read looked filled r => exact healthy
  | write env delivery write =>
    simp only [step]
    split
    · rename_i hash w' returned
      obtain ⟨call,_,applied⟩ := submitExact returned
      have stepped : Joint.step tokenAddr s.world (env,.bill call) = w' := congrArg (commit _) applied
      exact stepped ▸ Joint.stepHealthy tokenAddr s.world (env,.bill call) healthy
    · exact healthy

theorem requestCreated (faithful : Faithful sdk) {env : Env Address} {request : BillRequest} {call : BillSplit.Call Address}
    (registered : BillRegister.Registered w) (converted : arguments sdk (.createBill request) = .ok call)
    (applied : Joint.invoke tokenAddr env w (.bill call) = .ok w') :
    ∃ bill, call = .createBill bill.creator bill.payers bill.share bill.memo ∧ CreateFrame.Creates w w' bill ∧
      bill.timestamp = env.timestamp ∧ request.sender = sdk.addressText bill.creator ∧
      request.payers = bill.payers.map sdk.addressText ∧ request.shareStroops = bill.share.val ∧
      bill.memo = JsString.utf8 request.memo := by
  obtain ⟨reg,m⟩ := registered
  simp only [arguments,bindOk] at converted
  obtain ⟨creator,sender,payers,listed,share,ranged,last⟩ := converted
  cases last
  cases Joint.invokeEffect applied with
  | @createBill _ _ _ _ id _ created _ =>
    obtain ⟨_,_,next,rfl⟩ := BillSplit.createBillExact.mp created
    exact ⟨_,rfl,CreateFrame.recordedCreates m next,rfl,(faithful.addresses _ _).mp (mapErrorOk.mp sender),
      addressesOf faithful listed,(rangedExact.mp ranged).symm,rfl⟩

theorem settlementGranted {env : Env Address} {sender : JsString} {billId : JsNumber} {call : BillSplit.Call Address}
    (registered : BillRegister.Registered w) (converted : arguments sdk (.settleBill sender billId) = .ok call)
    (applied : Joint.invoke tokenAddr env w (.bill call) = .ok w') :
    ∃ bill payer, billId = .integer bill.id.val ∧ sdk.fromString sender = .ok payer ∧ payer ∈ bill.payers ∧
      BillSplit.getBill w bill.id = .ok bill ∧ BillSplit.isSettled w bill.id payer = false ∧
      SettlementOrder.Leaves w w' [(bill.id,payer)] := by
  obtain ⟨reg,m⟩ := registered
  simp only [arguments,bindOk] at converted
  obtain ⟨id,number,payer,named,last⟩ := converted
  cases last
  have left := SettlementOrder.leavesOne applied
  cases Joint.invokeEffect applied with
  | @settle _ _ bill t _ found listed fresh _ =>
    obtain ⟨rfl,_⟩ := BillRegister.billSound m found
    exact ⟨bill,payer,toU32Exact.mp number,mapErrorOk.mp named,listed,found,fresh,left⟩

end Writes

section Runs
variable [DecidableEq Address] (config : Config) (sdk : Sdk Address) (d : Joint.Deployment Address)

theorem runReads (inputs : List (Env Address × Joint.Call Address)) (ops : List (Op Address)) :
    let s := run (step config sdk d.tokenAddr) ⟨ReadCache.empty,d.world inputs⟩ ops
    Coherent key (fetch sdk) s.world s.cache ∧ Joint.Healthy d.tokenAddr s.world :=
  ⟨runPreserves (stepCoherent config sdk d.tokenAddr) (coherentEmpty (d.world inputs)) ops,
    runPreserves stepHealthy (Joint.worldHealthy d inputs) ops⟩

theorem createdReadsBack (set : config.contractId ≠ []) (faithful : Faithful sdk)
    (inputs : List (Env Address × Joint.Call Address)) (ops : List (Op Address))
    (env : Env Address) (delivery : Except Thrown JsString) (request : BillRequest) :
    let s := run (step config sdk d.tokenAddr) ⟨ReadCache.empty,d.world inputs⟩ ops
    let s' := step config sdk d.tokenAddr s (.write env delivery (.createBill request))
    ∀ done, submit config sdk d.tokenAddr env delivery s.world (.createBill request) = .ok done →
      ∃ (n : Int) (memo : JsString), Answers config sdk s .getBillCount (.count n) ∧
      Answers config sdk s' .getBillCount (.count (n + 1)) ∧
      Answers config sdk s' (.getBill (.integer (n + 1)))
        (.bill ⟨n + 1,request.sender,request.payers,request.shareStroops,memo,env.timestamp.val⟩) ∧
      ((JsString.decode request.memo).head? ≠ some byteOrderMark → memo = JsString.encode (JsString.decode request.memo)) ∧
      ∀ p a, sdk.fromString p = .ok a → Answers config sdk s' (.isSettled (.integer (n + 1)) p) (.flag false) ∧
        ∃ owed made, Answers config sdk s (.getBillsByPayer p) (.ids owed) ∧
          Answers config sdk s (.getBillsByCreator p) (.ids made) ∧
          Answers config sdk s' (.getBillsByPayer p) (.ids (owed ++ List.replicate (request.payers.count p) (n + 1))) ∧
          Answers config sdk s' (.getBillsByCreator p) (.ids (made ++ if p = request.sender then [n + 1] else [])) := by
  intro s s' done returned
  obtain ⟨before,healthy⟩ : Coherent key (fetch sdk) s.world s.cache ∧ Joint.Healthy d.tokenAddr s.world :=
    runReads config sdk d inputs ops
  have after : Coherent key (fetch sdk) s'.world s'.cache := stepCoherent config sdk d.tokenAddr s _ before
  obtain ⟨hash,w'⟩ := done
  obtain ⟨call,converted,applied⟩ := submitExact returned
  have world : s'.world = w' := by
    simp only [s',step,returned]
  obtain ⟨bill,_,creates,timestamp,sender,payers,share,memo⟩ :=
    requestCreated faithful healthy.accounted.1 converted applied
  rw [← world] at creates
  have number : (BillSplit.billCount s.world).val + 1 = bill.id.val := creates.numbered.symm
  have view := configuredView set
  refine ⟨(BillSplit.billCount s.world).val,sdk.stringText bill.memo,answersFetched before (view _ (by simp)) rfl,
    answersFetched after (view _ (by simp)) ?_,answersFetched after (view _ (by simp)) ?_,?_,?_⟩
  · rw [number,← creates.counted]
    rfl
  · rw [number,getBillFetched creates.stored,native,timestamp,← sender,← payers,← share]
  · intro unmarked
    rw [memo]
    exact faithful.strings _ unmarked
  · intro p a named
    have text := (faithful.addresses p a).mp named
    refine ⟨answersFetched after (view _ (by simp)) ?_,_,_,answersFetched before (view _ (by simp)) (byPayerFetched named),
      answersFetched before (view _ (by simp)) (byCreatorFetched named),answersFetched after (view _ (by simp)) ?_,
      answersFetched after (view _ (by simp)) ?_⟩
    · rw [number,isSettledFetched named,creates.unsettled]
    · rw [byPayerFetched named,creates.byPayer,number,text,payers,List.map_append,List.map_replicate,
        List.count_map_of_injective _ _ (addressTextInjective faithful)]
    · rw [byCreatorFetched named,creates.byCreator,number,List.map_append,text,sender]
      simp only [(addressTextInjective faithful).eq_iff]
      split <;> rfl

theorem settledReadsBack (set : config.contractId ≠ []) (token : config.stableTokenId ≠ []) (faithful : Faithful sdk)
    (inputs : List (Env Address × Joint.Call Address)) (ops : List (Op Address))
    (env : Env Address) (delivery : Except Thrown JsString) (sender : JsString) (billId : JsNumber) :
    let s := run (step config sdk d.tokenAddr) ⟨ReadCache.empty,d.world inputs⟩ ops
    let s' := step config sdk d.tokenAddr s (.write env delivery (.settleBill sender billId))
    ∀ done, submit config sdk d.tokenAddr env delivery s.world (.settleBill sender billId) = .ok done → ∃ b : Bill,
      billId = .integer b.id ∧ sender ∈ b.payers ∧
      Answers config sdk s (.getBill billId) (.bill b) ∧ Answers config sdk s' (.getBill billId) (.bill b) ∧
      Answers config sdk s (.isSettled billId sender) (.flag false) ∧
      Answers config sdk s' (.isSettled billId sender) (.flag true) ∧
      ∀ p a, sdk.fromString p = .ok a → ∃ amount, Answers config sdk s (.getStableBalance p) (.balance amount) ∧
        Answers config sdk s' (.getStableBalance p) (.balance
          (amount + ((if p = b.creator then b.share else 0) - if p = sender then b.share else 0))) := by
  intro s s' done returned
  obtain ⟨before,healthy⟩ : Coherent key (fetch sdk) s.world s.cache ∧ Joint.Healthy d.tokenAddr s.world :=
    runReads config sdk d inputs ops
  have after : Coherent key (fetch sdk) s'.world s'.cache := stepCoherent config sdk d.tokenAddr s _ before
  obtain ⟨hash,w'⟩ := done
  obtain ⟨call,converted,applied⟩ := submitExact returned
  obtain ⟨bill,payer,rfl,named,listed,found,fresh,left⟩ := settlementGranted healthy.accounted.1 converted applied
  have world : s'.world = w' := by
    simp only [s',step,returned]
  rw [← world] at left
  obtain ⟨flags,store⟩ := left.store
  have kept : BillSplit.getBill s'.world bill.id = .ok bill := by
    rw [BillSplit.getBill,store]
    exact found
  have view := configuredView set
  refine ⟨native sdk bill,rfl,?_,answersFetched before (view _ (by simp)) (getBillFetched found),
    answersFetched after (view _ (by simp)) (getBillFetched kept),answersFetched before (view _ (by simp)) ?_,
    answersFetched after (view _ (by simp)) ?_,?_⟩
  · rw [(faithful.addresses sender payer).mp named]
    exact List.mem_map_of_mem listed
  · rw [isSettledFetched named,fresh]
  · rw [isSettledFetched named,left.settled,decide_eq_true List.mem_cons_self,Bool.or_true]
  · intro p a text
    have paid : ∀ r, Configured config (.getStableBalance r) := fun r => if_neg token
    refine ⟨_,answersFetched before (paid p) (balanceFetched text),answersFetched after (paid p) ?_⟩
    rw [balanceFetched text,left.balance,SettleFrame.postedOne (BillRegister.getBillExact.mp found),
      (faithful.addresses p a).mp text,(faithful.addresses sender payer).mp named]
    simp only [native,(addressTextInjective faithful).eq_iff,eq_comm (a := a)]

end Runs

def textSdk : Sdk JsString :=
  ⟨.ok,id,fun bytes => bytes.toByteArray.utf8Decode?.elim [] fun chars => JsString.encode chars.toList,fun _ => [],[]⟩

theorem textSdkFaithful : Faithful textSdk where
  addresses := by
    intro text a
    exact Except.ok.injEq text a ▸ Iff.rfl
  strings := by
    intro chars _
    change (chars.utf8Encode.utf8Decode?.elim [] fun chars => JsString.encode chars.toList) = _
    rw [List.utf8Decode?_utf8Encode]
    rfl

def textDeployment : Joint.Deployment JsString := ⟨js "T",js "M",.lit 7,[],[]⟩
def textEnv : Env JsString := ⟨fun _ => true,fun _ => true,.lit 1,.lit 0,16⟩
def textConfig : Config := ⟨js "C",js "T"⟩

def pairRequest : BillRequest := ⟨js "A",[js "B",js "B"],5,js "π"⟩
def pairWrite : Op JsString := .write textEnv (.ok (js "h")) (.createBill pairRequest)

theorem pairReadsBack :
    let s := step textConfig textSdk (js "T") ⟨ReadCache.empty,textDeployment.world []⟩ pairWrite
    Answers textConfig textSdk s (.getBill (.integer 1)) (.bill ⟨1,js "A",[js "B",js "B"],5,js "π",0⟩) ∧
      Answers textConfig textSdk s (.getBillsByPayer (js "B")) (.ids [1,1]) := by
  intro s
  have sent : ∃ done, submit textConfig textSdk (js "T") textEnv (.ok (js "h")) (textDeployment.world [])
      (.createBill pairRequest) = .ok done := ⟨_,rfl⟩
  obtain ⟨done,sent⟩ := sent
  obtain ⟨n,memo,before,_,bill,text,views⟩ := createdReadsBack textConfig textSdk textDeployment (by decide) textSdkFaithful [] []
    textEnv (.ok (js "h")) pairRequest done sent
  obtain ⟨_,owed,_,listed,_,later,_⟩ := views (js "B") (js "B") rfl
  cases before 0 0
  cases listed 0 0
  have whole : (JsString.decode (js "π")).head? ≠ some byteOrderMark ∧
      JsString.encode (JsString.decode (js "π")) = js "π" := by decide +kernel
  have same : memo = js "π" := (text whole.1).trans whole.2
  subst same
  exact ⟨bill,later⟩

def fundedB : List (Env JsString × Joint.Call JsString) := [(textEnv,.token (.mint (js "B") (.lit 100)))]

theorem shareReadsBack :
    let s := step textConfig textSdk (js "T") ⟨ReadCache.empty,textDeployment.world fundedB⟩ pairWrite
    let s' := step textConfig textSdk (js "T") s (.write textEnv (.ok (js "i")) (.settleBill (js "B") (.integer 1)))
    Answers textConfig textSdk s' (.isSettled (.integer 1) (js "B")) (.flag true) ∧
      Answers textConfig textSdk s' (.getStableBalance (js "B")) (.balance 95) ∧
      Answers textConfig textSdk s' (.getStableBalance (js "A")) (.balance 5) := by
  intro s s'
  have sent : ∃ done, submit textConfig textSdk (js "T") textEnv (.ok (js "i")) s.world
      (.settleBill (js "B") (.integer 1)) = .ok done := ⟨_,rfl⟩
  obtain ⟨done,sent⟩ := sent
  obtain ⟨b,_,_,bill,_,_,settled,balances⟩ := settledReadsBack textConfig textSdk textDeployment (by decide) (by decide)
    textSdkFaithful fundedB [pairWrite] textEnv (.ok (js "i")) (js "B") (.integer 1) done sent
  obtain ⟨_,had,left⟩ := balances (js "B") (js "B") rfl
  obtain ⟨_,none,got⟩ := balances (js "A") (js "A") rfl
  cases bill 0 0
  cases had 0 0
  cases none 0 0
  exact ⟨settled,left,got⟩

end SplitBill.ReadBack
