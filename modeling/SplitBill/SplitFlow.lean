import SplitBill.Pipeline
import SplitBill.Transition

/-! The split form of the page: what it derives from its fields, and what one press of the
button does. The payment comes first and the bill after it, under one catch clause that
keeps the form; no step undoes the payment when a later one throws. -/
namespace SplitBill.SplitFlow
open Helpers Pipeline SplitBill.Flow Transition

inductive Status
  | idle
  | progress (phase : TxStatus) (label : JsString)
  | success (hash message : JsString)
  | error (message : JsString)
  deriving DecidableEq, Repr

def Status.isError : Status → Bool
  | .error _ => true
  | _ => false

def Status.isSuccess : Status → Bool
  | .success _ _ => true
  | _ => false

def PHASE_LABELS : TxStatus → JsString
  | .preparing => js "Preparing transaction…"
  | .signing => js "Awaiting signature in wallet…"
  | .submitting => js "Submitting to the network…"
  | .confirming => js "Waiting for confirmation…"

structure Form where
  totalXlm : JsString
  memo : JsString
  payers : List JsString
  recordOnChain : Bool
  deriving DecidableEq, Repr

structure Page where
  address : Option JsString
  form : Form
  splitStatus : Status
  deriving DecidableEq, Repr

def shortAddr (addr : JsString) : JsString :=
  if addr = [] then [] else addr.take 4 ++ js "…" ++ JsString.sliceLast addr 4

def cleanPayers (form : Form) : List JsString := (form.payers.map JsString.trim).filter (· ≠ [])

structure Summary where
  totalStroops : Int
  shares : List Int
  payers : List JsString
  deriving DecidableEq, Repr

def summary (form : Form) : Option Summary :=
  if form.totalXlm = [] ∨ (cleanPayers form).length = 0 then none
  else do
    let totalStroops ← (xlmToStroops form.totalXlm).toOption
    let shares ← (computeShares totalStroops (cleanPayers form).length).toOption
    return ⟨totalStroops,shares,cleanPayers form⟩

def unlikelyAddress (p : JsString) : JsString :=
  js "Address \"" ++ shortAddr p ++ js "\" doesn't look like a Stellar G… key."

def validationError (form : Form) : Option JsString :=
  if JsString.trim form.totalXlm = [] then none
  else match xlmToStroops form.totalXlm with
    | .error e => some e.message
    | .ok _ =>
        if (cleanPayers form).length = 0 then some (js "Add at least one payer address.")
        else ((cleanPayers form).find? fun p => !isLikelyStellarAddress p).map unlikelyAddress

-- The shares come one for each payer, in the order of the payers.
def payments (summary : Summary) : List Payment :=
  (summary.payers.zip summary.shares).map fun entry => ⟨entry.1,entry.2⟩

def billRequest (address memo : JsString) (summary : Summary) : BillRequest :=
  ⟨address,summary.payers,summary.totalStroops.tdiv summary.payers.length,memo⟩

structure SplitScript where
  xlm : XlmScript
  bill : BillScript

def split (contractId : JsString) (script : SplitScript) (address : JsString) (form : Form) (summary : Summary) :
    Step (JsString × JsString) := do
  let xlmHash ← sendXlmSplit script.xlm address (payments summary) form.memo
  if form.recordOnChain = true ∧ contractId ≠ [] then do
    let result ← createBill contractId script.bill (billRequest address form.memo summary)
    return (xlmHash,js "Split sent and recorded as bill #" ++ billIdText result.2 ++ js ".")
  else return (xlmHash,js "Split sent.")

def Form.reset (form : Form) : Form := {form with totalXlm := [],memo := [],payers := [[],[]]}

def errorText : Thrown → JsString
  | .contract error => error.message
  | .other message => orElse message "Unknown error"

def concluded (page : Page) : Ended Thrown (JsString × JsString) × Trace → Page
  | (.returned (hash,message),_) => {page with splitStatus := .success hash message,form := page.form.reset}
  | (.threw e,_) => {page with splitStatus := .error (errorText e)}
  | (.waiting,trace) =>
      let phase := trace.phases.getLastD .preparing
      {page with splitStatus := .progress phase (PHASE_LABELS phase)}

def admitted (page : Page) : Option (JsString × Summary) :=
  match page.address,summary page.form with
  | some address,some summary =>
      if address = [] ∨ (validationError page.form).getD [] ≠ [] then none else some (address,summary)
  | _,_ => none

def handleSplit (contractId : JsString) (script : SplitScript) (page : Page) : Page × List XlmTransaction :=
  match admitted page with
  | none => (page,[])
  | some (address,summary) =>
      let ending := split contractId script address page.form summary ⟨[],[]⟩
      (concluded page ending,ending.2.applied)

def BreaksAfterPaying (contractId : JsString) (script : SplitScript) (address : JsString) (form : Form)
    (summary : Summary) : Prop :=
  script.xlm.Reaches address (payments summary) form.memo ∧
    ((∃ detail, script.xlm.submission = .lost detail) ∨
      (∃ hash, script.xlm.submission = .accepted hash) ∧ form.recordOnChain = true ∧ contractId ≠ [] ∧
        script.bill.Fails (billRequest address form.memo summary))

def FailsAfterPaying (contractId : JsString) (script : SplitScript) (page : Page) : Prop :=
  ∃ address summary, admitted page = some (address,summary) ∧
    BreaksAfterPaying contractId script address page.form summary

theorem summaryExact {form : Form} {s : Summary} : summary form = some s ↔
    form.totalXlm ≠ [] ∧ cleanPayers form ≠ [] ∧ ∃ total, xlmToStroops form.totalXlm = .ok total ∧
      s = ⟨total,List.replicate ((cleanPayers form).length - 1) (total / (cleanPayers form).length) ++
        [total / (cleanPayers form).length + total % (cleanPayers form).length],cleanPayers form⟩ := by
  unfold summary
  split
  · rename_i missing
    simp only [reduceCtorEq,false_iff]
    intro ⟨total,payers,_⟩
    exact missing.elim total fun none => payers (List.length_eq_zero_iff.mp none)
  · rename_i present
    obtain ⟨total,payers⟩ := not_or.mp present
    have anyone : cleanPayers form ≠ [] := fun none => payers (List.length_eq_zero_iff.mpr none)
    cases amount : xlmToStroops form.totalXlm with
    | error e => simp [Except.toOption]
    | ok stroops =>
      have shares := computeSharesExact (List.length_pos_of_ne_nil anyone) (xlmToStroopsPositive amount)
      simp [Except.toOption,shares,total,anyone,eq_comm]

theorem paymentsExact {form : Form} {s : Summary} (found : summary form = some s) :
    (payments s).map Payment.destination = cleanPayers form ∧ (payments s).map Payment.amountStroops = s.shares := by
  obtain ⟨_,anyone,total,_,rfl⟩ := summaryExact.mp found
  have payers := List.length_pos_of_ne_nil anyone
  unfold payments
  rw [List.map_map,List.map_map]
  exact ⟨List.map_fst_zip (by simp; omega),List.map_snd_zip (by simp; omega)⟩

section Run
variable {contractId address : JsString} {script : SplitScript} {page : Page} {s : Summary} {t : Trace}

theorem concludedError {ending : Ended Thrown (JsString × JsString) × Trace} :
    (concluded page ending).splitStatus.isError = true ↔ ∃ e, ending.1 = .threw e := by
  obtain ⟨result,trace⟩ := ending
  cases result <;> simp [concluded,Status.isError]

theorem concludedSuccess {ending : Ended Thrown (JsString × JsString) × Trace} :
    (concluded page ending).splitStatus.isSuccess = true ↔ ∃ done, ending.1 = .returned done := by
  obtain ⟨result,trace⟩ := ending
  cases result <;> simp [concluded,Status.isSuccess]

theorem handleSplitAdmitted (passes : admitted page = some (address,s)) : handleSplit contractId script page =
    (concluded page (split contractId script address page.form s ⟨[],[]⟩),
      (split contractId script address page.form s ⟨[],[]⟩).2.applied) := by
  unfold handleSplit
  rw [passes]

theorem splitThrows : Throws (split contractId script address page.form s) t ↔
    Throws (sendXlmSplit script.xlm address (payments s) page.form.memo) t ∨
      (∃ hash, Returns (sendXlmSplit script.xlm address (payments s) page.form.memo) t hash) ∧
        page.form.recordOnChain = true ∧ contractId ≠ [] ∧
        script.bill.Fails (billRequest address page.form.memo s) := by
  have record : ∀ hash u, Throws (if page.form.recordOnChain = true ∧ contractId ≠ [] then do
      let result ← createBill contractId script.bill (billRequest address page.form.memo s)
      return (hash,js "Split sent and recorded as bill #" ++ billIdText result.2 ++ js ".")
    else return (hash,js "Split sent.") : Step (JsString × JsString)) u ↔
      page.form.recordOnChain = true ∧ contractId ≠ [] ∧
        script.bill.Fails (billRequest address page.form.memo s) := by
    intro hash u
    split
    · rename_i wanted
      simp [createBillThrows wanted.2,wanted]
    · rename_i unwanted
      simp only [throwsPure,false_iff]
      exact fun h => unwanted ⟨h.1,h.2.1⟩
  rw [split,throwsBind]
  simp only [record,exists_and_right]

theorem splitApplied : (split contractId script address page.form s t).2.applied =
    (sendXlmSplit script.xlm address (payments s) page.form.memo t).2.applied := by
  refine keepsAfter (fun hash => ?_ : ∀ hash, Keeps Trace.applied _) t
  split
  · exact keepsBind createBillKeeps fun _ => keepsPure _
  · exact keepsPure _

theorem throwsPaying (breaks : BreaksAfterPaying contractId script address page.form s) :
    Throws (split contractId script address page.form s) t ∧
      (split contractId script address page.form s t).2.applied =
        t.applied ++ [xlmTransaction address (payments s) page.form.memo] := by
  obtain ⟨reaches,trouble⟩ := breaks
  rw [splitThrows,splitApplied]
  obtain ⟨detail,lost⟩ | ⟨⟨hash,accepted⟩,wanted⟩ := trouble
  · exact ⟨.inl (sendXlmSplitLost reaches lost),sendXlmSplitApplied reaches (by simp [lost])⟩
  · exact ⟨.inr ⟨⟨hash,sendXlmSplitReturns.mpr ⟨reaches,accepted⟩⟩,wanted⟩,
      sendXlmSplitApplied reaches (by simp [accepted])⟩

theorem throwsUnpaid (safe : ¬ BreaksAfterPaying contractId script address page.form s)
    (throws : Throws (split contractId script address page.form s) t) :
    (split contractId script address page.form s t).2.applied = t.applied := by
  rw [splitApplied]
  apply sendXlmSplitNothing
  intro reaches
  cases outcome : script.xlm.submission with
  | rejected detail => exact ⟨detail,rfl⟩
  | lost detail => exact absurd ⟨reaches,.inl ⟨detail,outcome⟩⟩ safe
  | accepted hash =>
    have returns := sendXlmSplitReturns (t := t).mpr ⟨reaches,outcome⟩
    obtain early | ⟨_,wanted⟩ := splitThrows.mp throws
    · exact absurd early (returnsNotThrows returns)
    · exact absurd ⟨reaches,.inr ⟨⟨hash,outcome⟩,wanted⟩⟩ safe

theorem returnsPaid {done : JsString × JsString} (returns : Returns (split contractId script address page.form s) t done) :
    (split contractId script address page.form s t).2.applied =
      t.applied ++ [xlmTransaction address (payments s) page.form.memo] := by
  rw [splitApplied]
  obtain ⟨hash,sent,_⟩ := returnsBind.mp returns
  obtain ⟨reaches,accepted⟩ := sendXlmSplitReturns.mp sent
  exact sendXlmSplitApplied reaches (by simp [accepted])

theorem errorUnpaid : ((handleSplit contractId script page).1.splitStatus.isError = true →
    (handleSplit contractId script page).2 = []) ↔ ¬ FailsAfterPaying contractId script page := by
  cases passes : admitted page with
  | none => simp [handleSplit,FailsAfterPaying,passes]
  | some sent =>
    obtain ⟨address,s⟩ := sent
    rw [handleSplitAdmitted passes,concludedError]
    constructor
    · intro unpaid ⟨address',s',same,breaks⟩
      cases Option.some.inj (passes.symm.trans same)
      obtain ⟨throws,paid⟩ := throwsPaying (t := ⟨[],[]⟩) breaks
      have nothing := unpaid throws
      rw [paid] at nothing
      contradiction
    · intro safe throws
      exact throwsUnpaid (fun breaks => safe ⟨address,s,passes,breaks⟩) throws

theorem errorKeepsForm (passes : admitted page = some (address,s))
    (error : (handleSplit contractId script page).1.splitStatus.isError = true) :
    (handleSplit contractId script page).1.address = page.address ∧
      (handleSplit contractId script page).1.form = page.form := by
  rw [handleSplitAdmitted passes] at error ⊢
  obtain ⟨e,threw⟩ := concludedError.mp error
  cases ending : split contractId script address page.form s ⟨[],[]⟩ with
  | mk result trace =>
    rw [ending] at threw
    cases threw
    exact ⟨rfl,rfl⟩

theorem successPaid (passes : admitted page = some (address,s))
    (success : (handleSplit contractId script page).1.splitStatus.isSuccess = true) :
    (handleSplit contractId script page).2 = [xlmTransaction address (payments s) page.form.memo] := by
  rw [handleSplitAdmitted passes,concludedSuccess] at success
  rw [handleSplitAdmitted passes]
  obtain ⟨done,returned⟩ := success
  exact returnsPaid returned

theorem admittedSame {other : Page} (wallet : other.address = page.address) (form : other.form = page.form) :
    admitted other = admitted page := by
  rw [admitted,admitted,wallet,form]

theorem failsSame {other : Page} (wallet : other.address = page.address) (form : other.form = page.form) :
    FailsAfterPaying contractId script other ↔ FailsAfterPaying contractId script page := by
  unfold FailsAfterPaying
  rw [admittedSame wallet form,form]

theorem admittedSummary (passes : admitted page = some (address,s)) :
    page.address = some address ∧ summary page.form = some s := by
  unfold admitted at passes
  split at passes
  · rename_i wallet found
    split at passes
    · contradiction
    · cases Option.some.inj passes
      exact ⟨wallet,found⟩
  · contradiction

end Run

def press (contractId : JsString) (session : Page × List XlmTransaction) (script : SplitScript) :
    Page × List XlmTransaction :=
  let result := handleSplit contractId script session.1
  (result.1,session.2 ++ result.2)

section Retries
variable {contractId address : JsString} {page : Page} {s : Summary}

def RetriesUntilSuccess (contractId : JsString) (session : Page × List XlmTransaction) :
    List SplitScript → SplitScript → Prop
  | [],final => (press contractId session final).1.splitStatus.isSuccess = true
  | script :: rest,final => (press contractId session script).1.splitStatus.isError = true ∧
      RetriesUntilSuccess contractId (press contractId session script) rest final

def decideRetries (contractId : JsString) : (session : Page × List XlmTransaction) → (failing : List SplitScript) →
    (final : SplitScript) → Decidable (RetriesUntilSuccess contractId session failing final)
  | session,[],final => inferInstanceAs (Decidable ((press contractId session final).1.splitStatus.isSuccess = true))
  | session,script :: rest,final =>
      have := decideRetries contractId (press contractId session script) rest final
      inferInstanceAs (Decidable ((press contractId session script).1.splitStatus.isError = true ∧
        RetriesUntilSuccess contractId (press contractId session script) rest final))

instance (contractId : JsString) (session : Page × List XlmTransaction) (failing : List SplitScript)
    (final : SplitScript) : Decidable (RetriesUntilSuccess contractId session failing final) :=
  decideRetries contractId session failing final

theorem retriesPayOnce {failing : List SplitScript} {final : SplitScript} {ledger : List XlmTransaction}
    (passes : admitted page = some (address,s))
    (ends : RetriesUntilSuccess contractId (page,ledger) failing final)
    (safe : ∀ script ∈ failing, ¬ FailsAfterPaying contractId script page) :
    (run (press contractId) (page,ledger) (failing ++ [final])).2 =
      ledger ++ [xlmTransaction address (payments s) page.form.memo] := by
  induction failing generalizing page ledger with
  | nil =>
    have paid := successPaid passes ends
    simp only [List.nil_append,runCons,runNil]
    exact congrArg (ledger ++ ·) paid
  | cons script rest ih =>
    obtain ⟨error,later⟩ := ends
    obtain ⟨wallet,form⟩ := errorKeepsForm passes error
    have unpaid := errorUnpaid.mpr (safe script List.mem_cons_self) error
    have same : press contractId (page,ledger) script = ((handleSplit contractId script page).1,ledger) := by
      simp [press,unpaid]
    rw [same] at later
    have next := ih ((admittedSame wallet form).trans passes) later fun script' member =>
      (failsSame wallet form).not.mpr (safe script' (List.mem_cons_of_mem _ member))
    rw [List.cons_append,runCons,same,next,form]

end Retries

theorem errorMeansUnpaid (contractId : JsString) (page : Page) :
    (∀ script, ((handleSplit contractId script page).1.splitStatus.isError = true →
        (handleSplit contractId script page).2 = []) ↔ ¬ FailsAfterPaying contractId script page) ∧
    ∀ failing final ledger, (admitted page).isSome → RetriesUntilSuccess contractId (page,ledger) failing final →
      (∀ script ∈ failing, ¬ FailsAfterPaying contractId script page) →
      ∃ tx, (run (press contractId) (page,ledger) (failing ++ [final])).2 = ledger ++ [tx] ∧
        some tx.source = page.address ∧ tx.operations.map Prod.fst = cleanPayers page.form := by
  constructor
  · intro script
    exact errorUnpaid
  · intro failing final ledger sends ends safe
    obtain ⟨⟨address,s⟩,passes⟩ := Option.isSome_iff_exists.mp sends
    obtain ⟨wallet,found⟩ := admittedSummary passes
    refine ⟨_,retriesPayOnce passes ends safe,wallet.symm,?_⟩
    rw [← (paymentsExact found).1]
    simp [xlmTransaction]

def trialAddress : JsString := js "GAAAAAAAAAAAAAAAAAAAAAAAAAAAAAAAAAAAAAAAAAAAAAAAAAAAAAAA"
def trialPage : Page := ⟨some (js "GBUYER"),⟨js "12.5",[],[trialAddress,[]],true⟩,.idle⟩
def trialPayers : List JsString := [trialAddress,js "GBBBBBBBBBBBBBBBBBBBBBBBBBBBBBBBBBBBBBBBBBBBBBBBBBBBBBBB",js "GCCCCCCCCCCCCCCCCCCCCCCCCCCCCCCCCCCCCCCCCCCCCCCCCCCCCCCC"]
def trialCall : ContractScript :=
  ⟨.ok (),.ok (),.success,.ok (),.ok (),.ok (),.pending (js "b"),.notFound,0,[(1500,.success (some 1))]⟩
def trialScript : SplitScript := ⟨⟨.ok (),fun _ => .ok (),.ok (),.ok (),.accepted (js "a")⟩,⟨fun _ => .ok (),trialCall⟩⟩

def declinedScript : SplitScript := {trialScript with
  bill := {trialScript.bill with call := {trialCall with signature := .error (js "User declined")}}}

theorem declinedBillPaysTwice :
    (handleSplit (js "C") declinedScript trialPage).1.splitStatus.isError = true ∧
    (handleSplit (js "C") declinedScript trialPage).2.length = 1 ∧
    RetriesUntilSuccess (js "C") (trialPage,[]) [declinedScript] trialScript ∧
    (run (press (js "C")) (trialPage,[]) [declinedScript,trialScript]).2.length = 2 := by
  decide +kernel

def unsignedScript : SplitScript := {trialScript with xlm := {trialScript.xlm with signature := .error []}}

theorem unsignedPaysOnce : ∃ tx, (run (press (js "C")) (trialPage,[]) [unsignedScript,trialScript]).2 = [tx] ∧
    some tx.source = trialPage.address ∧ tx.operations.map Prod.fst = [trialAddress] := by
  have safe : ¬ FailsAfterPaying (js "C") unsignedScript trialPage :=
    ((errorMeansUnpaid (js "C") trialPage).1 unsignedScript).mp fun _ => by decide +kernel
  have payers : cleanPayers trialPage.form = [trialAddress] := by decide +kernel
  obtain ⟨tx,paid,source,targets⟩ := (errorMeansUnpaid (js "C") trialPage).2 [unsignedScript] trialScript []
    (by decide +kernel) (by decide +kernel) fun script member => List.mem_singleton.mp member ▸ safe
  exact ⟨tx,paid,source,targets.trans payers⟩

end SplitBill.SplitFlow
