import SplitBill.BillSplit
import SplitBill.SplitFlow

/-! What the form check leaves to the two later stages. The payment stage wants at most 100 payments of
positive int64 amounts, create_bill its own limits on share, payers and memo; the page checks neither
number of payers nor size of a share, and bounds the memo in code units, which are not bytes. -/
namespace SplitBill.Validation
open Helpers Pipeline SplitFlow

def MAX_INT64 : Int := 9223372036854775807

def PaymentsFit (payments : List Payment) : Prop :=
  1 ≤ payments.length ∧ payments.length ≤ 100 ∧ ∀ p ∈ payments, 1 ≤ p.amountStroops ∧ p.amountStroops ≤ MAX_INT64
instance (payments : List Payment) : Decidable (PaymentsFit payments) := by unfold PaymentsFit; infer_instance

def ArgumentsFit (request : BillRequest) : Prop :=
  0 < request.shareStroops ∧ request.shareStroops ≤ 170141183460469231731687303715884105727 ∧
    1 ≤ request.payers.length ∧ request.payers.length ≤ BillSplit.MAX_PAYERS ∧
    (JsString.utf8 request.memo).length ≤ BillSplit.MAX_MEMO_LEN
instance (request : BillRequest) : Decidable (ArgumentsFit request) := by unfold ArgumentsFit; infer_instance

/- These are the checks that create_bill makes: once the creator is authorised and a number is left,
nothing else can stop it. -/
theorem argumentsAccepted {Address τ : Type} [DecidableEq Address] {env : Host.Env Address}
    {w : BillSplit.World Address τ} {creator : Address} {payers : List Address} {share : I128} {request : BillRequest}
    (auth : env.authorised creator = true) (room : (BillSplit.billCount w).val < 4294967295)
    (listed : payers.length = request.payers.length) (amount : share.val = request.shareStroops) :
    (∃ created, BillSplit.createBill env w creator payers share (JsString.utf8 request.memo) = .ok created) ↔
      ArgumentsFit request := by
  constructor
  · intro ⟨⟨id,w'⟩,created⟩
    obtain ⟨_,⟨positive,anyone,few,short⟩,_⟩ := BillSplit.createBillExact.mp created
    have payers := List.length_pos_of_ne_nil anyone
    exact ⟨amount ▸ positive,amount ▸ share.upper,listed ▸ payers,listed ▸ few,short⟩
  · intro ⟨positive,_,anyone,few,short⟩
    have counted := (BillSplit.billCount w).lower
    have next : ∃ id : U32, _ ∧ id.val = (BillSplit.billCount w).val + 1 :=
      MachineInt.checkedInRange (by omega) (by omega)
    obtain ⟨id,_,next⟩ := next
    have payersLeft : payers ≠ [] := List.ne_nil_of_length_pos (by omega)
    exact ⟨(id,_),BillSplit.createBillExact.mpr
      ⟨auth,⟨amount ▸ positive,payersLeft,listed ▸ few,short⟩,next,rfl⟩⟩

-- Up to 26 code units take no more than 78 of the 80 bytes; 27 of them can take 81, and 28 can take 84.
def FormFits (form : Form) : Prop :=
  (cleanPayers form).length ≤ 20 ∧
  (∃ total, xlmToStroops form.totalXlm = .ok total ∧ (cleanPayers form).length ≤ total ∧
    total / (cleanPayers form).length + total % (cleanPayers form).length ≤ MAX_INT64) ∧
  (form.memo.length = 27 → 1 ≤ JsString.spareBytes form.memo) ∧
  (form.memo.length = 28 → 4 ≤ JsString.spareBytes form.memo)

theorem memoFits {memo : JsString} (typed : memo.length ≤ 28) : (JsString.utf8 memo).length ≤ 80 ↔
    (memo.length = 27 → 1 ≤ JsString.spareBytes memo) ∧ (memo.length = 28 → 4 ≤ JsString.spareBytes memo) := by
  have bytes := JsString.utf8Length memo
  omega

theorem sharesFit {total : Int} {n : Nat} (payers : 0 < n) (positive : 0 < total) :
    (∀ share ∈ List.replicate (n - 1) (total / n) ++ [total / n + total % n], 1 ≤ share ∧ share ≤ MAX_INT64) ↔
      n ≤ total ∧ total / n + total % n ≤ MAX_INT64 := by
  have divisor : (0 : Int) < n := by omega
  have left := Int.emod_nonneg total divisor.ne'
  have enough : 1 ≤ total / n ↔ (n : Int) ≤ total := by
    rw [Int.le_ediv_iff_mul_le divisor,one_mul]
  constructor
  · intro fit
    have last := fit _ (List.mem_append_right _ List.mem_cons_self)
    refine ⟨?_,last.2⟩
    by_cases single : n = 1
    · omega
    · exact enough.mp (fit _ (List.mem_append_left _ (by simp; omega))).1
  · intro ⟨each,last⟩ share member
    have base := enough.mpr each
    obtain first | only := List.mem_append.mp member
    · rw [List.eq_of_mem_replicate first]
      omega
    · rw [List.mem_singleton.mp only]
      omega

theorem paymentsFit {form : Form} {s : Summary} (found : summary form = some s) : PaymentsFit (payments s) ↔
    (cleanPayers form).length ≤ 100 ∧ (cleanPayers form).length ≤ s.totalStroops ∧
      s.totalStroops / (cleanPayers form).length + s.totalStroops % (cleanPayers form).length ≤ MAX_INT64 := by
  obtain ⟨destinations,amounts⟩ := paymentsExact found
  have count : (payments s).length = (cleanPayers form).length := by
    rw [← destinations,List.length_map]
  have each : (∀ p ∈ payments s, 1 ≤ p.amountStroops ∧ p.amountStroops ≤ MAX_INT64) ↔
      ∀ share ∈ s.shares, 1 ≤ share ∧ share ≤ MAX_INT64 := by
    rw [← amounts,List.forall_mem_map]
  obtain ⟨_,anyone,total,amount,rfl⟩ := summaryExact.mp found
  have payers := List.length_pos_of_ne_nil anyone
  rw [PaymentsFit,count,each,sharesFit payers (xlmToStroopsPositive amount)]
  exact ⟨fun ⟨_,most,fit⟩ => ⟨most,fit⟩,fun ⟨most,fit⟩ => ⟨payers,most,fit⟩⟩

theorem stagesAcceptWhen {page : Page} {address : JsString} {s : Summary} (sends : admitted page = some (address,s))
    (typed : page.form.memo.length ≤ 28) :
    PaymentsFit (payments s) ∧ ArgumentsFit (billRequest address page.form.memo s) ↔ FormFits page.form := by
  have found := (admittedSummary sends).2
  rw [paymentsFit found]
  obtain ⟨_,anyone,total,amount,rfl⟩ := summaryExact.mp found
  have payers := List.length_pos_of_ne_nil anyone
  have divisor : (0 : Int) < (cleanPayers page.form).length := by omega
  have remainder := Int.emod_nonneg total divisor.ne'
  have floor : total.tdiv (cleanPayers page.form).length = total / (cleanPayers page.form).length :=
    Int.tdiv_eq_ediv_of_nonneg (xlmToStroopsPositive amount).le
  simp only [ArgumentsFit,billRequest,floor,BillSplit.MAX_PAYERS,BillSplit.MAX_MEMO_LEN,memoFits typed,FormFits,
    amount,Except.ok.injEq,exists_eq_left']
  constructor
  · intro ⟨⟨_,each,last⟩,_,_,_,few,memo⟩
    exact ⟨few,⟨each,last⟩,memo⟩
  · intro ⟨few,⟨each,last⟩,memo⟩
    have share : 1 ≤ total / (cleanPayers page.form).length := by
      rw [Int.le_ediv_iff_mul_le divisor,one_mul]
      exact each
    unfold MAX_INT64 at last
    exact ⟨⟨by omega,each,last⟩,by omega,by omega,payers,few,memo⟩

def crowdedPage : Page := ⟨some (js "GBUYER"),⟨js "1",[],List.replicate 21 trialAddress,true⟩,.idle⟩
def crowdedSummary : Summary := ⟨10000000,List.replicate 20 476190 ++ [476200],List.replicate 21 trialAddress⟩

def crowdedScript : SplitScript := {trialScript with
  bill := {trialScript.bill with call := {trialCall with simulation := .error (js "too many payers")}}}

theorem crowdedBillRejected : admitted crowdedPage = some (js "GBUYER",crowdedSummary) ∧
    crowdedPage.form.recordOnChain = true ∧ crowdedPage.form.memo.length ≤ 28 ∧ PaymentsFit (payments crowdedSummary) ∧
    ¬ ArgumentsFit (billRequest (js "GBUYER") crowdedPage.form.memo crowdedSummary) ∧
    (handleSplit (js "C") crowdedScript crowdedPage).1.splitStatus = .error (js "Too many payers (max 20 per bill).") ∧
    (handleSplit (js "C") crowdedScript crowdedPage).2.length = 1 := by
  decide +kernel

-- Twenty-eight units of 80 bytes, and a total that three payers cannot share evenly.
def fullPage : Page := ⟨some (js "GBUYER"),⟨js "12.5",js "€€€€€€€€€€€€€€€€€€€€€€€€€€ 2",trialPayers,true⟩,.idle⟩
def fullSummary : Summary := ⟨125000000,[41666666,41666666,41666668],trialPayers⟩

theorem trialFormFits : fullPage.form.memo.length = 28 ∧ (JsString.utf8 fullPage.form.memo).length = 80 ∧
    FormFits fullPage.form := by
  have sends : admitted fullPage = some (js "GBUYER",fullSummary) := by decide +kernel
  exact ⟨by decide +kernel,by decide +kernel,(stagesAcceptWhen sends (by decide +kernel)).mp (by decide +kernel)⟩

end SplitBill.Validation
