import SplitBill.Journal
import SplitBill.SplitFlow

/-! What the page can know from the phases it was shown. A pipeline reports each phase before the step it is
named for, so the last one reported says where an error came from and its category agrees with it; and a
payment has been applied for certain once confirming was shown, and for certain not before submitting. -/
namespace SplitBill.Phases
open Helpers Pipeline SplitFlow SplitBill.Flow

instance : Monoid Trace where
  mul t u := ⟨t.phases ++ u.phases,t.applied ++ u.applied⟩
  one := ⟨[],[]⟩
  mul_assoc t u v := congrArg₂ Trace.mk (List.append_assoc ..) (List.append_assoc ..)
  one_mul _ := rfl
  mul_one t := congrArg₂ Trace.mk (List.append_nil _) (List.append_nil _)

def whole : List TxStatus := [.preparing,.signing,.submitting,.confirming]

def category : Thrown → Option ContractErrorCategory
  | .contract error => some error.category
  | .other _ => none

section Rules
variable {β : Type} {S : Trace → Ended Thrown β → Prop} {g : Unit → Step β}

theorem addsStatus {phase : TxStatus} (next : Adds (fun d => S (⟨[phase],[]⟩ * d)) (g ())) :
    Adds S (onStatus phase >>= g) :=
  addsNote (fun t => congrArg (Trace.mk _) (List.append_nil t.applied).symm) next

theorem addsApply {tx : XlmTransaction} (next : Adds (fun d => S (⟨[],[tx]⟩ * d)) (g ())) : Adds S (Pipeline.apply tx >>= g) :=
  addsNote (fun t => congrArg (Trace.mk · _) (List.append_nil t.phases).symm) next

end Rules

inductive Paid (tx : XlmTransaction) : Trace → Ended Thrown JsString → Prop
  | refused {e} (kind : category e = some .validation) : Paid tx ⟨[],[]⟩ (.threw e)
  | unprepared {e} (kind : category e = some .rpc ∨ category e = none) : Paid tx ⟨[.preparing],[]⟩ (.threw e)
  | unsigned {e} (kind : category e = some .rejected) : Paid tx ⟨[.preparing,.signing],[]⟩ (.threw e)
  | unsubmitted {e} (kind : category e = some .submission ∨ category e = none) :
      Paid tx ⟨[.preparing,.signing,.submitting],[]⟩ (.threw e)
  | unanswered {e} (kind : category e = some .submission) : Paid tx ⟨[.preparing,.signing,.submitting],[tx]⟩ (.threw e)
  | accepted {hash} : Paid tx ⟨whole,[tx]⟩ (.returned hash)

theorem submitAdds (submission : Submission) (tx : XlmTransaction) :
    Adds (fun d => Paid tx (⟨[.preparing,.signing,.submitting],[]⟩ * d)) (submitTransaction submission tx) := by
  cases submission with
  | accepted hash => exact addsApply (addsStatus (addsPure .accepted))
  | rejected detail => exact addsThrowing (.unsubmitted (.inl rfl))
  | lost detail => exact addsApply (addsThrowing (.unanswered rfl))

theorem sendXlmSplitAdds (script : XlmScript) (sender : JsString) (payments : List Payment) (memo : JsString) :
    Adds (Paid (xlmTransaction sender payments memo)) (sendXlmSplit script sender payments memo) := by
  rw [sendXlmSplit,signedXlmSplit]
  simp only [bindAssoc]
  refine addsAttempt (fun m stops => .refused ?_) fun _ _ => ?_
  · rw [← (failIfError.mp stops).2]
    rfl
  refine addsAttempt (fun m stops => .refused ?_) fun _ _ => ?_
  · rw [← (failIfError.mp stops).2]
    rfl
  refine addsStatus (addsAttempt (fun m _ => .unprepared (.inl ?_)) fun _ _ => ?_)
  · cases m <;> rfl
  refine addsAttempt (fun m _ => .unprepared (.inr rfl)) fun _ _ => ?_
  refine addsStatus (addsAttempt (fun m _ => .unsigned rfl) fun _ _ => ?_)
  refine addsStatus (addsAttempt (fun m _ => .unsubmitted (.inr rfl)) fun _ _ => ?_)
  exact submitAdds script.submission _

inductive Called (contractId : JsString) {α : Type} : Trace → Ended Thrown α → Prop
  | refused {e} (kind : category e = none ∨ contractId = [] ∧ category e = some .validation) :
      Called contractId ⟨[],[]⟩ (.threw e)
  | unprepared {e} (kind : category e = some .rpc ∨ category e = some .simulation ∨ category e = none) :
      Called contractId ⟨[.preparing],[]⟩ (.threw e)
  | unsigned {e} (kind : category e = some .rejected) : Called contractId ⟨[.preparing,.signing],[]⟩ (.threw e)
  | unsubmitted {e} (kind : category e = some .submission ∨ category e = none) :
      Called contractId ⟨[.preparing,.signing,.submitting],[]⟩ (.threw e)
  | unconfirmed {e} (kind : category e = some .rpc ∨ category e = some .submission ∨ category e = none) :
      Called contractId ⟨whole,[]⟩ (.threw e)
  | waiting : Called contractId ⟨whole,[]⟩ .waiting
  | confirmed {a} : Called contractId ⟨whole,[]⟩ (.returned a)

theorem simulatedKind {simulation : Simulation} {e : Thrown} (fails : simulated simulation = .error e) :
    category e = some .simulation ∨ category e = none := by
  cases simulation with
  | failed message => cases fails; exact .inr rfl
  | error raw => cases fails; exact .inl rfl
  | success => contradiction

theorem sentKind {sent : Sent} {e : Thrown} (fails : sentHash sent = .error e) :
    category e = some .submission ∨ category e = none := by
  cases sent with
  | failed message => cases fails; exact .inr rfl
  | error result => cases fails; exact .inl rfl
  | pending hash => contradiction

theorem confirmationKind {start : Int} {first : Poll} {polls : List (Int × Poll)} {e : Thrown}
    (fails : confirmation start first polls = some (.error e)) :
    category e = some .rpc ∨ category e = some .submission ∨ category e = none := by
  fun_induction confirmation start first polls with
  | case1 => cases fails; exact .inr (.inr rfl)
  | case2 => cases fails
  | case3 => cases fails; exact .inr (.inl rfl)
  | case4 => contradiction
  | case5 => cases fails; exact .inl rfl
  | case6 now next rest early ih => exact ih fails

theorem invokeContractAdds (contractId : JsString) (script : ContractScript) :
    Adds (Called contractId) (invokeContract contractId script) := by
  rw [invokeContract]
  refine addsAttempt (fun m stops => .refused (.inr ?_)) fun _ _ => ?_
  · obtain ⟨unset,rfl⟩ := failIfError.mp stops
    exact ⟨unset,rfl⟩
  refine addsStatus (addsAttempt (fun m _ => .unprepared (.inl rfl)) fun _ _ => ?_)
  refine addsAttempt (fun m _ => .unprepared (.inr (.inr rfl))) fun _ _ => ?_
  refine addsAttempt (fun m fails => .unprepared (.inr (simulatedKind fails))) fun _ _ => ?_
  refine addsAttempt (fun m _ => .unprepared (.inr (.inr rfl))) fun _ _ => ?_
  refine addsStatus (addsAttempt (fun m _ => .unsigned rfl) fun _ _ => ?_)
  refine addsStatus (addsAttempt (fun m _ => .unsubmitted (.inr rfl)) fun _ _ => ?_)
  refine addsAttempt (fun m fails => .unsubmitted (sentKind fails)) fun hash _ => ?_
  refine addsStatus (addsAwait (fun _ => .waiting) (fun e fails => .unconfirmed (confirmationKind fails)) fun _ _ => ?_)
  exact addsPure .confirmed

theorem createBillAdds (contractId : JsString) (script : BillScript) (request : BillRequest) :
    Adds (Called contractId) (createBill contractId script request) :=
  addsAttempt (fun _ _ => .refused (.inl rfl)) fun _ _ => invokeContractAdds contractId script.call

inductive Split (contractId : JsString) (recording : Prop) (tx : XlmTransaction) :
    Trace → Ended Thrown (JsString × JsString) → Prop
  | unpaid {d e} (payment : Paid tx d (.threw e)) : Split contractId recording tx d (.threw e)
  | plain {d hash done} (unwanted : ¬ recording) (payment : Paid tx d (.returned hash)) :
      Split contractId recording tx d (.returned done)
  | recorded {d d' hash done} (wanted : recording) (payment : Paid tx d (.returned hash))
      (bill : Called contractId d' (.returned done)) : Split contractId recording tx (d * d') (.returned done)
  | unrecorded {d d' hash e} (wanted : recording) (payment : Paid tx d (.returned hash))
      (bill : Called (α := JsString × JsString) contractId d' (.threw e)) : Split contractId recording tx (d * d') (.threw e)
  | waiting {d d' hash} (wanted : recording) (payment : Paid tx d (.returned hash))
      (bill : Called (α := JsString × JsString) contractId d' .waiting) : Split contractId recording tx (d * d') .waiting

theorem calledThrew {contractId : JsString} {α β : Type} {d : Trace} {e : Thrown} (fails : Called (α := α) contractId d (.threw e)) :
    Called (α := β) contractId d (.threw e) := by
  cases fails with
  | refused kind => exact .refused kind
  | unprepared kind => exact .unprepared kind
  | unsigned kind => exact .unsigned kind
  | unsubmitted kind => exact .unsubmitted kind
  | unconfirmed kind => exact .unconfirmed kind

theorem splitAdds (contractId : JsString) (script : SplitScript) (address : JsString) (form : Form) (s : Summary) :
    Adds (Split contractId (form.recordOnChain = true ∧ contractId ≠ []) (xlmTransaction address (payments s) form.memo))
      (split contractId script address form s) := by
  refine addsBind (sendXlmSplitAdds script.xlm address (payments s) form.memo) ?_ ?_ ?_
  · intro d hash payment
    split
    · rename_i wanted
      refine addsBind (createBillAdds contractId script.bill _) ?_ ?_ ?_
      · intro d' result bill
        cases bill with
        | confirmed =>
          refine addsPure ?_
          rw [mul_one]
          exact .recorded wanted payment .confirmed
      · intro d' e bill
        exact .unrecorded wanted payment (calledThrew bill)
      · intro d' bill
        cases bill
        exact .waiting wanted payment .waiting
    · rename_i unwanted
      refine addsPure ?_
      rw [mul_one]
      exact .plain unwanted payment
  · intro d e payment
    exact .unpaid payment
  · intro d payment
    cases payment

def stages : ContractErrorCategory → List (Option TxStatus)
  | .validation => [none]
  | .rpc => [some .preparing,some .confirming]
  | .simulation => [some .preparing]
  | .rejected => [some .signing]
  | .submission => [some .submitting,some .confirming]

section Facts
variable {contractId : JsString} {tx : XlmTransaction} {d : Trace} {e : Thrown} {c : ContractErrorCategory}

theorem paidReturned {hash : JsString} (payment : Paid tx d (.returned hash)) : d = ⟨whole,[tx]⟩ := by
  cases payment
  rfl

theorem paidThrew (payment : Paid tx d (.threw e)) : d.phases <+: whole ∧ .confirming ∉ d.phases ∧
    (.submitting ∉ d.phases → d.applied = []) ∧ (category e = some c → d.phases.getLast? ∈ stages c) := by
  cases payment with
  | refused kind =>
    refine ⟨by decide,by decide,fun _ => rfl,?_⟩
    rw [kind]
    rintro ⟨⟩
    decide
  | unprepared kind =>
    refine ⟨by decide,by decide,fun _ => rfl,?_⟩
    rcases kind with kind | kind <;> rw [kind]
    · rintro ⟨⟩
      decide
    · rintro ⟨⟩
  | unsigned kind =>
    refine ⟨by decide,by decide,fun _ => rfl,?_⟩
    rw [kind]
    rintro ⟨⟩
    decide
  | unsubmitted kind =>
    refine ⟨by decide,by decide,fun _ => rfl,?_⟩
    rcases kind with kind | kind <;> rw [kind]
    · rintro ⟨⟩
      decide
    · rintro ⟨⟩
  | unanswered kind =>
    have shown : [TxStatus.preparing,.signing,.submitting] <+: whole ∧
        .confirming ∉ [TxStatus.preparing,.signing,.submitting] ∧ .submitting ∈ [TxStatus.preparing,.signing,.submitting] ∧
        [TxStatus.preparing,.signing,.submitting].getLast? ∈ stages .submission := by decide
    refine ⟨shown.1,shown.2.1,fun hidden => absurd shown.2.2.1 hidden,?_⟩
    rw [kind]
    rintro ⟨⟩
    exact shown.2.2.2

theorem calledQuiet {α : Type} {ending : Ended Thrown α} (call : Called contractId d ending) :
    d.phases <+: whole ∧ d.applied = [] := by
  cases call <;> exact ⟨by decide,rfl⟩

theorem calledKind (set : contractId ≠ []) {α : Type} (call : Called (α := α) contractId d (.threw e))
    (named : category e = some c) : ∃ phase, d.phases.getLast? = some phase ∧ some phase ∈ stages c := by
  cases call with
  | refused kind =>
    rcases kind with kind | ⟨unset,_⟩
    · rw [kind] at named
      contradiction
    · exact absurd unset set
  | unprepared kind =>
    refine ⟨_,rfl,?_⟩
    rcases kind with kind | kind | kind <;> rw [kind] at named <;> cases named <;> decide
  | unsigned kind =>
    refine ⟨_,rfl,?_⟩
    rw [kind] at named
    cases named
    decide
  | unsubmitted kind =>
    refine ⟨_,rfl,?_⟩
    rcases kind with kind | kind <;> rw [kind] at named <;> cases named
    decide
  | unconfirmed kind =>
    refine ⟨_,rfl,?_⟩
    rcases kind with kind | kind | kind <;> rw [kind] at named <;> cases named <;> decide

end Facts

theorem submittingShown (more : List TxStatus) : .submitting ∈ whole ++ more := List.mem_append_left more (by decide)

theorem phasesTell (contractId : JsString) (script : SplitScript) (address : JsString) (form : Form) (s : Summary) :
    let ending := split contractId script address form s ⟨[],[]⟩
    let recording := form.recordOnChain = true ∧ contractId ≠ []
    (.confirming ∈ ending.2.phases → ending.2.applied = [xlmTransaction address (payments s) form.memo]) ∧
    (.submitting ∉ ending.2.phases → ending.2.applied = []) ∧
    (∀ done, ending.1 = .returned done →
      recording ∧ ending.2.phases = whole ++ whole ∨ ¬ recording ∧ ending.2.phases = whole) ∧
    (ending.1 = .waiting → recording ∧ ending.2.phases = whole ++ whole) ∧
    (∀ e, ending.1 = .threw e →
      (ending.2.phases <+: whole ∨ recording ∧ ∃ more, more <+: whole ∧ ending.2.phases = whole ++ more) ∧
      ∀ c, category e = some c → ending.2.phases.getLast? ∈ stages c) := by
  intro ending recording
  obtain ⟨d,added,run⟩ := splitAdds contractId script address form s ⟨[],[]⟩
  have same : ending.2 = d := added.trans (one_mul d)
  rw [same]
  change Split contractId recording (xlmTransaction address (payments s) form.memo) d ending.1 at run
  generalize ending.1 = result at run
  cases run with
  | unpaid payment =>
    obtain ⟨early,unseen,before,_⟩ := paidThrew (c := .validation) payment
    refine ⟨fun seen => absurd seen unseen,before,nofun,nofun,?_⟩
    rintro e ⟨⟩
    exact ⟨.inl early,fun c => (paidThrew payment).2.2.2⟩
  | plain unwanted payment =>
    cases paidReturned payment
    exact ⟨fun _ => rfl,fun hidden => absurd (submittingShown []) hidden,fun _ _ => .inr ⟨unwanted,rfl⟩,nofun,nofun⟩
  | recorded wanted payment bill =>
    cases paidReturned payment
    cases bill
    exact ⟨fun _ => rfl,fun hidden => absurd (submittingShown whole) hidden,fun _ _ => .inl ⟨wanted,rfl⟩,nofun,nofun⟩
  | unrecorded wanted payment bill =>
    cases paidReturned payment
    obtain ⟨early,nothing⟩ := calledQuiet bill
    refine ⟨fun _ => congrArg (_ :: ·) nothing,fun hidden => absurd (submittingShown _) hidden,nofun,nofun,?_⟩
    rintro e ⟨⟩
    refine ⟨.inr ⟨wanted,_,early,rfl⟩,?_⟩
    intro c named
    obtain ⟨phase,last,inside⟩ := calledKind wanted.2 bill named
    change (whole ++ _).getLast? ∈ _
    rw [List.getLast?_append,last]
    exact inside
  | waiting wanted payment bill =>
    cases paidReturned payment
    cases bill
    exact ⟨fun _ => rfl,fun hidden => absurd (submittingShown whole) hidden,nofun,fun _ => ⟨wanted,rfl⟩,nofun⟩

end SplitBill.Phases
