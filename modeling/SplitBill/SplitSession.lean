import SplitBill.Amounts
import SplitBill.Phases
import SplitBill.Session

/-! The split presses of a session. Whatever else the page does, they are made one at a time; when none is on its
way, the ledger and the status are those of the presses handled one after the other, each with the form and the
wallet of its own click. A run on its way ends within nine moves, unless the network is asked for ever. -/
namespace SplitBill.SplitSession
open Client (Config)
open Helpers Pipeline SplitFlow Phases Session SplitBill.Flow Transition

theorem landedNext {trace : Trace} {shown : Nat} {phase : TxStatus} (next : trace.phases[shown]? = some phase) :
    landed trace shown ++ landing trace shown phase = landed trace (shown + 1) := by
  unfold landed landing
  rw [List.take_add_one,next]
  by_cases before : .submitting ∈ trace.phases.take shown
  · simp [before]
  · by_cases now : phase = .submitting <;> simp [before,now,eq_comm]

section Ledger
variable {config : Config} {stableSymbol : JsString} {s : App}

def paidBy (config : Config) (presses : List Press) : List XlmTransaction :=
  presses.flatMap fun press => (handleSplit config.contractId press.script press.page).2
def lastReport (config : Config) (presses : List Press) : Status :=
  presses.getLast?.elim .idle fun press => (handleSplit config.contractId press.script press.page).1.splitStatus

theorem pressHandled (press : Press) (contractId : JsString) : handleSplit contractId press.script press.page =
    (concluded press.page (press.ending contractId),(press.ending contractId).2.applied) :=
  handleSplitAdmitted press.passes

def asked (press : Press) : XlmTransaction :=
  xlmTransaction press.address (payments press.summary) press.page.form.memo

theorem pressRuns (press : Press) (contractId : JsString) :
    Split contractId (press.page.form.recordOnChain = true ∧ contractId ≠ []) (asked press) (press.ending contractId).2
      (press.ending contractId).1 := by
  obtain ⟨d,added,run⟩ :=
    splitAdds contractId press.script press.address press.page.form press.summary ⟨[],[]⟩
  have same : (press.ending contractId).2 = d := added.trans (one_mul d)
  rw [same]
  exact run

theorem unsentNothing (press : Press) (contractId : JsString)
    (unsent : .submitting ∉ (press.ending contractId).2.phases) : (press.ending contractId).2.applied = [] := by
  have run := pressRuns press contractId
  generalize (press.ending contractId).2 = d at run unsent ⊢
  generalize (press.ending contractId).1 = result at run
  cases run with
  | unpaid payment => exact (paidThrew (c := .validation) payment).2.2.1 unsent
  | plain _ payment =>
    cases paidReturned payment
    exact absurd (submittingShown []) unsent
  | recorded _ payment _ | unrecorded _ payment _ | waiting _ payment _ =>
    cases paidReturned payment
    exact absurd (submittingShown _) unsent

theorem landedWhole (press : Press) {contractId : JsString} {shown : Nat}
    (finished : (press.ending contractId).2.phases.length ≤ shown) :
    landed (press.ending contractId).2 shown = (press.ending contractId).2.applied := by
  unfold landed
  rw [List.take_of_length_le finished]
  split
  · rfl
  · rename_i unsent
    exact (unsentNothing press contractId unsent).symm

structure Consistent (config : Config) (s : App) : Prop where
  rests : s.splitting = none → inProgress s.splitStatus = false ∧ s.applied = paidBy config s.past ∧
    s.splitStatus = lastReport config s.past
  runs : ∀ press shown, s.splitting = some (press,shown) → inProgress s.splitStatus = true ∧
    s.applied = paidBy config s.past ++ landed (press.ending config.contractId).2 shown ∧
    shown ≤ (press.ending config.contractId).2.phases.length

theorem consistentInitial : Consistent config initial where
  rests := by simp [initial,inProgress,paidBy,lastReport]
  runs := by simp [initial]

theorem offRests (h : Consistent config s) (off : ¬ inProgress s.splitStatus = true) : s.splitting = none := by
  cases going : s.splitting with
  | none => rfl
  | some running => exact absurd (h.runs _ _ going).1 off

def splits : Event → Bool
  | .pressSplit _ | .splitMoves => true
  | _ => false

structure Beside (s s' : App) : Prop where
  splitting : s'.splitting = s.splitting
  splitStatus : s'.splitStatus = s.splitStatus
  past : s'.past = s.past
  applied : s'.applied = s.applied

theorem stepBeside (config : Config) (stableSymbol : JsString) (s : App) {e : Event} (other : splits e = false) :
    Beside s (step config stableSymbol s e) := by
  cases e with
  | page e | pressRefresh | setTotalXlm text | setPayer i text | addPayer => exact ⟨rfl,rfl,rfl,rfl⟩
  | setMemo text | removePayer i | setRecordOnChain checked =>
    simp only [step]
    split <;> exact ⟨rfl,rfl,rfl,rfl⟩
  | pressSplit script | splitMoves => contradiction
  | pressSettle row script =>
    simp only [step,pressSettle]
    split
    · split <;> exact ⟨rfl,rfl,rfl,rfl⟩
    · exact ⟨rfl,rfl,rfl,rfl⟩
  | settleMoves =>
    simp only [step,settleMoves]
    split
    · exact ⟨rfl,rfl,rfl,rfl⟩
    · split
      · exact ⟨rfl,rfl,rfl,rfl⟩
      · unfold endSettle
        split <;> exact ⟨rfl,rfl,rfl,rfl⟩

theorem consistentBeside (h : Consistent config s) {s' : App} (beside : Beside s s') : Consistent config s' where
  rests := by
    rw [beside.splitting,beside.splitStatus,beside.past,beside.applied]
    exact h.rests
  runs := by
    rw [beside.splitting,beside.splitStatus,beside.past,beside.applied]
    exact h.runs

theorem pressSplitConsistent (h : Consistent config s) (script : SplitScript) :
    Consistent config (pressSplit s script) := by
  unfold pressSplit
  split
  · exact h
  · rename_i off
    split
    · exact h
    · refine ⟨nofun,?_⟩
      rintro press shown ⟨⟩
      refine ⟨rfl,?_,Nat.zero_le _⟩
      rw [(h.rests (offRests h off)).2.1,landed,if_neg (by simp),List.append_nil]

theorem paidAfter (config : Config) (press : Press) (past : List Press) : paidBy config (past ++ [press]) =
    paidBy config past ++ (press.ending config.contractId).2.applied := by
  rw [paidBy,List.flatMap_append,List.flatMap_singleton,pressHandled]
  rfl

theorem reportAfter (config : Config) (press : Press) (past : List Press) : lastReport config (past ++ [press]) =
    (concluded press.page (press.ending config.contractId)).splitStatus := by
  rw [lastReport,List.getLast?_concat,Option.elim_some,pressHandled]

theorem endSplitConsistent (h : Consistent config s) {press : Press} {shown : Nat}
    (going : s.splitting = some (press,shown)) (finished : (press.ending config.contractId).2.phases.length ≤ shown) :
    Consistent config (endSplit config s press (press.ending config.contractId).1) := by
  have paid : s.applied = paidBy config (s.past ++ [press]) := by
    rw [(h.runs press shown going).2.1,landedWhole press finished,paidAfter config]
  have report := reportAfter config press s.past
  cases ending : press.ending config.contractId with
  | mk result trace =>
    rw [ending] at report
    cases result with
    | returned done | threw e =>
      exact {
        rests := fun _ => by simp [endSplit,inProgress,paid,report,concluded]
        runs := by simp [endSplit] }
    | waiting => exact h

theorem splitMovesConsistent (h : Consistent config s) : Consistent config (splitMoves config s) := by
  unfold splitMoves
  split
  · exact h
  · rename_i press shown going
    split
    · rename_i phase next
      refine ⟨nofun,?_⟩
      rintro press' shown' ⟨⟩
      refine ⟨rfl,?_,(List.getElem?_eq_some_iff.mp next).1⟩
      rw [(h.runs press shown going).2.1,List.append_assoc,landedNext next]
    · rename_i finished
      exact endSplitConsistent h going (List.getElem?_eq_none_iff.mp finished)

theorem stepConsistent (config : Config) (stableSymbol : JsString) :
    Preserves (step config stableSymbol) (Consistent config) := by
  intro s e h
  cases e with
  | pressSplit script => exact pressSplitConsistent h script
  | splitMoves => exact splitMovesConsistent h
  | _ => exact consistentBeside h (stepBeside config stableSymbol s rfl)

theorem runConsistent (config : Config) (stableSymbol : JsString) (events : List Event) :
    Consistent config (run (step config stableSymbol) initial events) :=
  runPreserves (stepConsistent config stableSymbol) consistentInitial events

def pressed (s : App) : List Press := s.past ++ (s.splitting.map Prod.fst).toList

structure Pressed (s : App) (e : Event) (press : Press) : Prop where
  clicked : e = .pressSplit press.script
  offered : inProgress s.splitStatus = false
  found : press.page = splitPage s

theorem pressSplitPressed (h : Consistent config s) (script : SplitScript) :
    pressed (pressSplit s script) = pressed s ∨
      ∃ press, Pressed s (.pressSplit script) press ∧ pressed (pressSplit s script) = pressed s ++ [press] := by
  unfold pressSplit
  split
  · exact .inl rfl
  · rename_i off
    split
    · exact .inl rfl
    · rename_i address summary passes
      refine .inr ⟨⟨splitPage s,script,address,summary,passes⟩,⟨rfl,Bool.not_eq_true _ ▸ off,rfl⟩,?_⟩
      simp [pressed,offRests h off]

theorem splitMovesPressed : pressed (splitMoves config s) = pressed s := by
  unfold splitMoves
  split
  · rfl
  · rename_i press shown going
    split
    · simp [pressed,going]
    · unfold endSplit
      split <;> simp [pressed,going]

theorem pressedBeside {s' : App} (beside : Beside s s') : pressed s' = pressed s := by
  rw [pressed,pressed,beside.past,beside.splitting]

theorem stepPressed (s : App) (e : Event) (h : Consistent config s) :
    pressed (step config stableSymbol s e) = pressed s ∨
      ∃ press, Pressed s e press ∧ pressed (step config stableSymbol s e) = pressed s ++ [press] := by
  cases e with
  | pressSplit script => exact pressSplitPressed h script
  | splitMoves => exact .inl splitMovesPressed
  | _ => exact .inl (pressedBeside (stepBeside config stableSymbol s rfl))

theorem landedPaid (press : Press) (contractId : JsString) (shown : Nat) :
    landed (press.ending contractId).2 shown <+: (press.ending contractId).2.applied := by
  unfold landed
  split
  · exact List.prefix_rfl
  · exact List.nil_prefix

theorem appliedBetween (h : Consistent config s) :
    paidBy config s.past <+: s.applied ∧ s.applied <+: paidBy config (pressed s) := by
  cases going : s.splitting with
  | none =>
    rw [(h.rests going).2.1,pressed,going]
    exact ⟨List.prefix_rfl,by simp⟩
  | some running =>
    rw [(h.runs _ _ going).2.1,pressed,going]
    refine ⟨List.prefix_append ..,?_⟩
    have whole := paidAfter config running.1 s.past
    rw [Option.map_some,Option.toList_some,whole]
    exact List.prefix_append_right_inj _ |>.mpr (landedPaid ..)

end Ledger

theorem askedOnce (press : Press) (contractId : JsString) :
    (press.ending contractId).2.applied.Sublist [asked press] := by
  have paid : (press.ending contractId).2.applied =
      (sendXlmSplit press.script.xlm press.address (payments press.summary) press.page.form.memo ⟨[],[]⟩).2.applied :=
    splitApplied
  rw [paid]
  by_cases taken : press.script.xlm.Reaches press.address (payments press.summary) press.page.form.memo ∧
      ∀ detail, press.script.xlm.submission ≠ .rejected detail
  · rw [sendXlmSplitApplied taken.1 taken.2]
    exact List.Sublist.refl _
  · rw [sendXlmSplitNothing]
    · exact List.nil_sublist _
    · intro reaches
      by_contra accepted
      exact taken ⟨reaches,not_exists.mp accepted⟩

theorem paidAsked (config : Config) (presses : List Press) : (paidBy config presses).Sublist (presses.map asked) := by
  induction presses with
  | nil => exact List.Sublist.refl _
  | cons press rest ih =>
    rw [paidBy,List.flatMap_cons,pressHandled,List.map_cons]
    exact (askedOnce press config.contractId).append ih

section Form
variable {config : Config} {stableSymbol : JsString} {s : App}

theorem memoWhole {memo : JsString} (fits : memo.length ≤ MAX_MEMO_UNITS) :
    memoText memo = if JsString.trim memo = [] then none else some memo := by
  have whole : memo.take 28 = memo := List.take_of_length_le fits
  have blank : JsString.trim [] = [] := by decide
  unfold memoText
  rw [whole]
  by_cases empty : memo = []
  · simp [empty,blank]
  · simp [empty]

def MemoFits (s : App) : Prop := s.form.memo.length ≤ MAX_MEMO_UNITS

theorem stepMemo : Preserves (step config stableSymbol) MemoFits := by
  intro s e fits
  cases e with
  | page e | pressRefresh | setTotalXlm text | setPayer i text | addPayer => exact fits
  | setMemo text =>
    simp only [step]
    split
    · exact fits
    · rename_i short
      exact Nat.not_lt.mp short
  | removePayer i | setRecordOnChain checked =>
    simp only [step]
    split <;> exact fits
  | pressSplit script =>
    simp only [step,pressSplit]
    split
    · exact fits
    · split <;> exact fits
  | splitMoves =>
    simp only [step,splitMoves]
    split
    · exact fits
    · split
      · exact fits
      · unfold endSplit
        split
        · exact Nat.zero_le _
        · exact fits
        · exact fits
  | pressSettle row script =>
    simp only [step,pressSettle]
    split
    · split <;> exact fits
    · exact fits
  | settleMoves =>
    simp only [step,settleMoves]
    split
    · exact fits
    · split
      · exact fits
      · unfold endSettle
        split <;> exact fits

end Form

section Sessions
variable (config : Config) (stableSymbol : JsString)

theorem pressesClicked (events : List Event) : ∃ cuts : List Nat, cuts.Pairwise (· < ·) ∧
    List.Forall₂ (CollectedAt (step config stableSymbol) Pressed initial events) cuts
      (pressed (run (step config stableSymbol) initial events)) :=
  runCollects (stepConsistent config stableSymbol) stepPressed consistentInitial rfl events

theorem sessionPays (events : List Event) :
    let s := run (step config stableSymbol) initial events
    s.applied.Sublist ((pressed s).map asked) ∧
    ∀ press ∈ pressed s, some (asked press).source = press.page.address ∧
      (asked press).operations.map Prod.fst = cleanPayers press.page.form ∧
      (∃ amounts : List Int, xlmToStroops press.page.form.totalXlm = .ok amounts.sum ∧
        (asked press).operations.map Prod.snd = amounts.map stroopsAsXlmString) ∧
      (asked press).memo =
        if JsString.trim press.page.form.memo = [] then none else some press.page.form.memo := by
  intro s
  refine ⟨(appliedBetween (runConsistent config stableSymbol events)).2.sublist.trans (paidAsked config _),?_⟩
  intro press member
  obtain ⟨cuts,_,clicked⟩ := pressesClicked config stableSymbol events
  obtain ⟨cut,e,_,click⟩ := collectedFrom clicked member
  obtain ⟨wallet,found⟩ := admittedSummary press.passes
  have targets := paymentsExact found
  obtain ⟨_,anyone,stroops,amount,summed⟩ := summaryExact.mp found
  have fits : press.page.form.memo.length ≤ MAX_MEMO_UNITS := by
    rw [click.found]
    exact runPreserves stepMemo (P := MemoFits) (Nat.zero_le _) _
  have total : ((payments press.summary).map Payment.amountStroops).sum = stroops := by
    rw [targets.2,summed]
    exact Amounts.sharesTotal (List.length_pos_of_ne_nil anyone)
  refine ⟨wallet.symm,?_,⟨(payments press.summary).map Payment.amountStroops,?_,?_⟩,memoWhole fits⟩
  · rw [← targets.1]
    simp [asked,xlmTransaction]
  · rw [total,amount]
  · simp [asked,xlmTransaction]

end Sessions

section Ends
variable {config : Config} {stableSymbol : JsString} {s : App} {press : Press} {shown : Nat}

end Ends

def typed : List Event := [.page (.connect (js "GBUYER")),.setTotalXlm (js "12.5"),.setPayer 0 trialAddress]
def meanwhile : List Event :=
  [.splitMoves,.page .disconnect,.setTotalXlm (js "99")] ++ List.replicate 7 .splitMoves ++ [.addPayer,.splitMoves]

end SplitBill.SplitSession