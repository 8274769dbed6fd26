import SplitBill.Session

/-! The settlements of a session, beside its splits. One is on its way at a time, each was offered to the wallet
that sends it, and what stands under the bills is what the handler makes of the last one. -/
namespace SplitBill.SettleSession
open Client (Config)
open Helpers Pipeline SplitFlow Outcome Session SplitBill.Flow Transition

section Settling
variable {config : Config} {stableSymbol : JsString} {s : App}

def settles : Event → Bool
  | .pressSettle _ _ | .settleMoves => true
  | _ => false

structure BesideSettling (s s' : App) : Prop where
  settling : s'.settling = s.settling
  settleStatus : s'.settleStatus = s.settleStatus
  settled : s'.settled = s.settled

theorem stepBesideSettling (config : Config) (stableSymbol : JsString) (s : App) {e : Event} (other : settles e = false) :
    BesideSettling s (step config stableSymbol s e) := by
  cases e with
  | page e | pressRefresh | setTotalXlm text | setPayer i text | addPayer => exact ⟨rfl,rfl,rfl⟩
  | setMemo text | removePayer i | setRecordOnChain checked =>
    simp only [step]
    split <;> exact ⟨rfl,rfl,rfl⟩
  | pressSplit script =>
    simp only [step,pressSplit]
    split
    · exact ⟨rfl,rfl,rfl⟩
    · split <;> exact ⟨rfl,rfl,rfl⟩
  | splitMoves =>
    simp only [step,splitMoves]
    split
    · exact ⟨rfl,rfl,rfl⟩
    · split
      · exact ⟨rfl,rfl,rfl⟩
      · unfold endSplit
        split <;> exact ⟨rfl,rfl,rfl⟩
  | pressSettle row script | settleMoves => contradiction

def settleReport (config : Config) (stableSymbol : JsString) (presses : List SettlePress) : Status :=
  presses.getLast?.elim .idle fun press =>
    (handleSettle config stableSymbol press.script ⟨some press.address,.idle⟩ (.integer press.bill.id)).1.settleStatus

structure Settling (config : Config) (stableSymbol : JsString) (s : App) : Prop where
  rests : s.settling = none → inProgress s.settleStatus = false ∧ s.settleStatus = settleReport config stableSymbol s.settled
  runs : s.settling.isSome = true → inProgress s.settleStatus = true

theorem settlingBeside (h : Settling config stableSymbol s) {s' : App} (beside : BesideSettling s s') :
    Settling config stableSymbol s' where
  rests := by
    rw [beside.settling,beside.settleStatus,beside.settled]
    exact h.rests
  runs := by
    rw [beside.settling,beside.settleStatus]
    exact h.runs

theorem settleReportAfter (config : Config) (stableSymbol : JsString) (press : SettlePress)
    (settled : List SettlePress) : settleReport config stableSymbol (settled ++ [press]) =
      (handleSettle config stableSymbol press.script ⟨some press.address,.idle⟩ (.integer press.bill.id)).1.settleStatus := by
  rw [settleReport,List.getLast?_concat,Option.elim_some]

theorem endSettleHandled (press : SettlePress) (h : Settling config stableSymbol s) :
    Settling config stableSymbol (endSettle config stableSymbol s press (press.ending config.contractId).1) := by
  have handled := settleReportAfter config stableSymbol press s.settled
  simp only [handleSettle,if_neg press.present] at handled
  cases ending : press.ending config.contractId with
  | mk result trace =>
    rw [SettlePress.ending] at ending
    rw [ending] at handled
    cases result with
    | returned hash | threw e =>
      exact {
        rests := fun _ => by simp [endSettle,inProgress,handled]
        runs := by simp [endSettle] }
    | waiting => exact h

structure SettleClicked (config : Config) (s : App) (e : Event) (press : SettlePress) : Prop where
  clicked : ∃ row, e = .pressSettle row press.script ∧ (s.page.bills.bind fun f => f.value[row]?) = some press.bill
  enabled : inProgress s.settleStatus = false
  wallet : s.page.connected = some press.address
  configured : config.contractId ≠ []
  offered : Shown.offersSettle s.page press.address press.bill = true

theorem pressSettleCases (config : Config) (s : App) (row : Nat) (script : SettleScript) :
    pressSettle config s row script = s ∨ ∃ press, SettleClicked config s (.pressSettle row script) press ∧
      pressSettle config s row script = {s with settleStatus := reported .preparing,settling := some (press,0)} := by
  unfold pressSettle
  split
  · rename_i a b wallet found
    split
    · exact .inl rfl
    · rename_i let_through
      obtain ⟨enabled,configured,offered⟩ : ¬ inProgress s.settleStatus = true ∧ config.contractId ≠ [] ∧
          ¬ Shown.offersSettle s.page a b = false := by simpa only [not_or] using let_through
      exact .inr ⟨⟨a,connectedPresent wallet,b,script⟩,⟨⟨row,rfl,found⟩,eq_false_of_ne_true enabled,wallet,configured,
        eq_true_of_ne_false offered⟩,rfl⟩
  · exact .inl rfl

theorem stepSettling (config : Config) (stableSymbol : JsString) :
    Preserves (step config stableSymbol) (Settling config stableSymbol) := by
  intro s e h
  cases e with
  | pressSettle row script =>
    change Settling config stableSymbol (pressSettle config s row script)
    obtain same | ⟨press,_,started⟩ := pressSettleCases config s row script
    · rw [same]
      exact h
    · rw [started]
      exact ⟨by simp,fun _ => rfl⟩
  | settleMoves =>
    simp only [step,settleMoves]
    split
    · exact h
    · rename_i press shown going
      split
      · exact ⟨by simp,fun _ => rfl⟩
      · exact endSettleHandled press h
  | _ => exact settlingBeside h (stepBesideSettling config stableSymbol s rfl)

def settlePressed (s : App) : List SettlePress := s.settled ++ (s.settling.map Prod.fst).toList

theorem settleBeside {s' : App} (beside : BesideSettling s s') : settlePressed s' = settlePressed s := by
  rw [settlePressed,settlePressed,beside.settled,beside.settling]

theorem stepSettlePressed (s : App) (e : Event) (h : Settling config stableSymbol s) :
    settlePressed (step config stableSymbol s e) = settlePressed s ∨ ∃ press, SettleClicked config s e press ∧
      settlePressed (step config stableSymbol s e) = settlePressed s ++ [press] := by
  cases e with
  | pressSettle row script =>
    obtain same | ⟨press,clicked,started⟩ := pressSettleCases config s row script
    · exact .inl (congrArg settlePressed same)
    · refine .inr ⟨press,clicked,?_⟩
      have resting : s.settling = none := by
        by_contra running
        have on := h.runs (Option.isSome_iff_ne_none.mpr running)
        rw [clicked.enabled] at on
        contradiction
      refine (congrArg settlePressed started).trans ?_
      simp [settlePressed,resting]
  | settleMoves =>
    left
    simp only [step,settleMoves]
    split
    · rfl
    · rename_i press shown going
      split
      · simp [settlePressed,going]
      · unfold endSettle
        split <;> simp [settlePressed,going]
  | _ => exact .inl (settleBeside (stepBesideSettling config stableSymbol s rfl))

end Settling

theorem settlementsRefine (config : Config) (stableSymbol : JsString) (events : List Event) :
    let s := run (step config stableSymbol) initial events
    (∃ cuts : List Nat, cuts.Pairwise (· < ·) ∧
      List.Forall₂ (CollectedAt (step config stableSymbol) (SettleClicked config) initial events) cuts (settlePressed s)) ∧
    (s.settling = none → inProgress s.settleStatus = false ∧
      s.settleStatus = settleReport config stableSymbol (settlePressed s)) ∧
    (s.settling.isSome = true → inProgress s.settleStatus = true) := by
  intro s
  have start : Settling config stableSymbol initial := ⟨by simp [initial,inProgress,settleReport],by simp [initial]⟩
  have h : Settling config stableSymbol s := runPreserves (stepSettling config stableSymbol) start events
  refine ⟨runCollects (stepSettling config stableSymbol) stepSettlePressed start rfl events,?_,h.runs⟩
  intro resting
  have all : settlePressed s = s.settled := by simp [settlePressed,resting]
  rw [all]
  exact h.rests resting

end SplitBill.SettleSession
