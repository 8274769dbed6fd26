import Mathlib.Data.List.Forall2
import Mathlib.Data.List.Induction
import Mathlib.Order.Basic

/-! Runs of a total step function over a list of inputs. A step that is refused
returns the state it was given, so a refused input is a step like any other. -/
namespace SplitBill.Transition
variable {σ ι : Type*}

def run (step : σ → ι → σ) (s : σ) (inputs : List ι) : σ := inputs.foldl step s

@[simp] theorem runNil (step : σ → ι → σ) (s : σ) : run step s [] = s := rfl

@[simp] theorem runCons (step : σ → ι → σ) (s : σ) (i : ι) (rest : List ι) :
    run step s (i :: rest) = run step (step s i) rest := rfl

theorem runAppend (step : σ → ι → σ) (s : σ) (first later : List ι) :
    run step s (first ++ later) = run step (run step s first) later := List.foldl_append ..

def Preserves (step : σ → ι → σ) (P : σ → Prop) : Prop := ∀ s i, P s → P (step s i)

theorem runPreserves {step : σ → ι → σ} {P : σ → Prop} (kept : Preserves step P) {s : σ} (start : P s)
    (inputs : List ι) : P (run step s inputs) := by
  induction inputs generalizing s with
  | nil => exact start
  | cons i rest ih => exact ih (kept s i start)

theorem runRelates {step : σ → ι → σ} {P : σ → Prop} (kept : Preserves step P) {R : σ → σ → Prop}
    (refl : ∀ s, R s s) (trans : ∀ {a b c}, R a b → R b c → R a c)
    (one : ∀ s i, P s → R s (step s i)) {s : σ} (start : P s) (inputs : List ι) :
    R s (run step s inputs) := by
  induction inputs generalizing s with
  | nil => exact refl s
  | cons i rest ih => exact trans (one s i start) (ih (kept s i start))

def Leads (step : σ → ι → σ) (s t : σ) : Prop := ∃ inputs, run step s inputs = t

theorem leadsHere (step : σ → ι → σ) (s : σ) : Leads step s s := ⟨[],rfl⟩

theorem leadsStep (step : σ → ι → σ) (s : σ) (i : ι) : Leads step s (step s i) := ⟨[i],rfl⟩

theorem leadsMore {step : σ → ι → σ} {s t u : σ} (first : Leads step s t) (later : Leads step t u) : Leads step s u := by
  obtain ⟨inputs,rfl⟩ := first
  obtain ⟨more,rfl⟩ := later
  exact ⟨inputs ++ more,runAppend ..⟩

theorem leadsKeeps {step : σ → ι → σ} {P : σ → Prop} (kept : Preserves step P) {s t : σ} (leads : Leads step s t)
    (start : P s) : P t := by
  obtain ⟨inputs,rfl⟩ := leads
  exact runPreserves kept start inputs

theorem runSnoc (step : σ → ι → σ) (s : σ) (inputs : List ι) (i : ι) :
    run step s (inputs ++ [i]) = step (run step s inputs) i := runAppend ..

def CollectedAt {α : Type*} (step : σ → ι → σ) (R : σ → ι → α → Prop) (s : σ) (inputs : List ι) (cut : Nat)
    (a : α) : Prop := ∃ i, inputs[cut]? = some i ∧ R (run step s (inputs.take cut)) i a

theorem collectedLater {α : Type*} {step : σ → ι → σ} {R : σ → ι → α → Prop} {s : σ} {inputs : List ι} {cut : Nat}
    {a : α} (collected : CollectedAt step R s inputs cut a) (more : List ι) :
    cut < inputs.length ∧ CollectedAt step R s (inputs ++ more) cut a := by
  obtain ⟨i,found,made⟩ := collected
  have inside : cut < inputs.length := (List.getElem?_eq_some_iff.mp found).1
  refine ⟨inside,i,?_,?_⟩
  · rw [List.getElem?_append_left inside,found]
  · rw [List.take_append_of_le_length (Nat.le_of_lt inside)]
    exact made

theorem collectedFrom {α : Type*} {step : σ → ι → σ} {R : σ → ι → α → Prop} {s : σ} {inputs : List ι} {cuts : List Nat}
    {collected : List α} (found : List.Forall₂ (CollectedAt step R s inputs) cuts collected) {a : α}
    (member : a ∈ collected) : ∃ cut, CollectedAt step R s inputs cut a := by
  have each := found.flip.imp fun a cut there => (⟨⟨cut,there⟩,there⟩ : (∃ cut, CollectedAt step R s inputs cut a) ∧ _)
  exact ((List.forall₂_and_left _ _).mp each).1 a member

theorem runCollects {α : Type*} {step : σ → ι → σ} {P : σ → Prop} (kept : Preserves step P) {collected : σ → List α}
    {R : σ → ι → α → Prop}
    (one : ∀ s i, P s → collected (step s i) = collected s ∨ ∃ a, R s i a ∧ collected (step s i) = collected s ++ [a])
    {s : σ} (start : P s) (empty : collected s = []) (inputs : List ι) :
    ∃ cuts : List Nat, cuts.Pairwise (· < ·) ∧
      List.Forall₂ (CollectedAt step R s inputs) cuts (collected (run step s inputs)) := by
  induction inputs using List.reverseRecOn with
  | nil =>
    refine ⟨[],.nil,?_⟩
    rw [runNil,empty]
    exact .nil
  | append_singleton inputs i ih =>
    obtain ⟨cuts,sorted,earlier⟩ := ih
    obtain ⟨inside,still⟩ := (List.forall₂_and_left cuts _).mp (earlier.imp fun cut a found => collectedLater found [i])
    rw [runSnoc]
    obtain same | ⟨a,made,grown⟩ := one (run step s inputs) i (runPreserves kept start inputs)
    · rw [same]
      exact ⟨cuts,sorted,still⟩
    · rw [grown]
      refine ⟨cuts ++ [inputs.length],?_,?_⟩
      · rw [List.pairwise_append]
        refine ⟨sorted,List.pairwise_singleton ..,?_⟩
        intro cut earlierCut last isLast
        rw [List.mem_singleton.mp isLast]
        exact inside cut earlierCut
      · refine List.rel_append still (.cons ⟨i,?_,?_⟩ .nil)
        · exact List.getElem?_concat_length
        · rw [List.take_left]
          exact made

def Along (step : σ → ι → σ) (allowed : σ → ι → Prop) : σ → List ι → Prop
  | _,[] => True
  | s,i :: rest => allowed s i ∧ Along step allowed (step s i) rest

def decideAlong (step : σ → ι → σ) (allowed : σ → ι → Prop) [∀ s i, Decidable (allowed s i)] :
    (s : σ) → (inputs : List ι) → Decidable (Along step allowed s inputs)
  | _,[] => .isTrue trivial
  | s,i :: rest =>
      have := decideAlong step allowed (step s i) rest
      inferInstanceAs (Decidable (allowed s i ∧ Along step allowed (step s i) rest))

instance (step : σ → ι → σ) (allowed : σ → ι → Prop) [∀ s i, Decidable (allowed s i)] (s : σ) (inputs : List ι) :
    Decidable (Along step allowed s inputs) := decideAlong step allowed s inputs

theorem alongAppend {step : σ → ι → σ} {allowed : σ → ι → Prop} {s : σ} {first later : List ι} :
    Along step allowed s (first ++ later) ↔ Along step allowed s first ∧ Along step allowed (run step s first) later := by
  induction first generalizing s with
  | nil => simp [Along]
  | cons i rest ih => rw [List.cons_append,Along,Along,ih,runCons,and_assoc]

theorem alongPreserves {step : σ → ι → σ} {allowed : σ → ι → Prop} {P : σ → Prop}
    (kept : ∀ s i, allowed s i → P s → P (step s i)) {s : σ} (start : P s) {inputs : List ι}
    (along : Along step allowed s inputs) : P (run step s inputs) := by
  induction inputs generalizing s with
  | nil => exact start
  | cons i rest ih => exact ih (kept s i along.1 start) along.2

end SplitBill.Transition
