import Mathlib.Algebra.BigOperators.Group.List.Basic
import SplitBill.Transition

/-! One machine under another. The upper one may take several ways and names what it does with a label;
the lower one is a total step function. Where every lower step is matched by an upper one under the label
it was given, every lower run is matched by an upper path. -/
namespace SplitBill.Simulation
open Transition
variable {σ ι ℓ β : Type*}

inductive Path (Upper : β → ℓ → β → Prop) : β → List ℓ → β → Prop
  | nil (b : β) : Path Upper b [] b
  | cons {b b' b'' : β} {l : ℓ} {rest : List ℓ} (first : Upper b l b') (later : Path Upper b' rest b'') :
      Path Upper b (l :: rest) b''

def labels (step : σ → ι → σ) (label : σ → ι → ℓ) : σ → List ι → List ℓ
  | _,[] => []
  | s,i :: rest => label s i :: labels step label (step s i) rest

def Matches (step : σ → ι → σ) (label : σ → ι → ℓ) (Upper : β → ℓ → β → Prop) (R : σ → β → Prop) : Prop :=
  ∀ s i b, R s b → ∃ b', Upper b (label s i) b' ∧ R (step s i) b'

section Rules
variable {step : σ → ι → σ} {label : σ → ι → ℓ} {Upper : β → ℓ → β → Prop} {R : σ → β → Prop}

theorem runMatches (one : Matches step label Upper R) {s : σ} {b : β} (start : R s b) (inputs : List ι) :
    ∃ b', Path Upper b (labels step label s inputs) b' ∧ R (run step s inputs) b' := by
  induction inputs generalizing s b with
  | nil => exact ⟨b,.nil b,start⟩
  | cons i rest ih =>
    obtain ⟨middle,first,there⟩ := one s i b start
    obtain ⟨b',later,done⟩ := ih there
    exact ⟨b',.cons first later,done⟩

theorem pathSum {M : Type*} [AddCommMonoid M] {quantity : β → M} {shift : ℓ → M}
    (one : ∀ b l b', Upper b l b' → quantity b' = quantity b + shift l) {b b' : β} {ls : List ℓ}
    (path : Path Upper b ls b') : quantity b' = quantity b + (ls.map shift).sum := by
  induction path with
  | nil b => simp
  | cons first later ih => rw [ih,one _ _ _ first,List.map_cons,List.sum_cons,add_assoc]

end Rules
end SplitBill.Simulation
