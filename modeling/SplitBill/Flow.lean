import Mathlib

/-! Programs that can fail. A synchronous one is an Except. An asynchronous one acts on a state and
returns, throws, or still waits for an answer; what it did before it threw stays done. -/
namespace SplitBill

section Except
variable {ε α β : Type}

def failIf (c : Prop) [Decidable c] (e : ε) : Except ε Unit := if c then .error e else .ok ()

@[simp] theorem bindOk {x : Except ε α} {f : α → Except ε β} {b : β} :
    (x >>= f) = .ok b ↔ ∃ a, x = .ok a ∧ f a = .ok b := by
  cases x <;> simp [bind,Except.bind]

theorem bindError {x : Except ε α} {f : α → Except ε β} {e : ε} :
    (x >>= f) = .error e ↔ x = .error e ∨ ∃ a, x = .ok a ∧ f a = .error e := by
  cases x <;> simp [bind,Except.bind]

@[simp] theorem okBind (a : α) (f : α → Except ε β) : (Except.ok a >>= f) = f a := rfl

@[simp] theorem failIfOk {c : Prop} [Decidable c] {e : ε} {u : Unit} : failIf c e = .ok u ↔ ¬ c := by
  unfold failIf
  split <;> simp_all

@[simp] theorem failIfError {c : Prop} [Decidable c] {e f : ε} : failIf c e = .error f ↔ c ∧ e = f := by
  unfold failIf
  split <;> simp_all

@[simp] theorem mapErrorOk {μ : Type} {x : Except μ α} {f : μ → ε} {a : α} : x.mapError f = .ok a ↔ x = .ok a := by
  cases x <;> simp [Except.mapError]

theorem unitOk {x : Except ε Unit} : (∃ u, x = .ok u) ↔ x = .ok () :=
  ⟨fun ⟨_,h⟩ => h,fun h => ⟨(),h⟩⟩

end Except

inductive Ended (ε α : Type) where
  | returned (value : α)
  | threw (error : ε)
  | waiting
  deriving DecidableEq, Repr

def Flow (ε σ α : Type) : Type := σ → Ended ε α × σ

namespace Flow
variable {ε μ σ α β γ : Type}

instance : Monad (Flow ε σ) where
  pure a := fun s => (.returned a,s)
  bind f g := fun s =>
    match f s with
    | (.returned a,t) => g a t
    | (.threw e,t) => (.threw e,t)
    | (.waiting,t) => (.waiting,t)

def throwing (e : ε) : Flow ε σ α := fun s => (.threw e,s)

def act (change : σ → σ) : Flow ε σ Unit := fun s => (.returned (),change s)

def attempt (answer : Except μ α) (describe : μ → ε) : Flow ε σ α := fun s =>
  match answer with
  | .ok a => (.returned a,s)
  | .error m => (.threw (describe m),s)

def await (answer : Option (Except ε α)) : Flow ε σ α := fun s =>
  match answer with
  | some (.ok a) => (.returned a,s)
  | some (.error e) => (.threw e,s)
  | none => (.waiting,s)

def Returns (f : Flow ε σ α) (s : σ) (a : α) : Prop := (f s).1 = .returned a

def Throws (f : Flow ε σ α) (s : σ) : Prop := ∃ e, (f s).1 = .threw e

@[simp] theorem returnsPure {s : σ} {a b : α} : Returns (pure a : Flow ε σ α) s b ↔ a = b := by
  simp [Returns,pure]

@[simp] theorem returnsThrowing {s : σ} {e : ε} {a : α} : ¬ Returns (throwing e) s a := by
  simp [Returns,throwing]

@[simp] theorem returnsAct {s : σ} {change : σ → σ} {u : Unit} : Returns (act change : Flow ε σ Unit) s u := rfl

@[simp] theorem returnsAttempt {s : σ} {answer : Except μ α} {describe : μ → ε} {a : α} :
    Returns (attempt answer describe) s a ↔ answer = .ok a := by
  cases answer <;> simp [Returns,attempt]

@[simp] theorem returnsAwait {s : σ} {answer : Option (Except ε α)} {a : α} :
    Returns (await answer) s a ↔ answer = some (.ok a) := by
  cases answer with
  | none => simp [Returns,await]
  | some answer => cases answer <;> simp [Returns,await]

@[simp] theorem returnsBind {f : Flow ε σ α} {g : α → Flow ε σ β} {s : σ} {b : β} :
    Returns (f >>= g) s b ↔ ∃ a, Returns f s a ∧ Returns (g a) (f s).2 b := by
  unfold Returns
  simp only [bind]
  cases ending : f s with
  | mk result t => cases result <;> simp

@[simp] theorem throwsPure {s : σ} {a : α} : ¬ Throws (pure a : Flow ε σ α) s := by
  simp [Throws,pure]

@[simp] theorem throwsThrowing {s : σ} {e : ε} : Throws (throwing e : Flow ε σ α) s := ⟨e,rfl⟩

@[simp] theorem throwsAct {s : σ} {change : σ → σ} : ¬ Throws (act change : Flow ε σ Unit) s := by
  simp [Throws,act]

@[simp] theorem throwsAttempt {s : σ} {answer : Except μ α} {describe : μ → ε} :
    Throws (attempt answer describe) s ↔ ∃ m, answer = .error m := by
  cases answer <;> simp [Throws,attempt]

@[simp] theorem throwsAwait {s : σ} {answer : Option (Except ε α)} :
    Throws (await answer) s ↔ ∃ e, answer = some (.error e) := by
  cases answer with
  | none => simp [Throws,await]
  | some answer => cases answer <;> simp [Throws,await]

@[simp] theorem throwsBind {f : Flow ε σ α} {g : α → Flow ε σ β} {s : σ} :
    Throws (f >>= g) s ↔ Throws f s ∨ ∃ a, Returns f s a ∧ Throws (g a) (f s).2 := by
  unfold Throws Returns
  simp only [bind]
  cases ending : f s with
  | mk result t => cases result <;> simp

theorem bindAssoc (f : Flow ε σ α) (g : α → Flow ε σ β) (h : β → Flow ε σ γ) :
    (f >>= g) >>= h = f >>= fun a => g a >>= h := by
  funext s
  simp only [bind]
  cases f s with
  | mk result t => cases result <;> rfl

theorem bindState {f : Flow ε σ α} {g : α → Flow ε σ β} {s : σ} {a : α} (returns : Returns f s a) :
    (f >>= g) s = g a (f s).2 := by
  unfold Returns at returns
  simp only [bind]
  cases ending : f s with
  | mk result t =>
    rw [ending] at returns
    cases returns
    rfl

theorem bindStopped {f : Flow ε σ α} {g : α → Flow ε σ β} {s : σ} (stops : ∀ a, ¬ Returns f s a) :
    ((f >>= g) s).2 = (f s).2 := by
  unfold Returns at stops
  simp only [bind]
  cases ending : f s with
  | mk result t =>
    rw [ending] at stops
    cases result with
    | returned a => exact absurd rfl (stops a)
    | threw e => rfl
    | waiting => rfl

@[simp] theorem actState {s : σ} {change : σ → σ} : (act change s : Ended ε Unit × σ).2 = change s := rfl

@[simp] theorem attemptState {s : σ} {answer : Except μ α} {describe : μ → ε} : (attempt answer describe s).2 = s := by
  cases answer <;> rfl

@[simp] theorem failsOr {answer : Except μ α} {P : Prop} :
    ((∃ m, answer = .error m) ∨ (∃ a, answer = .ok a) ∧ P) ↔ (∃ m, answer = .error m) ∨ P := by
  cases answer <;> simp

theorem returnsNotThrows {f : Flow ε σ α} {s : σ} {a : α} (returns : Returns f s a) : ¬ Throws f s := by
  intro ⟨e,threw⟩
  rw [returns] at threw
  contradiction

def Keeps (view : σ → γ) (f : Flow ε σ α) : Prop := ∀ s, view (f s).2 = view s

variable {view : σ → γ}

theorem keepsPure (a : α) : Keeps view (pure a : Flow ε σ α) := fun _ => rfl

theorem keepsAct {change : σ → σ} (same : ∀ s, view (change s) = view s) :
    Keeps view (act change : Flow ε σ Unit) := same

theorem keepsAttempt (answer : Except μ α) (describe : μ → ε) : Keeps view (attempt answer describe : Flow ε σ α) := by
  intro s
  cases answer <;> rfl

theorem keepsAwait (answer : Option (Except ε α)) : Keeps view (await answer : Flow ε σ α) := by
  intro s
  cases answer with
  | none => rfl
  | some answer => cases answer <;> rfl

theorem keepsBind {f : Flow ε σ α} {g : α → Flow ε σ β} (first : Keeps view f) (next : ∀ a, Keeps view (g a)) :
    Keeps view (f >>= g) := by
  intro s
  have before := first s
  simp only [bind]
  cases ending : f s with
  | mk result t =>
    rw [ending] at before
    cases result with
    | returned a => exact (next a t).trans before
    | threw e => exact before
    | waiting => exact before

theorem keepsAfter {f : Flow ε σ α} {g : α → Flow ε σ β} (next : ∀ a, Keeps view (g a)) (s : σ) :
    view ((f >>= g) s).2 = view (f s).2 := by
  simp only [bind]
  cases ending : f s with
  | mk result t =>
    cases result with
    | returned a => exact next a t
    | threw e => rfl
    | waiting => rfl

end Flow
end SplitBill
