import SplitBill.Flow

/-! Programs that only add to a record. The record is a monoid; what a program adds and how it ends are
described together, and the description of a sequence is that of its parts, what was added first in front. -/
namespace SplitBill.Flow
variable {ε μ σ α β : Type} [Monoid σ]

def Adds (S : σ → Ended ε α → Prop) (f : Flow ε σ α) : Prop := ∀ s, ∃ added, (f s).2 = s * added ∧ S added (f s).1

section Rules
variable {S : σ → Ended ε β → Prop} {g : α → Flow ε σ β}

theorem addsPure {b : β} (ends : S 1 (.returned b)) : Adds S (pure b) := fun s => ⟨1,(mul_one s).symm,ends⟩

theorem addsThrowing {e : ε} (ends : S 1 (.threw e)) : Adds S (throwing e) := fun s => ⟨1,(mul_one s).symm,ends⟩

theorem addsBind {T : σ → Ended ε α → Prop} {f : Flow ε σ α} (first : Adds T f)
    (returns : ∀ d a, T d (.returned a) → Adds (fun d' => S (d * d')) (g a))
    (throws : ∀ d e, T d (.threw e) → S d (.threw e)) (waits : ∀ d, T d .waiting → S d .waiting) : Adds S (f >>= g) := by
  intro s
  obtain ⟨d,added,ends⟩ := first s
  simp only [bind]
  cases ending : f s with
  | mk result t =>
    rw [ending] at added ends
    subst added
    cases result with
    | returned a =>
      obtain ⟨d',later,rest⟩ := returns d a ends (s * d)
      exact ⟨d * d',later.trans (mul_assoc s d d'),rest⟩
    | threw e => exact ⟨d,rfl,throws d e ends⟩
    | waiting => exact ⟨d,rfl,waits d ends⟩

theorem addsNote {change : σ → σ} {d : σ} {g : Unit → Flow ε σ β} (adds : ∀ s, change s = s * d)
    (next : Adds (fun d' => S (d * d')) (g ())) : Adds S (act change >>= g) := by
  refine addsBind (T := fun d' e => d' = d ∧ e = .returned ()) (fun s => ⟨d,adds s,rfl,rfl⟩) ?_ ?_ ?_
  · rintro _ _ ⟨rfl,_⟩
    exact next
  · rintro _ _ ⟨_,absurd⟩
    contradiction
  · rintro _ ⟨_,absurd⟩
    contradiction

theorem addsAttempt {answer : Except μ α} {describe : μ → ε}
    (fails : ∀ m, answer = .error m → S 1 (.threw (describe m))) (next : ∀ a, answer = .ok a → Adds S (g a)) :
    Adds S (attempt answer describe >>= g) := by
  intro s
  cases same : answer with
  | error m => exact ⟨1,(mul_one s).symm,fails m same⟩
  | ok a => exact next a same s

theorem addsAwait {answer : Option (Except ε α)} (waits : answer = none → S 1 .waiting)
    (fails : ∀ e, answer = some (.error e) → S 1 (.threw e)) (next : ∀ a, answer = some (.ok a) → Adds S (g a)) :
    Adds S (await answer >>= g) := by
  intro s
  cases same : answer with
  | none => exact ⟨1,(mul_one s).symm,waits same⟩
  | some answered =>
    cases answered with
    | error e => exact ⟨1,(mul_one s).symm,fails e same⟩
    | ok a => exact next a same s

end Rules
end SplitBill.Flow
