import SplitBill.Joint

/-! How the deployed contracts can change. Nothing of the bills is taken back: the counter rises, a bill and a
flag that are there stay, and an index is only added to. So it is from any world to every later one. -/
namespace SplitBill.Growth
open Host Transition
variable {Address : Type} [DecidableEq Address]

structure Grown (w w' : Joint.World Address) : Prop where
  kept : BillRegister.Extends w w'
  byCreator : ∀ a, BillSplit.billsByCreator w a <+: BillSplit.billsByCreator w' a
  byPayer : ∀ a, BillSplit.billsByPayer w a <+: BillSplit.billsByPayer w' a

section Rules
variable {tokenAddr : Address} {w w' w'' : Joint.World Address}

omit [DecidableEq Address] in
theorem grownHere (w : Joint.World Address) : Grown w w where
  kept := ⟨le_rfl,fun _ _ found => found,fun _ _ flag => flag⟩
  byCreator := fun _ => List.prefix_rfl
  byPayer := fun _ => List.prefix_rfl

omit [DecidableEq Address] in
theorem grownMore (first : Grown w w') (second : Grown w' w'') : Grown w w'' where
  kept := {
    counter := first.kept.counter.trans second.kept.counter
    bill := fun k b found => second.kept.bill k b (first.kept.bill k b found)
    flag := fun k p flag => second.kept.flag k p (first.kept.flag k p flag) }
  byCreator := fun a => (first.byCreator a).trans (second.byCreator a)
  byPayer := fun a => (first.byPayer a).trans (second.byPayer a)

theorem stepGrown (w : Joint.World Address) (i : Env Address × Joint.Call Address) (healthy : Joint.Healthy tokenAddr w) :
    Grown w (Joint.step tokenAddr w i) := by
  have kept := Joint.stepExtends healthy i
  obtain ⟨i',same⟩ := Joint.stepBill tokenAddr w i
  rw [same] at kept ⊢
  rcases BillSplit.stepCases (Joint.deployed tokenAddr) w i' with
    idle | ⟨t,moved⟩ | ⟨bill,_,_,created⟩ | ⟨c,bill,t,_,_,_,_,_,_,settled⟩
  · rw [idle]
    exact grownHere w
  · rw [moved] at kept ⊢
    exact ⟨kept,fun _ => List.prefix_rfl,fun _ => List.prefix_rfl⟩
  · rw [created] at kept ⊢
    refine ⟨kept,fun a => ?_,fun a => ?_⟩
    · exact ⟨_,(BillRegister.pushBackRead w.store.billsByCreator bill.creator a bill.id).symm⟩
    · exact ⟨_,(BillRegister.payerLoopRead bill.payers w.store.billsByPayer a bill.id).symm⟩
  · rw [settled] at kept ⊢
    exact ⟨kept,fun _ => List.prefix_rfl,fun _ => List.prefix_rfl⟩

theorem leadsGrown (healthy : Joint.Healthy tokenAddr w) (leads : Leads (Joint.step tokenAddr) w w') : Grown w w' := by
  obtain ⟨inputs,rfl⟩ := leads
  exact runRelates (Joint.stepHealthy tokenAddr) grownHere grownMore stepGrown healthy inputs

end Rules
end SplitBill.Growth
