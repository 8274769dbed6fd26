import SplitBill.Joint

/-! All that a new bill changes. The counter grows by one, the record is stored under the new number with
nobody settled on it, and the number is put at the end of the creator's index and of each payer's, as often as
the payer is listed. The token, the flags and every older bill stay, and a call that traps leaves all of it. -/
namespace SplitBill.CreateFrame
open Host BillSplit BillRegister Transition
variable {Address : Type} [DecidableEq Address]

structure Creates (w w' : Joint.World Address) (bill : Bill Address) : Prop where
  numbered : bill.id.val = (billCount w).val + 1
  counted : billCount w' = bill.id
  absent : ∀ b, getBill w bill.id ≠ .ok b
  stored : getBill w' bill.id = .ok bill
  otherBills : ∀ k, k ≠ bill.id → getBill w' k = getBill w k
  unsettled : ∀ p, isSettled w' bill.id p = false
  flags : ∀ k p, isSettled w' k p = isSettled w k p
  byCreator : ∀ a, billsByCreator w' a = billsByCreator w a ++ if a = bill.creator then [bill.id] else []
  byPayer : ∀ a, billsByPayer w' a = billsByPayer w a ++ List.replicate (bill.payers.count a) bill.id
  tokenAddr : BillSplit.token w' = BillSplit.token w
  token : w'.token = w.token
  published : w'.events = w.events ++ [createdEvent bill]

theorem recordedCreates {w : Joint.World Address} {reg : Bills Address} (m : Mirrors w reg) {bill : Bill Address}
    (next : bill.id.val = (billCount w).val + 1) : Creates w (recorded w bill) bill := by
  have fresh := mirrorsFresh m next
  have flags : ∀ k p, isSettled (recorded w bill) k p = isSettled w k p := fun _ _ => rfl
  exact {
    numbered := next
    counted := rfl
    absent := by
      intro b found
      rw [getBillExact.mp found] at fresh
      contradiction
    stored := by
      rw [getBillExact,recorded]
      exact Function.update_self ..
    otherBills := by
      intro k other
      rw [getBill,getBill,recorded]
      exact congrArg (expect · "bill not found") (Function.update_of_ne other ..)
    unsettled := by
      intro p
      rw [flags]
      by_contra flag
      obtain ⟨b,found,_⟩ := m.flagged bill.id p (eq_true_of_ne_false flag)
      rw [fresh] at found
      contradiction
    flags := flags
    byCreator := by
      intro a
      rw [billsByCreator,recorded]
      simp only [pushBackRead,eq_comm (a := bill.creator)]
      rfl
    byPayer := by
      intro a
      rw [billsByPayer,recorded]
      exact payerLoopRead ..
    tokenAddr := rfl
    token := rfl
    published := rfl }

theorem createExactly (d : Joint.Deployment Address) (inputs : List (Env Address × Joint.Call Address)) (env : Env Address)
    (creator : Address) (payers : List Address) (share : I128) (memo : List UInt8) :
    let w := d.world inputs
    let creating := Joint.invoke d.tokenAddr env w (.bill (.createBill creator payers share memo))
    ((∃ w', creating = .ok w') ↔ env.authorised creator = true ∧ 0 < share.val ∧ payers ≠ [] ∧ payers.length ≤ 20 ∧
      memo.length ≤ 80 ∧ (billCount w).val < 4294967295) ∧
    (∀ w', creating = .ok w' → Joint.step d.tokenAddr w (env,.bill (.createBill creator payers share memo)) = w' ∧
      ∃ id, Creates w w' ⟨id,creator,payers,share,memo,env.timestamp⟩) ∧
    ∀ trap, creating = .error trap → Joint.step d.tokenAddr w (env,.bill (.createBill creator payers share memo)) = w := by
  intro w creating
  obtain ⟨⟨reg,m⟩,_⟩ := Joint.worldAccounted d inputs
  have returns : ∀ w', creating = .ok w' ↔ ∃ id, BillSplit.createBill env w creator payers share memo = .ok (id,w') := by
    intro w'
    simp only [creating,Joint.invoke,BillSplit.invoke,bindOk]
    constructor
    · rintro ⟨⟨id,_⟩,created,same⟩
      cases Except.ok.inj same
      exact ⟨id,created⟩
    · rintro ⟨id,created⟩
      exact ⟨_,created,rfl⟩
  refine ⟨?_,?_,?_⟩
  · simp only [returns,createBillExact]
    constructor
    · rintro ⟨w',id,auth,⟨positive,some,few,short⟩,next,_⟩
      have := id.upper
      exact ⟨auth,positive,some,few,short,by omega⟩
    · rintro ⟨auth,positive,some,few,short,room⟩
      have lower := (billCount w).lower
      exact ⟨_,⟨(billCount w).val + 1,by omega,by omega⟩,auth,⟨positive,some,few,short⟩,rfl,rfl⟩
  · intro w' ok
    obtain ⟨id,created⟩ := (returns w').mp ok
    obtain ⟨_,_,next,rfl⟩ := createBillExact.mp created
    exact ⟨congrArg (commit w) ok,id,recordedCreates m next⟩
  · intro trap refused
    exact congrArg (commit w) refused

end SplitBill.CreateFrame
