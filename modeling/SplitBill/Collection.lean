import Mathlib.Data.List.Dedup
import Mathlib.Algebra.BigOperators.Group.List.Basic
import SplitBill.Joint

/-! What a bill collects. Charges are made once for each settled address, the total
the page shows counts every entry of the payer list; the two agree only when no
address is listed twice. -/
namespace SplitBill.Collection
open Host BillSplit BillRegister Settlement
variable {Address τ : Type} [DecidableEq Address]

def chargesOf (w : World Address τ) (id : U32) : List (Charge Address) := w.charges.filter (fun c => c.id = id)

def collected (w : World Address τ) (id : U32) : Int := ((chargesOf w id).map (fun c => c.amount.val)).sum

/- The bill list: share times payers.length. -/
def displayedTotal (bill : Bill Address) : Int := bill.share.val * bill.payers.length

def FullySettled (w : World Address τ) (bill : Bill Address) : Prop :=
  ∀ p ∈ bill.payers, isSettled w bill.id p = true
instance (w : World Address τ) (bill : Bill Address) : Decidable (FullySettled w bill) := by
  unfold FullySettled; infer_instance

theorem payersDistinct {token : Address} {w : World Address τ} (tally : Tally token w) (id : U32) :
    ((chargesOf w id).map Charge.payer).Nodup := by
  apply List.nodup_iff_count_le_one.mpr
  intro p
  have once := (chargesAtMostOne tally id p).1
  have same : ((chargesOf w id).map Charge.payer).count p = (chargesFor w id p).length := by
    rw [List.count,List.countP_map,chargesOf,List.countP_filter,List.countP_eq_length_filter,chargesFor]
    congr 2
    funext c
    rw [Bool.eq_iff_iff]
    simp [and_comm]
  omega

theorem payersSettled {token : Address} {w : World Address τ} (tally : Tally token w) {id : U32} {bill : Bill Address}
    (found : getBill w id = .ok bill) (p : Address) :
    p ∈ (chargesOf w id).map Charge.payer ↔ p ∈ bill.payers ∧ isSettled w id p = true := by
  constructor
  · intro member
    obtain ⟨c,mem,rfl⟩ := List.mem_map.mp member
    obtain ⟨inside,same⟩ := List.mem_filter.mp mem
    have number : c.id = id := by simpa using same
    obtain ⟨flag,_,b,stored,listed,_⟩ := chargeSource tally inside
    rw [number] at flag stored
    cases Except.ok.inj (stored.symm.trans found)
    exact ⟨listed,flag⟩
  · intro h
    obtain ⟨b,env,_,_,_,charges,_⟩ := tally.paid id p h.2
    have one : chargeOf env token b p ∈ chargesFor w id p := by rw [charges]; exact List.mem_singleton_self _
    obtain ⟨inside,same⟩ := List.mem_filter.mp one
    have number : (chargeOf env token b p).id = id := (by simpa using same : _ ∧ _).1
    exact List.mem_map.mpr ⟨_,List.mem_filter.mpr ⟨inside,by simpa using number⟩,rfl⟩

theorem amountsEqualShare {token : Address} {w : World Address τ} (tally : Tally token w) {id : U32}
    {bill : Bill Address} (found : getBill w id = .ok bill) :
    ∀ n ∈ (chargesOf w id).map (fun c => c.amount.val), n = bill.share.val := by
  intro n member
  obtain ⟨c,mem,rfl⟩ := List.mem_map.mp member
  obtain ⟨inside,same⟩ := List.mem_filter.mp mem
  obtain ⟨_,_,b,stored,_,shape⟩ := chargeSource tally inside
  have number : c.id = id := by simpa using same
  rw [number] at stored
  cases Except.ok.inj (stored.symm.trans found)
  rw [shape]
  rfl

theorem collectedDistinct {token : Address} {w : World Address τ} (tally : Tally token w) {id : U32}
    {bill : Bill Address} (found : getBill w id = .ok bill) (number : bill.id = id) (full : FullySettled w bill) :
    collected w id = bill.share.val * bill.payers.dedup.length := by
  have sameMembers : ∀ p, p ∈ (chargesOf w id).map Charge.payer ↔ p ∈ bill.payers.dedup := by
    intro p
    rw [payersSettled tally found,List.mem_dedup]
    exact ⟨fun h => h.1,fun listed => ⟨listed,by rw [← number]; exact full p listed⟩⟩
  have perm := (List.perm_ext_iff_of_nodup (payersDistinct tally id) (List.nodup_dedup _)).mpr sameMembers
  have count : (chargesOf w id).length = bill.payers.dedup.length := by
    have lengths := perm.length_eq
    rwa [List.length_map] at lengths
  rw [collected,List.sum_eq_card_nsmul _ _ (amountsEqualShare tally found),List.length_map,count,nsmul_eq_mul,mul_comm]

theorem dedupFull (payers : List Address) : payers.dedup.length = payers.length ↔ payers.Nodup := by
  constructor
  · intro same
    exact List.dedup_eq_self.mp ((List.dedup_sublist payers).eq_of_length same)
  · intro distinct
    rw [distinct.dedup]

theorem fullySettledCollects (d : Joint.Deployment Address) (inputs : List (Env Address × Joint.Call Address)) :
    ∀ id bill, getBill (d.world inputs) id = .ok bill → FullySettled (d.world inputs) bill →
      (collected (d.world inputs) id = displayedTotal bill ↔ bill.payers.Nodup) := by
  intro id bill found full
  obtain ⟨⟨reg,m⟩,tally⟩ := Joint.worldAccounted d inputs
  obtain ⟨number,positive,_⟩ := billSound m found
  rw [collectedDistinct tally found number full,displayedTotal,← dedupFull,
    mul_right_inj' (by omega : bill.share.val ≠ 0),Nat.cast_inj]

def twiceListed : List (Env Nat × Joint.Call Nat) :=
  [Joint.trialMint,
   (Joint.trialEnv,.bill (.createBill 2 [1,1] (.lit 5) [])),
   (Joint.trialEnv,.bill (.settle (.lit 1) 1))]

theorem twiceListedUndercollects : ∃ bill,
    getBill (Joint.trialDeployment.world twiceListed) (.lit 1) = .ok bill ∧
    bill.payers = [1,1] ∧ FullySettled (Joint.trialDeployment.world twiceListed) bill ∧
    collected (Joint.trialDeployment.world twiceListed) bill.id = 5 ∧ displayedTotal bill = 10 :=
  ⟨_,rfl,rfl,by decide,by decide,by decide⟩

def eachListedOnce : List (Env Nat × Joint.Call Nat) :=
  [Joint.trialMint,
   (Joint.trialEnv,.token (.mint 3 (.lit 8))),
   (Joint.trialEnv,.bill (.createBill 2 [1,3] (.lit 5) [])),
   (Joint.trialEnv,.bill (.settle (.lit 1) 3)),
   (Joint.trialEnv,.bill (.settle (.lit 1) 1))]

theorem eachListedOnceCollects : ∃ bill, getBill (Joint.trialDeployment.world eachListedOnce) (.lit 1) = .ok bill ∧
    FullySettled (Joint.trialDeployment.world eachListedOnce) bill ∧
    collected (Joint.trialDeployment.world eachListedOnce) (.lit 1) = displayedTotal bill :=
  ⟨_,rfl,by decide,(fullySettledCollects Joint.trialDeployment eachListedOnce (.lit 1) _ rfl (by decide)).mpr (by decide)⟩

end SplitBill.Collection
