import SplitBill.Helpers
import SplitBill.Payable

/-! Simulation errors on their way to the user. The contracts stop with a panic text or an error code, the
host wraps it into a longer text, and the page looks for known words in it, in a fixed order. Words that
stand around the failure count as well, and the error code is none of the words. -/
namespace SplitBill.SimErrors
open Host JsString Helpers

inductive Failure
  | shareNotPositive
  | payersRequired
  | tooManyPayers
  | memoTooLong
  | notAPayer
  | alreadySettled
  | billNotFound
  | insufficientBalance
  deriving DecidableEq, Repr

namespace Failure

def all : List Failure :=
  [shareNotPositive,payersRequired,tooManyPayers,memoTooLong,notAPayer,alreadySettled,billNotFound,insufficientBalance]

def trap : Failure → Trap
  | shareNotPositive => .panic "share must be positive"
  | payersRequired => .panic "payers required"
  | tooManyPayers => .panic "too many payers"
  | memoTooLong => .panic "memo too long"
  | notAPayer => .panic "address is not a payer on this bill"
  | alreadySettled => .panic "already settled"
  | billNotFound => .panic "bill not found"
  | insufficientBalance => StableToken.Error.insufficientBalance.trap

def text : Failure → JsString
  | shareNotPositive => js "share must be positive"
  | payersRequired => js "payers required"
  | tooManyPayers => js "too many payers"
  | memoTooLong => js "memo too long"
  | notAPayer => js "address is not a payer on this bill"
  | alreadySettled => js "already settled"
  | billNotFound => js "bill not found"
  | insufficientBalance => js "Error(Contract, #2)"

def friendly : Failure → JsString
  | shareNotPositive => js "Per-payer share must be greater than 0."
  | payersRequired => js "At least one payer address is required."
  | tooManyPayers => js "Too many payers (max 20 per bill)."
  | memoTooLong => js "Memo must be 80 characters or fewer."
  | notAPayer => js "This address is not a payer on that bill."
  | alreadySettled => js "This payer has already settled."
  | billNotFound => js "Bill not found."
  | insufficientBalance => js "Insufficient balance for this transaction."

def searched : Failure → JsString
  | shareNotPositive => js "share must be positive"
  | payersRequired => js "payers required"
  | tooManyPayers => js "too many payers"
  | memoTooLong => js "memo too long"
  | notAPayer => js "not a payer"
  | alreadySettled => js "already settled"
  | billNotFound => js "bill not found"
  | insufficientBalance => js "insufficient"

def found (raw : JsString) (f : Failure) : Bool :=
  includes (if f = insufficientBalance then toLowerCase raw else raw) f.searched

def earlier (f : Failure) : List Failure := all.takeWhile (· ≠ f)

end Failure
open Failure

/- What the host says of a trap that a contract has raised itself. -/
def reported : Trap → Option JsString
  | .panic message => some (js message)
  | .contractError code => some (js "Error(Contract, #" ++ decimal code ++ js ")")
  | .unauthorised | .overflow | .missingContract => none

theorem reportedText (f : Failure) : reported f.trap = some f.text := by
  cases f <;> rfl

section Contracts
variable {Address τ : Type} [DecidableEq Address]

theorem createBillTraps {env : Env Address} {w : BillSplit.World Address τ} {creator : Address} {payers : List Address}
    {share : I128} {memo : List UInt8} {t : Trap} (refused : BillSplit.createBill env w creator payers share memo = .error t) :
    t = .unauthorised ∨ t = .overflow ∨ ∃ f : Failure, f.trap = t := by
  rcases bindError.mp refused with unsigned | ⟨_,_,refused⟩
  · exact .inl (requireAuthError.mp unsigned).2.symm
  rcases bindError.mp refused with stop | ⟨_,_,refused⟩
  · exact .inr (.inr ⟨.shareNotPositive,(failIfError.mp stop).2⟩)
  rcases bindError.mp refused with stop | ⟨_,_,refused⟩
  · exact .inr (.inr ⟨.payersRequired,(failIfError.mp stop).2⟩)
  rcases bindError.mp refused with stop | ⟨_,_,refused⟩
  · exact .inr (.inr ⟨.tooManyPayers,(failIfError.mp stop).2⟩)
  rcases bindError.mp refused with stop | ⟨_,_,refused⟩
  · exact .inr (.inr ⟨.memoTooLong,(failIfError.mp stop).2⟩)
  rcases bindError.mp refused with full | ⟨_,_,returned⟩
  · exact .inr (.inl (arithmeticError.mp full).2.symm)
  · contradiction

theorem settleTraps {tokenAddr : Address} {env : Env Address} {w : Joint.World Address} {id : U32} {q : Address} {t : Trap}
    (healthy : Joint.Healthy tokenAddr w) (refused : Joint.invoke tokenAddr env w (.bill (.settle id q)) = .error t) :
    t = .unauthorised ∨ ∃ f : Failure, f.trap = t := by
  obtain ⟨⟨⟨reg,m⟩,tally⟩,backed⟩ := healthy
  rcases bindError.mp refused with unsigned | ⟨_,_,refused⟩
  · exact .inl (requireAuthError.mp unsigned).2.symm
  rcases bindError.mp refused with missing | ⟨bill,found,refused⟩
  · refine .inr ⟨.billNotFound,?_⟩
    cases stored : w.store.bill id with
    | none =>
      rw [stored] at missing
      exact Except.error.inj missing
    | some bill =>
      rw [stored] at missing
      contradiction
  rcases bindError.mp refused with stop | ⟨_,_,refused⟩
  · exact .inr ⟨.notAPayer,(failIfError.mp stop).2⟩
  rcases bindError.mp refused with stop | ⟨_,_,refused⟩
  · exact .inr ⟨.alreadySettled,(failIfError.mp stop).2⟩
  rw [tally.wired] at refused
  rcases bindError.mp refused with unwired | ⟨_,wired,refused⟩
  · contradiction
  cases Except.ok.inj wired
  rcases bindError.mp refused with unpaid | ⟨_,_,returned⟩ <;> try contradiction
  rcases bindError.mp unpaid with unpaid | ⟨_,_,returned⟩ <;> try contradiction
  have positive := (BillRegister.billSound m (BillRegister.getBillExact.mpr (expectOk.mp found))).2.1
  simp only [Joint.deployed,if_true] at unpaid
  cases Refusal.refusedWhy (c := .transfer q ⟨bill.creator,none⟩ bill.share) (Refusal.backedSolvent backed) rfl unpaid with
  | unauthorised _ _ => exact .inl rfl
  | negative below => exact absurd below positive.le.not_gt
  | expired draws _ => simp [Allowance.drawn] at draws
  | allowance draws _ => simp [Allowance.drawn] at draws
  | balance _ _ => exact .inr ⟨.insufficientBalance,rfl⟩

end Contracts

theorem findElim {α β : Type} (p : α → Bool) (a : α) (l : List α) (d : β) (g : α → β) :
    ((a :: l).find? p).elim d g = if p a = true then g a else (l.find? p).elim d g := by
  rw [List.find?_cons]
  cases p a <;> rfl

theorem findFirst {α : Type} [DecidableEq α] {p : α → Bool} {l : List α} {a : α} (member : a ∈ l) :
    l.find? p = some a ↔ p a = true ∧ ∀ b ∈ l.takeWhile (· ≠ a), p b = false := by
  induction l with
  | nil => contradiction
  | cons b rest ih =>
    by_cases same : b = a
    · subst same
      cases hit : p b <;> simp [hit]
      intro found
      exact absurd (List.find?_some found) (by simp [hit])
    · have later : a ∈ rest := (List.mem_cons.mp member).resolve_left (Ne.symm same)
      have kept : (b :: rest).takeWhile (· ≠ a) = b :: rest.takeWhile (· ≠ a) :=
        List.takeWhile_cons_of_pos (by simpa using same)
      rw [kept,List.find?_cons,List.forall_mem_cons]
      cases hit : p b with
      | true => simp [same]
      | false => simpa using ih later

def unmatched (raw : JsString) : JsString :=
  if includes raw (js "Account_does_not_exist") then js "Sender account does not exist on testnet (fund it first)."
  else js "Simulation failed: " ++ raw.take 240

theorem decodeFound (raw : JsString) : decodeSimError raw = (all.find? (found raw)).elim (unmatched raw) friendly := by
  simp only [all,findElim,List.find?_nil,Option.elim_none]
  rfl

theorem allMember (f : Failure) : f ∈ all := by
  cases f <;> decide

theorem friendlyInjective {f g : Failure} (same : f.friendly = g.friendly) : f = g := by
  have apart : ∀ f ∈ all, ∀ g ∈ all, f.friendly = g.friendly → f = g := by decide +kernel
  exact apart f (allMember f) g (allMember g) same

-- Only the two messages without a failure of the contracts begin with an S.
theorem unmatchedApart (raw : JsString) (f : Failure) : unmatched raw ≠ f.friendly := by
  intro same
  have first : (unmatched raw).head? = some 83 := by
    unfold unmatched
    split <;> rfl
  have other : ∀ f ∈ all, f.friendly.head? ≠ some 83 := by decide +kernel
  exact other f (allMember f) (same ▸ first)

theorem decodeExact {raw : JsString} {f : Failure} :
    decodeSimError raw = f.friendly ↔ f.found raw = true ∧ ∀ g ∈ f.earlier, g.found raw = false := by
  rw [decodeFound,earlier,← findFirst (allMember f)]
  constructor
  · intro same
    cases hit : all.find? (found raw) with
    | none =>
      rw [hit] at same
      exact absurd same (unmatchedApart raw f)
    | some g =>
      rw [hit] at same
      rw [friendlyInjective same]
  · intro hit
    rw [hit]
    rfl

theorem searchedText {f : Failure} (panic : f ≠ insufficientBalance) : f.searched <:+: f.text := by
  cases f with
  | notAPayer => exact ⟨js "address is ",js " on this bill",by decide +kernel⟩
  | insufficientBalance => contradiction
  | _ => exact List.infix_rfl

theorem earlierPanic {f g : Failure} (before : g ∈ f.earlier) : g ≠ insufficientBalance := by
  have panics : ∀ f ∈ all, ∀ g ∈ f.earlier, g ≠ insufficientBalance := by decide
  exact panics f (allMember f) g before

theorem decodesFailure (f : Failure) (before after : JsString) :
    let raw := before ++ f.text ++ after
    decodeSimError raw = f.friendly ↔
      (∀ g ∈ f.earlier, includes raw g.searched = false) ∧
      (f = insufficientBalance → includes (toLowerCase raw) (js "insufficient") = true) := by
  intro raw
  have others : (∀ g ∈ f.earlier, g.found raw = false) ↔ ∀ g ∈ f.earlier, includes raw g.searched = false :=
    forall₂_congr fun g earlier => by rw [found,if_neg (earlierPanic earlier)]
  rw [decodeExact,others,and_comm]
  refine and_congr_right fun _ => ?_
  by_cases balance : f = insufficientBalance
  · rw [found,if_pos balance,balance]
    exact ⟨fun hit _ => hit,fun hit => hit rfl⟩
  · have inside : f.searched <:+: raw := (searchedText balance).trans ⟨before,after,rfl⟩
    rw [found,if_neg balance,includesExact]
    exact ⟨fun _ same => absurd same balance,fun _ => inside⟩

theorem failuresMistaken :
    decodeSimError (js "HostError: " ++ Failure.insufficientBalance.text) =
      js "Simulation failed: HostError: Error(Contract, #2)" ∧
    decodeSimError (js "HostError: " ++ Failure.tooManyPayers.text ++ js ", payers required by Friday") =
      Failure.payersRequired.friendly ∧
    ¬ ∀ (f : Failure) (before after : JsString), decodeSimError (before ++ f.text ++ after) = f.friendly := by
  have shadowed : decodeSimError (js "HostError: " ++ Failure.tooManyPayers.text ++ js ", payers required by Friday") =
      Failure.payersRequired.friendly := by decide +kernel
  refine ⟨by decide +kernel,shadowed,fun right => ?_⟩
  have same := friendlyInjective (shadowed.symm.trans (right .tooManyPayers _ _))
  contradiction

end SplitBill.SimErrors
