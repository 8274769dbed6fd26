import Mathlib.Data.List.Dedup
import Mathlib.Data.List.Perm.Subperm
import Mathlib.Algebra.BigOperators.Group.List.Basic
import SplitBill.BillRegister

/-! A settled flag, a returned transfer and a settled event stand or fall together.
The flag is written after the token has answered; what keeps the three in step is
that a trap undoes all of them and that the pair was unsettled before. -/
namespace SplitBill.Settlement
open Host BillSplit Transition BillRegister
variable {Address τ : Type} [DecidableEq Address]

def chargesFor (w : World Address τ) (id : U32) (p : Address) : List (Charge Address) :=
  w.charges.filter (fun c => c.id = id ∧ c.payer = p)

def settledPair : Event Address → Option (Address × U32)
  | ⟨[.symbol name,.address p],.tuple [.u32 id,.i128 _]⟩ => if name = "settled" then some (p,id) else none
  | _ => none

def settlementsFor (w : World Address τ) (id : U32) (p : Address) : List (Event Address) :=
  w.events.filter (fun e => settledPair e = some (p,id))

def chargeOf (env : Env Address) (token : Address) (bill : Bill Address) (p : Address) : Charge Address :=
  ⟨env,bill.id,p,token,p,⟨bill.creator,none⟩,bill.share⟩

structure Tally (token : Address) (w : World Address τ) : Prop where
  wired : w.store.token = some token
  unpaid : ∀ id p, isSettled w id p = false → chargesFor w id p = [] ∧ settlementsFor w id p = []
  paid : ∀ id p, isSettled w id p = true → ∃ bill env, getBill w id = .ok bill ∧ p ∈ bill.payers ∧
    env.authorised p = true ∧ chargesFor w id p = [chargeOf env token bill p] ∧
    settlementsFor w id p = [settledEvent p id bill.share]

theorem tallyConstructed (token : Address) (t : τ) : Tally token (constructed token t) where
  wired := rfl
  unpaid := by intro id p _; exact ⟨rfl,rfl⟩
  paid := by intro id p flag; simp [isSettled,constructed] at flag

theorem tallyRecorded {token : Address} {w : World Address τ} (tally : Tally token w) {bill : Bill Address}
    (fresh : w.store.bill bill.id = none) : Tally token (recorded w bill) := by
  have events : ∀ id p, settlementsFor (recorded w bill) id p = settlementsFor w id p := by
    intro id p
    simp [settlementsFor,recorded,createdEvent,settledPair]
  refine ⟨tally.wired,?_,?_⟩
  · intro id p flag
    rw [events]
    exact tally.unpaid id p flag
  · intro id p flag
    obtain ⟨b,env,found,rest⟩ := tally.paid id p flag
    refine ⟨b,env,getBillExact.mpr (recordedKeeps fresh (getBillExact.mp found)),?_⟩
    rw [events]
    exact rest

theorem chargesCharged (w : World Address τ) (c : Charge Address) (t : τ) (id : U32) (p : Address) :
    chargesFor (charged w c t) id p = chargesFor w id p ++ if id = c.id ∧ p = c.payer then [c] else [] := by
  by_cases same : id = c.id ∧ p = c.payer
  · simp [chargesFor,charged,List.filter_append,same]
  · have other : ¬ (c.id = id ∧ c.payer = p) := fun h => same ⟨h.1.symm,h.2.symm⟩
    simp [chargesFor,charged,List.filter_append,same,other]

theorem settlementsCharged (w : World Address τ) (c : Charge Address) (t : τ) (id : U32) (p : Address) :
    settlementsFor (charged w c t) id p =
      settlementsFor w id p ++ if id = c.id ∧ p = c.payer then [settledEvent c.payer c.id c.amount] else [] := by
  by_cases same : id = c.id ∧ p = c.payer
  · simp [settlementsFor,charged,List.filter_append,settledEvent,settledPair,same]
  · have other : ¬ (c.payer = p ∧ c.id = id) := fun h => same ⟨h.2.symm,h.1.symm⟩
    simp [settlementsFor,charged,List.filter_append,settledEvent,settledPair,same,other]

theorem tallyCharged {token : Address} {w : World Address τ} (tally : Tally token w) {c : Charge Address}
    {bill : Bill Address} (t : τ) (auth : c.env.authorised c.payer = true) (found : getBill w c.id = .ok bill)
    (listed : c.payer ∈ bill.payers) (fresh : isSettled w c.id c.payer = false)
    (shape : c = chargeOf c.env token bill c.payer) : Tally token (charged w c t) := by
  refine ⟨tally.wired,?_,?_⟩
  · intro id p flag
    rw [chargedFlag] at flag
    split at flag <;> try contradiction
    rename_i other
    rw [chargesCharged,settlementsCharged,if_neg other,if_neg other,List.append_nil,List.append_nil]
    exact tally.unpaid id p flag
  · intro id p flag
    rw [chargedFlag] at flag
    rw [chargesCharged,settlementsCharged]
    split at flag
    · rename_i same
      obtain ⟨charges,settlements⟩ := tally.unpaid _ _ fresh
      have amount : c.amount = bill.share := by rw [shape]; rfl
      rw [if_pos same,if_pos same,same.1,same.2,charges,settlements,amount]
      refine ⟨bill,c.env,found,listed,auth,?_,rfl⟩
      rw [← shape]
      rfl
    · rename_i other
      rw [if_neg other,if_neg other,List.append_nil,List.append_nil]
      exact tally.paid id p flag

def Accounted (token : Address) (w : World Address τ) : Prop := Registered w ∧ Tally token w

theorem stepAccounted (transfer : Transfer Address τ) (token : Address) :
    Preserves (step transfer) (Accounted token) := by
  intro w i h
  refine ⟨stepRegistered transfer w i h.1,?_⟩
  obtain ⟨⟨reg,m⟩,tally⟩ := h
  rcases stepCases transfer w i with same | ⟨t,same⟩ | ⟨bill,_,next,same⟩ |
    ⟨c,bill,t,auth,found,listed,fresh,wired,shape,same⟩
  · rw [same]; exact tally
  · rw [same]; exact ⟨tally.wired,tally.unpaid,tally.paid⟩
  · rw [same]; exact tallyRecorded tally (mirrorsFresh m next)
  · rw [same]
    have stored := getBillExact.mpr found
    have numbered := (billSound m stored).1
    refine tallyCharged tally t auth stored listed fresh ?_
    have addr : token = c.token := Option.some.inj (tally.wired.symm.trans wired)
    rw [chargeOf,numbered,addr]
    exact shape

theorem runAccounted (transfer : Transfer Address τ) (token : Address) (t : τ) (inputs : List (Input Address τ)) :
    Accounted token (run (step transfer) (constructed token t) inputs) :=
  runPreserves (stepAccounted transfer token)
    ⟨⟨_,mirrorsConstructed token t⟩,tallyConstructed token t⟩ inputs

theorem chargesAtMostOne {token : Address} {w : World Address τ} (tally : Tally token w) (id : U32) (p : Address) :
    (chargesFor w id p).length ≤ 1 ∧ (settlementsFor w id p).length ≤ 1 := by
  cases flag : isSettled w id p with
  | false => simp [tally.unpaid id p flag]
  | true =>
    obtain ⟨bill,env,_,_,_,charges,settlements⟩ := tally.paid id p flag
    simp [charges,settlements]

theorem chargeSource {token : Address} {w : World Address τ} (tally : Tally token w) {c : Charge Address}
    (mem : c ∈ w.charges) : isSettled w c.id c.payer = true ∧ c.env.authorised c.payer = true ∧
      ∃ bill, getBill w c.id = .ok bill ∧ c.payer ∈ bill.payers ∧ c = chargeOf c.env token bill c.payer := by
  have own : c ∈ chargesFor w c.id c.payer := List.mem_filter.mpr ⟨mem,by simp⟩
  cases flag : isSettled w c.id c.payer with
  | false => simp [(tally.unpaid _ _ flag).1] at own
  | true =>
    obtain ⟨bill,env,found,listed,auth,charges,_⟩ := tally.paid _ _ flag
    rw [charges] at own
    have shape := List.mem_singleton.mp own
    have caller : c.env = env := by rw [shape]; rfl
    exact ⟨rfl,by rw [caller]; exact auth,bill,found,listed,by rw [caller]; exact shape⟩

theorem chargedExactlyOnce (transfer : Transfer Address τ) (token : Address) (t : τ)
    (inputs : List (Input Address τ)) :
    let w := run (step transfer) (constructed token t) inputs
    (∀ id p, isSettled w id p = true ↔ ∃ bill env, getBill w id = .ok bill ∧
      chargesFor w id p = [⟨env,id,p,token,p,⟨bill.creator,none⟩,bill.share⟩]) ∧
    (∀ id p, isSettled w id p = true ↔ ∃ bill, getBill w id = .ok bill ∧
      settlementsFor w id p = [settledEvent p id bill.share]) ∧
    (∀ id p, (chargesFor w id p).length ≤ 1 ∧ (settlementsFor w id p).length ≤ 1) ∧
    (∀ c ∈ w.charges, c.env.authorised c.payer = true ∧ ∃ bill, getBill w c.id = .ok bill ∧ c.payer ∈ bill.payers ∧
      c.source = c.payer ∧ c.target.address = bill.creator ∧ c.amount = bill.share) ∧
    (∀ later id p, isSettled w id p = true → isSettled (run (step transfer) w later) id p = true) := by
  intro w
  obtain ⟨⟨reg,m⟩,tally⟩ : Accounted token w := runAccounted transfer token t inputs
  refine ⟨?_,?_,chargesAtMostOne tally,?_,?_⟩
  · intro id p
    constructor
    · intro flag
      obtain ⟨bill,env,found,_,_,charges,_⟩ := tally.paid id p flag
      rw [chargeOf,(billSound m found).1] at charges
      exact ⟨bill,env,found,charges⟩
    · intro h
      obtain ⟨bill,env,_,charges⟩ := h
      by_contra flag
      rw [(tally.unpaid id p (by simpa using flag)).1] at charges
      contradiction
  · intro id p
    constructor
    · intro flag
      obtain ⟨bill,_,found,_,_,_,settlements⟩ := tally.paid id p flag
      exact ⟨bill,found,settlements⟩
    · intro h
      obtain ⟨bill,_,settlements⟩ := h
      by_contra flag
      rw [(tally.unpaid id p (by simpa using flag)).2] at settlements
      contradiction
  · intro c mem
    obtain ⟨_,auth,bill,found,listed,shape⟩ := chargeSource tally mem
    exact ⟨auth,bill,found,listed,by rw [shape]; rfl,by rw [shape]; rfl,by rw [shape]; rfl⟩
  · intro later id p flag
    exact (runExtends transfer ⟨reg,m⟩ later).flag id p flag

end SplitBill.Settlement
