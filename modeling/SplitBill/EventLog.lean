import SplitBill.TokenLedger

/-! The token's events as a second account of the run. Whoever folds mint, transfer and burn over an
empty ledger has the balances and the supply after each of them, and never owes anybody. -/
namespace SplitBill.EventLog
open Host StableToken TokenLedger Transition
variable {Address : Type} [DecidableEq Address]

structure Book (Address : Type) where
  balances : Address → Int
  issued : Int

namespace Book

def empty : Book Address := ⟨fun _ => 0,0⟩

def credit (b : Book Address) (a : Address) (amount : Int) : Book Address :=
  {b with balances := Function.update b.balances a (b.balances a + amount)}

def debit (b : Book Address) (a : Address) (amount : Int) : Book Address :=
  {b with balances := Function.update b.balances a (b.balances a - amount)}

def issue (b : Book Address) (amount : Int) : Book Address := {b with issued := b.issued + amount}

@[simp] theorem creditRead (b : Book Address) (x a : Address) (amount : Int) :
    (b.credit x amount).balances a = b.balances a + if x = a then amount else 0 := by
  obtain rfl | other := eq_or_ne x a
  · simp [credit]
  · simp [credit,other,other.symm]

@[simp] theorem debitRead (b : Book Address) (x a : Address) (amount : Int) :
    (b.debit x amount).balances a = b.balances a - if x = a then amount else 0 := by
  obtain rfl | other := eq_or_ne x a
  · simp [debit]
  · simp [debit,other,other.symm]

omit [DecidableEq Address] in
@[simp] theorem issueRead (b : Book Address) (amount : Int) : (b.issue amount).balances = b.balances := rfl
omit [DecidableEq Address] in
@[simp] theorem issueIssued (b : Book Address) (amount : Int) : (b.issue amount).issued = b.issued + amount := rfl
@[simp] theorem creditIssued (b : Book Address) (a : Address) (amount : Int) : (b.credit a amount).issued = b.issued := rfl
@[simp] theorem debitIssued (b : Book Address) (a : Address) (amount : Int) : (b.debit a amount).issued = b.issued := rfl

end Book

def applied (b : Book Address) : Event Address → Book Address
  | ⟨[.symbol name,.address a,.address target],.one (.i128 amount)⟩ =>
      if name = "mint" then (b.credit target amount.val).issue amount.val
      else if name = "transfer" then (b.debit a amount.val).credit target amount.val
      else b
  | ⟨[.symbol name,.address source],.one (.i128 amount)⟩ =>
      if name = "burn" then (b.debit source amount.val).issue (-amount.val) else b
  | _ => b

def replay (events : List (Event Address)) : Book Address := events.foldl applied Book.empty

theorem replaySnoc (events : List (Event Address)) (e : Event Address) :
    replay (events ++ [e]) = applied (replay events) e := List.foldl_concat ..

theorem appliedPosting {s : State Address} {c : Call Address} {e : Event Address} (published : eventOf s c = some e)
    (b : Book Address) : (∀ a, (applied b e).balances a = b.balances a +
      ((if (postingOf c).target = some a then (postingOf c).amount else 0) -
        (if (postingOf c).source = some a then (postingOf c).amount else 0))) ∧
    (applied b e).issued = b.issued + (postingOf c).issued := by
  cases c with
  | mint target amount =>
    obtain ⟨admin,_,rfl⟩ := Option.map_eq_some_iff.mp published
    simp [applied,postingOf,Posting.issued]
  | setAdmin newAdmin =>
    obtain ⟨admin,_,rfl⟩ := Option.map_eq_some_iff.mp published
    simp [applied,postingOf,Posting.issued]
  | approve source spender amount expiration =>
    cases Option.some.inj published
    simp [applied,postingOf,Posting.issued]
  | transfer source target amount | transferFrom spender source target amount =>
    cases Option.some.inj published
    have balances : ∀ a x y : Int, a - x + y = a + (y - x) := by omega
    simp [applied,postingOf,Posting.issued,balances]
  | burn source amount | burnFrom spender source amount =>
    cases Option.some.inj published
    simp [applied,postingOf,Posting.issued,sub_eq_add_neg]

structure Told (s : State Address) : Prop where
  balances : ∀ a, (replay s.events).balances a = (readBalance s a).val
  issued : (replay s.events).issued = (totalSupply s).val
  solvent : ∀ part, part <+: s.events → ∀ a, 0 ≤ (replay part).balances a

theorem toldConstructed (admin : Address) (decimal : U32) (name symbol : List UInt8) :
    Told (constructed admin decimal name symbol) where
  balances := by intro a; rfl
  issued := rfl
  solvent := by
    intro part inside a
    rw [List.prefix_nil.mp inside]
    exact le_rfl

theorem stepTold (s : State Address) (i : Env Address × Call Address) (h : Backed s ∧ Told s) :
    Backed (step s i) ∧ Told (step s i) := by
  refine commitKeeps (P := fun s => Backed s ∧ Told s) h fun s' ok => ?_
  obtain ⟨⟨l,books⟩,told⟩ := h
  have effect := invokeEffect ok
  have next := booksPost books effect.moves
  obtain ⟨e,published,events⟩ := effect.published
  obtain ⟨moved,issued⟩ := appliedPosting published (replay s.events)
  have balances : ∀ a, (replay s'.events).balances a = (readBalance s' a).val := by
    intro a
    rw [events,replaySnoc,moved,told.balances,effect.moves.balance]
  refine ⟨⟨_,next⟩,balances,?_,?_⟩
  · rw [events,replaySnoc,issued,told.issued,effect.moves.supply]
  · intro part inside a
    rw [events] at inside
    rcases List.prefix_concat_iff.mp inside with whole | earlier
    · rw [whole,← events,balances,next.holdings]
      exact Ledger.nonneg _ a
    · exact told.solvent part earlier a

theorem balancesFromEvents (admin : Address) (decimal : U32) (name symbol : List UInt8)
    (inputs : List (Env Address × Call Address)) :
    let s := run step (constructed admin decimal name symbol) inputs
    (∀ a, (replay s.events).balances a = (balance s a).val) ∧
    (replay s.events).issued = (totalSupply s).val ∧
    ∑ᶠ a, (replay s.events).balances a = (totalSupply s).val ∧
    ∀ part, part <+: s.events → ∀ a, 0 ≤ (replay part).balances a := by
  intro s
  have start : Backed (constructed admin decimal name symbol) ∧ Told (constructed admin decimal name symbol) :=
    ⟨⟨_,booksConstructed admin decimal name symbol⟩,toldConstructed admin decimal name symbol⟩
  obtain ⟨⟨l,books⟩,told⟩ : Backed s ∧ Told s := runPreserves stepTold start inputs
  refine ⟨told.balances,told.issued,?_,told.solvent⟩
  have same : (replay s.events).balances = l.holding := by
    funext a
    rw [told.balances,books.holdings]
  rw [same,books.total]
  exact l.totalSum

end SplitBill.EventLog
