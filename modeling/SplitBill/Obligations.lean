import SplitBill.Clearing
import SplitBill.Joint

/-! What the two contracts are for, taken together: a clearing book. A bill makes each of its payers owe the
creator the share, a settlement pays one such debt, and a token call moves value. The debts are read off the
bill store and the flags, the holdings are the balances, and every joint run is a run of the book. -/
namespace SplitBill.Obligations
open Host BillSplit BillRegister Clearing Simulation Transition
variable {Address τ : Type}

def bills (w : World Address τ) : List (Bill Address) :=
  (List.range (billCount w).val.toNat).filterMap fun n : Nat =>
    (MachineInt.checked 0 4294967295 (n + 1) : Option U32).bind w.store.bill

def debtOf (bill : Bill Address) (p : Address) : Debt Address := ⟨p,bill.creator,bill.share.val⟩

theorem rangeReads {β : Type} (l : List β) : (List.range l.length).filterMap (fun n => l[n]?) = l := by
  induction l with
  | nil => rfl
  | cons b rest ih =>
    have first : (fun n : Nat => (b :: rest)[n]?) 0 = some b := rfl
    rw [List.length_cons,List.range_succ_eq_map,List.filterMap_cons_some first,List.filterMap_map]
    exact congrArg (b :: ·) ih

theorem billsRecords [DecidableEq Address] {w : World Address τ} {reg : Bills Address} (m : Mirrors w reg) :
    bills w = reg.records := by
  have each : ∀ n < reg.records.length, (MachineInt.checked 0 4294967295 ((n : Int) + 1) : Option U32).bind w.store.bill =
      reg.records[n]? := by
    intro n inside
    have found := List.getElem?_eq_getElem inside
    have number : MachineInt.checked 0 4294967295 ((n : Int) + 1) = some reg.records[n].id :=
      MachineInt.checkedExact.mpr (reg.numbered n _ found)
    rw [number,Option.bind_some,found]
    exact (m.stored _ _).mpr ⟨List.getElem_mem inside,rfl⟩
  rw [bills,m.counted,Int.toNat_natCast,List.filterMap_congr fun n member => each n (List.mem_range.mp member)]
  exact rangeReads reg.records

variable [DecidableEq Address]

/- Who has still to pay what: each address of a bill once, however often it is listed. -/
def unsettledOn (w : World Address τ) (bill : Bill Address) : List (Bill Address × Address) :=
  (bill.payers.dedup.filter fun p => isSettled w bill.id p = false).map fun p => (bill,p)

def unsettled (w : World Address τ) : List (Bill Address × Address) := (bills w).flatMap (unsettledOn w)

def outstanding (w : World Address τ) : List (Debt Address) := (unsettled w).map fun due => debtOf due.1 due.2

section Unsettled
variable {w : World Address τ} {reg : Bills Address} {bill : Bill Address} {p : Address}

theorem unsettledExact (m : Mirrors w reg) :
    (bill,p) ∈ unsettled w ↔ w.store.bill bill.id = some bill ∧ p ∈ bill.payers ∧ isSettled w bill.id p = false := by
  simp only [unsettled,unsettledOn,List.mem_flatMap,List.mem_map,List.mem_filter,List.mem_dedup,billsRecords m,
    decide_eq_true_eq,Prod.mk.injEq]
  constructor
  · intro ⟨b,member,q,⟨listed,fresh⟩,sameBill,samePayer⟩
    subst sameBill samePayer
    exact ⟨(m.stored _ _).mpr ⟨member,rfl⟩,listed,fresh⟩
  · intro ⟨stored,listed,fresh⟩
    exact ⟨bill,((m.stored _ _).mp stored).1,p,⟨listed,fresh⟩,rfl,rfl⟩

theorem unsettledNodup (m : Mirrors w reg) : (unsettled w).Nodup := by
  rw [unsettled,billsRecords m,List.nodup_flatMap]
  constructor
  · intro b _
    exact ((List.nodup_dedup _).filter _).map fun p q same => (Prod.mk.inj same).2
  · apply reg.increasing.imp
    intro b b' before
    apply List.disjoint_left.mpr
    intro due first second
    obtain ⟨p,_,rfl⟩ := List.mem_map.mp first
    obtain ⟨q,_,same⟩ := List.mem_map.mp second
    rw [(Prod.mk.inj same).1] at before
    exact lt_irrefl _ before

theorem outstandingRecorded (m : Mirrors w reg) (sound : Sound bill) (next : bill.id.val = (billCount w).val + 1) :
    (outstanding (recorded w bill)).Perm (outstanding w ++ bill.payers.dedup.map (debtOf bill)) := by
  have m' := mirrorsRecorded m sound next
  have fresh := mirrorsFresh m next
  have unflagged : ∀ p, isSettled w bill.id p = false := by
    intro p
    by_contra flag
    obtain ⟨b,found,_⟩ := m.flagged bill.id p (eq_true_of_ne_false flag)
    rw [fresh] at found
    contradiction
  have old : ∀ b, unsettledOn (recorded w bill) b = unsettledOn w b := fun _ => rfl
  have own : unsettledOn w bill = bill.payers.dedup.map fun p => (bill,p) := by
    rw [unsettledOn,List.filter_eq_self.mpr]
    intro p _
    exact decide_eq_true (unflagged p)
  have whole : unsettled (recorded w bill) = unsettled w ++ unsettledOn w bill := by
    simp only [unsettled,funext old,billsRecords m,billsRecords m',Register.add,List.flatMap_append,
      List.flatMap_singleton]
  rw [outstanding,whole,own,List.map_append,List.map_map]
  exact .refl _

theorem unsettledCharged (m : Mirrors w reg) {c : Charge Address} (t : τ) (found : w.store.bill c.id = some bill)
    (listed : c.payer ∈ bill.payers) (fresh : isSettled w c.id c.payer = false) :
    (unsettled w).Perm ((bill,c.payer) :: unsettled (charged w c t)) := by
  have m' := mirrorsCharged m t found listed
  have number : bill.id = c.id := ((m.stored _ _).mp found).2
  have gone : (bill,c.payer) ∉ unsettled (charged w c t) := by
    intro member
    have flag := ((unsettledExact m').mp member).2.2
    rw [chargedFlag,if_pos ⟨number,rfl⟩] at flag
    contradiction
  apply (List.perm_ext_iff_of_nodup (unsettledNodup m) (List.nodup_cons.mpr ⟨gone,unsettledNodup m'⟩)).mpr
  intro ⟨b,p⟩
  rw [List.mem_cons,unsettledExact m,unsettledExact m',chargedFlag]
  by_cases paid : b.id = c.id ∧ p = c.payer
  · obtain ⟨sameId,rfl⟩ := paid
    rw [if_pos ⟨sameId,rfl⟩,sameId]
    constructor
    · intro ⟨stored,_,_⟩
      rw [Option.some.inj (stored.symm.trans found)]
      exact .inl rfl
    · intro due
      rcases due with same | ⟨_,_,absurd⟩
      · cases (Prod.mk.inj same).1
        exact ⟨found,listed,fresh⟩
      · contradiction
  · rw [if_neg paid]
    constructor
    · exact .inr
    · intro due
      rcases due with same | due
      · obtain ⟨rfl,rfl⟩ := Prod.mk.inj same
        exact absurd ⟨number,rfl⟩ paid
      · exact due

end Unsettled

structure Stands (w : Joint.World Address) (b : Book Address) : Prop where
  books : TokenLedger.Books w.token b.ledger
  debts : b.debts = outstanding w

def action (w : Joint.World Address) : Joint.Call Address → Action Address
  | .token c => .post (TokenLedger.postingOf c)
  | .bill (.createBill creator payers share _) => .owe (payers.dedup.map fun p => (⟨p,creator,share.val⟩ : Debt Address))
  | .bill (.settle id payer) => (w.store.bill id).elim .idle fun bill => .pay (debtOf bill payer)

def label (tokenAddr : Address) (w : Joint.World Address) (i : Env Address × Joint.Call Address) : Action Address :=
  match Joint.invoke tokenAddr i.1 w i.2 with
  | .error _ => .idle
  | .ok _ => action w i.2

section Refinement
variable {tokenAddr : Address} {env : Env Address} {w w' : Joint.World Address} {b : Book Address}

theorem labelOk {c : Joint.Call Address} (ok : Joint.invoke tokenAddr env w c = .ok w') :
    label tokenAddr w (env,c) = action w c := by
  simp only [label,ok]

theorem standsToken (stands : Stands w b) {c : StableToken.Call Address} {t : StableToken.State Address}
    (ok : StableToken.invoke env w.token c = .ok t) :
    ∃ b', Step b (.post (TokenLedger.postingOf c)) b' ∧ Stands {w with token := t} b' := by
  have moves := (TokenLedger.invokeEffect ok).moves
  exact ⟨_,.post b (TokenLedger.booksCovers stands.books moves),TokenLedger.booksPost stands.books moves,stands.debts⟩

theorem standsRecorded {reg : Bills Address} (m : Mirrors w reg) (stands : Stands w b) {bill : Bill Address}
    (sound : Sound bill) (next : bill.id.val = (billCount w).val + 1) :
    ∃ b', Step b (.owe (bill.payers.dedup.map (debtOf bill))) b' ∧ Stands (recorded w bill) b' := by
  have positive : ∀ d ∈ (bill.payers.dedup.map (debtOf bill) : Multiset (Debt Address)), 0 < d.amount := by
    intro d member
    obtain ⟨p,_,rfl⟩ := List.mem_map.mp (Multiset.mem_coe.mp member)
    exact sound.1
  refine ⟨_,.owe b positive,stands.books,?_⟩
  change b.debts + _ = _
  rw [stands.debts,Multiset.coe_add]
  exact Multiset.coe_eq_coe.mpr (outstandingRecorded m sound next).symm

theorem standsCharged {reg : Bills Address} (m : Mirrors w reg) (stands : Stands w b) {c : Charge Address}
    {bill : Bill Address} {t : StableToken.State Address} (found : w.store.bill c.id = some bill)
    (listed : c.payer ∈ bill.payers) (fresh : isSettled w c.id c.payer = false)
    (ok : StableToken.invoke env w.token (.transfer c.payer ⟨bill.creator,none⟩ bill.share) = .ok t) :
    ∃ b', Step b (.pay (debtOf bill c.payer)) b' ∧ Stands (charged w c t) b' := by
  have moves := (TokenLedger.invokeEffect ok).moves
  have struck := (unsettledCharged m t found listed fresh).map fun due : Bill Address × Address => debtOf due.1 due.2
  have due : debtOf bill c.payer ∈ b.debts := by
    rw [stands.debts]
    exact Multiset.mem_coe.mpr (struck.mem_iff.mpr List.mem_cons_self)
  have enough : (debtOf bill c.payer).amount ≤ b.ledger.holding (debtOf bill c.payer).debtor :=
    (TokenLedger.booksCovers stands.books moves).2 _ rfl
  refine ⟨_,.pay b due enough,TokenLedger.booksPost stands.books moves,?_⟩
  change b.debts.erase _ = _
  rw [stands.debts,outstanding,Multiset.coe_eq_coe.mpr struck,List.map_cons,← Multiset.cons_coe,Multiset.erase_cons_head]
  rfl

theorem stepStands (tokenAddr : Address) : Matches (Joint.step tokenAddr) (label tokenAddr) Step
    (fun (w : Joint.World Address) b => Joint.Healthy tokenAddr w ∧ Stands w b) := by
  intro w i b ⟨healthy,stands⟩
  have kept := Joint.stepHealthy tokenAddr w i healthy
  obtain ⟨⟨⟨reg,m⟩,_⟩,_⟩ := healthy
  obtain ⟨env,c⟩ := i
  cases result : Joint.invoke tokenAddr env w c with
  | error trap =>
    have left : Joint.step tokenAddr w (env,c) = w := by simp [Joint.step,result]
    have silent : label tokenAddr w (env,c) = .idle := by simp [label,result]
    rw [left] at kept ⊢
    rw [silent]
    exact ⟨b,.idle b,kept,stands⟩
  | ok w' =>
    have left : Joint.step tokenAddr w (env,c) = w' := by simp [Joint.step,result]
    rw [left] at kept ⊢
    rw [labelOk result]
    suffices moved : ∃ b', Step b _ b' ∧ Stands w' b' by
      obtain ⟨b',step,there⟩ := moved
      exact ⟨b',step,kept,there⟩
    cases Joint.invokeEffect result with
    | token done => exact standsToken stands done
    | createBill created _ =>
      obtain ⟨_,sound,next,rfl⟩ := createBillExact.mp created
      exact standsRecorded m stands sound next
    | @settle id payer bill t _ found listed fresh done =>
      have stored := getBillExact.mp found
      simp only [action,stored,Option.elim_some]
      exact standsCharged m stands (c := ⟨env,id,payer,tokenAddr,payer,⟨bill.creator,none⟩,bill.share⟩) stored listed
        fresh done

theorem standsGenesis (d : Joint.Deployment Address) : Stands d.genesis Book.empty where
  books := TokenLedger.booksConstructed ..
  debts := rfl

theorem worldStands (d : Joint.Deployment Address) (inputs : List (Env Address × Joint.Call Address)) :
    ∃ b, Stands (d.world inputs) b := by
  have start : Joint.Healthy d.tokenAddr d.genesis := Joint.worldHealthy d []
  obtain ⟨b,_,_,stands⟩ := runMatches (stepStands d.tokenAddr) ⟨start,standsGenesis d⟩ inputs
  exact ⟨b,stands⟩

end Refinement

theorem worldClears (d : Joint.Deployment Address) (inputs : List (Env Address × Joint.Call Address)) :
    ∃ b, Path Step Book.empty (labels (Joint.step d.tokenAddr) (label d.tokenAddr) d.genesis inputs) b ∧
      TokenLedger.Books (d.world inputs).token b.ledger ∧ b.debts = outstanding (d.world inputs) := by
  have start : Joint.Healthy d.tokenAddr d.genesis := Joint.worldHealthy d []
  obtain ⟨b,path,_,stands⟩ := runMatches (stepStands d.tokenAddr) ⟨start,standsGenesis d⟩ inputs
  exact ⟨b,path,stands.books,stands.debts⟩

end SplitBill.Obligations
