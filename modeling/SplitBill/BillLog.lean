import SplitBill.Joint

/-! The events of bill-split as a second account of it. Whoever folds created and settled knows the count,
what was published of each bill, the index by creator and every flag; payers and timestamps are not published.
Beside the token each settlement in the log has its own transfer in the token's log, in the same order. -/
namespace SplitBill.BillLog
open Host BillSplit BillRegister Settlement Transition
variable {Address τ : Type} [DecidableEq Address]

structure Notice (Address : Type) where
  id : U32
  creator : Address
  share : I128
  memo : List UInt8
  deriving DecidableEq, Repr

structure Payment (Address : Type) where
  id : U32
  payer : Address
  share : I128
  deriving DecidableEq, Repr

structure Known (Address : Type) where
  notices : List (Notice Address)
  payments : List (Payment Address)

def told (k : Known Address) : Event Address → Known Address
  | ⟨[.symbol name,.address a],.tuple [.u32 id,.i128 share,.string memo]⟩ =>
      if name = "created" then {k with notices := k.notices ++ [⟨id,a,share,memo⟩]} else k
  | ⟨[.symbol name,.address a],.tuple [.u32 id,.i128 share]⟩ =>
      if name = "settled" then {k with payments := k.payments ++ [⟨id,a,share⟩]} else k
  | _ => k

def replay (events : List (Event Address)) : Known Address := events.foldl told ⟨[],[]⟩

def noticeOf (bill : Bill Address) : Notice Address := ⟨bill.id,bill.creator,bill.share,bill.memo⟩
def Payment.pair (p : Payment Address) : U32 × Address := (p.id,p.payer)

section Replay
variable {events : List (Event Address)} {w : World Address τ} {reg : Bills Address}

omit [DecidableEq Address] in
theorem replayCreated (bill : Bill Address) : replay (events ++ [createdEvent bill]) =
    {replay events with notices := (replay events).notices ++ [noticeOf bill]} := List.foldl_concat ..

omit [DecidableEq Address] in
theorem replaySettled (p : Address) (id : U32) (share : I128) : replay (events ++ [settledEvent p id share]) =
    {replay events with payments := (replay events).payments ++ [⟨id,p,share⟩]} := List.foldl_concat ..

def Ordered (events : List (Event Address)) : Prop :=
  ∀ part, part <+: events → ∀ p ∈ (replay part).payments, ∃ n ∈ (replay part).notices, n.id = p.id ∧ n.share = p.share

structure Recounts (w : World Address τ) (reg : Bills Address) : Prop where
  mirrors : Mirrors w reg
  notices : (replay w.events).notices = reg.records.map noticeOf
  flags : ∀ id p, isSettled w id p = true ↔ (id,p) ∈ (replay w.events).payments.map Payment.pair
  once : ((replay w.events).payments.map Payment.pair).Nodup
  ordered : Ordered w.events

theorem recountsConstructed (token : Address) (t : τ) : Recounts (constructed token t) Register.empty where
  mirrors := mirrorsConstructed token t
  notices := rfl
  flags := by simp [isSettled,constructed,replay]
  once := List.nodup_nil
  ordered := by
    intro part inside p member
    rw [List.prefix_nil.mp inside] at member
    contradiction

theorem recountsRecorded (h : Recounts w reg) {bill : Bill Address} (sound : Sound bill)
    (next : bill.id.val = (billCount w).val + 1) :
    Recounts (recorded w bill) (reg.add bill (by rw [next,h.mirrors.counted]) sound) where
  mirrors := mirrorsRecorded h.mirrors sound next
  notices := by
    rw [recorded,replayCreated,h.notices,Register.add,List.map_append]
    rfl
  flags := by
    intro id p
    rw [recorded,replayCreated]
    exact h.flags id p
  once := by
    rw [recorded,replayCreated]
    exact h.once
  ordered := by
    intro part inside p member
    rcases List.prefix_concat_iff.mp inside with whole | earlier
    · rw [whole,replayCreated] at member ⊢
      obtain ⟨n,told,same⟩ := h.ordered w.events List.prefix_rfl p member
      exact ⟨n,List.mem_append_left _ told,same⟩
    · exact h.ordered part earlier p member

theorem recountsCharged (h : Recounts w reg) {c : Charge Address} {bill : Bill Address} (t : τ)
    (found : w.store.bill c.id = some bill) (listed : c.payer ∈ bill.payers) (fresh : isSettled w c.id c.payer = false)
    (amount : c.amount = bill.share) : Recounts (charged w c t) reg where
  mirrors := mirrorsCharged h.mirrors t found listed
  notices := by
    rw [charged,replaySettled]
    exact h.notices
  flags := by
    intro id p
    rw [chargedFlag,charged,replaySettled,List.map_append,List.mem_append,← h.flags]
    split
    · rename_i same
      simp [Payment.pair,same]
    · rename_i other
      simp [Payment.pair,other]
  once := by
    rw [charged,replaySettled,List.map_append]
    apply h.once.append (List.nodup_singleton _)
    intro pair before now
    rw [List.mem_singleton.mp now] at before
    rw [(h.flags c.id c.payer).mpr before] at fresh
    contradiction
  ordered := by
    obtain ⟨member,number⟩ := (h.mirrors.stored _ _).mp found
    intro part inside p paid
    rcases List.prefix_concat_iff.mp inside with whole | earlier
    · rw [whole,replaySettled] at paid ⊢
      rcases List.mem_append.mp paid with before | now
      · exact h.ordered w.events List.prefix_rfl p before
      · rw [List.mem_singleton.mp now]
        refine ⟨noticeOf bill,?_,number,amount.symm⟩
        rw [h.notices]
        exact List.mem_map_of_mem member
    · exact h.ordered part earlier p paid

theorem stepRecounts (transfer : Transfer Address τ) :
    Preserves (step transfer) (fun w : World Address τ => ∃ reg, Recounts w reg) := by
  rintro w i ⟨reg,h⟩
  rcases stepCases transfer w i with same | ⟨t,same⟩ | ⟨bill,sound,next,same⟩ | ⟨c,bill,t,_,found,listed,fresh,_,shape,same⟩
  · rw [same]
    exact ⟨reg,h⟩
  · rw [same]
    exact ⟨reg,⟨h.mirrors.counted,h.mirrors.stored,h.mirrors.created,h.mirrors.owed,h.mirrors.flagged⟩,h.notices,h.flags,
      h.once,h.ordered⟩
  · rw [same]
    exact ⟨_,recountsRecorded h sound next⟩
  · rw [same]
    exact ⟨reg,recountsCharged h t found listed fresh (by rw [shape])⟩

end Replay

theorem billsFromEvents (transfer : Transfer Address τ) (token : Address) (t : τ) (inputs : List (Input Address τ)) :
    let w := run (step transfer) (constructed token t) inputs
    let k := replay w.events
    (billCount w).val = k.notices.length ∧ k.notices.Pairwise (fun n m => n.id < m.id) ∧
    (∀ n, n ∈ k.notices ↔ ∃ bill, getBill w n.id = .ok bill ∧ noticeOf bill = n) ∧
    (∀ a, billsByCreator w a = (k.notices.filter fun n => n.creator = a).map Notice.id) ∧
    (∀ id p, isSettled w id p = true ↔ (id,p) ∈ k.payments.map Payment.pair) ∧
    (k.payments.map Payment.pair).Nodup ∧ Ordered w.events := by
  intro w k
  obtain ⟨reg,h⟩ : ∃ reg, Recounts w reg :=
    runPreserves (stepRecounts transfer) ⟨_,recountsConstructed token t⟩ inputs
  have notices : k.notices = reg.records.map noticeOf := h.notices
  refine ⟨?_,?_,?_,?_,h.flags,h.once,h.ordered⟩
  · rw [h.mirrors.counted,notices,List.length_map]
  · rw [notices,List.pairwise_map]
    exact reg.increasing
  · intro n
    rw [notices,List.mem_map]
    constructor
    · rintro ⟨bill,member,rfl⟩
      exact ⟨bill,getBillExact.mpr ((h.mirrors.stored _ _).mpr ⟨member,rfl⟩),rfl⟩
    · rintro ⟨bill,found,same⟩
      exact ⟨bill,((h.mirrors.stored _ _).mp (getBillExact.mp found)).1,same⟩
  · intro a
    rw [h.mirrors.created,notices,List.filter_map,List.map_map]
    rfl

def transferEvent (p creator : Address) (share : I128) : Event Address :=
  ⟨[.symbol "transfer",.address p,.address creator],.one (.i128 share)⟩

inductive Pays (w : World Address τ) : Event Address → Event Address → Prop
  | settled {id : U32} {bill : Bill Address} {p : Address} (found : getBill w id = .ok bill) :
      Pays w (settledEvent p id bill.share) (transferEvent p bill.creator bill.share)

def settlements (w : World Address τ) : List (Event Address) := w.events.filter fun e => (settledPair e).isSome

def Backed (w : Joint.World Address) : Prop :=
  ∃ transfers, transfers.Sublist w.token.events ∧ List.Forall₂ (Pays w) (settlements w) transfers

omit [DecidableEq Address] in
theorem paysLater {w w' : World Address τ} (extends' : Extends w w') {events transfers : List (Event Address)}
    (pays : List.Forall₂ (Pays w) events transfers) : List.Forall₂ (Pays w') events transfers := by
  apply pays.imp
  intro e f before
  cases before with
  | settled found => exact .settled (getBillExact.mpr (extends'.bill _ _ (getBillExact.mp found)))

theorem stepTransfers (tokenAddr : Address) : Preserves (Joint.step tokenAddr)
    (fun w : Joint.World Address => Joint.Healthy tokenAddr w ∧ Backed w) := by
  rintro w ⟨env,c⟩ ⟨healthy,backed⟩
  refine ⟨Joint.stepHealthy tokenAddr w (env,c) healthy,?_⟩
  have later := Joint.stepExtends healthy (env,c)
  cases result : Joint.invoke tokenAddr env w c with
  | error trap =>
    have left : Joint.step tokenAddr w (env,c) = w := by simp [Joint.step,result]
    rw [left]
    exact backed
  | ok w' =>
    have left : Joint.step tokenAddr w (env,c) = w' := by simp [Joint.step,result]
    rw [left] at later ⊢
    obtain ⟨transfers,inside,pays⟩ := backed
    cases Joint.invokeEffect result with
    | token done =>
      obtain ⟨e,_,events⟩ := (TokenLedger.invokeEffect done).published
      refine ⟨transfers,?_,paysLater later pays⟩
      exact events ▸ inside.trans (List.sublist_append_left _ _)
    | createBill created token =>
      obtain ⟨_,_,_,rfl⟩ := createBillExact.mp created
      refine ⟨transfers,inside,?_⟩
      have kept : ∀ bill, settlements (recorded w bill) = settlements w := by
        intro bill
        rw [settlements,recorded,List.filter_append]
        exact List.append_nil _
      rw [kept]
      exact paysLater later pays
    | @settle id p bill t _ found _ _ done =>
      obtain ⟨e,said,events⟩ := (TokenLedger.invokeEffect done).published
      cases Option.some.inj said
      refine ⟨transfers ++ [transferEvent p bill.creator bill.share],?_,?_⟩
      · exact events ▸ inside.append (.refl _)
      · have grown : settlements (charged w ⟨env,id,p,tokenAddr,p,⟨bill.creator,none⟩,bill.share⟩ t) =
            settlements w ++ [settledEvent p id bill.share] := by
          rw [settlements,charged,List.filter_append]
          rfl
        rw [grown]
        have now := getBillExact.mpr (later.bill _ _ (getBillExact.mp found))
        exact List.rel_append (paysLater later pays) (.cons (.settled now) .nil)

theorem settlementsBacked (d : Joint.Deployment Address) (inputs : List (Env Address × Joint.Call Address)) :
    ∃ transfers, transfers.Sublist (d.world inputs).token.events ∧
      List.Forall₂ (Pays (d.world inputs)) (settlements (d.world inputs)) transfers := by
  have start : Joint.Healthy d.tokenAddr d.genesis ∧ Backed d.genesis :=
    ⟨Joint.worldHealthy d [],[],.refl _,.nil⟩
  exact (runPreserves (stepTransfers d.tokenAddr) start inputs).2

end SplitBill.BillLog
