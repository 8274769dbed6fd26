import SplitBill.BillSplit
import SplitBill.Register

/-! What the bill store is for: an append-only register of sound bills, read through
a counter, a lookup by number and two indexes. The stored maps mirror the register
in every reachable world, whatever the token does and whichever calls trap. -/
namespace SplitBill.BillRegister
open Host BillSplit Transition
variable {Address τ : Type} [DecidableEq Address]

abbrev Bills (Address : Type) := Register (Bill Address) Bill.id Sound

structure Mirrors (w : World Address τ) (reg : Bills Address) : Prop where
  counted : (billCount w).val = reg.records.length
  stored : ∀ k b, w.store.bill k = some b ↔ b ∈ reg.records ∧ b.id = k
  created : ∀ a, billsByCreator w a = reg.once (fun b => b.creator = a)
  owed : ∀ a, billsByPayer w a = reg.often (fun b => b.payers.count a)
  flagged : ∀ k p, isSettled w k p = true → ∃ b, w.store.bill k = some b ∧ p ∈ b.payers

def Registered (w : World Address τ) : Prop := ∃ reg, Mirrors w reg

theorem pushBackRead (index : Address → Option (List U32)) (key a : Address) (id : U32) :
    (pushBack index key id a).getD [] = (index a).getD [] ++ if key = a then [id] else [] := by
  by_cases same : key = a
  · subst same; simp [pushBack]
  · simp [pushBack,same,Ne.symm same]

theorem payerLoopRead (payers : List Address) (index : Address → Option (List U32)) (a : Address) (id : U32) :
    ((payers.foldl (fun index payer => pushBack index payer id) index) a).getD [] =
      (index a).getD [] ++ List.replicate (payers.count a) id := by
  induction payers generalizing index with
  | nil => simp
  | cons p rest ih =>
    rw [List.foldl_cons,ih,pushBackRead,List.append_assoc,List.count_cons]
    by_cases same : p = a
    · simp [same,List.replicate_succ]
    · simp [same]

theorem mirrorsConstructed (token : Address) (t : τ) : Mirrors (constructed token t) Register.empty where
  counted := rfl
  stored := by simp [constructed,Register.empty]
  created := by simp [constructed,billsByCreator,Register.once,Register.empty]
  owed := by simp [constructed,billsByPayer,Register.often,Register.empty]
  flagged := by simp [constructed,isSettled]

theorem mirrorsFresh {w : World Address τ} {reg : Bills Address} (m : Mirrors w reg) {k : U32}
    (next : k.val = (billCount w).val + 1) : w.store.bill k = none := by
  cases found : w.store.bill k with
  | none => rfl
  | some b =>
    obtain ⟨member,same⟩ := (m.stored k b).mp found
    have inside := reg.range member
    rw [same] at inside
    have := m.counted
    omega

theorem recordedKeeps {w : World Address τ} {bill : Bill Address} (fresh : w.store.bill bill.id = none)
    {k : U32} {b : Bill Address} (found : w.store.bill k = some b) : (recorded w bill).store.bill k = some b := by
  have other : k ≠ bill.id := by
    intro same
    rw [same,fresh] at found
    contradiction
  simpa [recorded,other] using found

theorem mirrorsRecorded {w : World Address τ} {reg : Bills Address} (m : Mirrors w reg) {bill : Bill Address}
    (sound : Sound bill) (next : bill.id.val = (billCount w).val + 1) :
    Mirrors (recorded w bill) (reg.add bill (by rw [next,m.counted]) sound) where
  counted := by
    have := m.counted
    simp only [billCount,recorded,Option.getD_some,Register.add,List.length_append,List.length_singleton]
    rw [next]
    omega
  stored := by
    intro k b
    by_cases same : k = bill.id
    · subst same
      have absent := mirrorsFresh m next
      have foreign : ¬ (b ∈ reg.records ∧ b.id = bill.id) := by rw [← m.stored,absent]; simp
      simp only [recorded,Function.update_self,Option.some.injEq,Register.add,List.mem_append,List.mem_singleton]
      constructor
      · intro h; subst h; exact ⟨.inr rfl,rfl⟩
      · intro h
        rcases h with ⟨old | new,id⟩
        · exact absurd ⟨old,id⟩ foreign
        · exact new.symm
    · simp only [recorded,Function.update_of_ne same,m.stored,Register.add,List.mem_append,List.mem_singleton]
      constructor
      · intro h; exact ⟨.inl h.1,h.2⟩
      · intro h
        rcases h with ⟨old | new,id⟩
        · exact ⟨old,id⟩
        · rw [new] at id; exact absurd id.symm same
  created := by
    intro a
    have before := m.created a
    simp only [billsByCreator] at before
    simp only [billsByCreator,recorded,pushBackRead,before,Register.once,Register.add,List.filter_append,
      List.map_append]
    by_cases same : bill.creator = a <;> simp [same]
  owed := by
    intro a
    have before := m.owed a
    simp only [billsByPayer] at before
    simp [billsByPayer,recorded,payerLoopRead,before,Register.often,Register.add]
  flagged := by
    intro k p flag
    obtain ⟨b,found,listed⟩ := m.flagged k p flag
    exact ⟨b,recordedKeeps (mirrorsFresh m next) found,listed⟩

theorem chargedFlag (w : World Address τ) (c : Charge Address) (t : τ) (k : U32) (p : Address) :
    isSettled (charged w c t) k p = if k = c.id ∧ p = c.payer then true else isSettled w k p := by
  by_cases same : k = c.id ∧ p = c.payer
  · simp [isSettled,charged,same]
  · rw [if_neg same]
    simp [isSettled,charged,same]

theorem mirrorsCharged {w : World Address τ} {reg : Bills Address} (m : Mirrors w reg) {c : Charge Address}
    {bill : Bill Address} (t : τ) (found : w.store.bill c.id = some bill) (listed : c.payer ∈ bill.payers) :
    Mirrors (charged w c t) reg where
  counted := m.counted
  stored := m.stored
  created := m.created
  owed := m.owed
  flagged := by
    intro k p flag
    rw [chargedFlag] at flag
    split at flag
    · rename_i same
      obtain ⟨rfl,rfl⟩ := same
      exact ⟨bill,found,listed⟩
    · exact m.flagged k p flag

theorem stepRegistered (transfer : Transfer Address τ) : Preserves (step transfer) Registered := by
  intro w i h
  obtain ⟨reg,m⟩ := h
  rcases stepCases transfer w i with same | ⟨t,same⟩ | ⟨bill,sound,next,same⟩ | ⟨c,bill,t,_,found,listed,_,_,_,same⟩
  · rw [same]; exact ⟨reg,m⟩
  · rw [same]; exact ⟨reg,m.counted,m.stored,m.created,m.owed,m.flagged⟩
  · rw [same]; exact ⟨_,mirrorsRecorded m sound next⟩
  · rw [same]; exact ⟨_,mirrorsCharged m t found listed⟩

structure Extends (w w' : World Address τ) : Prop where
  counter : (billCount w).val ≤ (billCount w').val
  bill : ∀ k b, w.store.bill k = some b → w'.store.bill k = some b
  flag : ∀ k p, isSettled w k p = true → isSettled w' k p = true

theorem stepExtends (transfer : Transfer Address τ) (w : World Address τ) (i : Input Address τ)
    (registered : Registered w) : Extends w (step transfer w i) := by
  obtain ⟨reg,m⟩ := registered
  rcases stepCases transfer w i with same | ⟨t,same⟩ | ⟨bill,_,next,same⟩ | ⟨c,bill,t,_,_,_,_,_,_,same⟩
  · rw [same]; exact ⟨le_rfl,fun _ _ h => h,fun _ _ h => h⟩
  · rw [same]; exact ⟨le_rfl,fun _ _ h => h,fun _ _ h => h⟩
  · rw [same]
    have grown : (billCount (recorded w bill)).val = bill.id.val := rfl
    exact ⟨by omega,fun _ _ => recordedKeeps (mirrorsFresh m next),fun _ _ h => h⟩
  · rw [same]
    refine ⟨le_rfl,fun _ _ h => h,?_⟩
    intro k p h
    rw [chargedFlag,h,ite_self]

theorem runExtends (transfer : Transfer Address τ) {w : World Address τ} (registered : Registered w)
    (inputs : List (Input Address τ)) : Extends w (run (step transfer) w inputs) := by
  refine runRelates (stepRegistered transfer) (R := Extends) ?_ ?_ (stepExtends transfer) registered inputs
  · intro s; exact ⟨le_rfl,fun _ _ h => h,fun _ _ h => h⟩
  · intro a b c left right
    exact ⟨left.counter.trans right.counter,fun k x h => right.bill k x (left.bill k x h),
      fun k p h => right.flag k p (left.flag k p h)⟩

theorem runRegistered (transfer : Transfer Address τ) (token : Address) (t : τ) (inputs : List (Input Address τ)) :
    Registered (run (step transfer) (constructed token t) inputs) :=
  runPreserves (stepRegistered transfer) ⟨_,mirrorsConstructed token t⟩ inputs

section Views
variable {w : World Address τ} {reg : Bills Address}

omit [DecidableEq Address] in
theorem getBillExact {k : U32} {b : Bill Address} : getBill w k = .ok b ↔ w.store.bill k = some b := expectOk

theorem billExists (m : Mirrors w reg) (k : U32) :
    (∃ b, getBill w k = .ok b) ↔ 1 ≤ k.val ∧ k.val ≤ (billCount w).val := by
  rw [m.counted]
  constructor
  · intro h
    obtain ⟨b,found⟩ := h
    obtain ⟨member,rfl⟩ := (m.stored k b).mp (getBillExact.mp found)
    exact reg.range member
  · intro inside
    obtain ⟨b,member,same⟩ := reg.onto inside
    exact ⟨b,getBillExact.mpr ((m.stored k b).mpr ⟨member,same⟩)⟩

theorem billSound (m : Mirrors w reg) {k : U32} {b : Bill Address} (found : getBill w k = .ok b) :
    b.id = k ∧ Sound b := by
  obtain ⟨member,same⟩ := (m.stored k b).mp (getBillExact.mp found)
  exact ⟨same,reg.sound b member⟩

end Views

theorem numberedWithoutGaps (transfer : Transfer Address τ) (token : Address) (t : τ)
    (inputs : List (Input Address τ)) :
    let w := run (step transfer) (constructed token t) inputs
    (∀ k, (∃ b, getBill w k = .ok b) ↔ 1 ≤ k.val ∧ k.val ≤ (billCount w).val) ∧
    (∀ k b, getBill w k = .ok b → b.id = k ∧ 0 < b.share.val ∧ 1 ≤ b.payers.length ∧ b.payers.length ≤ 20 ∧
      b.memo.length ≤ 80) ∧
    (∀ k p, isSettled w k p = true → 1 ≤ k.val ∧ k.val ≤ (billCount w).val) ∧
    (∀ env creator payers share memo id w', createBill env w creator payers share memo = .ok (id,w') →
      id.val = (billCount w).val + 1 ∧
      ∀ later env' creator' payers' share' memo' id' w'',
        createBill env' (run (step transfer) w' later) creator' payers' share' memo' = .ok (id',w'') → id' ≠ id) ∧
    (∀ later k b, getBill w k = .ok b → getBill (run (step transfer) w later) k = .ok b) := by
  intro w
  obtain ⟨reg,m⟩ : Registered w := runRegistered transfer token t inputs
  refine ⟨billExists m,?_,?_,?_,?_⟩
  · intro k b found
    obtain ⟨same,share,some,few,short⟩ := billSound m found
    exact ⟨same,share,List.length_pos_iff.mpr some,few,short⟩
  · intro k p flag
    obtain ⟨b,found,_⟩ := m.flagged k p flag
    exact (billExists m k).mp ⟨b,getBillExact.mpr found⟩
  · intro env creator payers share memo id w' created
    obtain ⟨_,sound,next,rfl⟩ := createBillExact.mp created
    refine ⟨next,?_⟩
    intro later env' creator' payers' share' memo' id' w'' again same
    have grown := (runExtends transfer ⟨_,mirrorsRecorded m sound next⟩ later).counter
    have current : (billCount (recorded w ⟨id,creator,payers,share,memo,env.timestamp⟩)).val = id.val := rfl
    have following := (createBillExact.mp again).2.2.1
    rw [same] at following
    omega
  · intro later k b found
    exact getBillExact.mpr ((runExtends transfer ⟨reg,m⟩ later).bill k b (getBillExact.mp found))

theorem indexesMirrorBills (transfer : Transfer Address τ) (token : Address) (t : τ)
    (inputs : List (Input Address τ)) (a : Address) :
    let w := run (step transfer) (constructed token t) inputs
    (billsByCreator w a).Pairwise (· < ·) ∧
    (∀ k, k ∈ billsByCreator w a ↔
      (1 ≤ k.val ∧ k.val ≤ (billCount w).val) ∧ ∃ b, getBill w k = .ok b ∧ b.creator = a) ∧
    (billsByPayer w a).Pairwise (· ≤ ·) ∧
    (∀ k, 1 ≤ k.val ∧ k.val ≤ (billCount w).val →
      ∃ b, getBill w k = .ok b ∧ (billsByPayer w a).count k = b.payers.count a) ∧
    (∀ k, k ∈ billsByPayer w a → 1 ≤ k.val ∧ k.val ≤ (billCount w).val) := by
  intro w
  obtain ⟨reg,m⟩ : Registered w := runRegistered transfer token t inputs
  rw [m.created,m.owed]
  refine ⟨reg.onceIncreasing _,?_,reg.oftenSorted _,?_,?_⟩
  · intro k
    rw [reg.onceMembers,← billExists m]
    constructor
    · intro h
      obtain ⟨b,member,same,id⟩ := h
      have found := getBillExact.mpr ((m.stored k b).mpr ⟨member,id⟩)
      exact ⟨⟨b,found⟩,b,found,by simpa using same⟩
    · intro h
      obtain ⟨_,b,found,same⟩ := h
      obtain ⟨member,id⟩ := (m.stored k b).mp (getBillExact.mp found)
      exact ⟨b,member,by simpa using same,id⟩
  · intro k inside
    obtain ⟨b,found⟩ := (billExists m k).mpr inside
    obtain ⟨member,rfl⟩ := (m.stored k b).mp (getBillExact.mp found)
    exact ⟨b,found,reg.oftenCount _ member⟩
  · intro k listed
    by_contra outside
    refine Register.foreignAbsent _ ?_ listed
    intro b member same
    have inside := reg.range member
    rw [same,← m.counted] at inside
    exact outside inside

end SplitBill.BillRegister
