import SplitBill.TokenLedger

/-! What an approval is worth. The stored entry of a pair is the approved amount less what was drawn
since, whoever else uses the token. It has two ends, the expiration in the value and the life of the
storage entry, and only the first is in the hands of the contract. -/
namespace SplitBill.Allowance
open Host StableToken TokenLedger Transition
variable {Address : Type} [DecidableEq Address]

abbrev Input (Address : Type) := Env Address × Call Address

def succeeds (s : State Address) (i : Input Address) : Bool := (invoke i.1 s i.2).toOption.isSome

def approves (source spender : Address) : Call Address → Bool
  | .approve owner delegate _ _ => owner = source ∧ delegate = spender
  | _ => false

def drawn (source spender : Address) : Call Address → Option I128
  | .transferFrom delegate owner _ amount | .burnFrom delegate owner amount =>
      if owner = source ∧ delegate = spender then some amount else none
  | _ => none

def spending (source spender : Address) (s : State Address) (i : Input Address) : Int :=
  if succeeds s i then (drawn source spender i.2).elim 0 MachineInt.val else 0

def spent (source spender : Address) : State Address → List (Input Address) → Int
  | _,[] => 0
  | s,i :: rest => spending source spender s i + spent source spender (step s i) rest

def Unapproved (source spender : Address) (s : State Address) (inputs : List (Input Address)) : Prop :=
  Along step (fun s i => (succeeds s i && approves source spender i.2) = false) s inputs

theorem succeedsExact {s : State Address} {i : Input Address} :
    succeeds s i = true ↔ ∃ s', invoke i.1 s i.2 = .ok s' := by
  cases result : invoke i.1 s i.2 <;> simp [succeeds,result,Except.toOption]

inductive EntryEffect (env : Env Address) (s s' : State Address) (source spender : Address) : Call Address → Prop
  | untouched {c} (other : approves source spender c = false) (idle : drawn source spender c = none)
      (same : s'.allowances (source,spender) = s.allowances (source,spender)) : EntryEffect env s s' source spender c
  | approved {amount expiration}
      (stored : s'.allowances (source,spender) =
        some ⟨⟨amount,expiration⟩,Temporary.lifeAfter env s.allowances (source,spender)⟩) :
      EntryEffect env s s' source spender (.approve source spender amount expiration)
  | drawn {c amount left}
      (call : (∃ target, c = .transferFrom spender source target amount) ∨ c = .burnFrom spender source amount)
      (nonneg : 0 ≤ amount.val) (spendable : Spendable env s source spender amount)
      (lower : left.val = (storedAllowance env s source spender).amount.val - amount.val)
      (stored : s'.allowances (source,spender) =
        some ⟨⟨left,(storedAllowance env s source spender).expirationLedger⟩,
          Temporary.lifeAfter env s.allowances (source,spender)⟩) : EntryEffect env s s' source spender c

theorem entryEffect {env : Env Address} {s s' : State Address} {c : Call Address} (effect : Effect env s s' c)
    (source spender : Address) : EntryEffect env s s' source spender c := by
  have admitted := effect.admitted
  have after := effect.allowances
  have elsewhere : ∀ (key : Address × Address) (data : AllowanceData), (source,spender) ≠ key →
      s'.allowances = Temporary.set env s.allowances key data →
      s'.allowances (source,spender) = s.allowances (source,spender) := by
    intro key data other same
    rw [same,Temporary.setOther env s.allowances data other]
  cases c with
  | mint target amount | setAdmin newAdmin | transfer owner target amount | burn owner amount =>
    simp only [AllowancesAfter] at after
    exact .untouched rfl rfl (by rw [after])
  | approve owner delegate amount expiration =>
    simp only [AllowancesAfter] at after
    by_cases same : owner = source ∧ delegate = spender
    · obtain ⟨rfl,rfl⟩ := same
      exact .approved (by rw [after,Temporary.setSame])
    · refine .untouched (by simp [approves,same]) rfl (elsewhere _ _ ?_ after)
      intro keys
      cases keys
      exact same ⟨rfl,rfl⟩
  | transferFrom delegate owner target amount | burnFrom delegate owner amount =>
    obtain ⟨left,lower,after⟩ := after
    by_cases same : owner = source ∧ delegate = spender
    · obtain ⟨rfl,rfl⟩ := same
      refine .drawn (by simp) admitted.2.1 admitted.2.2.1 lower ?_
      rw [after]
      exact Temporary.setSame ..
    · refine .untouched rfl (by simp [drawn,same]) (elsewhere _ _ ?_ after)
      intro keys
      cases keys
      exact same ⟨rfl,rfl⟩

def Granted (s : State Address) (source spender : Address) (left : Int) (expiration : U32) (life : Nat) : Prop :=
  0 ≤ left ∧ ∃ amount : I128, amount.val = left ∧ s.allowances (source,spender) = some ⟨⟨amount,expiration⟩,life⟩

section Granted
variable {env : Env Address} {s s' : State Address} {source spender : Address} {left : Int} {expiration : U32}
  {life : Nat} {i : Input Address} {amount : I128}

theorem drawnCall {c : Call Address}
    (call : (∃ target, c = .transferFrom spender source target amount) ∨ c = .burnFrom spender source amount) :
    drawn source spender c = some amount ∧ approves source spender c = false := by
  rcases call with ⟨target,rfl⟩ | rfl <;> simp [drawn,approves]

theorem approveGrants (ok : approve env s source spender amount expiration = .ok s') :
    Granted s' source spender amount.val expiration (Temporary.lifeAfter env s.allowances (source,spender)) := by
  have effect := invokeEffect (c := .approve source spender amount expiration) ok
  refine ⟨effect.admitted.2,amount,rfl,?_⟩
  cases entryEffect effect source spender with
  | untouched other _ _ => simp [approves] at other
  | approved stored => exact stored
  | drawn call _ _ _ _ => simp at call

theorem drawnAdmitted {c : Call Address} (admitted : Admitted env s c) (draws : drawn source spender c = some amount) :
    0 ≤ amount.val ∧ Spendable env s source spender amount := by
  cases c <;> simp only [drawn,reduceCtorEq,Option.ite_none_right_eq_some,Option.some.injEq] at draws
  case transferFrom delegate owner target taken =>
    obtain ⟨⟨rfl,rfl⟩,rfl⟩ := draws
    exact ⟨admitted.2.1,admitted.2.2.1⟩
  case burnFrom delegate owner taken =>
    obtain ⟨⟨rfl,rfl⟩,rfl⟩ := draws
    exact ⟨admitted.2.1,admitted.2.2.1⟩

/- Only a live entry can be drawn on: what reads as absent has expired before the first ledger. -/
omit [DecidableEq Address] in
theorem drawnAlive (granted : Granted s source spender left expiration life) (spendable : Spendable env s source spender amount) :
    env.sequence.val ≤ life ∧ env.sequence.val ≤ expiration.val ∧ amount.val ≤ left ∧
      (storedAllowance env s source spender).amount.val = left ∧
      (storedAllowance env s source spender).expirationLedger = expiration := by
  obtain ⟨_,held,rfl,stored⟩ := granted
  obtain ⟨unexpired,enough⟩ := spendable
  by_cases alive : env.sequence.val ≤ life
  · have read : storedAllowance env s source spender = ⟨held,expiration⟩ := by
      rw [storedAllowance,Temporary.getLive stored alive]
      rfl
    rw [read] at unexpired enough ⊢
    exact ⟨alive,unexpired,enough,rfl,rfl⟩
  · have read : storedAllowance env s source spender = ⟨zero,.lit 0⟩ := by
      rw [storedAllowance,Temporary.getDead stored (not_le.mp alive)]
      rfl
    rw [read] at unexpired
    have never : (MachineInt.lit 0 : U32).val = 0 := rfl
    simp only [never] at unexpired
    omega

theorem stepGranted (granted : Granted s source spender left expiration life)
    (other : (succeeds s i && approves source spender i.2) = false) :
    Granted (step s i) source spender (left - spending source spender s i) expiration life := by
  cases result : invoke i.1 s i.2 with
  | error trap =>
    have refused : succeeds s i = false := by simp [succeeds,result,Except.toOption]
    have idle : spending source spender s i = 0 := by simp [spending,refused]
    rw [idle,sub_zero]
    simpa [step,result] using granted
  | ok s' =>
    have returned : succeeds s i = true := succeedsExact.mpr ⟨s',result⟩
    have after : step s i = s' := by simp [step,result]
    rw [after]
    simp only [returned,Bool.true_and] at other
    have amounts : spending source spender s i = (drawn source spender i.2).elim 0 MachineInt.val := by
      simp [spending,returned]
    rw [amounts]
    obtain ⟨env,c⟩ := i
    cases entryEffect (invokeEffect result) source spender with
    | untouched _ idle same =>
      simp only [idle,Option.elim_none,sub_zero]
      rw [Granted,same]
      exact granted
    | approved stored => simp [approves] at other
    | @drawn _ amount rest call nonneg spendable lower stored =>
      obtain ⟨alive,_,enough,held,expires⟩ := drawnAlive granted spendable
      obtain ⟨_,before,_,found⟩ := granted
      simp only [(drawnCall call).1,Option.elim_some]
      refine ⟨by omega,rest,by rw [lower,held],?_⟩
      rw [stored,expires,Temporary.lifeKept found alive]

theorem runGranted (granted : Granted s source spender left expiration life) {inputs : List (Input Address)}
    (others : Unapproved source spender s inputs) :
    Granted (run step s inputs) source spender (left - spent source spender s inputs) expiration life := by
  induction inputs generalizing s left with
  | nil => simpa [spent] using granted
  | cons i rest ih =>
    have next := ih (stepGranted granted others.1) others.2
    rwa [sub_sub] at next

theorem spendingNonneg (source spender : Address) (s : State Address) (i : Input Address) :
    0 ≤ spending source spender s i := by
  unfold spending
  split
  · rename_i returned
    obtain ⟨s',result⟩ := succeedsExact.mp returned
    cases draws : drawn source spender i.2 with
    | none => exact le_rfl
    | some amount => exact (drawnAdmitted (invokeEffect result).admitted draws).1
  · exact le_rfl

theorem spentNonneg (source spender : Address) (s : State Address) (inputs : List (Input Address)) :
    0 ≤ spent source spender s inputs := by
  induction inputs generalizing s with
  | nil => exact le_rfl
  | cons i rest ih => exact add_nonneg (spendingNonneg source spender s i) (ih (step s i))

def Blank (s : State Address) (source spender : Address) : Prop :=
  s.allowances (source,spender) = none ∨ ∃ expiration life, Granted s source spender 0 expiration life

omit [DecidableEq Address] in
theorem blankSpendable (blank : Blank s source spender) (spendable : Spendable env s source spender amount) :
    (storedAllowance env s source spender).amount.val = 0 := by
  rcases blank with none | ⟨expiration,life,granted⟩
  · simp [storedAllowance,Temporary.get,Temporary.entry,none]
  · exact (drawnAlive granted spendable).2.2.2.1

theorem stepBlank (s : State Address) (i : Input Address)
    (other : (succeeds s i && approves source spender i.2) = false) (blank : Blank s source spender) :
    Blank (step s i) source spender := by
  refine commitKeeps (P := fun s => Blank s source spender) blank fun s' ok => ?_
  have returned : succeeds s i = true := succeedsExact.mpr ⟨s',ok⟩
  simp only [returned,Bool.true_and] at other
  obtain ⟨env,c⟩ := i
  cases entryEffect (invokeEffect ok) source spender with
  | untouched _ _ same =>
    simp only [Blank,Granted,same]
    exact blank
  | approved stored => simp [approves] at other
  | drawn call nonneg spendable lower stored =>
    have nothing := blankSpendable blank spendable
    have enough := spendable.2
    exact .inr ⟨_,_,le_rfl,_,by omega,stored⟩

end Granted

theorem spendingBounded (admin : Address) (decimal : U32) (name symbol : List UInt8)
    (before : List (Input Address)) (source spender : Address) :
    let s := run step (constructed admin decimal name symbol) before
    (Unapproved source spender (constructed admin decimal name symbol) before →
      ∀ i amount, drawn source spender i.2 = some amount → succeeds s i = true → amount.val ≤ 0) ∧
    ∀ env amount expiration s', approve env s source spender amount expiration = .ok s' →
      ∀ after, Unapproved source spender s' after →
        spent source spender s' after ≤ amount.val ∧
        (∀ i taken, drawn source spender i.2 = some taken → succeeds (run step s' after) i = true →
          i.1.sequence.val ≤ expiration.val) ∧
        ∀ (env' : Env Address) data, Temporary.get env' (run step s' after).allowances (source,spender) = some data →
          data.amount.val = amount.val - spent source spender s' after ∧ 0 ≤ data.amount.val := by
  intro s
  constructor
  · intro none i amount draws returned
    have blank : Blank s source spender := alongPreserves stepBlank (.inl rfl) none
    obtain ⟨s',result⟩ := succeedsExact.mp returned
    obtain ⟨_,spendable⟩ := drawnAdmitted (invokeEffect result).admitted draws
    have nothing := blankSpendable blank spendable
    have enough := spendable.2
    omega
  · intro env amount expiration s' ok after others
    have granted := runGranted (approveGrants ok) others
    refine ⟨by have := granted.1; omega,?_,?_⟩
    · intro i taken draws returned
      obtain ⟨s'',result⟩ := succeedsExact.mp returned
      exact (drawnAlive granted (drawnAdmitted (invokeEffect result).admitted draws).2).2.1
    · intro env' data found
      obtain ⟨nonneg,held,left,stored⟩ := granted
      have same : data = ⟨held,expiration⟩ := by
        by_cases alive : env'.sequence.val ≤ Temporary.lifeAfter env s.allowances (source,spender)
        · rw [Temporary.getLive stored alive] at found
          exact (Option.some.inj found).symm
        · rw [Temporary.getDead stored (not_le.mp alive)] at found
          contradiction
      rw [same]
      exact ⟨left,left ▸ nonneg⟩

def InOrder (ledger : Int) : List (Input Address) → Env Address → Prop
  | [],env => ledger ≤ env.sequence.val
  | i :: rest,env => ledger ≤ i.1.sequence.val ∧ InOrder i.1.sequence.val rest env

def Usable (source spender : Address) (amount : I128) (expiration : U32) (ledger : Int) (s : State Address) : Prop :=
  ∀ after env, Unapproved source spender s after → InOrder ledger after env →
    (allowance env (run step s after) source spender).val =
      if env.sequence.val ≤ expiration.val then amount.val - spent source spender s after else 0

omit [DecidableEq Address] in
theorem allowanceGranted {env : Env Address} {s : State Address} {source spender : Address} {left : Int} {expiration : U32}
    {life : Nat} (granted : Granted s source spender left expiration life) :
    (allowance env s source spender).val =
      if env.sequence.val ≤ life ∧ env.sequence.val ≤ expiration.val then left else 0 := by
  obtain ⟨_,held,rfl,stored⟩ := granted
  unfold allowance
  by_cases alive : env.sequence.val ≤ life
  · rw [Temporary.getLive stored alive]
    by_cases unexpired : env.sequence.val ≤ expiration.val <;> simp [alive,unexpired]
  · rw [Temporary.getDead stored (not_le.mp alive)]
    simp [alive]

theorem usableUntilExpiration (admin : Address) (decimal : U32) (name symbol : List UInt8) (before : List (Input Address))
    (env : Env Address) (source spender : Address) (amount : I128) (expiration : U32) (s' : State Address) :
    let s := run step (constructed admin decimal name symbol) before
    approve env s source spender amount expiration = .ok s' → env.sequence.val ≤ expiration.val →
      (Usable source spender amount expiration env.sequence.val s' ↔
        amount.val = 0 ∨ expiration.val ≤ Temporary.lifeAfter env s.allowances (source,spender)) := by
  intro s ok current
  have granted := approveGrants ok
  have kept := Temporary.nowKept env s.allowances (source,spender)
  generalize Temporary.lifeAfter env s.allowances (source,spender) = life at *
  constructor
  · intro usable
    by_contra short
    obtain ⟨something,short⟩ := not_or.mp short
    -- the first ledger at which the entry is gone
    have most := expiration.upper
    let late : Env Address := {env with sequence := ⟨life + 1,by omega,by omega⟩}
    have read := usable [] late trivial (by change env.sequence.val ≤ (life : Int) + 1; omega)
    change (allowance late s' source spender).val = _ at read
    rw [allowanceGranted granted,if_neg (by simp [late]),if_pos (by change (life : Int) + 1 ≤ _; omega)] at read
    simp only [spent] at read
    omega
  · intro long after env' others _
    have later := runGranted granted others
    rw [allowanceGranted later]
    rcases long with nothing | long
    · have most := later.1
      have least := spentNonneg source spender s' after
      rw [nothing] at most ⊢
      split <;> split <;> omega
    · by_cases unexpired : env'.sequence.val ≤ expiration.val
      · rw [if_pos ⟨by omega,unexpired⟩,if_pos unexpired]
      · rw [if_neg fun both => unexpired both.2,if_neg unexpired]

def ledgerAt (n : Nat) : Env Nat := ⟨fun _ => true,fun _ => true,.lit n,.lit 0,16⟩

/- Approved at ledger 1 until ledger 100, and gone at 17: nothing asks for a longer life than 16 ledgers. -/
theorem approvalForgotten : ∃ s',
    approve (ledgerAt 1) (run step (constructed 9 (.lit 7) [] []) []) 1 2 (.lit 30) (.lit 100) = .ok s' ∧
    (allowance (ledgerAt 16) s' 1 2).val = 30 ∧ (allowance (ledgerAt 17) s' 1 2).val = 0 ∧
    ¬ Usable 1 2 (.lit 30) (.lit 100) 1 s' := by
  refine ⟨_,rfl,rfl,rfl,?_⟩
  intro usable
  exact absurd (usable [] (ledgerAt 17) trivial (by change (1 : Int) ≤ 17; decide)) (by decide)

theorem approvalKept : ∃ s',
    approve (ledgerAt 1) (run step (constructed 9 (.lit 7) [] []) []) 1 2 (.lit 30) (.lit 16) = .ok s' ∧
    Usable 1 2 (.lit 30) (.lit 16) 1 s' :=
  ⟨_,rfl,(usableUntilExpiration 9 (.lit 7) [] [] [] (ledgerAt 1) 1 2 (.lit 30) (.lit 16) _ rfl (by decide)).mpr
    (.inr (by decide))⟩

end SplitBill.Allowance
