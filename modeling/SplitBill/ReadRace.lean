import SplitBill.Client

/-! Reads and writes of one client in any interleaving. A read that misses awaits the network between
its lookup and its fill, so a write may be applied, confirmed and over while the read is in flight.
Replies carry the number of writes applied when the node answered; nothing of the code looks at it. -/
namespace SplitBill.ReadRace
open Host Helpers Pipeline Transition ReadCache Client
variable {Address : Type} [DecidableEq Address]

structure Stamped where
  reply : Reply
  version : Nat
  deriving DecidableEq

structure Returned where
  write : Write
  place : Nat

inductive ReadPhase
  | asked
  | observed (answer : Except Thrown Reply) (version : Nat)
  | responded (answer : Except Thrown Reply) (version : Nat)

structure Flight where
  read : Read
  after : List Returned
  phase : ReadPhase

inductive WritePhase
  | sent
  | applied (place : Nat)
  | confirmed (place : Nat)

structure Result where
  read : Read
  after : List Returned
  stamped : Stamped

structure State (Address : Type) where
  cache : Cache JsString Stamped
  world : Joint.World Address
  version : Nat
  clock : Int
  reads : Nat → Option Flight
  writes : Nat → Option (Write × WritePhase)
  returned : List Returned
  results : List Result

def initial (w : Joint.World Address) : State Address :=
  ⟨ReadCache.empty,w,0,0,fun _ => none,fun _ => none,[],[]⟩

inductive Action (Address : Type)
  | tick (elapsed : Nat)
  | start (i : Nat) (r : Read)
  | snapshot (i : Nat)
  | respond (i : Nat)
  | fill (i : Nat)
  | send (j : Nat) (write : Write)
  | apply (j : Nat) (env : Env Address)
  | confirm (j : Nat)
  | finish (j : Nat)
  | fail (j : Nat)

section Steps
variable (config : Config) (sdk : Sdk Address) (tokenAddr : Address) (s : State Address)

-- A read that the configuration alone answers has seen no chain and is left out.
def start (i : Nat) (r : Read) : State Address :=
  if (s.reads i).isSome ∨ (unconfigured config r).isSome then s
  else match lookup s.cache s.clock (key r) with
    | some stamped => {s with results := s.results ++ [⟨r,s.returned,stamped⟩]}
    | none => {s with reads := Function.update s.reads i (some ⟨r,s.returned,.asked⟩)}

def snapshot (i : Nat) : State Address :=
  match s.reads i with
  | some ⟨r,after,.asked⟩ =>
      {s with reads := Function.update s.reads i (some ⟨r,after,.observed (fetch sdk s.world r) s.version⟩)}
  | _ => s

def respond (i : Nat) : State Address :=
  match s.reads i with
  | some ⟨r,after,.observed answer version⟩ =>
      {s with reads := Function.update s.reads i (some ⟨r,after,.responded answer version⟩)}
  | _ => s

-- The code after the await: the fill and the return happen in one go.
def fillAndReturn (i : Nat) : State Address :=
  match s.reads i with
  | some ⟨r,after,.responded answer version⟩ =>
      let s := {s with reads := Function.update s.reads i none}
      match answer with
      | .error _ => s
      | .ok reply =>
          {s with
            cache := fill s.cache s.clock BILL_TTL_MS (key r) ⟨reply,version⟩
            results := s.results ++ [⟨r,after,⟨reply,version⟩⟩]}
  | _ => s

def send (j : Nat) (write : Write) : State Address :=
  if (s.writes j).isSome ∨ config.contractId = [] then s
  else {s with writes := Function.update s.writes j (some (write,.sent))}

-- A transaction that the contract refuses changes nothing and can only fail.
def applyWrite (j : Nat) (env : Env Address) : State Address :=
  match s.writes j with
  | some (write,.sent) =>
      match arguments sdk write with
      | .error _ => s
      | .ok call =>
          match Joint.invoke tokenAddr env s.world (.bill call) with
          | .error _ => s
          | .ok w' =>
              {s with
                world := w'
                version := s.version + 1
                writes := Function.update s.writes j (some (write,.applied (s.version + 1)))}
  | _ => s

def confirm (j : Nat) : State Address :=
  match s.writes j with
  | some (write,.applied place) => {s with writes := Function.update s.writes j (some (write,.confirmed place))}
  | _ => s

def finish (j : Nat) : State Address :=
  match s.writes j with
  | some (write,.confirmed place) =>
      {s with
        cache := (prefixes write).foldl invalidateReads s.cache
        writes := Function.update s.writes j none
        returned := s.returned ++ [⟨write,place⟩]}
  | _ => s

def step : Action Address → State Address
  | .tick elapsed => {s with clock := s.clock + elapsed}
  | .start i r => start config s i r
  | .snapshot i => snapshot sdk s i
  | .respond i => respond s i
  | .fill i => fillAndReturn s i
  | .send j write => send config s j write
  | .apply j env => applyWrite sdk tokenAddr s j env
  | .confirm j => confirm s j
  | .finish j => finish s j
  | .fail j => {s with writes := Function.update s.writes j none}

end Steps

def crosses (k : JsString) (s : State Address) : Action Address → Bool
  | .fill i =>
      match s.reads i with
      | some ⟨r,_,.responded (.ok _) version⟩ =>
          key r == k && s.returned.any fun d => covers d.write k && version < d.place
      | _ => false
  | _ => false

def ReadPhase.floor (now : Nat) : ReadPhase → Nat
  | .asked => now
  | .observed _ version => version
  | .responded _ version => version

def FreshFlight (now : Nat) (f : Flight) : Prop := ∀ d ∈ f.after, d.place ≤ f.phase.floor now

def WritePhase.place : WritePhase → Nat
  | .sent => 0
  | .applied place => place
  | .confirmed place => place

structure Fresh (k : JsString) (s : State Address) : Prop where
  past : ∀ d ∈ s.returned, d.place ≤ s.version
  placed : ∀ j write phase, s.writes j = some (write,phase) → phase.place ≤ s.version
  flights : ∀ i f, s.reads i = some f → FreshFlight s.version f
  cache : Everywhere (fun k' v => k' = k → ∀ d ∈ s.returned, covers d.write k = true → d.place ≤ v.version) s.cache
  results : ∀ result ∈ s.results, key result.read = k → ∀ d ∈ result.after, covers d.write k = true →
    d.place ≤ result.stamped.version

section Invariant
variable {config : Config} {sdk : Sdk Address} {tokenAddr : Address} {k : JsString} {s : State Address}

omit [DecidableEq Address] in
theorem freshInitial (w : Joint.World Address) : Fresh k (initial w) where
  past := by simp [initial]
  placed := by simp [initial]
  flights := by simp [initial]
  cache := everywhereEmpty
  results := by simp [initial]

omit [DecidableEq Address] in
theorem freshReads (h : Fresh k s) {i : Nat} {next : Option Flight} (fresh : ∀ f, next = some f → FreshFlight s.version f) :
    Fresh k {s with reads := Function.update s.reads i next} where
  past := h.past
  placed := h.placed
  flights := by
    intro i' f found
    obtain ⟨_,put⟩ | before := updateFound found
    · exact fresh f put
    · exact h.flights i' f before
  cache := h.cache
  results := h.results

omit [DecidableEq Address] in
theorem freshWrites (h : Fresh k s) {j : Nat} {next : Option (Write × WritePhase)}
    (placed : ∀ write phase, next = some (write,phase) → phase.place ≤ s.version) :
    Fresh k {s with writes := Function.update s.writes j next} where
  past := h.past
  placed := by
    intro j' write phase found
    obtain ⟨_,put⟩ | before := updateFound found
    · exact placed write phase put
    · exact h.placed j' write phase before
  flights := h.flights
  cache := h.cache
  results := h.results

omit [DecidableEq Address] in
theorem freshStart (h : Fresh k s) (i : Nat) (r : Read) : Fresh k (start config s i r) := by
  unfold start
  split
  · exact h
  · split
    · rename_i stamped hit
      have seen := everywhereLookup h.cache hit
      refine {h with results := ?_}
      intro result member
      obtain before | now := List.mem_append.mp member
      · exact h.results result before
      · rw [List.mem_singleton.mp now]
        intro same
        exact seen same
    · apply freshReads h
      intro f asked
      cases Option.some.inj asked
      exact h.past

omit [DecidableEq Address] in
theorem freshSnapshot (h : Fresh k s) (i : Nat) : Fresh k (snapshot sdk s i) := by
  unfold snapshot
  split
  · rename_i r after found
    have asked := h.flights i _ found
    apply freshReads h
    intro f observed
    cases Option.some.inj observed
    exact asked
  · exact h

omit [DecidableEq Address] in
theorem freshRespond (h : Fresh k s) (i : Nat) : Fresh k (respond s i) := by
  unfold respond
  split
  · rename_i r after answer version found
    have observed := h.flights i _ found
    apply freshReads h
    intro f responded
    cases Option.some.inj responded
    exact observed
  · exact h

omit [DecidableEq Address] in
theorem freshFill (h : Fresh k s) (i : Nat) (apart : crosses k s (.fill i) = false) : Fresh k (fillAndReturn s i) := by
  unfold fillAndReturn
  split
  · rename_i r after answer version found
    have gone : Fresh k {s with reads := Function.update s.reads i none} := freshReads h (by simp)
    cases answer with
    | error e => exact gone
    | ok reply =>
      have seen := h.flights i _ found
      have newer : key r = k → ∀ d ∈ s.returned, covers d.write k = true → d.place ≤ version := by
        simpa [crosses,found] using apart
      refine {gone with cache := everywhereFill h.cache newer,results := ?_}
      intro result member
      obtain before | now := List.mem_append.mp member
      · exact h.results result before
      · rw [List.mem_singleton.mp now]
        exact fun _ d earlier _ => seen d earlier
  · exact h

theorem floorGrows {n : Nat} {f : Flight} (h : FreshFlight n f) : FreshFlight (n + 1) f := by
  intro d earlier
  have before := h d earlier
  obtain ⟨r,after,phase⟩ := f
  cases phase with
  | asked => exact Nat.le_succ_of_le before
  | observed answer version => exact before
  | responded answer version => exact before

omit [DecidableEq Address] in
theorem freshSend (h : Fresh k s) (j : Nat) (write : Write) : Fresh k (send config s j write) := by
  unfold send
  split
  · exact h
  · apply freshWrites h
    intro write' phase sent
    cases Option.some.inj sent
    exact Nat.zero_le _

theorem freshApply (h : Fresh k s) (j : Nat) (env : Env Address) : Fresh k (applyWrite sdk tokenAddr s j env) := by
  unfold applyWrite
  split <;> try exact h
  split <;> try exact h
  split <;> try exact h
  exact {
    past := fun d done => Nat.le_succ_of_le (h.past d done)
    placed := by
      intro j' write phase found
      obtain ⟨_,put⟩ | before := updateFound found
      · cases Option.some.inj put
        exact le_rfl
      · exact Nat.le_succ_of_le (h.placed j' write phase before)
    flights := fun i f found => floorGrows (h.flights i f found)
    cache := h.cache
    results := h.results }

omit [DecidableEq Address] in
theorem freshConfirm (h : Fresh k s) (j : Nat) : Fresh k (confirm s j) := by
  unfold confirm
  split
  · rename_i write place found
    have applied := h.placed j _ _ found
    apply freshWrites h
    intro write' phase confirmed
    cases Option.some.inj confirmed
    exact applied
  · exact h

omit [DecidableEq Address] in
theorem freshFinish (h : Fresh k s) (j : Nat) : Fresh k (finish s j) := by
  unfold finish
  split
  · rename_i write place found
    have applied := h.placed j _ _ found
    have gone : Fresh k {s with writes := Function.update s.writes j none} := freshWrites h (by simp)
    -- What is left in the cache is not covered, so the new write asks nothing of it.
    have kept : Everywhere (fun k' v => k' = k → ∀ d ∈ s.returned ++ [⟨write,place⟩],covers d.write k = true →
        d.place ≤ v.version) (invalidate s.cache (covers write)) := by
      refine everywhereInvalidate h.cache ?_
      intro k' v spared older same d done covered
      obtain before | now := List.mem_append.mp done
      · exact older same d before covered
      · rw [List.mem_singleton.mp now,← same,spared] at covered
        contradiction
    refine {gone with past := ?_,cache := by rw [invalidateAll]; exact kept}
    intro d done
    obtain before | now := List.mem_append.mp done
    · exact h.past d before
    · rw [List.mem_singleton.mp now]
      exact applied
  · exact h

theorem stepFresh (s : State Address) (action : Action Address) (apart : crosses k s action = false) (h : Fresh k s) :
    Fresh k (step config sdk tokenAddr s action) := by
  cases action with
  | tick elapsed => exact ⟨h.past,h.placed,h.flights,h.cache,h.results⟩
  | start i r => exact freshStart h i r
  | snapshot i => exact freshSnapshot h i
  | respond i => exact freshRespond h i
  | fill i => exact freshFill h i apart
  | send j write => exact freshSend h j write
  | apply j env => exact freshApply h j env
  | confirm j => exact freshConfirm h j
  | finish j => exact freshFinish h j
  | fail j => exact freshWrites h (by simp)

theorem applyFrame {j : Nat} {env : Env Address} {write : Write} {phase : WritePhase}
    (found : s.writes j = some (write,phase)) {r : Read} (spared : covers write (key r) = false) :
    fetch sdk (applyWrite sdk tokenAddr s j env).world r = fetch sdk s.world r := by
  unfold applyWrite
  rw [found]
  cases phase with
  | sent =>
    simp only
    split
    · rfl
    · rename_i call converted
      split
      · rfl
      · rename_i w' applied
        exact writeFrame converted applied spared
  | applied place => rfl
  | confirmed place => rfl

end Invariant

theorem readsAfterCoveringWrites (config : Config) (sdk : Sdk Address) (d : Joint.Deployment Address)
    (inputs : List (Env Address × Joint.Call Address)) (actions : List (Action Address)) (r : Read)
    (apart : Along (step config sdk d.tokenAddr) (fun s action => crosses (key r) s action = false)
      (initial (d.world inputs)) actions) :
    let s := run (step config sdk d.tokenAddr) (initial (d.world inputs)) actions
    (∀ result ∈ s.results, result.read = r → ∀ done ∈ result.after, covers done.write (key r) = true →
      done.place ≤ result.stamped.version) ∧
    ∀ j env write phase, s.writes j = some (write,phase) → covers write (key r) = false →
      fetch sdk (step config sdk d.tokenAddr s (.apply j env)).world r = fetch sdk s.world r := by
  intro s
  have fresh : Fresh (key r) s := alongPreserves stepFresh (freshInitial (d.world inputs)) apart
  constructor
  · intro result member same
    exact fresh.results result member (congrArg key same)
  · intro j env write phase found spared
    exact applyFrame found spared

def trialConfig : Config := ⟨js "C",js "T"⟩
def trialSdk : Sdk Nat :=
  ⟨fun text => if text = js "A" then .ok 1 else .ok 2,JsString.decimal,fun _ => [],fun _ => [],js "value out of range"⟩

abbrev trialRun (actions : List (Action Nat)) : State Nat :=
  run (step trialConfig trialSdk Joint.trialDeployment.tokenAddr) (initial (Joint.trialDeployment.world [])) actions

def billsOfA : Read := .getBillsByPayer (js "A")
def wholeRead (i : Nat) (r : Read) : List (Action Nat) := [.start i r,.snapshot i,.respond i,.fill i]
def wholeWrite : List (Action Nat) :=
  [.send 0 (.createBill ⟨js "B",[js "A"],5,[]⟩),.apply 0 Joint.trialEnv,.confirm 0,.finish 0]

theorem olderRepliesAreHit :
    (∃ result ∈ (trialRun ([.start 0 billsOfA,.snapshot 0] ++ wholeWrite ++
        [.respond 0,.fill 0,.start 1 billsOfA])).results,
      ∃ done ∈ result.after, result.stamped.version < done.place ∧ result.stamped.reply = .ids []) ∧
    (∃ result ∈ (trialRun (wholeRead 0 (.isSettled (.integer 1) (js "A")) ++ wholeWrite ++
        [.start 1 (.isSettled (.integer 1) (js "A"))])).results,
      ∃ done ∈ result.after, result.stamped.version < done.place) := by
  decide +kernel

theorem wholeReadAfterWrite :
    ∃ result ∈ (trialRun (wholeRead 0 billsOfA ++ wholeWrite ++ wholeRead 1 billsOfA)).results,
      ∃ done ∈ result.after, covers done.write (key result.read) = true ∧ done.place ≤ result.stamped.version := by
  have fresh := (readsAfterCoveringWrites trialConfig trialSdk Joint.trialDeployment []
    (wholeRead 0 billsOfA ++ wholeWrite ++ wholeRead 1 billsOfA) billsOfA (by decide +kernel)).1
  have ran : ∃ result ∈ (trialRun (wholeRead 0 billsOfA ++ wholeWrite ++ wholeRead 1 billsOfA)).results,
      key result.read = key billsOfA ∧ ∃ done ∈ result.after, covers done.write (key result.read) = true := by
    decide +kernel
  obtain ⟨result,member,same,done,earlier,covered⟩ := ran
  exact ⟨result,member,done,earlier,covered,
    fresh result member (keyInjective same) done earlier (same ▸ covered)⟩

end SplitBill.ReadRace
