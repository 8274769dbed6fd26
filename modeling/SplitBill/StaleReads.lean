import SplitBill.Growth
import SplitBill.ReadRace

/-! What a cached reply is worth. The chain moves under the client by its own writes and by everybody
else's. Each reply was the view's answer at a moment the chain has passed, so it can only be short of what
the view would answer now; and where no read takes long, the moment is not long ago. -/
namespace SplitBill.StaleReads
open Host Helpers Transition ReadCache Client Growth
variable {Address : Type} [DecidableEq Address]

inductive Grows : Reply → Reply → Prop
  | bill (b : Bill) : Grows (.bill b) (.bill b)
  | settled : Grows (.flag true) (.flag true)
  | unsettled (now : Bool) : Grows (.flag false) (.flag now)
  | count {n now : Int} (more : n ≤ now) : Grows (.count n) (.count now)
  | ids {ns now : List Int} (more : ns <+: now) : Grows (.ids ns) (.ids now)
  | balance (amount now : Int) : Grows (.balance amount) (.balance now)

omit [DecidableEq Address] in
theorem fetchGrows (sdk : Sdk Address) {w w' : Joint.World Address} (grown : Grown w w') {r : Read} {reply : Reply}
    (answered : fetch sdk w r = .ok reply) : ∃ now, fetch sdk w' r = .ok now ∧ Grows reply now := by
  cases r with
  | getBill id =>
    simp only [fetch,readView,bindOk,mapErrorOk,BillRegister.getBillExact] at answered
    obtain ⟨k,number,b,stored,same⟩ := answered
    cases same
    refine ⟨.bill (native sdk b),?_,.bill _⟩
    simp only [fetch,readView,bindOk,mapErrorOk,BillRegister.getBillExact]
    exact ⟨k,number,b,grown.kept.bill k b stored,rfl⟩
  | isSettled id payer =>
    simp only [fetch,bindOk] at answered
    obtain ⟨k,number,p,converted,same⟩ := answered
    cases same
    refine ⟨.flag (BillSplit.isSettled w' k p),?_,?_⟩
    · simp only [fetch,bindOk]
      exact ⟨k,number,p,converted,rfl⟩
    · cases flag : BillSplit.isSettled w k p with
      | false => exact .unsettled _
      | true =>
        rw [grown.kept.flag k p flag]
        exact .settled
  | getBillCount =>
    cases answered
    exact ⟨_,rfl,.count grown.kept.counter⟩
  | getBillsByPayer payer =>
    simp only [fetch,bindOk] at answered
    obtain ⟨p,converted,same⟩ := answered
    cases same
    refine ⟨.ids ((BillSplit.billsByPayer w' p).map MachineInt.val),?_,.ids ((grown.byPayer p).map _)⟩
    simp only [fetch,bindOk]
    exact ⟨p,converted,rfl⟩
  | getBillsByCreator creator =>
    simp only [fetch,bindOk] at answered
    obtain ⟨c,converted,same⟩ := answered
    cases same
    refine ⟨.ids ((BillSplit.billsByCreator w' c).map MachineInt.val),?_,.ids ((grown.byCreator c).map _)⟩
    simp only [fetch,bindOk]
    exact ⟨c,converted,rfl⟩
  | getStableBalance address =>
    simp only [fetch,bindOk] at answered
    obtain ⟨a,converted,same⟩ := answered
    cases same
    refine ⟨.balance (Joint.balance w' a).val,?_,.balance _ _⟩
    simp only [fetch,bindOk]
    exact ⟨a,converted,rfl⟩

structure Watched (Address : Type) where
  client : ReadRace.State Address
  past : List (Int × Joint.World Address)
  started : Nat → Int

inductive Move (Address : Type)
  | own (action : ReadRace.Action Address)
  | other (env : Env Address) (call : Joint.Call Address)

def initial (w : Joint.World Address) : Watched Address := ⟨ReadRace.initial w,[(0,w)],fun _ => 0⟩

section Moves
variable (config : Config) (sdk : Sdk Address) (tokenAddr : Address)

def advance (s : ReadRace.State Address) : Move Address → ReadRace.State Address
  | .own action => ReadRace.step config sdk tokenAddr s action
  | .other env call => {s with world := Joint.step tokenAddr s.world (env,call)}

-- Where there was no read before the move, one that is there after it has been started by it.
def step (s : Watched Address) (move : Move Address) : Watched Address :=
  let next := advance config sdk tokenAddr s.client move
  ⟨next,s.past ++ [(next.clock,next.world)],fun i => if (s.client.reads i).isSome then s.started i else next.clock⟩

end Moves

/- A client that gives up on reads which take longer than the limit. Without a limit every move is prompt. -/
def Prompt (limit : Option Nat) (s : Watched Address) : Move Address → Prop
  | .own (.fill i) => ∀ L ∈ limit, s.client.clock ≤ s.started i + L
  | _ => True

def answerOf : ReadRace.ReadPhase → Option (Except Thrown Reply)
  | .asked => none
  | .observed answer _ => some answer
  | .responded answer _ => some answer

def Observed (sdk : Sdk Address) (past : List (Int × Joint.World Address)) (since now : Int) (f : ReadRace.Flight) : Prop :=
  since ≤ now ∧ ∀ answer, answerOf f.phase = some answer → ∃ m ∈ past, since ≤ m.1 ∧ fetch sdk m.2 f.read = answer

def Backed (sdk : Sdk Address) (limit : Option Nat) (past : List (Int × Joint.World Address)) (time : Int) (r : Read)
    (reply : Reply) : Prop :=
  ∃ m ∈ past, fetch sdk m.2 r = .ok reply ∧ ∀ L ∈ limit, time ≤ m.1 + L + BILL_TTL_MS

structure Kept (sdk : Sdk Address) (tokenAddr : Address) (limit : Option Nat) (s : Watched Address) : Prop where
  now : (s.client.clock,s.client.world) ∈ s.past
  past : ∀ m ∈ s.past, Joint.Healthy tokenAddr m.2 ∧ Leads (Joint.step tokenAddr) m.2 s.client.world
  flights : ∀ i f, s.client.reads i = some f → Observed sdk s.past (s.started i) s.client.clock f
  cache : ∀ k entry, s.client.cache k = some entry → ∀ r, key r = k →
    Backed sdk limit s.past entry.expiresAt r entry.value.reply
  results : ∀ result ∈ s.client.results, ∃ m ∈ s.past, fetch sdk m.2 result.read = .ok result.stamped.reply

section Invariant
variable {config : Config} {sdk : Sdk Address} {tokenAddr : Address} {limit : Option Nat} {s : Watched Address}

theorem keptInitial {w : Joint.World Address} (healthy : Joint.Healthy tokenAddr w) : Kept sdk tokenAddr limit (initial w) where
  now := List.mem_singleton_self _
  past := by
    intro m member
    rw [List.mem_singleton.mp member]
    exact ⟨healthy,leadsHere _ _⟩
  flights := by simp [initial,ReadRace.initial]
  cache := by simp [initial,ReadRace.initial,ReadCache.empty]
  results := by simp [initial,ReadRace.initial]

theorem keptMore (h : Kept sdk tokenAddr limit s) {next : ReadRace.State Address} (time : s.client.clock ≤ next.clock)
    (leads : Leads (Joint.step tokenAddr) s.client.world next.world)
    (flights : ∀ i f, next.reads i = some f → s.client.reads i = some f ∨
      Observed sdk s.past (if (s.client.reads i).isSome then s.started i else next.clock) next.clock f)
    (cache : ∀ k entry, next.cache k = some entry → s.client.cache k = some entry ∨
      ∀ r, key r = k → Backed sdk limit s.past entry.expiresAt r entry.value.reply)
    (results : ∀ result ∈ next.results, result ∈ s.client.results ∨
      ∃ m ∈ s.past, fetch sdk m.2 result.read = .ok result.stamped.reply) :
    Kept sdk tokenAddr limit ⟨next,s.past ++ [(next.clock,next.world)],
      fun i => if (s.client.reads i).isSome then s.started i else next.clock⟩ where
  now := List.mem_append_right _ (List.mem_singleton_self _)
  past := by
    intro m member
    rcases List.mem_append.mp member with before | now
    · obtain ⟨healthy,there⟩ := h.past m before
      exact ⟨healthy,leadsMore there leads⟩
    · rw [List.mem_singleton.mp now]
      exact ⟨leadsKeeps (Joint.stepHealthy tokenAddr) leads (h.past _ h.now).1,leadsHere _ _⟩
  flights := by
    intro i f found
    have observed : Observed sdk s.past (if (s.client.reads i).isSome then s.started i else next.clock) next.clock f := by
      rcases flights i f found with before | new
      · obtain ⟨early,seen⟩ := h.flights i f before
        rw [before]
        exact ⟨early.trans time,seen⟩
      · exact new
    refine ⟨observed.1,?_⟩
    intro answer answered
    obtain ⟨m,member,seen⟩ := observed.2 answer answered
    exact ⟨m,List.mem_append_left _ member,seen⟩
  cache := by
    intro k entry found r same
    obtain ⟨m,member,seen⟩ : Backed sdk limit s.past entry.expiresAt r entry.value.reply := by
      rcases cache k entry found with before | new
      · exact h.cache k entry before r same
      · exact new r same
    exact ⟨m,List.mem_append_left _ member,seen⟩
  results := by
    intro result member
    obtain ⟨m,inside,seen⟩ := (results result member).elim (h.results result) id
    exact ⟨m,List.mem_append_left _ inside,seen⟩

end Invariant

inductive Acts (sdk : Sdk Address) (tokenAddr : Address) (c : ReadRace.State Address) :
    ReadRace.Action Address → ReadRace.State Address → Prop
  | idle {action} : Acts sdk tokenAddr c action c
  | tick {elapsed} : Acts sdk tokenAddr c (.tick elapsed) {c with clock := c.clock + elapsed}
  | hit {i r stamped} (found : lookup c.cache c.clock (key r) = some stamped) :
      Acts sdk tokenAddr c (.start i r) {c with results := c.results ++ [⟨r,c.returned,stamped⟩]}
  | ask {i r} (free : c.reads i = none) :
      Acts sdk tokenAddr c (.start i r) {c with reads := Function.update c.reads i (some ⟨r,c.returned,.asked⟩)}
  | observe {i r after} (found : c.reads i = some ⟨r,after,.asked⟩) :
      Acts sdk tokenAddr c (.snapshot i)
        {c with reads := Function.update c.reads i (some ⟨r,after,.observed (fetch sdk c.world r) c.version⟩)}
  | respond {i r after answer version} (found : c.reads i = some ⟨r,after,.observed answer version⟩) :
      Acts sdk tokenAddr c (.respond i)
        {c with reads := Function.update c.reads i (some ⟨r,after,.responded answer version⟩)}
  | drop {i} : Acts sdk tokenAddr c (.fill i) {c with reads := Function.update c.reads i none}
  | fill {i r after reply version} (found : c.reads i = some ⟨r,after,.responded (.ok reply) version⟩) :
      Acts sdk tokenAddr c (.fill i) {c with
        cache := fill c.cache c.clock BILL_TTL_MS (key r) ⟨reply,version⟩
        reads := Function.update c.reads i none
        results := c.results ++ [⟨r,after,⟨reply,version⟩⟩]}
  | write {action} (writes : Nat → Option (Write × ReadRace.WritePhase)) : Acts sdk tokenAddr c action {c with writes := writes}
  | apply {j env call} {w' : Joint.World Address} (version : Nat) (writes : Nat → Option (Write × ReadRace.WritePhase))
      (applied : Joint.invoke tokenAddr env c.world (.bill call) = .ok w') :
      Acts sdk tokenAddr c (.apply j env) {c with world := w',version := version,writes := writes}
  | finish {j} (write : Write) (writes : Nat → Option (Write × ReadRace.WritePhase)) (returned : List ReadRace.Returned) :
      Acts sdk tokenAddr c (.finish j)
        {c with cache := (prefixes write).foldl invalidateReads c.cache,writes := writes,returned := returned}

section Moves
variable {config : Config} {sdk : Sdk Address} {tokenAddr : Address} {limit : Option Nat} {s : Watched Address}

theorem actionActs (config : Config) (sdk : Sdk Address) (tokenAddr : Address) (c : ReadRace.State Address) (action : ReadRace.Action Address) :
    Acts sdk tokenAddr c action (ReadRace.step config sdk tokenAddr c action) := by
  cases action with
  | tick elapsed => exact .tick
  | start i r =>
    simp only [ReadRace.step,ReadRace.start]
    split
    · exact .idle
    · rename_i free
      split
      · rename_i stamped found
        exact .hit found
      · exact .ask (Option.not_isSome_iff_eq_none.mp (not_or.mp free).1)
  | snapshot i =>
    simp only [ReadRace.step,ReadRace.snapshot]
    split
    · rename_i found
      exact .observe found
    · exact .idle
  | respond i =>
    simp only [ReadRace.step,ReadRace.respond]
    split
    · rename_i found
      exact .respond found
    · exact .idle
  | fill i =>
    simp only [ReadRace.step,ReadRace.fillAndReturn]
    split
    · rename_i found
      split
      · exact .drop
      · exact .fill found
    · exact .idle
  | send j write =>
    simp only [ReadRace.step,ReadRace.send]
    split
    · exact .idle
    · exact .write _
  | apply j env =>
    simp only [ReadRace.step,ReadRace.applyWrite]
    split <;> try exact .idle
    split <;> try exact .idle
    split
    · exact .idle
    · rename_i w' applied
      exact .apply _ _ applied
  | confirm j =>
    simp only [ReadRace.step,ReadRace.confirm]
    split
    · exact .write _
    · exact .idle
  | finish j =>
    simp only [ReadRace.step,ReadRace.finish]
    split
    · exact .finish _ _ _
    · exact .idle
  | fail j => exact .write _

theorem moveDelivers (config : Config) (h : Kept sdk tokenAddr limit s) {move : Move Address} (prompt : Prompt limit s move) :
    ∃ delivered, (advance config sdk tokenAddr s.client move).results = s.client.results ++ delivered ∧
      ∀ result ∈ delivered, Backed sdk limit s.past s.client.clock result.read result.stamped.reply := by
  have nothing : ∃ delivered, s.client.results = s.client.results ++ delivered ∧
      ∀ result ∈ delivered, Backed sdk limit s.past s.client.clock result.read result.stamped.reply :=
    ⟨[],(List.append_nil _).symm,nofun⟩
  cases move with
  | other env call => exact nothing
  | own action =>
    have acts := actionActs config sdk tokenAddr s.client action
    rw [advance]
    generalize ReadRace.step config sdk tokenAddr s.client action = next at acts
    cases acts with
    | @hit i r stamped found =>
      obtain ⟨entry,stored,fresh,same⟩ := lookupEntry found
      obtain ⟨m,member,answered,recent⟩ := h.cache _ entry stored r rfl
      refine ⟨_,rfl,?_⟩
      intro result now
      rw [List.mem_singleton.mp now,← same]
      exact ⟨m,member,answered,fun L some => fresh.le.trans (recent L some)⟩
    | @fill i r after reply version found =>
      obtain ⟨m,member,since,answered⟩ := (h.flights i _ found).2 _ rfl
      refine ⟨_,rfl,?_⟩
      intro result now
      rw [List.mem_singleton.mp now]
      refine ⟨m,member,answered,?_⟩
      intro L some
      have early := prompt L some
      unfold BILL_TTL_MS
      omega
    | idle | tick | ask | observe | respond | drop | write | apply | finish => exact nothing

theorem updatedFlight {reads : Nat → Option ReadRace.Flight} {i j : Nat} {new : Option ReadRace.Flight} {f : ReadRace.Flight}
    (found : Function.update reads i new j = some f) : reads j = some f ∨ j = i ∧ new = some f :=
  (updateFound found).symm

theorem stepKept (s : Watched Address) (move : Move Address) (prompt : Prompt limit s move) (h : Kept sdk tokenAddr limit s) :
    Kept sdk tokenAddr limit (step config sdk tokenAddr s move) := by
  have results : ∀ result ∈ (advance config sdk tokenAddr s.client move).results, result ∈ s.client.results ∨
      ∃ m ∈ s.past, fetch sdk m.2 result.read = .ok result.stamped.reply := by
    obtain ⟨delivered,same,backed⟩ := moveDelivers config h prompt
    rw [same]
    intro result member
    rcases List.mem_append.mp member with before | now
    · exact .inl before
    · obtain ⟨m,inside,answered,_⟩ := backed result now
      exact .inr ⟨m,inside,answered⟩
  simp only [step]
  cases move with
  | other env call => exact keptMore h le_rfl (leadsStep ..) (fun _ _ => .inl) (fun _ _ => .inl) results
  | own action =>
    have acts := actionActs config sdk tokenAddr s.client action
    simp only [advance] at results ⊢
    generalize ReadRace.step config sdk tokenAddr s.client action = next at acts results
    have here := leadsHere (Joint.step tokenAddr) s.client.world
    cases acts with
    | idle | write | hit => exact keptMore h le_rfl here (fun _ _ => .inl) (fun _ _ => .inl) results
    | tick => exact keptMore h (by simp) here (fun _ _ => .inl) (fun _ _ => .inl) results
    | @apply _ env call w' version writes applied =>
      have stepped : Joint.step tokenAddr s.client.world (env,.bill call) = w' := congrArg (commit _) applied
      exact keptMore h le_rfl ⟨[_],stepped⟩ (fun _ _ => .inl) (fun _ _ => .inl) results
    | finish write =>
      refine keptMore h le_rfl here (fun _ _ => .inl) ?_ results
      intro k entry found
      rw [invalidateAll] at found
      exact .inl (invalidatedEntry found)
    | @ask i r free =>
      refine keptMore h le_rfl here ?_ (fun _ _ => .inl) results
      intro j f found
      refine (updatedFlight found).imp_right ?_
      rintro ⟨rfl,new⟩
      cases new
      rw [free]
      exact ⟨le_rfl,nofun⟩
    | @observe i r after waits =>
      refine keptMore h le_rfl here ?_ (fun _ _ => .inl) results
      intro j f found
      refine (updatedFlight found).imp_right ?_
      rintro ⟨rfl,new⟩
      cases new
      obtain ⟨early,_⟩ := h.flights j _ waits
      rw [waits]
      refine ⟨early,?_⟩
      rintro answer ⟨⟩
      exact ⟨_,h.now,early,rfl⟩
    | @respond i r after answer version waits =>
      refine keptMore h le_rfl here ?_ (fun _ _ => .inl) results
      intro j f found
      refine (updatedFlight found).imp_right ?_
      rintro ⟨rfl,new⟩
      cases new
      rw [waits]
      exact ⟨(h.flights j _ waits).1,(h.flights j _ waits).2⟩
    | @drop i =>
      refine keptMore h le_rfl here ?_ (fun _ _ => .inl) results
      intro j f found
      exact .inl ((updatedFlight found).resolve_right nofun)
    | @fill i r after reply version waits =>
      refine keptMore h le_rfl here ?_ ?_ results
      · intro j f found
        exact .inl ((updatedFlight found).resolve_right nofun)
      · intro k entry found
        rcases updateFound found with ⟨rfl,new⟩ | before
        · cases new
          right
          intro r' same
          obtain ⟨m,member,since,answered⟩ := (h.flights i _ waits).2 _ rfl
          refine ⟨m,member,keyInjective same ▸ answered,?_⟩
          intro L some
          have early := prompt L some
          change s.client.clock + BILL_TTL_MS ≤ _
          omega
        · exact .inl before

end Moves

section Runs
variable (config : Config) (sdk : Sdk Address) (d : Joint.Deployment Address)

theorem runKept {limit : Option Nat} (inputs : List (Env Address × Joint.Call Address)) {moves : List (Move Address)}
    (prompt : Along (step config sdk d.tokenAddr) (Prompt limit) (initial (d.world inputs)) moves) :
    Kept sdk d.tokenAddr limit (run (step config sdk d.tokenAddr) (initial (d.world inputs)) moves) :=
  alongPreserves stepKept (keptInitial (Joint.worldHealthy d inputs)) prompt

omit [DecidableEq Address] in
theorem promptNone (s : Watched Address) (move : Move Address) : Prompt none s move := by
  unfold Prompt
  split
  · exact nofun
  · trivial

theorem alwaysPrompt (s : Watched Address) (moves : List (Move Address)) :
    Along (step config sdk d.tokenAddr) (Prompt none) s moves := by
  induction moves generalizing s with
  | nil => trivial
  | cons move rest ih => exact ⟨promptNone s move,ih _⟩

theorem repliesGrow (inputs : List (Env Address × Joint.Call Address)) (moves : List (Move Address)) :
    let s := run (step config sdk d.tokenAddr) (initial (d.world inputs)) moves
    ∀ result ∈ s.client.results, (∃ m ∈ s.past, fetch sdk m.2 result.read = .ok result.stamped.reply) ∧
      ∃ now, fetch sdk s.client.world result.read = .ok now ∧ Grows result.stamped.reply now := by
  intro s result member
  have kept : Kept sdk d.tokenAddr none s := runKept config sdk d inputs (alwaysPrompt config sdk d _ moves)
  obtain ⟨m,inside,answered⟩ := kept.results result member
  obtain ⟨healthy,leads⟩ := kept.past m inside
  exact ⟨⟨m,inside,answered⟩,fetchGrows sdk (leadsGrown healthy leads) answered⟩

theorem repliesRecent (inputs : List (Env Address × Joint.Call Address)) (limit : Nat) (moves : List (Move Address))
    (prompt : Along (step config sdk d.tokenAddr) (Prompt (some limit)) (initial (d.world inputs)) moves) :
    let s := run (step config sdk d.tokenAddr) (initial (d.world inputs)) moves
    ∀ move, Prompt (some limit) s move →
      ∃ delivered, (step config sdk d.tokenAddr s move).client.results = s.client.results ++ delivered ∧
        ∀ result ∈ delivered, ∃ m ∈ s.past, s.client.clock ≤ m.1 + limit + BILL_TTL_MS ∧
          fetch sdk m.2 result.read = .ok result.stamped.reply := by
  intro s move allowed
  have kept : Kept sdk d.tokenAddr (some limit) s := runKept config sdk d inputs prompt
  obtain ⟨delivered,same,backed⟩ := moveDelivers config kept allowed
  refine ⟨delivered,same,?_⟩
  intro result member
  obtain ⟨m,inside,answered,recent⟩ := backed result member
  exact ⟨m,inside,recent limit rfl,answered⟩

end Runs

def readThenBilled : List (Move Nat) :=
  (ReadRace.wholeRead 0 ReadRace.billsOfA).map .own ++
    [.other Joint.trialEnv (.bill (.createBill 2 [1] (.lit 5) [])),.own (.tick 9000)]

theorem olderReplyBounded :
    let s := run (step ReadRace.trialConfig ReadRace.trialSdk 0) (initial (Joint.trialDeployment.world [])) readThenBilled
    ∃ delivered, (step ReadRace.trialConfig ReadRace.trialSdk 0 s (.own (.start 1 ReadRace.billsOfA))).client.results =
        s.client.results ++ delivered ∧
      ∀ result ∈ delivered, ∃ m ∈ s.past, 9000 ≤ m.1 + 10000 ∧
        fetch ReadRace.trialSdk m.2 result.read = .ok result.stamped.reply := by
  intro s
  have prompt : Along (step ReadRace.trialConfig ReadRace.trialSdk 0) (Prompt (some 0))
      (initial (Joint.trialDeployment.world [])) readThenBilled := by
    refine ⟨trivial,trivial,trivial,?_,trivial,trivial,trivial⟩
    rintro L ⟨⟩
    decide +kernel
  obtain ⟨delivered,same,recent⟩ :=
    repliesRecent ReadRace.trialConfig ReadRace.trialSdk Joint.trialDeployment [] 0 readThenBilled prompt
      (.own (.start 1 ReadRace.billsOfA)) trivial
  refine ⟨delivered,same,?_⟩
  intro result member
  obtain ⟨m,inside,late,answered⟩ := recent result member
  have clock : s.client.clock = 9000 := by decide +kernel
  refine ⟨m,inside,?_,answered⟩
  change s.client.clock ≤ m.1 + (0 : Nat) + BILL_TTL_MS at late
  rw [clock] at late
  simpa [BILL_TTL_MS] using late

end SplitBill.StaleReads
