import Mathlib.Logic.Function.Basic
import Mathlib.Order.Basic

/-! A read-through cache whose entries expire. What is known of the entries is a relation between
keys and values: a lookup gives it, a fill must establish it, and an invalidation leaves a weaker
relation to be kept, one between the keys it does not cover. -/
namespace SplitBill.ReadCache
variable {Key Value ε : Type}

structure Entry (Value : Type) where
  value : Value
  expiresAt : Int
  deriving DecidableEq, Repr

abbrev Cache (Key Value : Type) := Key → Option (Entry Value)

def empty : Cache Key Value := fun _ => none

def lookup (c : Cache Key Value) (now : Int) (k : Key) : Option Value :=
  ((c k).filter fun entry => entry.expiresAt > now).map Entry.value

def fill [DecidableEq Key] (c : Cache Key Value) (now ttl : Int) (k : Key) (v : Value) : Cache Key Value :=
  Function.update c k (some ⟨v,now + ttl⟩)

def invalidate (c : Cache Key Value) (covered : Key → Bool) : Cache Key Value :=
  fun k => if covered k then none else c k

theorem invalidateInvalidate (c : Cache Key Value) (first second : Key → Bool) :
    invalidate (invalidate c first) second = invalidate c fun k => first k || second k := by
  funext k
  cases one : first k <;> cases two : second k <;> simp [invalidate,one,two]

theorem updateFound {α β : Type} [DecidableEq α] {f : α → Option β} {i j : α} {v : Option β} {b : β}
    (found : Function.update f i v j = some b) : j = i ∧ v = some b ∨ f j = some b := by
  obtain rfl | other := eq_or_ne j i
  · rw [Function.update_self] at found
    exact .inl ⟨rfl,found⟩
  · rw [Function.update_of_ne other] at found
    exact .inr found

def Everywhere (P : Key → Value → Prop) (c : Cache Key Value) : Prop := ∀ k entry, c k = some entry → P k entry.value

section Rules
variable {P Q : Key → Value → Prop} {c : Cache Key Value}

theorem everywhereEmpty : Everywhere P (empty : Cache Key Value) := by
  intro k entry found
  contradiction

theorem lookupEntry {now : Int} {k : Key} {v : Value} (hit : lookup c now k = some v) :
    ∃ entry, c k = some entry ∧ now < entry.expiresAt ∧ entry.value = v := by
  obtain ⟨entry,found,same⟩ := Option.map_eq_some_iff.mp hit
  obtain ⟨stored,fresh⟩ := Option.filter_eq_some_iff.mp found
  exact ⟨entry,stored,of_decide_eq_true fresh,same⟩

theorem invalidatedEntry {covered : Key → Bool} {k : Key} {entry : Entry Value}
    (found : invalidate c covered k = some entry) : c k = some entry := by
  unfold invalidate at found
  split at found
  · contradiction
  · exact found

theorem everywhereLookup (h : Everywhere P c) {now : Int} {k : Key} {v : Value} (hit : lookup c now k = some v) :
    P k v := by
  obtain ⟨entry,found,same⟩ := Option.map_eq_some_iff.mp hit
  exact same ▸ h k entry (Option.filter_eq_some_iff.mp found).1

theorem everywhereFill [DecidableEq Key] (h : Everywhere P c) {now ttl : Int} {k : Key} {v : Value} (holds : P k v) :
    Everywhere P (fill c now ttl k v) := by
  intro k' entry found
  obtain ⟨rfl,put⟩ | before := updateFound found
  · cases Option.some.inj put
    exact holds
  · exact h k' entry before

theorem everywhereInvalidate (h : Everywhere P c) {covered : Key → Bool}
    (kept : ∀ k v, covered k = false → P k v → Q k v) : Everywhere Q (invalidate c covered) := by
  intro k entry found
  unfold invalidate at found
  split at found <;> try contradiction
  rename_i spared
  exact kept k entry.value (Bool.not_eq_true _ ▸ spared) (h k entry found)

end Rules

def cached [DecidableEq Key] (c : Cache Key Value) (looked filled ttl : Int) (key : Key)
    (answer : Except ε Value) : Except ε Value × Cache Key Value :=
  match lookup c looked key with
  | some v => (.ok v,c)
  | none =>
      match answer with
      | .ok v => (.ok v,fill c filled ttl key v)
      | .error e => (.error e,c)

section Coherence
variable {World Op : Type} {key : Op → Key} {fetch : World → Op → Except ε Value}

def Coherent (key : Op → Key) (fetch : World → Op → Except ε Value) (w : World) (c : Cache Key Value) : Prop :=
  Everywhere (fun k v => ∀ op, key op = k → fetch w op = .ok v) c

theorem coherentEmpty (w : World) : Coherent key fetch w empty := everywhereEmpty

theorem cachedExact [DecidableEq Key] (distinct : Function.Injective key) {w : World} {c : Cache Key Value}
    (coherent : Coherent key fetch w c) (looked filled ttl : Int) (op : Op) :
    (cached c looked filled ttl (key op) (fetch w op)).1 = fetch w op ∧
      Coherent key fetch w (cached c looked filled ttl (key op) (fetch w op)).2 := by
  unfold cached
  cases hit : lookup c looked (key op) with
  | some v => exact ⟨(everywhereLookup coherent hit op rfl).symm,coherent⟩
  | none =>
    cases answer : fetch w op with
    | error e => exact ⟨rfl,coherent⟩
    | ok v => exact ⟨rfl,everywhereFill coherent fun op' same => distinct same ▸ answer⟩

theorem coherentInvalidate {w w' : World} {c : Cache Key Value} {covered : Key → Bool}
    (coherent : Coherent key fetch w c)
    (frame : ∀ op, covered (key op) = false → fetch w' op = fetch w op) :
    Coherent key fetch w' (invalidate c covered) :=
  everywhereInvalidate coherent fun _ _ spared holds op same => (frame op (same ▸ spared)).trans (holds op same)

end Coherence
end SplitBill.ReadCache
