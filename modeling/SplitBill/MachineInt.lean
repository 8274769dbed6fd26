import Mathlib

/-! Integers of a fixed machine range. An operation that leaves the range has no
result, which is where a build with overflow checks traps. Nothing wraps. -/
namespace SplitBill

@[ext]
structure MachineInt (lo hi : Int) where
  val : Int
  lower : lo ≤ val
  upper : val ≤ hi
  deriving DecidableEq, Repr

-- The bounds are literals, so that simp leaves the types alone: -2^127, 2^127-1, 2^32-1, 2^64-1.
abbrev I128 := MachineInt (-170141183460469231731687303715884105728) 170141183460469231731687303715884105727
abbrev U32 := MachineInt 0 4294967295
abbrev U64 := MachineInt 0 18446744073709551615

namespace MachineInt
variable {lo hi : Int}

def checked (lo hi v : Int) : Option (MachineInt lo hi) :=
  if h : lo ≤ v ∧ v ≤ hi then some ⟨v,h.1,h.2⟩ else none

instance : Inhabited I128 := ⟨⟨0,by decide,by decide⟩⟩
instance : Inhabited U32 := ⟨⟨0,by decide,by decide⟩⟩
instance : Inhabited U64 := ⟨⟨0,by decide,by decide⟩⟩

-- A literal of the source, which is in range wherever it is written.
def lit [Inhabited (MachineInt lo hi)] (n : Nat) : MachineInt lo hi := (checked lo hi n).getD default

def add (a b : MachineInt lo hi) : Option (MachineInt lo hi) := checked lo hi (a.val + b.val)
def sub (a b : MachineInt lo hi) : Option (MachineInt lo hi) := checked lo hi (a.val - b.val)
def neg (a : MachineInt lo hi) : Option (MachineInt lo hi) := checked lo hi (-a.val)

theorem valInjective : Function.Injective (MachineInt.val : MachineInt lo hi → Int) := fun _ _ => MachineInt.ext

instance : LinearOrder (MachineInt lo hi) := LinearOrder.lift' MachineInt.val valInjective

theorem ltExact {a b : MachineInt lo hi} : a < b ↔ a.val < b.val := Iff.rfl

@[simp] theorem checkedExact {v : Int} {n : MachineInt lo hi} : checked lo hi v = some n ↔ n.val = v := by
  unfold checked
  split
  · rw [Option.some.injEq,MachineInt.ext_iff,eq_comm]
  · rename_i outside
    refine ⟨fun h => by contradiction,fun same => absurd ?_ outside⟩
    exact ⟨same ▸ n.lower,same ▸ n.upper⟩

@[simp] theorem addExact {a b n : MachineInt lo hi} : a.add b = some n ↔ n.val = a.val + b.val := checkedExact
@[simp] theorem subExact {a b n : MachineInt lo hi} : a.sub b = some n ↔ n.val = a.val - b.val := checkedExact
@[simp] theorem negExact {a n : MachineInt lo hi} : a.neg = some n ↔ n.val = -a.val := checkedExact

theorem checkedNone {v : Int} : checked lo hi v = none ↔ v < lo ∨ hi < v := by
  unfold checked
  split <;> simp <;> omega

theorem checkedInRange {v : Int} (low : lo ≤ v) (high : v ≤ hi) :
    ∃ n : MachineInt lo hi, checked lo hi v = some n ∧ n.val = v :=
  ⟨⟨v,low,high⟩,checkedExact.mpr rfl,rfl⟩

end MachineInt
end SplitBill
