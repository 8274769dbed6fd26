import Mathlib.Data.List.Basic
import SplitBill.MachineInt

/-! An append-only register whose records carry consecutive numbers from one, and
the two kinds of index read off it: one that lists a record once, and one that
lists it as often as a key occurs in it. Both are in register order. -/
namespace SplitBill
variable {ρ : Type} {lo hi : Int} {num : ρ → MachineInt lo hi} {Sound : ρ → Prop}

structure Register (ρ : Type) {lo hi : Int} (num : ρ → MachineInt lo hi) (Sound : ρ → Prop) where
  records : List ρ
  numbered : ∀ (n : Nat) r, records[n]? = some r → (num r).val = n + 1
  sound : ∀ r ∈ records, Sound r

namespace Register

def empty : Register ρ num Sound := ⟨[],by simp,by simp⟩

def add (reg : Register ρ num Sound) (r : ρ) (next : (num r).val = reg.records.length + 1) (sound : Sound r) :
    Register ρ num Sound where
  records := reg.records ++ [r]
  numbered := by
    intro n x found
    rw [List.getElem?_append] at found
    split at found
    · exact reg.numbered n x found
    · rw [List.getElem?_singleton] at found
      split at found <;> try contradiction
      cases Option.some.inj found
      omega
  sound := by
    intro x member
    rcases List.mem_append.mp member with old | new
    · exact reg.sound x old
    · rw [List.mem_singleton.mp new]; exact sound

theorem range (reg : Register ρ num Sound) {r : ρ} (mem : r ∈ reg.records) :
    1 ≤ (num r).val ∧ (num r).val ≤ reg.records.length := by
  obtain ⟨n,found⟩ := List.mem_iff_getElem?.mp mem
  have inside := (List.getElem?_eq_some_iff.mp found).1
  have value := reg.numbered n r found
  omega

theorem onto (reg : Register ρ num Sound) {k : MachineInt lo hi}
    (inside : 1 ≤ k.val ∧ k.val ≤ reg.records.length) : ∃ r ∈ reg.records, num r = k := by
  have bound : k.val.toNat - 1 < reg.records.length := by omega
  have value := reg.numbered _ _ (List.getElem?_eq_getElem bound)
  exact ⟨_,List.getElem_mem bound,MachineInt.ext (by omega)⟩

theorem increasing (reg : Register ρ num Sound) : reg.records.Pairwise (fun a b => num a < num b) := by
  apply List.pairwise_iff_getElem.mpr
  intro n m left right before
  have a := reg.numbered _ _ (List.getElem?_eq_getElem left)
  have b := reg.numbered _ _ (List.getElem?_eq_getElem right)
  rw [MachineInt.ltExact]
  omega

def once (reg : Register ρ num Sound) (p : ρ → Bool) : List (MachineInt lo hi) := (reg.records.filter p).map num

def often (reg : Register ρ num Sound) (times : ρ → Nat) : List (MachineInt lo hi) :=
  reg.records.flatMap (fun r => List.replicate (times r) (num r))

theorem onceIncreasing (reg : Register ρ num Sound) (p : ρ → Bool) : (reg.once p).Pairwise (· < ·) :=
  List.pairwise_map.mpr (reg.increasing.filter p)

theorem onceMembers (reg : Register ρ num Sound) (p : ρ → Bool) (k : MachineInt lo hi) :
    k ∈ reg.once p ↔ ∃ r ∈ reg.records, p r = true ∧ num r = k := by
  simp [once,and_assoc]

theorem oftenSorted (reg : Register ρ num Sound) (times : ρ → Nat) : (reg.often times).Pairwise (· ≤ ·) := by
  apply List.pairwise_flatMap.mpr
  refine ⟨fun r _ => List.pairwise_replicate.mpr (.inr le_rfl),reg.increasing.imp ?_⟩
  intro a b before x hx y hy
  rw [List.eq_of_mem_replicate hx,List.eq_of_mem_replicate hy]
  exact le_of_lt before

theorem oftenMembers (reg : Register ρ num Sound) (times : ρ → Nat) (k : MachineInt lo hi) :
    k ∈ reg.often times ↔ ∃ r ∈ reg.records, 0 < times r ∧ num r = k := by
  simp only [often,List.mem_flatMap,List.mem_replicate,Nat.pos_iff_ne_zero,eq_comm]

theorem foreignAbsent {records : List ρ} (times : ρ → Nat) {k : MachineInt lo hi}
    (foreign : ∀ r ∈ records, num r ≠ k) : k ∉ records.flatMap (fun r => List.replicate (times r) (num r)) := by
  intro member
  obtain ⟨r,mem,inside⟩ := List.mem_flatMap.mp member
  exact foreign r mem (List.eq_of_mem_replicate inside).symm

theorem oftenCount (reg : Register ρ num Sound) (times : ρ → Nat) {r : ρ} (mem : r ∈ reg.records) :
    (reg.often times).count (num r) = times r := by
  obtain ⟨before,after,split⟩ := List.append_of_mem mem
  have order := reg.increasing
  rw [split,List.pairwise_append] at order
  obtain ⟨_,tail,cross⟩ := order
  have left : ∀ x ∈ before, num x ≠ num r := fun x hx => (cross x hx r List.mem_cons_self).ne
  have right : ∀ x ∈ after, num x ≠ num r := fun x hx => ((List.pairwise_cons.mp tail).1 x hx).ne'
  rw [often,split,List.flatMap_append,List.flatMap_cons,List.count_append,List.count_append,
    List.count_eq_zero_of_not_mem (foreignAbsent times left),
    List.count_eq_zero_of_not_mem (foreignAbsent times right),List.count_replicate_self]
  omega

end Register
end SplitBill
