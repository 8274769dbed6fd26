import SplitBill.JsString

/-! Decimal texts: an optional sign, digits, and after a point more digits or no point at all. A text
has one reading, and a number of smallest units has a shortest one. -/
namespace SplitBill
open JsString

@[ext]
structure Decimal where
  negative : Bool
  whole : JsString
  fraction : JsString
  started : whole ≠ []
  wholeDigits : ∀ u ∈ whole, isDigit u = true
  fractionDigits : ∀ u ∈ fraction, isDigit u = true

namespace Decimal

def pointed (fraction : JsString) : JsString := if fraction = [] then [] else 46 :: fraction

def text (d : Decimal) : JsString := (if d.negative then [45] else []) ++ (d.whole ++ pointed d.fraction)

def magnitude (d : Decimal) : ℚ := digitsValue d.whole + digitsValue d.fraction / 10^d.fraction.length

def value (d : Decimal) : ℚ := if d.negative then -d.magnitude else d.magnitude

theorem pointAbsent {digits : JsString} (h : ∀ u ∈ digits, isDigit u = true) : 46 ∉ digits := by
  intro member
  have digit := h 46 member
  contradiction

theorem pointedSplit {a b f g : JsString} (first : 46 ∉ a) (second : 46 ∉ b) (same : a ++ pointed f = b ++ pointed g) :
    a = b ∧ f = g := by
  unfold pointed at same
  split at same <;> split at same
  · rename_i none none'
    exact ⟨by simpa using same,none.trans none'.symm⟩
  · rw [List.append_nil] at same
    exact absurd (same ▸ List.mem_append_right b List.mem_cons_self) first
  · rw [List.append_nil] at same
    exact absurd (same ▸ List.mem_append_right a List.mem_cons_self) second
  · exact separated first second same

theorem unsignedHead (d : Decimal) : (d.whole ++ pointed d.fraction).head? ≠ some 45 := by
  obtain ⟨u,rest,same⟩ := List.exists_cons_of_ne_nil d.started
  have digit := d.wholeDigits u (same ▸ List.mem_cons_self)
  rw [same,List.cons_append,List.head?_cons]
  intro minus
  cases Option.some.inj minus
  contradiction

theorem textInjective : Function.Injective text := by
  intro d e same
  have signs : d.negative = e.negative ∧ d.whole ++ pointed d.fraction = e.whole ++ pointed e.fraction := by
    unfold text at same
    cases left : d.negative <;> cases right : e.negative <;> simp only [left,right,if_true,List.nil_append,
      List.singleton_append,Bool.false_eq_true,if_false] at same
    · exact ⟨rfl,same⟩
    · exact absurd (same ▸ rfl) d.unsignedHead
    · exact absurd (same ▸ rfl) e.unsignedHead
    · exact ⟨rfl,(List.cons.inj same).2⟩
  obtain ⟨whole,fraction⟩ := pointedSplit (pointAbsent d.wholeDigits) (pointAbsent e.wholeDigits) signs.2
  exact Decimal.ext signs.1 whole fraction

def Denotes (t : JsString) (q : ℚ) : Prop := ∃ d : Decimal, d.text = t ∧ d.value = q

theorem denotesOne {t : JsString} {p q : ℚ} (first : Denotes t p) (second : Denotes t q) : p = q := by
  obtain ⟨d,reads,rfl⟩ := first
  obtain ⟨e,again,rfl⟩ := second
  rw [textInjective (reads.trans again.symm)]

theorem digitsAppend (a b : JsString) : digitsValue (a ++ b) = digitsValue a * 10^b.length + digitsValue b := by
  simp only [digitsValue,List.map_append,List.reverse_append,Nat.ofDigits_append,List.length_reverse,List.length_map]
  ring

theorem digitsZeros (n : Nat) : digitsValue (List.replicate n 48) = 0 := by
  induction n with
  | zero => rfl
  | succ n ih =>
    rw [List.replicate_succ',digitsAppend,ih]
    rfl

theorem zeroDigit {n : Nat} {u : UInt16} (member : u ∈ List.replicate n 48) : isDigit u = true := by
  rw [List.eq_of_mem_replicate member]
  rfl

theorem filledDigits {s : JsString} (digits : ∀ u ∈ s, isDigit u = true) (n : Nat) :
    ∀ u ∈ s ++ List.replicate n 48, isDigit u = true := by
  intro u member
  rcases List.mem_append.mp member with digit | zero
  · exact digits u digit
  · exact zeroDigit zero

theorem digitsFilled (s : JsString) (n : Nat) : digitsValue (s ++ List.replicate n 48) = digitsValue s * 10^n := by
  rw [digitsAppend,digitsZeros,List.length_replicate,Nat.add_zero]

theorem digitsPadded (s : JsString) (n : Nat) : digitsValue (padStart s n 48) = digitsValue s := by
  rw [padStart,digitsAppend,digitsZeros]
  omega

def stripped (s : JsString) : JsString := s.rdropWhile (· == 48)

theorem strippedZeros (s : JsString) : ∃ n, s = stripped s ++ List.replicate n 48 := by
  refine ⟨(s.rtakeWhile (· == 48)).length,?_⟩
  have zeros : s.rtakeWhile (· == 48) = List.replicate (s.rtakeWhile (· == 48)).length 48 := by
    apply List.eq_replicate_of_mem
    intro u member
    simpa using List.mem_rtakeWhile_imp member
  rw [← zeros]
  exact List.rdropWhile_append_rtakeWhile.symm

theorem strippedValue (s : JsString) :
    (digitsValue (stripped s) : ℚ) / 10^(stripped s).length = digitsValue s / 10^s.length := by
  obtain ⟨n,same⟩ := strippedZeros s
  have value : digitsValue s = digitsValue (stripped s) * 10^n := by
    conv_lhs => rw [same]
    exact digitsFilled ..
  have length : s.length = (stripped s).length + n := by
    conv_lhs => rw [same]
    rw [List.length_append,List.length_replicate]
  rw [value,length,pow_add]
  push_cast
  field_simp

theorem strippedMembers {s : JsString} {u : UInt16} (member : u ∈ stripped s) : u ∈ s :=
  (List.rdropWhile_prefix _ s).subset member

theorem decimalNonempty (n : Nat) : decimal n ≠ [] := by
  unfold decimal
  split
  · exact List.cons_ne_nil _ _
  · rename_i positive
    simpa using Nat.digits_ne_nil_iff_ne_zero.mpr positive

theorem decimalLength {n places : Nat} (some : 0 < places) (small : n < 10^places) : (decimal n).length ≤ places := by
  unfold decimal
  split
  · exact some
  · rw [List.length_reverse,List.length_map]
    exact (Nat.digits_length_le_iff (by decide) n).mpr small

theorem padStartLength {s : JsString} {n : Nat} {u : UInt16} (short : s.length ≤ n) : (padStart s n u).length = n := by
  rw [padStart,List.length_append,List.length_replicate]
  omega

theorem zerosDropped (n : Nat) (s : JsString) :
    (List.replicate n 48 ++ s).dropWhile (· == 48) = s.dropWhile (· == 48) := by
  apply List.dropWhile_append_of_pos
  intro u member
  rw [List.eq_of_mem_replicate member]
  rfl

theorem strippedAppend (s : JsString) (n : Nat) : stripped (s ++ List.replicate n 48) = stripped s := by
  rw [stripped,stripped,List.rdropWhile,List.rdropWhile,List.reverse_append,List.reverse_replicate,zerosDropped]

def unpadded (s : JsString) : JsString :=
  let rest := s.dropWhile (· == 48)
  if rest = [] then [48] else rest

theorem unitDigitSmall {s : JsString} (digits : ∀ u ∈ s, isDigit u = true) {d : Nat} (member : d ∈ s.map unitDigit) :
    d < 10 := by
  obtain ⟨u,inside,rfl⟩ := List.mem_map.mp member
  obtain ⟨d,small,rfl⟩ := digitExact.mp (digits u inside)
  rwa [unitDigitUnit small]

theorem digitsBound {s : JsString} (digits : ∀ u ∈ s, isDigit u = true) : digitsValue s < 10^s.length := by
  have bound := Nat.ofDigits_lt_base_pow_length (b := 10) (l := (s.map unitDigit).reverse) (by decide)
    fun d member => unitDigitSmall digits (List.mem_reverse.mp member)
  rwa [List.length_reverse,List.length_map] at bound

theorem digitsSame {a b : JsString} (length : a.length = b.length) (first : ∀ u ∈ a, isDigit u = true)
    (second : ∀ u ∈ b, isDigit u = true) (value : digitsValue a = digitsValue b) : a = b := by
  have same : (a.map unitDigit).reverse = (b.map unitDigit).reverse :=
    Nat.ofDigits_inj_of_len_eq (by decide) (by simpa using length)
      (fun d member => unitDigitSmall first (List.mem_reverse.mp member))
      (fun d member => unitDigitSmall second (List.mem_reverse.mp member)) value
  have back : ∀ s : JsString, (∀ u ∈ s, isDigit u = true) → (s.map unitDigit).map digitUnit = s := by
    intro s digits
    have each : ∀ u ∈ s, (digitUnit ∘ unitDigit) u = id u := by
      intro u member
      obtain ⟨d,small,rfl⟩ := digitExact.mp (digits u member)
      exact congrArg digitUnit (unitDigitUnit small)
    rw [List.map_map,List.map_congr_left each,List.map_id]
  rw [← back a first,← back b second,List.reverse_injective same]

theorem padStartDecimal {s : JsString} (started : s ≠ []) (digits : ∀ u ∈ s, isDigit u = true) :
    padStart (decimal (digitsValue s)) s.length 48 = s := by
  have short := decimalLength (List.length_pos_of_ne_nil started) (digitsBound digits)
  refine digitsSame (padStartLength short) ?_ digits ?_
  · intro u member
    rcases List.mem_append.mp member with zero | digit
    · exact zeroDigit zero
    · exact decimalDigits digit
  · rw [digitsPadded,decimalValue]

theorem decimalLeads {n : Nat} (positive : n ≠ 0) : (decimal n).dropWhile (· == 48) = decimal n := by
  rw [List.dropWhile_eq_self_iff]
  intro some
  have last := Nat.getLast_digit_ne_zero 10 positive
  have small := Nat.digits_lt_base (by decide : 1 < 10) (List.getLast_mem (Nat.digits_ne_nil_iff_ne_zero.mpr positive))
  simp only [decimal,if_neg positive,List.getElem_zero_eq_head,List.head_reverse,List.getLast_map,beq_iff_eq]
  intro zero
  have value := congrArg unitDigit zero
  rw [unitDigitUnit small] at value
  exact last value

theorem decimalUnpadded {s : JsString} (digits : ∀ u ∈ s, isDigit u = true) : decimal (digitsValue s) = unpadded s := by
  by_cases started : s = []
  · rw [started]
    rfl
  · have rest : s.dropWhile (· == 48) = (decimal (digitsValue s)).dropWhile (· == 48) := by
      conv_lhs => rw [← padStartDecimal started digits,padStart]
      exact zerosDropped ..
    rw [unpadded,rest]
    by_cases nothing : digitsValue s = 0
    · rw [nothing]
      rfl
    · rw [decimalLeads nothing,if_neg (decimalNonempty _)]

def fixed (places : Nat) (units : Int) : Decimal where
  negative := units < 0
  whole := decimal (units.natAbs / 10^places)
  fraction := stripped (padStart (decimal (units.natAbs % 10^places)) places 48)
  started := decimalNonempty _
  wholeDigits := fun _ => decimalDigits
  fractionDigits := by
    intro u member
    rcases List.mem_append.mp (strippedMembers member) with zero | digit
    · rw [List.eq_of_mem_replicate zero]
      rfl
    · exact decimalDigits digit

section Fixed
variable {places : Nat} (some : 0 < places) (units : Int)
include some

theorem fixedPadded : (padStart (decimal (units.natAbs % 10^places)) places 48).length = places :=
  padStartLength (decimalLength some (Nat.mod_lt _ (Nat.pow_pos (by decide))))

theorem fixedPlaces : (fixed places units).fraction.length ≤ places := by
  have shorter := (List.rdropWhile_prefix (· == 48) (padStart (decimal (units.natAbs % 10^places)) places 48)).length_le
  rwa [fixedPadded some units] at shorter

theorem fixedMagnitude : (fixed places units).magnitude = units.natAbs / 10^places := by
  have parts : (units.natAbs : ℚ) = 10^places * (units.natAbs / 10^places : Nat) + (units.natAbs % 10^places : Nat) := by
    exact_mod_cast (Nat.div_add_mod units.natAbs (10^places)).symm
  rw [magnitude,fixed,strippedValue,fixedPadded some units,digitsPadded,decimalValue,decimalValue,parts]
  field_simp

theorem fixedValue : (fixed places units).value = units / 10^places := by
  rw [value,fixedMagnitude some units]
  by_cases below : units < 0
  · have size : (units : ℚ) = -units.natAbs := by
      rw [← Int.cast_natCast,← Int.cast_neg]
      exact congrArg _ (by omega)
    rw [if_pos (by simpa [fixed] using below),size]
    ring
  · have size : (units : ℚ) = units.natAbs := by
      rw [← Int.cast_natCast]
      exact congrArg _ (by omega)
    rw [if_neg (by simpa [fixed] using below),size]

end Fixed

theorem fixedInjective {places : Nat} (some : 0 < places) : Function.Injective (fixed places) := by
  intro a b same
  have values : (a : ℚ) / 10^places = b / 10^places := by
    rw [← fixedValue some,← fixedValue some,same]
  field_simp at values
  exact_mod_cast values

theorem fixedParts {places units : Nat} {whole fraction : JsString} (wholeDigits : ∀ u ∈ whole, isDigit u = true)
    (fractionDigits : ∀ u ∈ fraction, isDigit u = true) (some : fraction ≠ []) (length : fraction.length = places)
    (value : units = digitsValue whole * 10^places + digitsValue fraction) :
    (fixed places units).text = unpadded whole ++ pointed (stripped fraction) := by
  have bound := digitsBound fractionDigits
  rw [length] at bound
  have before : units / 10^places = digitsValue whole := by
    rw [value,Nat.add_comm,Nat.add_mul_div_right _ _ (Nat.pow_pos (by decide)),Nat.div_eq_of_lt bound,Nat.zero_add]
  have after : units % 10^places = digitsValue fraction := by
    rw [value,Nat.add_comm,Nat.add_mul_mod_self_right,Nat.mod_eq_of_lt bound]
  have padded : padStart (decimal (digitsValue fraction)) places 48 = fraction := by
    rw [← length]
    exact padStartDecimal some fractionDigits
  have unsigned : ¬ (units : Int) < 0 := Int.not_lt.mpr (Int.natCast_nonneg units)
  simp only [text,fixed,Int.natAbs_natCast,before,after,padded,decimalUnpadded wholeDigits,decide_eq_true_eq,unsigned,
    if_false,List.nil_append]

end Decimal
end SplitBill
