import Mathlib

/-! Strings as JavaScript has them: sequences of 16-bit code units that need not be well-formed.
Lengths, slices and patterns without flags see units. An encoder that is asked for bytes sees
scalar values, and puts the replacement character where half of a surrogate pair is missing. -/
namespace SplitBill

abbrev JsString := List UInt16

namespace JsString

def units (c : Char) : JsString :=
  if c.toNat < 0x10000 then [UInt16.ofNat c.toNat]
  else [UInt16.ofNat (0xD800 + (c.toNat - 0x10000) / 0x400),UInt16.ofNat (0xDC00 + (c.toNat - 0x10000) % 0x400)]

def encode (text : List Char) : JsString := text.flatMap units

end JsString

def js (text : String) : JsString := JsString.encode text.toList

namespace JsString

def leading (u : UInt16) : Bool := 0xD800 ≤ u && u ≤ 0xDBFF
def trailing (u : UInt16) : Bool := 0xDC00 ≤ u && u ≤ 0xDFFF

def scalar (u : UInt16) : Char := if leading u || trailing u then Char.ofNat 0xFFFD else Char.ofNat u.toNat
def joined (u v : UInt16) : Char := Char.ofNat (0x10000 + (u.toNat - 0xD800) * 0x400 + (v.toNat - 0xDC00))

def decode : JsString → List Char
  | [] => []
  | [u] => [scalar u]
  | u :: v :: rest =>
      if leading u && trailing v then joined u v :: decode rest else scalar u :: decode (v :: rest)

def utf8 (s : JsString) : List UInt8 := (decode s).flatMap String.utf8EncodeChar

/- A code unit takes at most three bytes: what a character leaves of three bytes for each of its units. -/
def spare (c : Char) : Nat := if c.utf8Size = 4 then 2 else 3 - c.utf8Size
def spareBytes (s : JsString) : Nat := ((decode s).map spare).sum

theorem ofNatValid {n : Nat} (valid : n.isValidChar) : (Char.ofNat n).val.toNat = n := by
  unfold Char.ofNat
  rw [dif_pos valid]
  rfl

theorem ofNatInvalid {n : Nat} (invalid : ¬ n.isValidChar) : (Char.ofNat n).val.toNat = 0 := by
  unfold Char.ofNat
  rw [dif_neg invalid]
  rfl

theorem utf8SizeFour {c : Char} : c.utf8Size = 4 ↔ 0xFFFF < c.val.toNat := by
  unfold Char.utf8Size
  simp only [UInt32.le_iff_toNat_le]
  split
  · simp_all
    omega
  · split
    · simp_all
      omega
    · split <;> simp_all

theorem utf8SizeOne {c : Char} : c.utf8Size ≤ 1 ↔ c.val.toNat < 128 := by
  unfold Char.utf8Size
  simp only [UInt32.le_iff_toNat_le]
  split
  · simp_all
    omega
  · split
    · simp_all
      omega
    · split <;> simp_all <;> omega

theorem leadingToNat {u : UInt16} : leading u = true ↔ 0xD800 ≤ u.toNat ∧ u.toNat ≤ 0xDBFF := by
  simp only [leading,Bool.and_eq_true,decide_eq_true_eq,UInt16.le_iff_toNat_le]
  rfl

theorem trailingToNat {u : UInt16} : trailing u = true ↔ 0xDC00 ≤ u.toNat ∧ u.toNat ≤ 0xDFFF := by
  simp only [trailing,Bool.and_eq_true,decide_eq_true_eq,UInt16.le_iff_toNat_le]
  rfl

theorem scalarSize (u : UInt16) : (scalar u).utf8Size ≠ 4 := by
  rw [ne_eq,utf8SizeFour]
  unfold scalar
  split
  · decide
  · have small := u.toNat_lt
    by_cases valid : u.toNat.isValidChar
    · rw [ofNatValid valid]
      omega
    · rw [ofNatInvalid valid]
      omega

theorem joinedSize {u v : UInt16} (first : leading u = true) (second : trailing v = true) :
    (joined u v).utf8Size = 4 := by
  rw [leadingToNat] at first
  rw [trailingToNat] at second
  have valid : (0x10000 + (u.toNat - 0xD800) * 0x400 + (v.toNat - 0xDC00)).isValidChar := by
    right
    omega
  rw [utf8SizeFour,joined,ofNatValid valid]
  omega

theorem spareScalar (u : UInt16) : (scalar u).utf8Size + spare (scalar u) = 3 := by
  have small := scalarSize u
  have most := (scalar u).utf8Size_le_four
  rw [spare,if_neg small]
  omega

theorem utf8Length (s : JsString) : (utf8 s).length + spareBytes s = 3 * s.length := by
  unfold utf8 spareBytes
  fun_induction decode s with
  | case1 => rfl
  | case2 u => simpa using spareScalar u
  | case3 u v rest pair ih =>
    obtain ⟨first,second⟩ := Bool.and_eq_true_iff.mp pair
    have size := joinedSize first second
    simp only [List.flatMap_cons,List.length_append,String.length_utf8EncodeChar,List.map_cons,List.sum_cons,
      List.length_cons,spare,size] at ih ⊢
    simp only [if_true]
    omega
  | case4 u v rest single ih =>
    have size := spareScalar u
    simp only [List.flatMap_cons,List.length_append,String.length_utf8EncodeChar,List.map_cons,List.sum_cons,
      List.length_cons] at ih ⊢
    omega

def ascii (u : UInt16) : Bool := u < 128

theorem asciiToNat {u : UInt16} : ascii u = true ↔ u.toNat < 128 := decide_eq_true_iff.trans UInt16.lt_iff_toNat_lt

theorem scalarAscii {u : UInt16} : (scalar u).utf8Size ≤ 1 ↔ ascii u = true := by
  rw [utf8SizeOne,asciiToNat]
  unfold scalar
  split
  · rename_i surrogate
    rw [Bool.or_eq_true,leadingToNat,trailingToNat] at surrogate
    refine ⟨fun small => absurd small (by decide),fun small => ?_⟩
    omega
  · rename_i plain
    rw [Bool.or_eq_true,leadingToNat,trailingToNat] at plain
    have small := u.toNat_lt
    have valid : u.toNat.isValidChar := by
      unfold Nat.isValidChar
      omega
    rw [ofNatValid valid]

theorem leadingNotAscii {u : UInt16} (high : leading u = true) : ascii u = false := by
  rw [leadingToNat] at high
  rw [← Bool.not_eq_true,asciiToNat]
  omega

theorem lengthUtf8 (s : JsString) : s.length ≤ (utf8 s).length := by
  unfold utf8
  fun_induction decode s with
  | case1 => exact le_rfl
  | case2 u => simpa using Nat.succ_le_of_lt (scalar u).utf8Size_pos
  | case3 u v rest pair ih =>
    obtain ⟨first,second⟩ := Bool.and_eq_true_iff.mp pair
    have size := joinedSize first second
    simp only [List.flatMap_cons,List.length_append,String.length_utf8EncodeChar,List.length_cons,size] at ih ⊢
    omega
  | case4 u v rest single ih =>
    have size := (scalar u).utf8Size_pos
    simp only [List.flatMap_cons,List.length_append,String.length_utf8EncodeChar,List.length_cons] at ih ⊢
    omega

theorem asciiUtf8 {s : JsString} : (utf8 s).length ≤ s.length ↔ ∀ u ∈ s, ascii u = true := by
  unfold utf8
  fun_induction decode s with
  | case1 => simp
  | case2 u => simpa using scalarAscii
  | case3 u v rest pair ih =>
    obtain ⟨first,second⟩ := Bool.and_eq_true_iff.mp pair
    have size := joinedSize first second
    have others := lengthUtf8 rest
    unfold utf8 at others
    simp only [List.flatMap_cons,List.length_append,String.length_utf8EncodeChar,List.length_cons,size,
      List.forall_mem_cons,leadingNotAscii first]
    refine ⟨fun short => ?_,fun clash => absurd clash.1 Bool.false_ne_true⟩
    omega
  | case4 u v rest single ih =>
    have size := (scalar u).utf8Size_pos
    have others := lengthUtf8 (v :: rest)
    unfold utf8 at others
    rw [List.forall_mem_cons,← scalarAscii,← ih]
    simp only [List.flatMap_cons,List.length_append,String.length_utf8EncodeChar,List.length_cons] at others ⊢
    omega

-- WhiteSpace and LineTerminator of the language, which is what trim removes.
def whiteSpace (u : UInt16) : Bool :=
  (0x9 ≤ u && u ≤ 0xD) || (0x2000 ≤ u && u ≤ 0x200A) ||
    [0x20,0xA0,0x1680,0x2028,0x2029,0x202F,0x205F,0x3000,0xFEFF].contains u

def trim (s : JsString) : JsString := (s.dropWhile whiteSpace).rdropWhile whiteSpace

def startsWith (s search : JsString) : Bool := search.isPrefixOf s
theorem startsWithPrefix (search rest : JsString) : startsWith (search ++ rest) search = true :=
  List.isPrefixOf_iff_prefix.mpr (List.prefix_append search rest)

def includes (s search : JsString) : Bool := s.tails.any fun rest => startsWith rest search

theorem includesExact {s search : JsString} : includes s search = true ↔ search <:+: s := by
  simp only [includes,startsWith,List.any_eq_true,List.mem_tails,List.isPrefixOf_iff_prefix,List.infix_iff_prefix_suffix]
  exact exists_congr fun rest => and_comm

-- A negative argument of slice counts from the end.
def sliceLast (s : JsString) (n : Nat) : JsString := s.drop (s.length - n)
def padStart (s : JsString) (n : Nat) (u : UInt16) : JsString := List.replicate (n - s.length) u ++ s

-- ASCII letters only.
def toLowerCase (s : JsString) : JsString := s.map fun u => if 0x41 ≤ u && u ≤ 0x5A then u + 0x20 else u

def digitUnit (d : Nat) : UInt16 := UInt16.ofNat (48 + d)
def unitDigit (u : UInt16) : Nat := u.toNat - 48

def decimal (n : Nat) : JsString := if n = 0 then [digitUnit 0] else ((Nat.digits 10 n).map digitUnit).reverse

def decimalInt (n : Int) : JsString := if n < 0 then js "-" ++ decimal n.natAbs else decimal n.natAbs

def isDigit (u : UInt16) : Bool := 48 ≤ u && u ≤ 57

def digitsValue (s : JsString) : Nat := Nat.ofDigits 10 (s.map unitDigit).reverse

theorem unitDigitUnit {d : Nat} (small : d < 10) : unitDigit (digitUnit d) = d := by
  interval_cases d <;> rfl

theorem digitUnitIsDigit {d : Nat} (small : d < 10) : isDigit (digitUnit d) = true := by
  interval_cases d <;> rfl

theorem digitExact {u : UInt16} : isDigit u = true ↔ ∃ d < 10, digitUnit d = u := by
  constructor
  · intro digit
    simp only [isDigit,Bool.and_eq_true,decide_eq_true_eq,UInt16.le_iff_toNat_le] at digit
    refine ⟨u.toNat - 48,by have := digit.2; simp at this; omega,?_⟩
    have low : 48 ≤ u.toNat := digit.1
    rw [digitUnit,Nat.add_sub_cancel' low,UInt16.ofNat_toNat]
  · rintro ⟨d,small,rfl⟩
    exact digitUnitIsDigit small

theorem decimalDigits {n : Nat} {u : UInt16} (member : u ∈ decimal n) : isDigit u = true := by
  unfold decimal at member
  split at member
  · rw [List.mem_singleton.mp member]
    rfl
  · obtain ⟨d,digit,same⟩ := List.mem_map.mp (List.mem_reverse.mp member)
    have small := Nat.digits_lt_base (by decide : 1 < 10) digit
    exact same ▸ digitUnitIsDigit small

theorem decimalValue (n : Nat) : digitsValue (decimal n) = n := by
  unfold decimal digitsValue
  split
  · rename_i zero
    simp [zero,unitDigitUnit]
  · have back : ((Nat.digits 10 n).map digitUnit).map unitDigit = Nat.digits 10 n := by
      rw [List.map_map]
      have each : ∀ d ∈ Nat.digits 10 n, (unitDigit ∘ digitUnit) d = id d :=
        fun d digit => unitDigitUnit (Nat.digits_lt_base (by decide) digit)
      rw [List.map_congr_left each,List.map_id]
    rw [List.map_reverse,List.reverse_reverse,back,Nat.ofDigits_digits]

theorem decimalInjective : Function.Injective decimal :=
  Function.LeftInverse.injective decimalValue

theorem decimalIntInjective : Function.Injective decimalInt := by
  intro a b same
  have minus : js "-" = [45] := rfl
  have unsigned : ∀ m n : Nat, decimal m ≠ js "-" ++ decimal n := by
    intro m n clash
    have digit : isDigit 45 = true := decimalDigits (by rw [clash,minus]; exact List.mem_cons_self)
    contradiction
  unfold decimalInt at same
  split at same <;> split at same
  · have := decimalInjective (List.append_cancel_left same)
    omega
  · exact absurd same.symm (unsigned _ _)
  · exact absurd same (unsigned _ _)
  · have := decimalInjective same
    omega

theorem decimalIntNoColon (n : Int) : 58 ∉ decimalInt n := by
  have digits : ∀ m : Nat, 58 ∉ decimal m := by
    intro m member
    have digit : isDigit 58 = true := decimalDigits member
    contradiction
  unfold decimalInt
  split
  · intro member
    obtain sign | digit := List.mem_append.mp member
    · exact absurd sign (by decide)
    · exact digits _ digit
  · exact digits _

theorem separated {u : UInt16} {a b s t : JsString} (first : u ∉ a) (second : u ∉ b)
    (same : a ++ u :: s = b ++ u :: t) : a = b ∧ s = t := by
  have before : ∀ {c : JsString} (r : JsString), u ∉ c → (c ++ u :: r).takeWhile (· ≠ u) = c := by
    intro c r absent
    have other : ∀ v ∈ c, decide (v ≠ u) = true := by
      intro v member
      exact decide_eq_true (ne_of_mem_of_not_mem member absent)
    rw [List.takeWhile_append_of_pos other]
    simp
  have texts : a = b := by
    rw [← before s first,same,before t second]
  subst texts
  exact ⟨rfl,List.cons.inj (List.append_cancel_left same) |>.2⟩

abbrev Pattern := RegularExpression UInt16

namespace Pattern
open RegularExpression

def oneOf (alphabet : JsString) : Pattern := (alphabet.map char).foldr (· + ·) 0
def digit : Pattern := oneOf (js "0123456789")
def optionally (p : Pattern) : Pattern := 1 + p
def upTo (p : Pattern) : Nat → Pattern
  | 0 => 1
  | n + 1 => optionally (p * upTo p n)

theorem oneOfMatches {alphabet t : JsString} : t ∈ (oneOf alphabet).matches' ↔ ∃ u ∈ alphabet, t = [u] := by
  induction alphabet with
  | nil => simp [oneOf]
  | cons u rest ih =>
    have split : (oneOf (u :: rest)).matches' = {[u]} + (oneOf rest).matches' := rfl
    have only : t ∈ ({[u]} : Language UInt16) ↔ t = [u] := Set.mem_singleton_iff
    rw [split,Language.mem_add,ih,only,List.exists_mem_cons_iff]

theorem digitAlphabet {u : UInt16} : u ∈ js "0123456789" ↔ isDigit u = true := by
  have alphabet : js "0123456789" = (List.range 10).map digitUnit := by decide
  simp only [alphabet,List.mem_map,List.mem_range,digitExact]

theorem digitMatches {t : JsString} : t ∈ digit.matches' ↔ ∃ u, isDigit u = true ∧ t = [u] := by
  simp only [digit,oneOfMatches,digitAlphabet]

theorem optionallyMatches {p : Pattern} {t : JsString} : t ∈ (optionally p).matches' ↔ t = [] ∨ t ∈ p.matches' := Iff.rfl

theorem consDigits {l : Language UInt16} {t : JsString} :
    t ∈ digit.matches' * l ↔ ∃ u rest, isDigit u = true ∧ rest ∈ l ∧ t = u :: rest := by
  simp only [Language.mem_mul,digitMatches]
  constructor
  · rintro ⟨_,⟨u,digit,rfl⟩,rest,member,rfl⟩
    exact ⟨u,rest,digit,member,rfl⟩
  · rintro ⟨u,rest,digit,member,rfl⟩
    exact ⟨[u],⟨u,digit,rfl⟩,rest,member,rfl⟩

theorem starMatches {t : JsString} : t ∈ digit.star.matches' ↔ ∀ u ∈ t, isDigit u = true := by
  have expand : digit.star.matches' = 1 + digit.matches' * digit.star.matches' :=
    (Language.one_add_self_mul_kstar_eq_kstar _).symm
  induction t with
  | nil => simpa using Language.nil_mem_kstar _
  | cons u rest ih =>
    rw [expand,Language.mem_add,Language.mem_one,consDigits,List.forall_mem_cons]
    constructor
    · rintro (none | ⟨v,others,digit,member,same⟩)
      · contradiction
      · cases same
        exact ⟨digit,ih.mp member⟩
    · intro ⟨digit,others⟩
      exact .inr ⟨u,rest,digit,ih.mpr others,rfl⟩

theorem upToMatches {n : Nat} {t : JsString} :
    t ∈ (upTo digit n).matches' ↔ t.length ≤ n ∧ ∀ u ∈ t, isDigit u = true := by
  induction n generalizing t with
  | zero =>
    rw [Nat.le_zero,List.length_eq_zero_iff]
    constructor
    · intro none
      rw [(Language.mem_one t).mp none]
      simp
    · exact fun h => h.1
  | succ n ih =>
    have expand : (upTo digit (n + 1)).matches' = 1 + digit.matches' * (upTo digit n).matches' := rfl
    rw [expand,Language.mem_add,Language.mem_one,consDigits]
    cases t with
    | nil => simp
    | cons u rest => simp [ih,and_left_comm]

end Pattern
end JsString

/- A number prints in decimal when it is an integer below 10^21; any other number has a letter or a
point in its text, and none has a colon. -/
inductive JsNumber
  | integer (n : Int)
  | other (text : JsString) (notDecimal : ∀ n, text ≠ JsString.decimalInt n) (noColon : 58 ∉ text)

namespace JsNumber

def text : JsNumber → JsString
  | .integer n => JsString.decimalInt n
  | .other text _ _ => text

theorem textInjective : Function.Injective text := by
  intro a b same
  cases a with
  | integer n =>
    cases b with
    | integer m => rw [JsString.decimalIntInjective same]
    | other text notDecimal _ => exact absurd same.symm (notDecimal n)
  | other t notDecimal _ =>
    cases b with
    | integer m => exact absurd same (notDecimal m)
    | other t' _ _ =>
      have texts : t = t' := same
      subst texts
      rfl

theorem textNoColon (n : JsNumber) : 58 ∉ n.text := by
  cases n with
  | integer n => exact JsString.decimalIntNoColon n
  | other text _ noColon => exact noColon

end JsNumber
end SplitBill
