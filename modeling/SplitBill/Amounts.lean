import SplitBill.Decimal
import SplitBill.SplitFlow

/-! Amounts from the typed text to the payments. The parser reads the decimals with at most seven places
and gives their exact number of stroops, the formatter prints the shortest such decimal back. -/
namespace SplitBill.Amounts
open JsString JsString.Pattern Helpers Pipeline SplitFlow Decimal

theorem signMatches {t : JsString} :
    t ∈ (optionally (oneOf (js "-"))).matches' ↔ ∃ negative : Bool, t = if negative then [45] else [] := by
  have minus : js "-" = [45] := rfl
  simp only [optionallyMatches,oneOfMatches,minus,List.mem_singleton,exists_eq_left,Bool.exists_bool,
    Bool.false_eq_true,if_false,if_true]

theorem wholeMatches {t : JsString} :
    t ∈ (digit * digit.star).matches' ↔ t ≠ [] ∧ ∀ u ∈ t, isDigit u = true := by
  rw [RegularExpression.matches'_mul,consDigits]
  cases t with
  | nil => simp
  | cons u rest =>
    simp only [starMatches,List.cons.injEq,List.forall_mem_cons,ne_eq,reduceCtorEq,not_false_eq_true,true_and]
    constructor
    · rintro ⟨_,_,first,others,rfl,rfl⟩
      exact ⟨first,others⟩
    · intro ⟨first,others⟩
      exact ⟨u,rest,first,others,rfl,rfl⟩

theorem pointMatches {t : JsString} :
    t ∈ (optionally (oneOf (js ".") * (digit * upTo digit 6))).matches' ↔
      ∃ fraction, t = pointed fraction ∧ fraction.length ≤ 7 ∧ ∀ u ∈ fraction, isDigit u = true := by
  have point : js "." = [46] := rfl
  rw [optionallyMatches,RegularExpression.matches'_mul,RegularExpression.matches'_mul,Language.mem_mul]
  simp only [oneOfMatches,point,List.mem_singleton,exists_eq_left,consDigits,upToMatches]
  constructor
  · rintro (rfl | ⟨_,⟨u,rest,first,⟨short,others⟩,rfl⟩,rfl⟩)
    · exact ⟨[],rfl,by simp⟩
    · exact ⟨u :: rest,rfl,Nat.succ_le_succ short,List.forall_mem_cons.mpr ⟨first,others⟩⟩
  · rintro ⟨fraction,rfl,short,digits⟩
    cases fraction with
    | nil => exact .inl rfl
    | cons u rest =>
      obtain ⟨first,others⟩ := List.forall_mem_cons.mp digits
      exact .inr ⟨_,⟨u,rest,first,⟨Nat.le_of_succ_le_succ short,others⟩,rfl⟩,rfl⟩

theorem amountMatches {t : JsString} :
    amountPattern.rmatch t = true ↔ ∃ d : Decimal, d.text = t ∧ d.fraction.length ≤ 7 := by
  rw [RegularExpression.rmatch_iff_matches',amountPattern,RegularExpression.matches'_mul,Language.mem_mul]
  simp only [pointMatches]
  rw [RegularExpression.matches'_mul]
  simp only [Language.mem_mul,signMatches,wholeMatches]
  constructor
  · rintro ⟨_,⟨_,⟨negative,rfl⟩,whole,⟨started,digits⟩,rfl⟩,_,⟨fraction,rfl,places,others⟩,rfl⟩
    exact ⟨⟨negative,whole,fraction,started,digits,others⟩,(List.append_assoc ..).symm,places⟩
  · rintro ⟨d,rfl,places⟩
    exact ⟨_,⟨_,⟨d.negative,rfl⟩,d.whole,⟨d.started,d.wholeDigits⟩,rfl⟩,_,⟨d.fraction,rfl,places,d.fractionDigits⟩,
      List.append_assoc ..⟩

theorem digitVisible {u : UInt16} (digit : isDigit u = true) : whiteSpace u = false := by
  obtain ⟨d,small,rfl⟩ := digitExact.mp digit
  interval_cases d <;> rfl

theorem trimVisible {s : JsString} (visible : ∀ u ∈ s, whiteSpace u = false) : trim s = s := by
  have kept : ∀ u ∈ s, ¬ whiteSpace u = true := by
    intro u member
    rw [visible u member]
    exact Bool.false_ne_true
  rw [trim,List.dropWhile_eq_self_iff.mpr fun some => kept _ (List.getElem_mem some),
    List.rdropWhile_eq_self_iff.mpr fun some => kept _ (List.getLast_mem some)]

theorem trimDigits {s : JsString} (digits : ∀ u ∈ s, isDigit u = true) : trim s = s :=
  trimVisible fun u member => digitVisible (digits u member)

theorem startsUnit (s : JsString) (u : UInt16) : startsWith s [u] = decide (s.head? = some u) := by
  cases s with
  | nil => rfl
  | cons v rest =>
    have first : startsWith (v :: rest) [u] = (u == v && true) := rfl
    rw [first,Bool.and_true,List.head?_cons,Bool.eq_iff_iff,beq_iff_eq,decide_eq_true_eq,Option.some.injEq]
    exact eq_comm

theorem startsDigits {s : JsString} (digits : ∀ u ∈ s, isDigit u = true) {sign : UInt16} (other : isDigit sign = false) :
    startsWith s [sign] = false := by
  rw [startsUnit,decide_eq_false_iff_not]
  intro head
  have digit := digits sign (List.mem_of_mem_head? head)
  rw [other] at digit
  contradiction

theorem bigIntDigits {s : JsString} (started : s ≠ []) (digits : ∀ u ∈ s, isDigit u = true) :
    bigInt s = .ok (digitsValue s) := by
  have minus : startsWith s (js "-") = false := startsDigits digits rfl
  have plus : startsWith s (js "+") = false := startsDigits digits rfl
  simp only [bigInt,trimDigits digits,minus,plus,Bool.or_self,Bool.false_eq_true,if_false,started,ne_eq,List.all_eq_true]
  rw [if_pos ⟨not_false,digits⟩]

theorem decimalSign (d : Decimal) : startsWith d.text (js "-") = d.negative ∧
    (if d.negative then d.text.drop 1 else d.text) = d.whole ++ pointed d.fraction := by
  have minus : js "-" = [45] := rfl
  rw [minus,startsUnit,text]
  cases sign : d.negative with
  | false => exact ⟨decide_eq_false d.unsignedHead,rfl⟩
  | true => exact ⟨rfl,rfl⟩

theorem decimalPieces (d : Decimal) : (d.whole ++ pointed d.fraction).splitOn 46 =
    d.whole :: if d.fraction = [] then [] else [d.fraction] := by
  have wholePart := pointAbsent d.wholeDigits
  have fractionPart := pointAbsent d.fractionDigits
  unfold pointed
  split
  · rw [List.append_nil,List.splitOn_eq_singleton wholePart]
  · rw [List.splitOn_append_cons_self,List.splitOn_eq_singleton wholePart,List.splitOn_eq_singleton fractionPart]
    rfl

theorem decimalFraction (d : Decimal) :
    (d.whole :: if d.fraction = [] then [] else [d.fraction])[1]?.getD [] = d.fraction := by
  split <;> simp_all

def scaled (d : Decimal) : Int :=
  let magnitude : Int := digitsValue d.whole * STROOPS_PER_XLM + digitsValue d.fraction * 10^(7 - d.fraction.length)
  if d.negative then -magnitude else magnitude

theorem scaledValue {d : Decimal} (short : d.fraction.length ≤ 7) : (scaled d : ℚ) = d.value * 10^7 := by
  have places : (10 : ℚ)^(7 - d.fraction.length) * 10^d.fraction.length = 10^7 := by
    rw [← pow_add,Nat.sub_add_cancel short]
  have magnitude : d.magnitude * 10^7 = digitsValue d.whole * 10^7 + digitsValue d.fraction * 10^(7 - d.fraction.length) := by
    rw [Decimal.magnitude,add_mul,← places]
    field_simp
  unfold scaled value
  split
  · rw [neg_mul,magnitude]
    norm_num [STROOPS_PER_XLM]
  · rw [magnitude]
    norm_num [STROOPS_PER_XLM]

theorem paddedDigits {fraction : JsString} (short : fraction.length ≤ 7) :
    (fraction ++ js "0000000").take 7 = fraction ++ List.replicate (7 - fraction.length) 48 := by
  have zeros : js "0000000" = List.replicate 7 48 := by decide
  rw [zeros,List.take_append,List.take_of_length_le short,List.take_replicate,Nat.min_eq_left (Nat.sub_le ..)]

theorem xlmToStroopsDecimal {s : JsString} {d : Decimal} (reads : d.text = trim s) (short : d.fraction.length ≤ 7) :
    xlmToStroops s = if scaled d ≤ 0 then .error (validationFailure "Amount must be greater than 0.") else .ok (scaled d) := by
  have accepted : amountPattern.rmatch (trim s) = true := amountMatches.mpr ⟨d,reads,short⟩
  obtain ⟨sign,body⟩ := decimalSign d
  rw [reads] at sign body
  have padded := paddedDigits short
  have zeros := filledDigits d.fractionDigits (7 - d.fraction.length)
  have some : d.fraction ++ List.replicate (7 - d.fraction.length) 48 ≠ [] := by
    intro none
    have length := congrArg List.length none
    simp only [List.length_append,List.length_replicate,List.length_nil] at length
    omega
  unfold xlmToStroops
  simp only [accepted,sign,body,decimalPieces,List.headD_cons,decimalFraction,padded,some,if_false,
    bigIntDigits d.started d.wholeDigits,bigIntDigits some zeros,okBind]
  have value : (digitsValue (d.fraction ++ List.replicate (7 - d.fraction.length) 48) : Int) =
      digitsValue d.fraction * 10^(7 - d.fraction.length) := by
    rw [digitsFilled]
    push_cast
    rfl
  rw [value]
  change (do
    failIf (true = false) _
    failIf (scaled d ≤ 0) _
    return scaled d : Except Thrown Int) = _
  by_cases nothing : scaled d ≤ 0
  · rw [if_pos nothing,failIf,if_neg (by decide),okBind,failIf,if_pos nothing]
    rfl
  · rw [if_neg nothing,failIf,if_neg (by decide),okBind,failIf,if_neg nothing]
    rfl

theorem xlmToStroopsMalformed {s : JsString} (none : ¬ ∃ d : Decimal, d.text = trim s ∧ d.fraction.length ≤ 7) :
    xlmToStroops s = .error (validationFailure "Amount must be a number with up to 7 decimals.") := by
  have refused : amountPattern.rmatch (trim s) = false := by
    rw [← Bool.not_eq_true,amountMatches]
    exact none
  rw [xlmToStroops,failIf,if_pos refused]
  rfl

theorem xlmToStroopsExact {s : JsString} {v : Int} : xlmToStroops s = .ok v ↔
    ∃ d : Decimal, d.text = trim s ∧ d.fraction.length ≤ 7 ∧ 0 < v ∧ (v : ℚ) = d.value * 10^7 := by
  by_cases readable : ∃ d : Decimal, d.text = trim s ∧ d.fraction.length ≤ 7
  · obtain ⟨d,reads,short⟩ := readable
    rw [xlmToStroopsDecimal reads short]
    constructor
    · intro accepted
      split at accepted
      · contradiction
      · rename_i positive
        cases accepted
        exact ⟨d,reads,short,not_le.mp positive,scaledValue short⟩
    · intro ⟨e,same,_,positive,value⟩
      rw [textInjective (same.trans reads.symm),← scaledValue short] at value
      rw [Int.cast_injective value] at positive ⊢
      rw [if_neg (not_le.mpr positive)]
  · rw [xlmToStroopsMalformed readable]
    constructor
    · intro accepted
      contradiction
    · intro ⟨d,reads,short,_⟩
      exact absurd ⟨d,reads,short⟩ readable

theorem xlmToStroopsRefuses {s : JsString} {e : Thrown} (refused : xlmToStroops s = .error e) :
    e = .contract ⟨js "Amount must be a number with up to 7 decimals.",.validation⟩ ∧
      (¬ ∃ d : Decimal, d.text = trim s ∧ d.fraction.length ≤ 7) ∨
    e = .contract ⟨js "Amount must be greater than 0.",.validation⟩ ∧
      ∃ d : Decimal, d.text = trim s ∧ d.fraction.length ≤ 7 ∧ d.value ≤ 0 := by
  by_cases readable : ∃ d : Decimal, d.text = trim s ∧ d.fraction.length ≤ 7
  · obtain ⟨d,reads,short⟩ := readable
    rw [xlmToStroopsDecimal reads short] at refused
    split at refused
    · rename_i nothing
      have value : d.value * 10^7 ≤ 0 := by
        rw [← scaledValue short]
        exact_mod_cast nothing
      exact .inr ⟨(Except.error.inj refused).symm,d,reads,short,nonpos_of_mul_nonpos_left value (by norm_num)⟩
    · contradiction
  · rw [xlmToStroopsMalformed readable] at refused
    exact .inl ⟨(Except.error.inj refused).symm,readable⟩

theorem parsesGrammar (s : JsString) :
    (∀ v : Int, xlmToStroops s = .ok v ↔
      ∃ d : Decimal, d.text = trim s ∧ d.fraction.length ≤ 7 ∧ d.value * 10^7 = v ∧ 0 < v) ∧
    ∀ e, xlmToStroops s = .error e → ∃ message, e = .contract ⟨message,.validation⟩ := by
  constructor
  · intro v
    rw [xlmToStroopsExact]
    constructor
    · intro ⟨d,reads,short,positive,value⟩
      exact ⟨d,reads,short,value.symm,positive⟩
    · intro ⟨d,reads,short,value,positive⟩
      exact ⟨d,reads,short,positive,value.symm⟩
  · intro e refused
    rcases xlmToStroopsRefuses refused with ⟨same,_⟩ | ⟨same,_⟩
    · exact ⟨_,same⟩
    · exact ⟨_,same⟩

theorem formatFixed (units : Int) : formatStroops 10000000 units = (fixed 7 units).text := by
  have size : (if units < 0 then -units else units) = (units.natAbs : Int) := by
    split <;> omega
  have natural : ∀ n : Nat, decimalInt n = decimal n := by
    intro n
    rw [decimalInt,if_neg (Int.natCast_nonneg n).not_gt,Int.natAbs_natCast]
  have whole : decimalInt ((units.natAbs : Int).tdiv 10000000) = decimal (units.natAbs / 10^7) := natural _
  have fraction : decimalInt ((units.natAbs : Int).tmod 10000000) = decimal (units.natAbs % 10^7) := natural _
  have point : js "." = [46] := rfl
  have minus : js "-" = [45] := rfl
  simp only [formatStroops,size,whole,fraction,point,minus,text,fixed,pointed,stripped,decide_eq_true_eq]
  split <;> split <;> simp only [*,if_true,if_false,List.append_nil,List.nil_append,List.singleton_append,List.append_assoc]

theorem stroopsToXlmFixed (stroops : Int) : stroopsToXlm stroops = (fixed 7 stroops).text := formatFixed stroops

theorem shareDenotes (share : Int) : Denotes (stroopsAsXlmString share) (share / 10^7) :=
  ⟨fixed 7 share,(formatFixed share).symm,fixedValue (by decide) share⟩

theorem sharesTotal {total : Int} {n : Nat} (anyone : 0 < n) :
    (List.replicate (n - 1) (total / n) ++ [total / n + total % n]).sum = total := by
  have whole := Int.mul_ediv_add_emod total n
  have others : ((n - 1 : Nat) : Int) * (total / n) = n * (total / n) - total / n := by
    rw [Nat.cast_sub anyone]
    ring
  rw [List.sum_append,List.sum_replicate,nsmul_eq_mul,others,List.sum_singleton]
  omega

theorem sharesNonneg {total : Int} {n : Nat} (anyone : 0 < n) (nonneg : 0 ≤ total) {share : Int}
    (member : share ∈ List.replicate (n - 1) (total / n) ++ [total / n + total % n]) : 0 ≤ share := by
  have quotient : 0 ≤ total / n := Int.ediv_nonneg nonneg (Int.natCast_nonneg n)
  have remainder : 0 ≤ total % n := Int.emod_nonneg total (by omega)
  rcases List.mem_append.mp member with equal | last
  · exact List.eq_of_mem_replicate equal ▸ quotient
  · exact List.mem_singleton.mp last ▸ Int.add_nonneg quotient remainder

theorem sumDenotes {shares : List Int} {amounts : List ℚ}
    (each : List.Forall₂ Denotes (shares.map stroopsAsXlmString) amounts) : amounts.sum = (shares.sum : ℚ) / 10^7 := by
  induction shares generalizing amounts with
  | nil =>
    cases each
    simp
  | cons share rest ih =>
    cases each with
    | @cons _ amount _ tail first others =>
      have value : amount = share / 10^7 := denotesOne first (shareDenotes share)
      rw [List.sum_cons,value,ih others,List.sum_cons]
      push_cast
      ring

theorem noStroopLost (s : JsString) (total : Int) (accepted : xlmToStroops s = .ok total) (n : Nat) (anyone : 0 < n) :
    ∃ shares, computeShares total n = .ok shares ∧ shares.length = n ∧ (∀ share ∈ shares, 0 ≤ share) ∧
      (∀ i < n - 1, shares[i]? = some (total / n)) ∧ shares[n - 1]? = some (total / n + total % n) ∧
      (∀ share ∈ shares, ∃ d : Decimal, d.text = stroopsAsXlmString share ∧ d.negative = false ∧
        d.fraction.length ≤ 7 ∧ d.value = (share : ℚ) / 10^7) ∧
      (∀ amounts : List ℚ, List.Forall₂ Denotes (shares.map stroopsAsXlmString) amounts → Denotes (trim s) amounts.sum) ∧
      ∀ (payers : List JsString) (sender memo : JsString), payers.length = n →
        (xlmTransaction sender (payments ⟨total,shares,payers⟩) memo).operations =
          payers.zip (shares.map stroopsAsXlmString) ∧
        (billRequest sender memo ⟨total,shares,payers⟩).shareStroops * n ≤ total ∧
        total < (billRequest sender memo ⟨total,shares,payers⟩).shareStroops * n + n := by
  obtain ⟨d,reads,short,positive,value⟩ := xlmToStroopsExact.mp accepted
  have nonneg : ∀ share ∈ List.replicate (n - 1) (total / n) ++ [total / n + total % n], 0 ≤ share :=
    fun _ => sharesNonneg anyone positive.le
  refine ⟨_,computeSharesExact anyone positive,?_,nonneg,?_,?_,?_,?_,?_⟩
  · rw [List.length_append,List.length_replicate,List.length_singleton,Nat.sub_add_cancel anyone]
  · intro i before
    rw [List.getElem?_append_left (by simpa using before),List.getElem?_replicate_of_lt before]
  · rw [List.getElem?_append_right (by simp)]
    simp
  · intro share member
    have unsigned : (fixed 7 share).negative = false := decide_eq_false (nonneg share member).not_gt
    exact ⟨fixed 7 share,(formatFixed share).symm,unsigned,fixedPlaces (by decide) share,fixedValue (by decide) share⟩
  · intro amounts each
    refine ⟨d,reads,?_⟩
    rw [sumDenotes each,sharesTotal anyone,value]
    field_simp
  · intro payers sender memo length
    constructor
    · simp only [xlmTransaction,payments,List.map_map,List.zip_map_right]
      rfl
    · have recorded : ∀ shares, (billRequest sender memo ⟨total,shares,payers⟩).shareStroops = total / n := by
        intro shares
        rw [← length]
        exact Int.tdiv_eq_ediv_of_nonneg positive.le
      rw [recorded]
      have count : 0 < (n : Int) := by omega
      exact ⟨Int.ediv_mul_le total count.ne',Int.lt_ediv_add_one_mul_self total count |>.trans_eq (by ring)⟩

theorem oddTotalInThree : ∃ shares, computeShares 10000001 3 = .ok shares ∧ shares[2]? = some 3333335 ∧
    ∀ amounts : List ℚ, List.Forall₂ Denotes (shares.map stroopsAsXlmString) amounts →
      Denotes (trim (js " 1.0000001")) amounts.sum := by
  obtain ⟨shares,split,_,_,_,last,_,sum,_⟩ :=
    noStroopLost (js " 1.0000001") 10000001 (by decide +kernel) 3 (by decide)
  exact ⟨shares,split,last,sum⟩

end SplitBill.Amounts
