import SplitBill.Amounts

/-! Parser and formatter of amounts as inverses. Among the texts of one amount the formatter picks the
one without superfluous zeros, which the parser reads back; it tells all amounts apart, debts included. -/
namespace SplitBill.RoundTrip
open JsString Helpers Amounts Decimal

def canonical (s : JsString) : JsString :=
  let pieces := (trim s).splitOn 46
  unpadded (pieces.headD []) ++ pointed (stripped (pieces[1]?.getD []))

theorem canonicalDecimal {s : JsString} {d : Decimal} (reads : d.text = trim s) (unsigned : d.negative = false) :
    canonical s = unpadded d.whole ++ pointed (stripped d.fraction) := by
  have body : d.text = d.whole ++ pointed d.fraction := by
    rw [text,unsigned]
    rfl
  rw [canonical,← reads,body,decimalPieces]
  simp only [List.headD_cons,decimalFraction]

theorem trimText (d : Decimal) : trim d.text = d.text := by
  apply trimVisible
  intro u member
  rcases List.mem_append.mp member with sign | body
  · split at sign
    · rw [List.mem_singleton.mp sign]
      rfl
    · contradiction
  rcases List.mem_append.mp body with digit | rest
  · exact digitVisible (d.wholeDigits u digit)
  · unfold pointed at rest
    split at rest
    · contradiction
    · rcases List.mem_cons.mp rest with point | digit
      · rw [point]
        rfl
      · exact digitVisible (d.fractionDigits u digit)

theorem parsesFormatted {v : Int} (positive : 0 < v) : xlmToStroops (stroopsToXlm v) = .ok v := by
  rw [xlmToStroopsExact,stroopsToXlmFixed]
  refine ⟨fixed 7 v,(trimText _).symm,fixedPlaces (by decide) v,positive,?_⟩
  rw [fixedValue (by decide)]
  field_simp

theorem acceptedScaled {s : JsString} {v : Int} (accepted : xlmToStroops s = .ok v) :
    ∃ d : Decimal, d.text = trim s ∧ d.fraction.length ≤ 7 ∧ d.negative = false ∧ v = scaled d := by
  obtain ⟨d,reads,short,positive,value⟩ := xlmToStroopsExact.mp accepted
  have same : v = scaled d := by
    rw [← scaledValue short] at value
    exact Int.cast_injective value
  refine ⟨d,reads,short,?_,same⟩
  by_contra sign
  simp only [scaled,STROOPS_PER_XLM,eq_true_of_ne_false sign,if_true] at same
  have least : 0 ≤ (digitsValue d.fraction : Int) * 10^(7 - d.fraction.length) := by positivity
  omega

theorem formatsCanonical {s : JsString} {v : Int} (accepted : xlmToStroops s = .ok v) : stroopsToXlm v = canonical s := by
  obtain ⟨d,reads,short,unsigned,rfl⟩ := acceptedScaled accepted
  -- the places that the parser fills up with zeros, which the formatter takes off again
  let filled := d.fraction ++ List.replicate (7 - d.fraction.length) 48
  have length : filled.length = 7 := by
    rw [List.length_append,List.length_replicate,Nat.add_sub_cancel' short]
  have some : filled ≠ [] := List.ne_nil_of_length_pos (by rw [length]; decide)
  have digits : ∀ u ∈ filled, isDigit u = true := filledDigits d.fractionDigits _
  have units : scaled d = ((digitsValue d.whole * 10^7 + digitsValue filled : Nat) : Int) := by
    rw [digitsFilled]
    simp [scaled,unsigned,STROOPS_PER_XLM]
  rw [stroopsToXlmFixed,units,fixedParts d.wholeDigits digits some length rfl,canonicalDecimal reads unsigned,
    strippedAppend]

theorem formatInjective : Function.Injective stroopsToXlm := by
  intro a b same
  rw [stroopsToXlmFixed,stroopsToXlmFixed] at same
  exact fixedInjective (by decide) (textInjective same)

theorem amountsRoundTrip :
    (∀ v : Int, 0 < v → xlmToStroops (stroopsToXlm v) = .ok v) ∧
    (∀ s v, xlmToStroops s = .ok v → stroopsToXlm v = canonical s ∧ (canonical s = s → stroopsToXlm v = s)) ∧
    (∀ s t v v', xlmToStroops s = .ok v → xlmToStroops t = .ok v' → (v = v' ↔ canonical s = canonical t)) ∧
    Function.Injective stroopsToXlm := by
  refine ⟨fun v => parsesFormatted,?_,?_,formatInjective⟩
  · intro s v accepted
    have prints := formatsCanonical accepted
    exact ⟨prints,fun already => prints.trans already⟩
  · intro s t v v' first second
    rw [← formatsCanonical first,← formatsCanonical second]
    exact formatInjective.eq_iff.symm

example : [js " 0010.50 ",js "10.0000000",js "000.0000001",js "00",js "7"].map canonical =
    [js "10.5",js "10",js "0.0000001",js "0",js "7"] := by decide +kernel

end SplitBill.RoundTrip
