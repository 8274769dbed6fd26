import SplitBill.Pipeline

/-! The memo of a payment. It is cut to 28 code units, where the limit is in bytes: a memo that is not all
ASCII can go over the limit, or lose half of a surrogate pair at the cut, and then no payment is built. -/
namespace SplitBill.MemoText
open JsString Pipeline Helpers SplitBill.Flow

def MAX_MEMO_BYTES : Nat := 28

def Fits (text : List Char) (t : JsString) : Prop :=
  (∃ chars, chars <+: text ∧ encode chars = t) ∧ (utf8 t).length ≤ MAX_MEMO_BYTES

theorem surrogateUnits {c : Char} {u v : UInt16} {rest : JsString} (pair : units c = u :: v :: rest) : ascii u = false := by
  unfold units at pair
  split at pair
  · simp at pair
  · obtain ⟨rfl,_⟩ := List.cons.inj pair
    have most := c.valid
    rw [← Bool.not_eq_true,asciiToNat,UInt16.toNat_ofNat']
    have low : c.toNat < 0x110000 := by
      rcases most with small | ⟨_,small⟩
      · exact small.trans (by decide)
      · exact small
    omega

theorem asciiPrefix {text : List Char} {k : Nat} (plain : ∀ u ∈ (encode text).take k, ascii u = true) :
    ∃ chars, chars <+: text ∧ encode chars = (encode text).take k := by
  induction text generalizing k with
  | nil => exact ⟨[],List.nil_prefix,by simp [encode]⟩
  | cons c rest ih =>
    have split : encode (c :: rest) = units c ++ encode rest := rfl
    cases k with
    | zero => exact ⟨[],List.nil_prefix,rfl⟩
    | succ k =>
      rw [split] at plain ⊢
      cases first : units c with
      | nil =>
        unfold units at first
        split at first <;> contradiction
      | cons u others =>
        rw [first,List.cons_append,List.take_succ_cons,List.forall_mem_cons] at plain
        cases others with
        | nil =>
          obtain ⟨chars,inside,same⟩ := ih plain.2
          refine ⟨c :: chars,List.cons_prefix_cons.mpr ⟨rfl,inside⟩,?_⟩
          have whole : encode (c :: chars) = units c ++ encode chars := rfl
          rw [whole,first,same]
          rfl
        | cons v more =>
          have high := surrogateUnits first
          rw [plain.1] at high
          contradiction

theorem memoFitsWhen (text : List Char) :
    (∀ t, memoText (encode text) = some t → Fits text t) ↔
      trim (encode text) = [] ∨ (utf8 (encode text)).length ≤ 28 ∨ ∀ u ∈ (encode text).take 28, ascii u = true := by
  by_cases blank : trim (encode text) = []
  · have none : memoText (encode text) = none := if_neg fun some => some.2 blank
    rw [none]
    exact ⟨fun _ => .inl blank,fun _ _ attached => by contradiction⟩
  have attached : memoText (encode text) = some ((encode text).take 28) := by
    refine if_pos ⟨?_,blank⟩
    intro empty
    rw [empty] at blank
    exact blank rfl
  have cut : ((encode text).take 28).length ≤ 28 := List.length_take_le ..
  rw [attached]
  constructor
  · intro fits
    obtain ⟨_,bytes⟩ := fits _ rfl
    by_cases short : (encode text).length ≤ 28
    · rw [List.take_of_length_le short] at bytes
      exact .inr (.inl bytes)
    · have full : ((encode text).take 28).length = 28 := List.length_take_of_le (by omega)
      exact .inr (.inr (asciiUtf8.mp (bytes.trans_eq full.symm)))
  · rintro (empty | bytes | plain) t same
    · exact absurd empty blank
    · have whole : (encode text).take 28 = encode text := List.take_of_length_le ((lengthUtf8 _).trans bytes)
      rw [whole] at same
      cases Option.some.inj same
      exact ⟨⟨text,List.prefix_rfl,rfl⟩,bytes⟩
    · cases Option.some.inj same
      exact ⟨asciiPrefix plain,(asciiUtf8.mpr plain).trans cut⟩

/- Memo.text throws beyond its limit; every transaction with such a memo fails to be built. -/
def MemoLimited (script : XlmScript) : Prop :=
  ∀ tx t, tx.memo = some t → MAX_MEMO_BYTES < (utf8 t).length → script.built tx ≠ .ok ()

theorem longMemoStops {script : XlmScript} (limited : MemoLimited script) {memo t : JsString}
    (attached : memoText memo = some t) (long : MAX_MEMO_BYTES < (utf8 t).length) (sender : JsString)
    (payments : List Payment) (trace : Trace) :
    (∀ hash, ¬ Returns (sendXlmSplit script sender payments memo) trace hash) ∧
    (sendXlmSplit script sender payments memo trace).2.applied = trace.applied := by
  have stops : ¬ script.Reaches sender payments memo := by
    intro ⟨_,_,_,built,_⟩
    exact limited _ t attached long built
  exact ⟨fun hash returns => stops (sendXlmSplitReturns.mp returns).1,
    sendXlmSplitNothing fun reaches => absurd reaches stops⟩

theorem memosTooLong :
    let euros := List.replicate 28 '€'
    let smiling := List.replicate 27 'a' ++ ['😀']
    memoText (encode euros) = some (encode euros) ∧ (utf8 (encode euros)).length = 84 ∧
    memoText (encode smiling) = some (List.replicate 27 97 ++ [0xD83D]) ∧
    ¬ ∀ text t, memoText (encode text) = some t → Fits text t := by
  intro euros smiling
  have attached : memoText (encode euros) = some (encode euros) := by decide +kernel
  have bytes : (utf8 (encode euros)).length = 84 := by decide +kernel
  refine ⟨attached,bytes,by decide +kernel,?_⟩
  intro fit
  have few := (fit euros _ attached).2
  rw [bytes] at few
  exact absurd few (by decide)

end SplitBill.MemoText
