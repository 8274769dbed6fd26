import SplitBill.Flow
import SplitBill.JsString

/-! The pure helpers of the page: its errors, amounts in stroops, shares and addresses.
A bigint is an integer without bounds, and its division truncates. -/
namespace SplitBill.Helpers
open JsString

inductive ContractErrorCategory
  | validation
  | rejected
  | submission
  | rpc
  | simulation
  deriving DecidableEq, Repr

structure ContractError where
  message : JsString
  category : ContractErrorCategory
  deriving DecidableEq, Repr

inductive Thrown
  | contract (error : ContractError)
  | other (message : JsString)
  deriving DecidableEq, Repr

def Thrown.message : Thrown → JsString
  | .contract error => error.message
  | .other message => message

def validationFailure (message : String) : Thrown := .contract ⟨js message,.validation⟩

def STROOPS_PER_XLM : Int := 10000000

/- BigInt of a text. Its forms with a radix prefix are left to the error case: no caller has them. -/
def bigInt (text : JsString) : Except Thrown Int :=
  let literal := trim text
  let negative := startsWith literal (js "-")
  let digits := if negative || startsWith literal (js "+") then literal.drop 1 else literal
  if literal = [] then .ok 0
  else if digits ≠ [] ∧ digits.all isDigit then
    .ok (if negative then -(digitsValue digits : Int) else digitsValue digits)
  else .error (.other (js "Cannot convert " ++ text ++ js " to a BigInt"))

-- ^-?\d+(\.\d{1,7})?$
def amountPattern : Pattern :=
  Pattern.optionally (Pattern.oneOf (js "-")) * (Pattern.digit * Pattern.digit.star) *
    Pattern.optionally (Pattern.oneOf (js ".") * (Pattern.digit * Pattern.upTo Pattern.digit 6))

def xlmToStroops (xlm : JsString) : Except Thrown Int := do
  let trimmed := trim xlm
  failIf (amountPattern.rmatch trimmed = false)
    (validationFailure "Amount must be a number with up to 7 decimals.")
  let negative := startsWith trimmed (js "-")
  let body := if negative then trimmed.drop 1 else trimmed
  let pieces := body.splitOn 46
  let whole := pieces.headD []
  let frac := pieces[1]?.getD []
  let padded := (frac ++ js "0000000").take 7
  let magnitude := (← bigInt whole) * STROOPS_PER_XLM + (← bigInt (if padded = [] then js "0" else padded))
  let stroops := if negative then -magnitude else magnitude
  failIf (stroops ≤ 0) (validationFailure "Amount must be greater than 0.")
  return stroops

def formatStroops (perXlm value : Int) : JsString :=
  let magnitude := if value < 0 then -value else value
  let whole := decimalInt (magnitude.tdiv perXlm)
  let frac := (padStart (decimalInt (magnitude.tmod perXlm)) 7 48).rdropWhile (· == 48)
  let formatted := if frac = [] then whole else whole ++ js "." ++ frac
  if value < 0 then js "-" ++ formatted else formatted

def stroopsToXlm (stroops : Int) : JsString := formatStroops STROOPS_PER_XLM stroops

def computeShares (total n : Int) : Except Thrown (List Int) := do
  failIf (n ≤ 0) (validationFailure "At least one payer is required.")
  failIf (total ≤ 0) (validationFailure "Total must be greater than 0.")
  let base := total.tdiv n
  let remainder := total - base * n
  return (List.replicate n.toNat base).modify (n - 1).toNat (· + remainder)

def base32 (u : UInt16) : Bool := (65 ≤ u && u ≤ 90) || (50 ≤ u && u ≤ 55)

-- ^G[A-Z2-7]{55}$
def isLikelyStellarAddress (s : JsString) : Bool :=
  match trim s with
  | [] => false
  | u :: rest => u == 71 && rest.length == 55 && rest.all base32

def decodeSimError (raw : JsString) : JsString :=
  if includes raw (js "share must be positive") then js "Per-payer share must be greater than 0."
  else if includes raw (js "payers required") then js "At least one payer address is required."
  else if includes raw (js "too many payers") then js "Too many payers (max 20 per bill)."
  else if includes raw (js "memo too long") then js "Memo must be 80 characters or fewer."
  else if includes raw (js "not a payer") then js "This address is not a payer on that bill."
  else if includes raw (js "already settled") then js "This payer has already settled."
  else if includes raw (js "bill not found") then js "Bill not found."
  else if includes (toLowerCase raw) (js "insufficient") then js "Insufficient balance for this transaction."
  else if includes raw (js "Account_does_not_exist") then
    js "Sender account does not exist on testnet (fund it first)."
  else js "Simulation failed: " ++ raw.take 240

theorem xlmToStroopsPositive {xlm : JsString} {stroops : Int} (accepted : xlmToStroops xlm = .ok stroops) :
    0 < stroops := by
  unfold xlmToStroops at accepted
  simp only [bindOk,failIfOk] at accepted
  obtain ⟨_,_,whole,_,frac,_,_,positive,same⟩ := accepted
  cases same
  omega

theorem modifyLast (m : Nat) (a : Int) (f : Int → Int) :
    (List.replicate (m + 1) a).modify m f = List.replicate m a ++ [f a] := by
  induction m with
  | zero => rfl
  | succ m ih => rw [List.replicate_succ,List.modify_succ_cons,ih,List.replicate_succ,List.cons_append]

theorem computeSharesExact {total : Int} {n : Nat} (payers : 0 < n) (positive : 0 < total) : computeShares total n =
    .ok (List.replicate (n - 1) (total / n) ++ [total / n + total % n]) := by
  obtain ⟨m,rfl⟩ := Nat.exists_eq_add_one.mpr payers
  have quotient : total.tdiv (m + 1 : Nat) = total / (m + 1 : Nat) := Int.tdiv_eq_ediv_of_nonneg positive.le
  have remainder : total - total / (m + 1 : Nat) * (m + 1 : Nat) = total % (m + 1 : Nat) := by
    rw [Int.emod_def,Int.mul_comm]
  have index : (((m + 1 : Nat) : Int) - 1).toNat = m := by omega
  simp only [computeShares,bindOk,failIfOk,quotient,remainder,index,Int.toNat_natCast,modifyLast]
  exact ⟨(),by omega,(),positive.not_ge,rfl⟩

end SplitBill.Helpers
