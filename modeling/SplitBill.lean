import SplitBill.MachineInt
import SplitBill.Transition
import SplitBill.Simulation
import SplitBill.Flow
import SplitBill.Journal
import SplitBill.Host
import SplitBill.BillSplit
import SplitBill.Register
import SplitBill.BillRegister
import SplitBill.Settlement
import SplitBill.Ledger
import SplitBill.Clearing
import SplitBill.StableToken
import SplitBill.TokenLedger
import SplitBill.Allowance
import SplitBill.Refusal
import SplitBill.SpendingView
import SplitBill.EventLog
import SplitBill.Joint
import SplitBill.Growth
import SplitBill.Authority
import SplitBill.Payable
import SplitBill.SettlementOrder
import SplitBill.SettleFrame
import SplitBill.Collection
import SplitBill.CreateFrame
import SplitBill.BillLog
import SplitBill.Obligations
import SplitBill.Position
import SplitBill.Payoff
import SplitBill.JsString
import SplitBill.Decimal
import SplitBill.Helpers
import SplitBill.SimErrors
import SplitBill.Pipeline
import SplitBill.MemoText
import SplitBill.SplitFlow
import SplitBill.Phases
import SplitBill.Amounts
import SplitBill.RoundTrip
import SplitBill.Validation
import SplitBill.ReadCache
import SplitBill.Client
import SplitBill.ReadBack
import SplitBill.SettledFeed
import SplitBill.FeedPoll
import SplitBill.ReadRace
import SplitBill.StaleReads
import SplitBill.BillList
import SplitBill.Inclusion
import SplitBill.Outcome
import SplitBill.PageLoads
import SplitBill.Shown
import SplitBill.Session
import SplitBill.SplitSession
import SplitBill.SettleSession
