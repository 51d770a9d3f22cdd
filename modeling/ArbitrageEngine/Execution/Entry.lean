/-
# ArbitrageEngine.Execution.Entry -- opening a position

`_execute_production`: both legs are bought at once, what they do not share is sold again, and what
is left is booked.  How the unmatched contracts are sold is a parameter of the second half, because
the first thing its properties ask is what it makes of any result of the unwind.

The result of the call, which the source does not return, is what was unwound of each leg.
-/
import ArbitrageEngine.Execution.EntryLeg

namespace ArbitrageEngine.Execution

open Lib.Effect

/-! ## Signals and environment -/

/-- `ArbitrageSignal`, as far as the purchase goes: the market, the plan and the two prices. -/
structure ArbitrageSignal where
  market : MarketSpec
  polymarketContracts : Dec
  predictFunContracts : Dec
  /-- Capital and fee of each leg. -/
  polymarketCapitalUsd : Dec
  predictFunCapitalUsd : Dec
  polymarketPrice : Dec
  predictFunPrice : Dec

/-- The answers to the awaits after both legs are bought. -/
structure SettleAnswers where
  recordApiError : Except Exc Unit
  saveUnpriced : WriteAnswer Exc
  pauseUnpriced : Except Exc Unit
  sendUnpriced : Except Exc Unit
  sendImbalance : Except Exc Unit
  saveUnwindPending : WriteAnswer Exc
  removeUnmatched : WriteAnswer Exc
  savePosition : WriteAnswer Exc
  sendOpened : Except Exc Unit

/-- The answers to the awaits of `_execute_production`. -/
structure EntryAnswers where
  windowGuard : Except Exc Bool
  ready : Bool
  /-- `claim_prepared_order` of both legs. -/
  claimFirst : Except Exc Unit
  claimSecond : Except Exc Unit
  saveEntryPending : WriteAnswer Exc
  windowGuardAfterSave : Except Exc Bool
  readyAfterSave : Bool
  removeRefused : WriteAnswer Exc
  first : BuyAnswers
  second : BuyAnswers
  settle : SettleAnswers

/-- What was unwound of each leg. -/
structure Unwound where
  first : Dec := 0
  second : Dec := 0
deriving DecidableEq

namespace Router

variable (router : Router) (config : Config)

/-! ## Positions -/

/-- The position of `_save_entry_pending`. -/
def entryPendingPosition (signal : ArbitrageSignal) : OpenPosition where
  market := signal.market
  polymarketContracts := signal.polymarketContracts
  polymarketEntryPrice := 0
  predictFunContracts := signal.predictFunContracts
  predictFunEntryPrice := 0
  polymarketOrderId := "pending"
  predictFunOrderId := "pending"
  status := "entry_pending"

/-- The filled amount of a result. -/
def filledAmount (result : EntryLegResult) : Dec :=
  match result.report with
  | some report => report.amountFilled
  | none => 0

/-- `_open_position_from_amounts`, `_save_unwind_pending` and `_save_unpriced_entry_pending` take
the order ids from the results and the rest from their arguments. -/
def positionFromAmounts (signal : ArbitrageSignal) (first second : EntryLegResult)
    (firstContracts secondContracts firstPrice secondPrice : Dec) : OpenPosition where
  market := signal.market
  polymarketContracts := firstContracts
  polymarketEntryPrice := firstPrice
  predictFunContracts := secondContracts
  predictFunEntryPrice := secondPrice
  polymarketOrderId := first.orderId
  predictFunOrderId := second.orderId

/-- Is a fill without a price reported? -/
def priceMissing (result : EntryLegResult) : Bool :=
  match result.report with
  | some report => Dec.epsilon < report.amountFilled ∧ report.avgPrice ≤ 0
  | none => false

/-- The price of a report, where it has one. -/
def reportedPrice (result : EntryLegResult) : Dec :=
  match result.report with
  | some report => max 0 report.avgPrice
  | none => 0

/-- The entry price of a leg: the price of its fill, and zero without a fill. -/
def entryPrice (result : EntryLegResult) : Dec :=
  match result.report with
  | some report => if Dec.epsilon < report.amountFilled then report.avgPrice else 0
  | none => 0

/-! ## After the purchases -/

/-- What the legs have in common. -/
def matchedAmount (first second : EntryLegResult) : Dec :=
  min (filledAmount first) (filledAmount second)

/-- The amount of a leg that the other does not match. -/
def unmatchedAmount (first second : EntryLegResult) : Leg → Dec
  | .first => max 0 (Dec.sub (filledAmount first) (matchedAmount first second))
  | .second => max 0 (Dec.sub (filledAmount second) (matchedAmount first second))

/-- A fill without a price: the fills are saved, and the engine stops. -/
def saveUnpriced (answers : SettleAnswers) (signal : ArbitrageSignal)
    (first second : EntryLegResult) : Effect Unwound := do
  addPosition router.repository answers.saveUnpriced
    { positionFromAmounts signal first second (filledAmount first) (filledAmount second)
        (reportedPrice first) (reportedPrice second) with status := "entry_pending" }
  await answers.pauseUnpriced
  await answers.sendUnpriced
  pure {}

/-- The end of `_execute_production`: what is still unmatched is saved as such, and what is matched
as an open position. -/
def bookEntry (answers : SettleAnswers) (signal : ArbitrageSignal) (first second : EntryLegResult)
    (pendingFirst pendingSecond : Dec) : Effect Unit :=
  let matched := matchedAmount first second
  if Dec.epsilon < pendingFirst ∨ Dec.epsilon < pendingSecond then
    addPosition router.repository answers.saveUnwindPending
      { positionFromAmounts signal first second (Dec.add matched pendingFirst)
          (Dec.add matched pendingSecond) (entryPrice first) (entryPrice second) with
        status := "unwind_pending"
        polymarketUnwindAttempts := 1
        unmatchedFirstContracts := pendingFirst
        unmatchedSecondContracts := pendingSecond }
  else if matched ≤ Dec.epsilon then
    removePosition router.repository answers.removeUnmatched (positionKey signal.market)
  else do
    addPosition router.repository answers.savePosition
      (positionFromAmounts signal first second matched matched (entryPrice first)
        (entryPrice second))
    await answers.sendOpened

/-- From the unmatched amounts on. -/
def unwindAndBook (unwind : Leg → Dec → Effect Dec) (answers : SettleAnswers)
    (signal : ArbitrageSignal) (first second : EntryLegResult) : Effect Unwound := do
  let unmatchedFirst := unmatchedAmount first second .first
  let unmatchedSecond := unmatchedAmount first second .second
  let (firstUnwound, secondUnwound) ←
    gather (unwind .first unmatchedFirst) (unwind .second unmatchedSecond)
  whenever (Dec.epsilon < unmatchedFirst ∨ Dec.epsilon < unmatchedSecond)
    (await answers.sendImbalance)
  router.bookEntry answers signal first second (max 0 (Dec.sub unmatchedFirst firstUnwound))
    (max 0 (Dec.sub unmatchedSecond secondUnwound))
  pure ⟨firstUnwound, secondUnwound⟩

/-- `_execute_production` after the gather. -/
def settleEntry (unwind : Leg → Dec → Effect Dec) (answers : SettleAnswers)
    (signal : ArbitrageSignal) (first second : EntryLegResult) : Effect Unwound := do
  whenever (first.error ≠ none ∨ second.error ≠ none) (await answers.recordApiError)
  if priceMissing first ∨ priceMissing second then router.saveUnpriced answers signal first second
  else router.unwindAndBook unwind answers signal first second

/-! ## The purchases -/

/-- The arguments of the purchase of a leg. -/
def entryLeg (signal : ArbitrageSignal) (leg : Leg) : EntryLeg where
  leg := leg
  market := signal.market
  venueLabel := router.label leg
  tokenId := router.tokenId signal.market leg
  side := router.side signal.market leg
  contracts := match leg with
    | .first => signal.polymarketContracts
    | .second => signal.predictFunContracts
  maxPrice := match leg with
    | .first => signal.polymarketPrice
    | .second => signal.predictFunPrice
  capitalUsd := match leg with
    | .first => signal.polymarketCapitalUsd
    | .second => signal.predictFunCapitalUsd

/-- Both purchases, with what they raise as results, and the rest of the call. -/
def buyBothLegs (unwind : Leg → Dec → Effect Dec) (answers : EntryAnswers)
    (signal : ArbitrageSignal) : Effect Unwound := do
  let rawFirst ← attempt Exc.any
    (router.submitEntryLeg config answers.first (router.entryLeg signal .first))
  let rawSecond ← attempt Exc.any
    (router.submitEntryLeg config answers.second (router.entryLeg signal .second))
  let first ← normalizeEntryResult rawFirst
  let second ← normalizeEntryResult rawSecond
  router.settleEntry unwind answers.settle signal first second

/-- The entry is marked in the ledger, checked once more, and bought. -/
def enter (unwind : Leg → Dec → Effect Dec) (answers : EntryAnswers) (signal : ArbitrageSignal) :
    Effect Unwound := do
  addPosition router.repository answers.saveEntryPending (entryPendingPosition signal)
  let isOpen ← await answers.windowGuardAfterSave
  if isOpen = false ∨ answers.readyAfterSave = false then do
    removePosition router.repository answers.removeRefused (positionKey signal.market)
    pure {}
  else router.buyBothLegs config unwind answers signal

/-- `_execute_production`, with the unwind of a leg as a parameter. -/
def executeWith (unwind : Leg → Dec → Effect Dec) (answers : EntryAnswers)
    (signal : ArbitrageSignal) : Effect Unwound := do
  let isOpen ← await answers.windowGuard
  if isOpen = false ∨ answers.ready = false then pure {}
  else do
    await answers.claimFirst
    await answers.claimSecond
    router.enter config unwind answers signal

/-- The unwind of `_execute_production`. -/
def unwindEntry (legAnswers : Leg → LegAnswers) (signal : ArbitrageSignal) (leg : Leg)
    (unmatched : Dec) : Effect Dec :=
  router.unwindUnmatched config (legAnswers leg) signal.market leg
    (match leg with
      | .first => signal.polymarketPrice
      | .second => signal.predictFunPrice) unmatched

/-- `_execute_production`. -/
def executeProduction (legAnswers : Leg → LegAnswers) (answers : EntryAnswers)
    (signal : ArbitrageSignal) : Effect Unwound :=
  router.executeWith config (router.unwindEntry config legAnswers signal) answers signal

end Router

end ArbitrageEngine.Execution
