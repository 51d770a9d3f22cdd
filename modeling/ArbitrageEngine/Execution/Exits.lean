/-
# ArbitrageEngine.Execution.Exits -- closing and unwinding positions

The exit methods of `ExecutionRouter`: the unwind of an unmatched leg and its retries, the close of
both legs and its retries.  The legs of one call run concurrently; they share nothing but the
tables, in which each writes its own intent, so they are run one after the other here, and what
either raises is raised when both are through.

Prices and fees are floats in the source.  What the code does with them before they are decimals,
`Decimal(str(float(x)))` and `max(0.01, bid - 0.01)`, is left open as two functions.
-/
import ArbitrageEngine.Execution.ExitLeg
import ArbitrageEngine.Execution.Residual

namespace ArbitrageEngine.Execution

open Lib.Effect

/-! ## Configuration and environment -/

/-- The configuration the exits read. -/
structure Config where
  autoCloseEnabled : Bool
  exitSpreadPct : Dec
  submitsOrders : Bool
  polymarketTradingFeePct : Dec
  predictFunFeeRateBps : ℤ
  sxBetTakerFeeBps : ℤ
  myriadTradingFeePct : Dec
  /-- `Decimal(str(float(x)))`. -/
  floatText : Dec → Dec
  /-- `max(0.01, bid - 0.01)`, as a decimal. -/
  unwindPrice : Dec → Dec

/-- The answers to `_record_unwind_pnl`, and to the loss recorded after a close. -/
structure PnlAnswers where
  recordResult : Except Exc Bool
  sendHtml : Except Exc Unit

/-- The answers to the awaits of one leg of an exit: its book (the prices of its bids), its sale and
the booking of its result. -/
structure LegAnswers where
  book : Except Exc (List Dec)
  sell : SellAnswers
  pnl : PnlAnswers

/-- The answers to the awaits of one position. -/
structure PositionAnswers where
  first : LegAnswers
  second : LegAnswers
  savePosition : WriteAnswer Exc
  removePosition : WriteAnswer Exc
  sendHtml : Except Exc Unit
  /-- The loss recorded after a close, and the message after it. -/
  closePnl : PnlAnswers
  sendExit : Except Exc Unit

/-- The answers of a leg. -/
def PositionAnswers.leg (answers : PositionAnswers) : Leg → LegAnswers
  | .first => answers.first
  | .second => answers.second

/-- `gather`: both run to their end, then the first exception is raised. -/
def gather {α β : Type} (first : Effect α) (second : Effect β) : Effect (α × β) := do
  let a ← attempt Exc.any first
  let b ← attempt Exc.any second
  match a, b with
  | .ok a, .ok b => pure (a, b)
  | .error exc, _ => throw exc
  | _, .error exc => throw exc

/-- `_venue_fee_pct`: "Opinion" has no fee here. -/
def venueFeePct (config : Config) (venueLabel : String) (market : MarketSpec) : Except Exc Dec :=
  if venueLabel = "Polymarket" then .ok config.polymarketTradingFeePct
  else if venueLabel = "Predict.fun" then
    .ok (Dec.div (market.predictFunFeeRateBps.getD config.predictFunFeeRateBps : ℤ) 10000)
  else if venueLabel = "SX Bet" then
    let bps :=
      if market.venueALabel ≠ "Predict.fun" then
        market.predictFunFeeRateBps.getD config.sxBetTakerFeeBps
      else config.sxBetTakerFeeBps
    .ok (Dec.div (bps : ℤ) 10000)
  else if venueLabel = "Myriad" then .ok config.myriadTradingFeePct
  else .error (.failed none)

namespace Router

variable (router : Router) (config : Config)

/-- The arguments of the sale of a leg. -/
def exitLeg (market : MarketSpec) (leg : Leg) (alreadyClosed : Bool)
    (contracts minPrice : Dec) : ExitLeg where
  leg := leg
  market := market
  venueLabel := router.label leg
  alreadyClosed := alreadyClosed
  tokenId := router.tokenId market leg
  side := router.side market leg
  contracts := contracts
  minPrice := minPrice

/-! ## Unwinding -/

/-- A loss is recorded; if it reaches the limit, that is announced. -/
def recordLoss (answers : PnlAnswers) (result : Dec) : Effect Unit := do
  modify fun w => { w with realized := result :: w.realized }
  let hardStop ← await answers.recordResult
  whenever (hardStop = true) (await answers.sendHtml)

/-- `_record_unwind_pnl`. -/
def recordUnwindPnl (answers : PnlAnswers) (venueLabel : String) (market : MarketSpec)
    (entryPrice exitPrice contracts : Dec) : Effect Unit :=
  if contracts ≤ 0 then pure ()
  else do
    let fee ← await (venueFeePct config venueLabel market)
    let profit := Dec.mul contracts
      (Dec.sub (Dec.mul exitPrice (Dec.sub 1 fee)) (Dec.mul entryPrice (Dec.add 1 fee)))
    whenever (profit < 0) (recordLoss answers profit)

/-- The body of the `try` of `_try_unwind_first_leg` and `_try_unwind_second_leg`. -/
def unwindLeg (answers : LegAnswers) (market : MarketSpec) (leg : Leg)
    (entryPrice requested : Dec) : Effect Dec := do
  let bids ← await answers.book
  match bids.head? with
  | none => pure 0
  | some bid => do
      let target := config.unwindPrice bid
      let result ← router.submitExitLeg answers.sell
        (router.exitLeg market leg false requested target)
      match result.report with
      | none => pure 0
      | some report => do
          let unwound := min requested report.amountFilled
          let price := if report.avgPrice = 0 then target else report.avgPrice
          recordUnwindPnl config answers.pnl (router.label leg) market entryPrice price unwound
          pure unwound

/-- `_try_unwind_first_leg` and `_try_unwind_second_leg`: an exception counts as nothing sold. -/
def tryUnwindLeg (answers : LegAnswers) (market : MarketSpec) (leg : Leg)
    (entryPrice requested : Dec) : Effect Dec := do
  match ← attempt Exc.caught (router.unwindLeg config answers market leg entryPrice requested) with
  | .ok unwound => pure unwound
  | .error _ => pure 0

/-- One leg of the gather: nothing is unwound where nothing is unmatched. -/
def unwindUnmatched (answers : LegAnswers) (market : MarketSpec) (leg : Leg)
    (entryPrice pending : Dec) : Effect Dec :=
  if Dec.epsilon < pending then
    router.tryUnwindLeg config answers market leg entryPrice pending
  else pure 0

/-- The position after an attempt that sold this much of each leg. -/
def afterUnwind (position : OpenPosition) (firstFilled secondFilled : Dec) : OpenPosition :=
  { position with
    polymarketContracts := max 0 (Dec.sub position.polymarketContracts firstFilled)
    predictFunContracts := max 0 (Dec.sub position.predictFunContracts secondFilled)
    polymarketUnwindAttempts := position.polymarketUnwindAttempts + 1
    unmatchedFirstContracts := max 0 (Dec.sub position.unmatchedFirstContracts firstFilled)
    unmatchedSecondContracts := max 0 (Dec.sub position.unmatchedSecondContracts secondFilled) }

/-- The position that is left when nothing is unmatched any more. -/
def matchedPosition (position : OpenPosition) : OpenPosition :=
  let matched := min position.polymarketContracts position.predictFunContracts
  { position with
    polymarketContracts := matched
    predictFunContracts := matched
    status := "open"
    unmatchedFirstContracts := 0
    unmatchedSecondContracts := 0 }

/-- The position is opened again or removed when nothing is unmatched any more. -/
def finishUnwind (answers : PositionAnswers) (after : OpenPosition) : Effect Unit :=
  if Dec.epsilon < min after.polymarketContracts after.predictFunContracts then
    addPosition router.repository answers.savePosition (matchedPosition after)
  else removePosition router.repository answers.removePosition (positionKey after.market)

/-- What `retry_pending_unwind` does with the amounts it sold. -/
def settleUnwind (answers : PositionAnswers) (position : OpenPosition)
    (firstFilled secondFilled : Dec) : Effect Unit :=
  let after := afterUnwind position firstFilled secondFilled
  if after.unmatchedFirstContracts ≤ Dec.epsilon ∧
      after.unmatchedSecondContracts ≤ Dec.epsilon then do
    router.finishUnwind answers after
    await answers.sendHtml
  else addPosition router.repository answers.savePosition after

/-- `retry_pending_unwind`: the entry price of the second leg is not known here. -/
def retryPendingUnwind (answers : PositionAnswers) (position : OpenPosition) : Effect Unit :=
  if position.status ≠ "unwind_pending" then pure ()
  else do
    let (firstFilled, secondFilled) ← gather
      (router.unwindUnmatched config answers.first position.market .first
        (config.floatText position.polymarketEntryPrice) position.unmatchedFirstContracts)
      (router.unwindUnmatched config answers.second position.market .second 0
        position.unmatchedSecondContracts)
    router.settleUnwind answers position firstFilled secondFilled

/-! ## Closing -/

/-- Is the leg booked as closed? -/
def legClosed (position : OpenPosition) : Leg → Bool
  | .first => position.polymarketClosed
  | .second => position.predictFunClosed

/-- The contracts of a leg, and those of it that are closed. -/
def legContracts (position : OpenPosition) : Leg → Dec × Dec
  | .first => (position.polymarketContracts, position.polymarketClosedContracts)
  | .second => (position.predictFunContracts, position.predictFunClosedContracts)

/-- The sale of the open rest of a leg. -/
def closeLeg (answers : PositionAnswers) (position : OpenPosition) (leg : Leg) (minPrice : Dec) :
    Effect ExitLegResult :=
  let contracts := legContracts position leg
  router.submitExitLeg (answers.leg leg).sell
    (router.exitLeg position.market leg (legClosed position leg)
      (max 0 (Dec.sub contracts.1 contracts.2)) minPrice)

/-- The filled amount of a result that is booked as a plain fill. -/
def newFill (result : ExitLegResult) : Dec :=
  match result.error, result.report with
  | some (.residual _ _), _ => 0
  | _, some report => report.amountFilled
  | _, none => 0

/-- The price the fill of a result is booked at. -/
def fillPrice (result : ExitLegResult) (exitPrice : Dec) : Dec :=
  match result.report with
  | some report => if 0 < report.avgPrice then report.avgPrice else exitPrice
  | none => exitPrice

/-- Does this result stop the automatic exits of the position? -/
def needsReview (result : ExitLegResult) : Bool :=
  match result.error with
  | none => false
  | some (.residual _ _) => true
  | some _ =>
      result.orderId ≠ failedBeforeOrder &&
        match result.report with
        | none => true
        | some report => report.status = .stillOpen ∨ report.status = .partlyFilled

/-- What a leg adds to its proceeds; the fee of its venue may be missing. -/
def legProceeds (market : MarketSpec) (leg : Leg) (before fill price : Dec) : Except Exc Dec :=
  (venueFeePct config (router.label leg) market).map fun fee =>
    Dec.add before (Dec.mul (Dec.mul fill price) (Dec.sub 1 fee))

/-- `updated` of `_close_position_legs`, before the residual exposures are booked. -/
def afterClose (position : OpenPosition) (first second : ExitLegResult)
    (firstPrice secondPrice : Dec) : Except Exc OpenPosition := do
  let firstClosed := min position.polymarketContracts
    (Dec.add position.polymarketClosedContracts (newFill first))
  let secondClosed := min position.predictFunContracts
    (Dec.add position.predictFunClosedContracts (newFill second))
  let firstProceeds ← router.legProceeds config position.market .first
    position.polymarketExitProceedsUsd (newFill first) (fillPrice first firstPrice)
  let secondProceeds ← router.legProceeds config position.market .second
    position.predictFunExitProceedsUsd (newFill second) (fillPrice second secondPrice)
  let firstFilled : Bool := position.polymarketClosed ∨
    Dec.sub position.polymarketContracts Dec.epsilon ≤ firstClosed
  let secondFilled : Bool := position.predictFunClosed ∨
    Dec.sub position.predictFunContracts Dec.epsilon ≤ secondClosed
  pure
    { position with
      status :=
        if needsReview first ∨ needsReview second then "manual_review"
        else if firstFilled ∧ secondFilled then "closed"
        else "partial_exit_pending"
      polymarketClosed := firstFilled
      predictFunClosed := secondFilled
      polymarketExitPrice := exitPrice firstProceeds firstClosed
      predictFunExitPrice := exitPrice secondProceeds secondClosed
      polymarketClosedContracts := firstClosed
      predictFunClosedContracts := secondClosed
      polymarketExitProceedsUsd := firstProceeds
      predictFunExitProceedsUsd := secondProceeds }

/-- The residual exposure of a result is booked into its leg. -/
def bookResidual (leg : Leg) (result : ExitLegResult) (position : OpenPosition) :
    Except Exc OpenPosition :=
  match result.error with
  | some (.residual report residualContracts) => do
      let snapshot ← residualSnapshot report residualContracts
      applyResidualExitSnapshot position (router.label leg) snapshot
  | _ => .ok position

/-- `updated` of `_close_position_legs`. -/
def bookClose (position : OpenPosition) (first second : ExitLegResult)
    (firstPrice secondPrice : Dec) : Except Exc OpenPosition := do
  let booked ← router.afterClose config position first second firstPrice secondPrice
  let booked ← router.bookResidual .first first booked
  router.bookResidual .second second booked

/-- What follows the removal of a closed position: its result is recorded and announced. -/
def announceClose (answers : PositionAnswers) (position updated : OpenPosition) : Effect Unit := do
  let firstFee ← await (venueFeePct config (router.label .first) position.market)
  let secondFee ← await (venueFeePct config (router.label .second) position.market)
  let entryCost := Dec.add
    (Dec.mul position.polymarketContracts
      (Dec.mul position.polymarketEntryPrice (Dec.add 1 firstFee)))
    (Dec.mul position.predictFunContracts
      (Dec.mul position.predictFunEntryPrice (Dec.add 1 secondFee)))
  if entryCost ≤ 0 then throw (.failed none)
  else do
    let profit := Dec.sub
      (Dec.add updated.polymarketExitProceedsUsd updated.predictFunExitProceedsUsd) entryCost
    whenever (profit < 0) (recordLoss answers.closePnl profit)
    await answers.sendExit

/-- The end of `_close_position_legs`, once both results are booked. -/
def settleClose (answers : PositionAnswers) (position : OpenPosition)
    (first second : ExitLegResult) (updated : OpenPosition) : Effect Unit :=
  -- The tests before the residual exposures were booked, as the source keeps them in locals.
  let firstFilled : Bool := position.polymarketClosed ∨
    Dec.sub position.polymarketContracts Dec.epsilon ≤
      min position.polymarketContracts
        (Dec.add position.polymarketClosedContracts (newFill first))
  let secondFilled : Bool := position.predictFunClosed ∨
    Dec.sub position.predictFunContracts Dec.epsilon ≤
      min position.predictFunContracts
        (Dec.add position.predictFunClosedContracts (newFill second))
  if needsReview first ∨ needsReview second ∨ ¬ firstFilled ∨ ¬ secondFilled then do
    addPosition router.repository answers.savePosition updated
    await answers.sendHtml
  else do
    removePosition router.repository answers.removePosition (positionKey position.market)
    router.announceClose config answers position updated

/-- `_close_position_legs`. -/
def closePositionLegs (answers : PositionAnswers) (position : OpenPosition)
    (firstPrice secondPrice : Dec) : Effect Unit := do
  let rawFirst ← attempt Exc.any (router.closeLeg answers position .first firstPrice)
  let rawSecond ← attempt Exc.any (router.closeLeg answers position .second secondPrice)
  let first ← normalizeExitResult rawFirst
  let second ← normalizeExitResult rawSecond
  let updated ← await (router.bookClose config position first second firstPrice secondPrice)
  router.settleClose config answers position first second updated

/-- `order_book.best_bid.price`. -/
def bestBid (book : Except Exc (List Dec)) : Effect Dec := do
  let bids ← await book
  match bids.head? with
  | some bid => pure bid
  | none => throw (.failed none)

/-- The price a leg is closed at: a closed leg has one, an open one takes its best bid. -/
def closingPrice (closed : Bool) (exitPrice : Option Dec) (book : Except Exc (List Dec)) :
    Effect (Option Dec) :=
  if closed then pure exitPrice
  else do
    let bid ← bestBid book
    pure (some bid)

/-- `retry_partial_exit`. -/
def retryPartialExit (answers : PositionAnswers) (position : OpenPosition) : Effect Unit :=
  if position.status ≠ "partial_exit_pending" then pure ()
  else do
    let firstPrice ← closingPrice position.polymarketClosed position.polymarketExitPrice
      answers.first.book
    let secondPrice ← closingPrice position.predictFunClosed position.predictFunExitPrice
      answers.second.book
    -- A missing price and a price of zero are both false.
    let price (value : Option Dec) : Dec := (value.filter (· ≠ 0)).getD (1 / 100)
    router.closePositionLegs config answers position (price firstPrice) (price secondPrice)

/-- The test of `_check_open_position`: do these best bids close the position? -/
def closesAt (position : OpenPosition) (firstExit secondExit : Dec) : Except Exc Bool := do
  let firstFee ← venueFeePct config (router.label .first) position.market
  let secondFee ← venueFeePct config (router.label .second) position.market
  let exitValue := Dec.add (Dec.mul firstExit (Dec.sub 1 firstFee))
    (Dec.mul secondExit (Dec.sub 1 secondFee))
  let entryCost := Dec.add (Dec.mul position.polymarketEntryPrice (Dec.add 1 firstFee))
    (Dec.mul position.predictFunEntryPrice (Dec.add 1 secondFee))
  if config.exitSpreadPct ≤ Dec.sub 1 exitValue then pure false
  else if entryCost ≤ 0 ∨ position.polymarketContracts ≤ 0 then .error (.failed none)
  else pure true

/-- `_check_open_position` with `handle_exit_signal`. -/
def checkOpenPosition (answers : PositionAnswers) (position : OpenPosition) : Effect Unit := do
  let (firstBids, secondBids) ← gather (await answers.first.book) (await answers.second.book)
  let firstExit ← bestBid (.ok firstBids)
  let secondExit ← bestBid (.ok secondBids)
  let closes ← await (router.closesAt config position firstExit secondExit)
  if closes = false then pure ()
  else if config.submitsOrders then
    router.closePositionLegs config answers position firstExit secondExit
  else await answers.sendExit

end Router

end ArbitrageEngine.Execution
