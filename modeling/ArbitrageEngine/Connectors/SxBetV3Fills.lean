/-
# ArbitrageEngine.Connectors.SxBetV3Fills -- what the fills of a V3 order amount to

A V3 sell buys the opposite outcome; the exchange nets it against the position and refunds the
collateral of what it closed.  The connector reads the same fills twice: for the report of one order
(`_report_from_v3_fills`), and for the list of all fills of the account (`list_fills`).  Where the
fills of a sell leave opposite contracts that closed nothing, both raise a residual exposure.
-/
import ArbitrageEngine.Connectors.SxBetV3
import ArbitrageEngine.Execution.Orders

namespace ArbitrageEngine.SxBetV3

open Execution (ExecutionReport ExecutionStatus)

/-! ## Fills -/

/-- A fill as the venue sends it.  A missing amount is none; `null` and an empty text count as
zero. -/
structure RawFill where
  id : String
  orderId : String
  status : String
  fillOdds : Dec
  fillAmount : Dec
  ceRefundAmount : Option Dec
  ceRefundFeeAmount : Option Dec
  isBettingOutcomeOne : Option Bool
deriving DecidableEq

/-- `_V3_BET_STATES`. -/
inductive BetState
  | matched
  | locked
  | settled
  | failed
deriving DecidableEq, Repr

/-- `_V3_IRREVERSIBLE_BET_STATES`. -/
def BetState.irreversible : BetState → Bool
  | locked | settled => true
  | matched | failed => false

/-- What the connector raises over fills. -/
inductive FillFault
  | runtime (message : String)
  /-- `OrderResidualExposure`. -/
  | residual (report : ExecutionReport) (residualContracts : Dec) (residualSide : BinarySide)

/-- `_V3_STAKE_INDEX_TOLERANCE`. -/
def stakeIndexTolerance : Dec := 1 / 10 ^ 6

/-- `_v3_fill_status`. -/
def v3FillStatus (fill : RawFill) : Except FillFault BetState :=
  let status := fill.status.toUpper
  if status = "MATCHED" then .ok .matched
  else if status = "LOCKED" then .ok .locked
  else if status = "SETTLED" then .ok .settled
  else if status = "FAILED" then .ok .failed
  else .error (.runtime
    ("SX Bet V3 fill has unsupported status " ++ if status = "" then "MISSING" else status))

/-- `_from_base_units`. -/
def fromBaseUnits (value : Dec) (decimals : ℕ) : Dec := Dec.div value (10 ^ decimals)

/-- `_odds_units_to_probability`. -/
def oddsUnitsToProbability (value : Dec) : Dec := Dec.div value (10 ^ 20)

/-- The odds of a fill. -/
def RawFill.odds (fill : RawFill) : Dec := oddsUnitsToProbability fill.fillOdds

/-- The stake of a fill. -/
def RawFill.stake (decimals : ℕ) (fill : RawFill) : Dec := fromBaseUnits fill.fillAmount decimals

/-- `_ce_refund_fee`. -/
def ceRefundFee (fill : RawFill) (decimals : ℕ) : Except FillFault Dec :=
  let raw := fill.ceRefundFeeAmount.getD 0
  if raw < 0 then .error (.runtime "SX Bet V3 fill has invalid ceRefundFeeAmount")
  else .ok (fromBaseUnits raw decimals)

/-- `_has_positive_ce_refund`. -/
def hasPositiveCeRefund (fill : RawFill) (decimals : ℕ) : Except FillFault Bool :=
  let raw := fill.ceRefundAmount.getD 0
  if raw < 0 then .error (.runtime "SX Bet V3 fill has invalid ceRefundAmount")
  else do
    let fee ← ceRefundFee fill decimals
    pure (0 < Dec.add (fromBaseUnits raw decimals) fee)

/-- `_sell_refund_accounting_is_indexed`. -/
def sellRefundAccountingIsIndexed (fill : RawFill) : Bool :=
  match fill.ceRefundAmount, fill.ceRefundFeeAmount with
  | some refund, some fee => 0 ≤ refund ∧ 0 ≤ fee
  | _, _ => false

/-- What a fill of a sell closed, brought in, cost and left exposed. -/
structure SaleAccounting where
  closedContracts : Dec
  netProceeds : Dec
  refundFee : Dec
  residualOpposite : Dec
deriving DecidableEq

/-- `_sell_fill_accounting`. -/
def sellFillAccounting (fill : RawFill) (stake odds : Dec) (decimals : ℕ) :
    Except FillFault SaleAccounting :=
  if sellRefundAccountingIsIndexed fill = false then
    .error (.runtime ("SX Bet V3 sell fill " ++ (if fill.id = "" then "UNKNOWN" else fill.id) ++
      " is missing exact CE refund accounting"))
  else do
    let netRefund := fromBaseUnits (fill.ceRefundAmount.getD 0) decimals
    let refundFee ← ceRefundFee fill decimals
    let closedContracts := Dec.add netRefund refundFee
    let oppositeContracts := Dec.div stake odds
    if Dec.add oppositeContracts stakeIndexTolerance < closedContracts then
      .error (.runtime "SX Bet V3 CE refund exceeds the opposite contracts created by the fill")
    else
      let residualOpposite := max 0 (Dec.sub oppositeContracts closedContracts)
      let netProceeds := Dec.sub netRefund (Dec.mul closedContracts odds)
      if stakeIndexTolerance < closedContracts ∧ netProceeds ≤ 0 then
        .error (.runtime "SX Bet V3 sell fill produced no positive net unwind proceeds")
      else .ok ⟨closedContracts, netProceeds, refundFee, residualOpposite⟩

theorem fromBaseUnits_nonneg {value : Dec} (h : 0 ≤ value) (decimals : ℕ) :
    0 ≤ fromBaseUnits value decimals :=
  Dec.ctx_nonneg (div_nonneg h (by positivity))

/-- What the accounting of a sale needs, and what it makes of the refund and its fee. -/
theorem sellFillAccounting_spec {fill : RawFill} {stake odds : Dec} {decimals : ℕ}
    {sale : SaleAccounting} (h : sellFillAccounting fill stake odds decimals = .ok sale) :
    ∃ refund fee, fill.ceRefundAmount = some refund ∧ fill.ceRefundFeeAmount = some fee ∧
      0 ≤ refund ∧ 0 ≤ fee ∧
      sale.closedContracts = Dec.add (fromBaseUnits refund decimals) (fromBaseUnits fee decimals) ∧
      sale.closedContracts ≤ Dec.add (Dec.div stake odds) stakeIndexTolerance ∧
      sale.residualOpposite = max 0 (Dec.sub (Dec.div stake odds) sale.closedContracts) ∧
      sale.netProceeds =
        Dec.sub (fromBaseUnits refund decimals) (Dec.mul sale.closedContracts odds) := by
  unfold sellFillAccounting at h
  split at h
  · cases h
  · next hindexed =>
    rw [Bool.not_eq_false] at hindexed
    unfold sellRefundAccountingIsIndexed at hindexed
    split at hindexed
    · next refund fee hrefund hfee =>
      rw [decide_eq_true_eq] at hindexed
      simp only [ceRefundFee, hrefund, hfee, Option.getD_some, if_neg (not_lt.mpr hindexed.2),
        bind, Except.bind] at h
      split at h
      · cases h
      · next hcovered =>
        split at h
        · cases h
        · cases h
          exact ⟨refund, fee, hrefund, hfee, hindexed.1, hindexed.2, rfl, not_lt.mp hcovered, rfl,
            rfl⟩
    · cases hindexed

/-! ## The report of one order -/

/-- The terms of a sell, which buys the other side.  Contracts and price are floats. -/
def sellTerms (float : FloatText) (tokenId : String) (side : BinarySide)
    (contracts minPrice : Dec) : OrderTerms where
  tokenId := tokenId
  syntheticSide := side
  actualSide := if side = .yes then .no else .yes
  contracts := float.text contracts
  price := float.text minPrice
  action := "SELL"

/-- `ExecutionReport.from_amounts`, with a status that is given as one. -/
def fromAmounts (orderId : String) (amountRequested amountFilled : Dec) (status : ExecutionStatus)
    (avgPrice : Dec) : ExecutionReport :=
  let requested := max 0 amountRequested
  let filled := min (max 0 amountFilled) requested
  { orderId := orderId
    status := status
    amountRequested := requested
    amountFilled := filled
    remainingAmount := max 0 (Dec.sub requested filled)
    avgPrice := max 0 avgPrice }

/-- The sums over the fills of an order. -/
structure FillTotals where
  confirmedContracts : Dec := 0
  confirmedOrderStake : Dec := 0
  confirmedBuyStake : Dec := 0
  confirmedSellProceeds : Dec := 0
  confirmedResidualOpposite : Dec := 0
  matchedContracts : Dec := 0
  failedContracts : Dec := 0
  states : List BetState := []

/-- One round of the loop over the fills. -/
def addFill (submitted : SubmittedOrder) (decimals : ℕ) (totals : FillTotals) (fill : RawFill) :
    Except FillFault FillTotals := do
  let status ← v3FillStatus fill
  let totals := { totals with states := status :: totals.states }
  let odds := fill.odds
  let stake := fill.stake decimals
  if odds ≤ 0 ∨ stake ≤ 0 then pure totals
  else
    let contracts := Dec.div stake odds
    if status.irreversible then
      let totals := { totals with confirmedOrderStake := Dec.add totals.confirmedOrderStake stake }
      if submitted.terms.action = "SELL" then do
        let sale ← sellFillAccounting fill stake odds decimals
        pure { totals with
            confirmedContracts := Dec.add totals.confirmedContracts sale.closedContracts
            confirmedSellProceeds := Dec.add totals.confirmedSellProceeds sale.netProceeds
            confirmedResidualOpposite :=
              Dec.add totals.confirmedResidualOpposite sale.residualOpposite }
      else do
        let refunded ← hasPositiveCeRefund fill decimals
        if refunded then
          .error (.runtime "SX Bet V3 BUY fill unexpectedly created CE unwind accounting")
        else
          pure { totals with
            confirmedContracts := Dec.add totals.confirmedContracts contracts
            confirmedBuyStake := Dec.add totals.confirmedBuyStake stake }
    else if status = .matched then
      pure { totals with matchedContracts := Dec.add totals.matchedContracts contracts }
    else pure { totals with failedContracts := Dec.add totals.failedContracts contracts }

/-- `_V3_INACTIVE_REASONS`. -/
def inactiveReasons : List String :=
  ["FILLED", "USER_REQUESTED", "EXPIRED", "NO_LIQUIDITY", "INSUFFICIENT_BALANCE",
    "EVENT_LIFECYCLE", "MARKET_HALTED", "HEARTBEAT_TIMEOUT", "SYSTEM"]

/-- `avg_price` of `_report_from_v3_fills`. -/
def averagePrice (action : String) (totals : FillTotals) : Dec :=
  if action = "BUY" ∧ 0 < totals.confirmedContracts then
    Dec.div totals.confirmedBuyStake totals.confirmedContracts
  else if 0 < totals.confirmedContracts then
    Dec.div totals.confirmedSellProceeds totals.confirmedContracts
  else 0

/-- A report that leaves the order open. -/
def openReport (orderId : String) (requested filled remaining avgPrice : Dec) : ExecutionReport where
  orderId := orderId
  status := .stillOpen
  amountRequested := requested
  amountFilled := filled
  remainingAmount := remaining
  avgPrice := avgPrice

/-- The end of `_report_from_v3_fills`, where no residual exposure is raised. -/
def reportFromTotals (submitted : SubmittedOrder) (fills : List RawFill) (inactiveReason : String)
    (totals : FillTotals) : Except FillFault ExecutionReport :=
  let requested := submitted.terms.contracts
  let confirmed := totals.confirmedContracts
  let avgPrice := averagePrice submitted.terms.action totals
  let failed : Bool := .failed ∈ totals.states
  if .matched ∈ totals.states then
    let requested := max requested (Dec.add confirmed totals.matchedContracts)
    .ok (openReport submitted.orderId requested confirmed (max 0 (Dec.sub requested confirmed))
      avgPrice)
  else if inactiveReason = "FILLED" ∧ confirmed ≤ 0 ∧
      (fills = [] ∨ totals.states.any BetState.irreversible) then
    .error (.runtime ("SX Bet V3 order " ++ submitted.orderId ++
      " is FILLED but has no valid locked fills"))
  else if inactiveReason = "FILLED" ∧ 0 < confirmed ∧ ¬ failed ∧
      Dec.add totals.confirmedOrderStake stakeIndexTolerance < submitted.submittedStake then
    let requested := max requested confirmed
    .ok (openReport submitted.orderId requested confirmed
      (max stakeIndexTolerance (Dec.sub requested confirmed)) avgPrice)
  else if inactiveReason = "FILLED" ∧ 0 < confirmed ∧ ¬ failed then
    .ok (fromAmounts submitted.orderId confirmed confirmed .filled avgPrice)
  else if 0 < confirmed then
    .ok (fromAmounts submitted.orderId (max requested (Dec.add confirmed totals.failedContracts))
      confirmed .partlyFilled avgPrice)
  else if inactiveReason = "EXPIRED" then
    .ok (fromAmounts submitted.orderId requested confirmed .expired avgPrice)
  else .ok (fromAmounts submitted.orderId requested confirmed .cancelled avgPrice)

/-- `_report_from_v3_fills`. -/
def reportFromV3Fills (submitted : SubmittedOrder) (decimals : ℕ) (fills : List RawFill)
    (inactiveReason : String) : Except FillFault ExecutionReport :=
  if inactiveReason ∉ inactiveReasons then
    .error (.runtime ("SX Bet V3 order " ++ submitted.orderId ++ " has unsupported inactiveReason " ++
      if inactiveReason = "" then "MISSING" else inactiveReason))
  else do
    let totals ← fills.foldlM (addFill submitted decimals) {}
    if submitted.terms.action = "SELL" ∧
        stakeIndexTolerance < totals.confirmedResidualOpposite then
      .error (.residual
        (fromAmounts submitted.orderId (max submitted.terms.contracts totals.confirmedContracts)
          totals.confirmedContracts .partlyFilled (averagePrice submitted.terms.action totals))
        totals.confirmedResidualOpposite submitted.terms.actualSide)
    else reportFromTotals submitted fills inactiveReason totals

/-! ## The list of all fills -/

/-- `FillRecord`, without its times. -/
structure FillRecord where
  fillId : String
  clientOrderId : String
  venueOrderId : String
  venue : String
  quantity : Dec
  price : Dec
  fee : Dec
deriving DecidableEq

/-- The row of `residual_accounting` of an order. -/
structure ResidualAccounting where
  requested : Dec
  closed : Dec
  proceeds : Dec
  residual : Dec
  side : BinarySide
deriving DecidableEq

/-- What the loop of `list_fills` has collected. -/
structure FillListing where
  fills : List FillRecord := []
  residualAccounting : Lib.Dict String ResidualAccounting := .empty

/-- `_remote_order_side`. -/
def remoteOrderSide (fill : RawFill) : Except FillFault BinarySide :=
  match fill.isBettingOutcomeOne with
  | none => .error (.runtime "SX Bet V3 remote order is missing isBettingOutcomeOne")
  | some value => .ok (if value then .yes else .no)

/-- What a fill of a sell adds to the accounting of its order. -/
def addAccounting (previous : Option ResidualAccounting) (requested : Dec) (side : BinarySide)
    (sale : SaleAccounting) : ResidualAccounting where
  requested := max ((previous.map (·.requested)).getD 0) requested
  closed := Dec.add ((previous.map (·.closed)).getD 0) sale.closedContracts
  proceeds := Dec.add ((previous.map (·.proceeds)).getD 0) sale.netProceeds
  residual := Dec.add ((previous.map (·.residual)).getD 0) sale.residualOpposite
  side := side

/-- One round of the loop of `list_fills`; `contexts` are the orders the connector knows. -/
def listFill (contexts : String → Option SubmittedOrder) (decimals : ℕ) (listing : FillListing)
    (row : RawFill) : Except FillFault FillListing := do
  let status ← v3FillStatus row
  let odds := row.odds
  if status.irreversible = false ∨ odds ≤ 0 then pure listing
  else
    let stake := row.stake decimals
    let orderId := row.orderId.toLower
    let submitted := contexts orderId
    let refundFee ← ceRefundFee row decimals
    let hasCeRefund ← hasPositiveCeRefund row decimals
    let record (quantity price fee : Dec) : FillRecord :=
      { fillId := row.id
        clientOrderId := ""
        venueOrderId := row.orderId
        venue := "SX Bet"
        quantity := quantity
        price := price
        fee := fee }
    if hasCeRefund ∨ submitted.any fun submitted => submitted.terms.action = "SELL" then do
      let sale ← sellFillAccounting row stake odds decimals
      let price :=
        if stakeIndexTolerance < sale.closedContracts then
          Dec.div sale.netProceeds sale.closedContracts
        else 0
      if orderId = "" then .error (.runtime "SX Bet V3 CE fill is missing orderId")
      else do
        let requested := match submitted with
          | some submitted => submitted.terms.contracts
          | none => Dec.add sale.closedContracts sale.residualOpposite
        let side ← match submitted with
          | some submitted => pure submitted.terms.actualSide
          | none => remoteOrderSide row
        let previous := listing.residualAccounting.get? orderId
        if previous.any fun previous => previous.side ≠ side then
          .error (.runtime "SX Bet V3 CE fills for one order disagree on outcome side")
        else
          pure {
            fills := listing.fills ++ [record sale.closedContracts price sale.refundFee]
            residualAccounting := listing.residualAccounting.set orderId
              (addAccounting previous requested side sale) }
    else pure { listing with fills := listing.fills ++ [record (Dec.div stake odds) odds refundFee] }

/-- A residual exposure that `list_fills` finds. -/
structure ResidualExposure where
  report : ExecutionReport
  residualContracts : Dec
  residualSide : BinarySide
deriving DecidableEq

/-- The exposure of the accounting of an order, where there is one. -/
def exposureOf (orderId : String) (accounting : ResidualAccounting) : Option ResidualExposure :=
  if accounting.residual ≤ stakeIndexTolerance then none
  else
    let averagePrice :=
      if stakeIndexTolerance < accounting.closed then
        Dec.div accounting.proceeds accounting.closed
      else 0
    some
      { report := fromAmounts orderId (max accounting.requested accounting.closed)
          accounting.closed .partlyFilled averagePrice
        residualContracts := accounting.residual
        residualSide := accounting.side }

/-- `list_fills`: the fills, and the exposures of the batch that is raised if there are any. -/
def listFills (contexts : String → Option SubmittedOrder) (decimals : ℕ) (rows : List RawFill) :
    Except FillFault (List FillRecord × List ResidualExposure) := do
  let listing ← rows.foldlM (listFill contexts decimals) {}
  pure (listing.fills, listing.residualAccounting.entries.filterMap fun entry =>
    exposureOf entry.1 entry.2)

end ArbitrageEngine.SxBetV3
