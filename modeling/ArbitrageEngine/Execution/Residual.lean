/-
# ArbitrageEngine.Execution.Residual -- booking an opposite exposure

An exit order may close some contracts and leave an exposure on the other side.  The venue reports
it as cumulative totals for the order; `apply_residual_exit_snapshot` books what the totals add to
those already booked for the order, and refuses totals that contradict them.
-/
import ArbitrageEngine.Execution.Orders

namespace ArbitrageEngine.Execution

/-- Can these totals stand?  The tests of `ResidualExitSnapshot.__post_init__`. -/
def validSnapshot (snapshot : ResidualExitSnapshot) : Bool :=
  snapshot.venueOrderId ≠ "" ∧ 0 ≤ snapshot.closedContracts ∧ 0 ≤ snapshot.exitProceedsUsd ∧
    0 < snapshot.requestedContracts ∧ 0 < snapshot.residualContracts ∧
    ¬ (0 < snapshot.closedContracts ∧ snapshot.exitProceedsUsd ≤ 0) ∧
    Dec.add snapshot.closedContracts snapshot.residualContracts ≤
      Dec.add snapshot.requestedContracts Dec.epsilon

/-- The account of a leg that a snapshot is booked into. -/
structure LegAccount where
  totalContracts : Dec
  closedContracts : Dec
  exitProceedsUsd : Dec
  residual : ResidualExits

/-- A booked leg. -/
structure BookedLeg where
  closedContracts : Dec
  exitProceedsUsd : Dec
  isClosed : Bool
  exitPrice : Option Dec
  residual : ResidualExits

/-- `exit_proceeds_usd / closed_contracts`, where something was closed. -/
def exitPrice (proceeds closed : Dec) : Option Dec :=
  if Dec.epsilon < closed then some (Dec.div proceeds closed) else none

/-- The end of `apply_to_leg`: what the order adds to the totals of the leg. -/
def bookDelta (account : LegAccount) (snapshot : ResidualExitSnapshot)
    (deltaClosed deltaProceeds deltaResidual : Dec) (snapshots : List ResidualExitSnapshot) :
    Except Exc BookedLeg :=
  if Dec.add account.totalContracts Dec.epsilon < Dec.add account.closedContracts deltaClosed then
    .error (.failed none)
  else
    let closed := min account.totalContracts (Dec.add account.closedContracts deltaClosed)
    let proceeds := Dec.add account.exitProceedsUsd deltaProceeds
    .ok
      { closedContracts := closed
        exitProceedsUsd := proceeds
        isClosed := Dec.sub account.totalContracts Dec.epsilon ≤ closed
        exitPrice := exitPrice proceeds closed
        residual :=
          { exposureContracts := Dec.add account.residual.exposureContracts deltaResidual
            orderIds :=
              if snapshot.venueOrderId ∈ account.residual.orderIds then account.residual.orderIds
              else account.residual.orderIds ++ [snapshot.venueOrderId]
            snapshots := snapshots } }

/-- Is `new` at most `old`, up to the tolerance? -/
def noneGrew (old new : ResidualExitSnapshot) : Bool :=
  new.closedContracts ≤ Dec.add old.closedContracts Dec.epsilon ∧
    new.exitProceedsUsd ≤ Dec.add old.exitProceedsUsd Dec.epsilon ∧
    new.residualContracts ≤ Dec.add old.residualContracts Dec.epsilon

/-- Did some total shrink by more than the tolerance? -/
def someShrank (old new : ResidualExitSnapshot) : Bool :=
  new.closedContracts < Dec.sub old.closedContracts Dec.epsilon ∨
    new.exitProceedsUsd < Dec.sub old.exitProceedsUsd Dec.epsilon ∨
    new.residualContracts < Dec.sub old.residualContracts Dec.epsilon

/-- `apply_to_leg`. -/
def applyToLeg (account : LegAccount) (snapshot : ResidualExitSnapshot) : Except Exc BookedLeg :=
  let snapshots := account.residual.snapshots
  match snapshots.find? fun item => item.venueOrderId = snapshot.venueOrderId with
  | none =>
      if snapshot.venueOrderId ∈ account.residual.orderIds then .error (.failed none)
      else
        bookDelta account snapshot snapshot.closedContracts snapshot.exitProceedsUsd
          snapshot.residualContracts (snapshots ++ [snapshot])
  | some previous =>
      if Dec.epsilon <
          Dec.absolute (Dec.sub previous.requestedContracts snapshot.requestedContracts) then
        .error (.failed none)
      else if noneGrew previous snapshot then
        .ok
          { closedContracts := account.closedContracts
            exitProceedsUsd := account.exitProceedsUsd
            isClosed :=
              Dec.sub account.totalContracts Dec.epsilon ≤ account.closedContracts
            exitPrice := exitPrice account.exitProceedsUsd account.closedContracts
            residual := account.residual }
      else if someShrank previous snapshot then .error (.failed none)
      else
        let deltaClosed := Dec.sub snapshot.closedContracts previous.closedContracts
        let deltaProceeds := Dec.sub snapshot.exitProceedsUsd previous.exitProceedsUsd
        if Dec.epsilon < deltaClosed ∧ deltaProceeds ≤ Dec.epsilon then .error (.failed none)
        else
          bookDelta account snapshot deltaClosed deltaProceeds
            (Dec.sub snapshot.residualContracts previous.residualContracts)
            (snapshots.map fun item =>
              if item.venueOrderId = snapshot.venueOrderId then snapshot else item)

/-- `apply_residual_exit_snapshot`. -/
def applyResidualExitSnapshot (position : OpenPosition) (venue : String)
    (snapshot : ResidualExitSnapshot) : Except Exc OpenPosition :=
  if position.market.venueALabel = venue then
    (applyToLeg
      { totalContracts := position.polymarketContracts
        closedContracts := position.polymarketClosedContracts
        exitProceedsUsd := position.polymarketExitProceedsUsd
        residual := position.polymarketResidual } snapshot).map fun leg =>
      { position with
        status := "manual_review"
        polymarketClosed := leg.isClosed
        polymarketClosedContracts := leg.closedContracts
        polymarketExitProceedsUsd := leg.exitProceedsUsd
        polymarketExitPrice := leg.exitPrice
        polymarketResidual := leg.residual }
  else if position.market.venueBLabel = venue then
    (applyToLeg
      { totalContracts := position.predictFunContracts
        closedContracts := position.predictFunClosedContracts
        exitProceedsUsd := position.predictFunExitProceedsUsd
        residual := position.predictFunResidual } snapshot).map fun leg =>
      { position with
        status := "manual_review"
        predictFunClosed := leg.isClosed
        predictFunClosedContracts := leg.closedContracts
        predictFunExitProceedsUsd := leg.exitProceedsUsd
        predictFunExitPrice := leg.exitPrice
        predictFunResidual := leg.residual }
  else .error (.failed none)

/-- `str.isspace` of a character. -/
def isSpace (c : Char) : Bool :=
  let code := c.toNat
  (9 ≤ code ∧ code ≤ 13) ∨ (28 ≤ code ∧ code ≤ 32) ∨ (0x2000 ≤ code ∧ code ≤ 0x200A) ∨
    code ∈ [0x85, 0xA0, 0x1680, 0x2028, 0x2029, 0x202F, 0x205F, 0x3000]

/-- `str.strip`. -/
def strip (s : String) : String :=
  String.ofList ((s.toList.dropWhile isSpace).reverse.dropWhile isSpace).reverse

/-- `venue_order_id.strip().lower()`; order ids are ASCII. -/
def normalizedOrderId (orderId : String) : String := (strip orderId).toLower

/-- The snapshot of a residual report: its order id is normalized, and impossible totals raise. -/
def residualSnapshot (report : ExecutionReport) (residualContracts : Dec) :
    Except Exc ResidualExitSnapshot :=
  let snapshot : ResidualExitSnapshot :=
    { venueOrderId := normalizedOrderId report.orderId
      requestedContracts := report.amountRequested
      closedContracts := report.amountFilled
      exitProceedsUsd := Dec.mul report.amountFilled report.avgPrice
      residualContracts := residualContracts }
  if validSnapshot snapshot then .ok snapshot else .error (.failed none)

end ArbitrageEngine.Execution
