/-
# ArbitrageEngine.Execution.ExitLeg -- one sale

`_submit_exit_leg` and what it calls.  The body of its `try` and each of its handlers is a
definition of its own; the local `order_id`, which the callback given to the client assigns and the
handlers read, is passed from one to the next.  The answers to one call are a record: no await of
one call is reached twice, and the two of the body that a handler repeats (the cancellation and the
wait after it) have a field for each place.

The client may call the callback any number of times and may or may not pass on what it raises, so
what the sale ends with is an answer of its own.
-/
import ArbitrageEngine.Execution.Orders
import ArbitrageEngine.Routes

namespace ArbitrageEngine.Execution

open Lib.Effect

/-! ## The environment -/

/-- The answers to the awaits of `_submit_exit_leg`. -/
structure SellAnswers where
  clientOrderId : String
  createIntent : WriteAnswer Exc
  submitting : WriteAnswer Exc
  /-- The calls of `persist_order_id` during the sale, each with the answer to its update. -/
  persisted : List (String × WriteAnswer Exc)
  sell : Except Exc String
  acknowledged : WriteAnswer Exc
  waitFilled : Except Exc ExecutionReport
  cancelOrder : Except Exc Unit
  reconcile : Except Exc ExecutionReport
  recordStatus : WriteAnswer Exc
  pause : Except Exc Unit
  /-- The telegram message of the handlers. -/
  sendTimeout : Except Exc Unit
  cancelAfterError : Except Exc Unit
  waitAfterError : Except Exc ExecutionReport
  recordError : WriteAnswer Exc
  pauseAfterError : Except Exc Unit

/-- The arguments of `_submit_exit_leg`. -/
structure ExitLeg where
  leg : Leg
  market : MarketSpec
  venueLabel : String
  alreadyClosed : Bool
  tokenId : String
  side : BinarySide
  contracts : Dec
  minPrice : Dec

/-- `ExitLegResult`. -/
structure ExitLegResult where
  orderId : String
  report : Option ExecutionReport
  error : Option Exc

/-- The value of `order_id` before the callback assigns it. -/
def failedBeforeOrder : String := "failed-before-order"

/-- The venue order id an update carries. -/
def knownOrderId (orderId : String) : Option String :=
  if orderId = failedBeforeOrder then none else some orderId

/-- A router, as far as its exits go: the legs of its route are the labels and the clients. -/
structure Router where
  route : ExecutionRoute
  repository : Bool

namespace Router

/-- The label of a leg, and of the client it is sold at. -/
def label (router : Router) : Leg → String
  | .first => router.route.venueLabels.1
  | .second => router.route.venueLabels.2

/-- `_first_leg_token_id` and `_second_leg_token_id`: every execution route reads the token of a
leg from the same field. -/
def tokenId (_ : Router) (market : MarketSpec) : Leg → String
  | .first => market.polymarketTokenId
  | .second => market.predictFunTokenId

/-- `_first_leg_side` and `_second_leg_side`. -/
def side (_ : Router) (market : MarketSpec) : Leg → BinarySide
  | .first => market.polymarketSide
  | .second => market.predictFunSide

/-- The intent `_submit_exit_leg` creates. -/
def exitIntent (router : Router) (answers : SellAnswers) (call : ExitLeg) : OrderIntent where
  clientOrderId := answers.clientOrderId
  route := router.route.name
  marketKey := positionKey call.market
  venue := call.venueLabel
  tokenId := call.tokenId
  binarySide := call.side
  action := "SELL"
  quantity := Dec.money call.contracts
  limitPrice := Dec.money call.minPrice

/-- An update of the intent of an order, where there is a store. -/
def updateIntent (router : Router) (clientOrderId : String) (answer : WriteAnswer Exc)
    (status : OrderIntentStatus) (venueOrderId : Option String) : Effect Unit :=
  whenever (router.repository = true) (updateOrderIntent answer clientOrderId status venueOrderId)

/-! ## The body of the `try` -/

/-- The calls of `persist_order_id` by a client; the result is `order_id` after them.  An empty id
raises before it is assigned. -/
def persistOrderIds (router : Router) (clientOrderId : String) :
    List (String × WriteAnswer Exc) → String → Effect String
  | [], orderId => pure orderId
  | (prepared, answer) :: rest, orderId =>
      if prepared = "" then persistOrderIds router clientOrderId rest orderId
      else do
        let _ ← attempt Exc.any
          (updateIntent router clientOrderId answer .submitting (some prepared))
        persistOrderIds router clientOrderId rest prepared

/-- `sell_with_order_id_persistence`: the sale is out once it is called. -/
def sell (router : Router) (answers : SellAnswers) (call : ExitLeg) : Effect String := do
  modify fun w => w.submit answers.clientOrderId call.market call.leg call.venueLabel call.tokenId
    call.contracts
  persistOrderIds router answers.clientOrderId answers.persisted failedBeforeOrder

/-- A report the venue returned, for the log of sales or of purchases. -/
def observed (observe : World → ExecutionReport → World)
    (answer : Except Exc ExecutionReport) : Effect ExecutionReport := do
  let report ← await answer
  modify fun w => observe w report
  pure report

/-- `_cancel_and_reconcile`. -/
def cancelAndReconcile (observe : World → ExecutionReport → World) (cancelOrder : Except Exc Unit)
    (reconcile : Except Exc ExecutionReport) (previous : ExecutionReport) :
    Effect ExecutionReport := do
  let _ ← attempt Exc.caught (await cancelOrder)
  match ← attempt Exc.caught (observed observe reconcile) with
  | .error _ => pure previous
  | .ok current => pure (if previous.amountFilled ≤ current.amountFilled then current else previous)

/-- The report a wait ends with: one that is not filled is cancelled and read again. -/
def finalReport (observe : World → ExecutionReport → World) (cancelOrder : Except Exc Unit)
    (reconcile : Except Exc ExecutionReport) (first : ExecutionReport) : Effect ExecutionReport :=
  if first.isFilled then pure first else cancelAndReconcile observe cancelOrder reconcile first

/-- The body after the sale returned its order id. -/
def confirm (router : Router) (answers : SellAnswers) (orderId : String) :
    Effect ExecutionReport := do
  updateIntent router answers.clientOrderId answers.acknowledged .acknowledged (some orderId)
  let first ← observed World.observe answers.waitFilled
  let report ← finalReport World.observe answers.cancelOrder answers.reconcile first
  updateIntent router answers.clientOrderId answers.recordStatus (intentStatusFromReport report)
    (some orderId)
  whenever (router.repository ∧ intentStatusFromReport report = .unknown) (await answers.pause)
  pure report

/-- The body of the `try`: `order_id` when it is left, and how. -/
def submit (router : Router) (answers : SellAnswers) (call : ExitLeg) :
    Effect (String × Except Exc ExecutionReport) := do
  let orderId ← sell router answers call
  match answers.sell with
  | .error exc => pure (orderId, .error exc)
  | .ok returned =>
      if orderId = failedBeforeOrder ∨ returned.toLower ≠ orderId.toLower then
        pure (orderId, .error (.failed none))
      else do
        let outcome ← attempt Exc.any (confirm router answers returned)
        pure (returned, outcome)

/-! ## The handlers -/

/-- `except OrderResidualExposure`. -/
def onResidual (router : Router) (answers : SellAnswers) (report : ExecutionReport) (exc : Exc) :
    Effect ExitLegResult := do
  modify fun w => w.observe report
  let _ ← attempt Exc.caught
    (updateIntent router answers.clientOrderId answers.recordError .manualReview
      (some report.orderId))
  await answers.pauseAfterError
  pure ⟨report.orderId, some report, some exc⟩

/-- `except asyncio.CancelledError`. -/
def onCancelled (router : Router) (answers : SellAnswers) (orderId : String) :
    Effect ExitLegResult := do
  updateIntent router answers.clientOrderId answers.recordError .unknown (knownOrderId orderId)
  let _ ← attempt Exc.caught
    (whenever (orderId ≠ failedBeforeOrder) (await answers.cancelAfterError))
  throw .cancelled

/-- The reconciliation of `except Exception`: the report it finds, and the error after it. -/
def reconcileAfterError (answers : SellAnswers) (orderId : String) (exc : Exc) :
    Effect (Option ExecutionReport × Exc) :=
  if orderId = failedBeforeOrder then pure (none, exc)
  else do
    let _ ← attempt Exc.caught (await answers.cancelAfterError)
    match ← attempt Exc.caught (observed World.observe answers.waitAfterError) with
    | .ok report => pure (some report, exc)
    | .error (.residual report contracts) => do
        modify fun w => w.observe report
        pure (some report, .residual report contracts)
    | .error _ => pure (none, exc)

/-- Is this an `OrderResidualExposure`? -/
def isResidual : Exc → Bool
  | .residual _ _ => true
  | _ => false

/-- The status `except Exception` records. -/
def statusAfterError (report : Option ExecutionReport) (error : Exc) : OrderIntentStatus :=
  if isResidual error then .manualReview
  else match report with
    | some report => intentStatusFromReport report
    | none => .unknown

/-- The update of `except Exception`, which may fail only for a residual exposure. -/
def recordError (router : Router) (answers : SellAnswers) (status : OrderIntentStatus)
    (orderId : String) (error : Exc) : Effect Unit :=
  let update := updateIntent router answers.clientOrderId answers.recordError status
    (knownOrderId orderId)
  if isResidual error then do
    let _ ← attempt Exc.caught update
  else update

/-- `except Exception`. -/
def onError (router : Router) (answers : SellAnswers) (before : String) (exc : Exc) :
    Effect ExitLegResult := do
  let orderId := if before = failedBeforeOrder then exc.orderId?.getD before else before
  whenever (exc = .transactionTimeout) (await answers.sendTimeout)
  let (report, error) ← reconcileAfterError answers orderId exc
  let status := statusAfterError report error
  recordError router answers status orderId error
  whenever ((router.repository ∧ status = .unknown) ∨ isResidual error)
    (await answers.pauseAfterError)
  pure ⟨orderId, report, some error⟩

/-- The `except` clauses. -/
def onExit (router : Router) (answers : SellAnswers) :
    String × Except Exc ExecutionReport → Effect ExitLegResult
  | (orderId, .ok report) => pure ⟨orderId, some report, none⟩
  | (_, .error (.residual report contracts)) =>
      onResidual router answers report (.residual report contracts)
  | (orderId, .error .cancelled) => onCancelled router answers orderId
  | (orderId, .error exc) => onError router answers orderId exc

/-- `_submit_exit_leg`. -/
def submitExitLeg (router : Router) (answers : SellAnswers) (call : ExitLeg) :
    Effect ExitLegResult :=
  if call.alreadyClosed then pure ⟨"already-closed", none, none⟩
  else do
    whenever (router.repository = true)
      (createOrderIntent answers.createIntent (router.exitIntent answers call))
    updateIntent router answers.clientOrderId answers.submitting .submitting none
    let outcome ← submit router answers call
    onExit router answers outcome

/-- `_normalize_exit_result`. -/
def normalizeExitResult (result : Except Exc ExitLegResult) : Effect ExitLegResult :=
  match result with
  | .ok result => pure result
  | .error .cancelled => throw .cancelled
  | .error exc => pure ⟨failedBeforeOrder, none, some exc⟩

end Router

end ArbitrageEngine.Execution
