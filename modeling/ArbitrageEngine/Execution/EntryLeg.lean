/-
# ArbitrageEngine.Execution.EntryLeg -- one purchase

`_submit_entry_leg` and what it calls, in the manner of the sale: the part before the `try`, its
body and each of its handlers are definitions of their own, `order_id` is passed from one to the
next, and the answers to one call are a record.

The guards that decide whether there is a purchase at all are answers of the environment; a guard
that closes the window pauses the engine, which may raise.  A purchase that is refused before it is
sent to the venue ends with a report of nothing filled.
-/
import ArbitrageEngine.Execution.Exits

namespace ArbitrageEngine.Execution

open Lib.Effect

/-! ## The environment -/

/-- The answers to the awaits of `_submit_entry_leg`. -/
structure BuyAnswers where
  clientOrderId : String
  /-- `_funded_canary_window_guard_for_market`. -/
  windowGuard : Except Exc Bool
  createIntent : WriteAnswer Exc
  /-- `_entry_runtime_ready_for_market`, at the three places it is asked. -/
  readyAfterCreate : Bool
  readyAfterSubmitting : Bool
  readyBeforeBuy : Bool
  /-- The update of `reject_before_venue_submit`, which ends the call. -/
  rejectIntent : WriteAnswer Exc
  submitting : WriteAnswer Exc
  windowGuardBeforeBuy : Except Exc Bool
  /-- The calls of `persist_order_id` during the purchase, each with the answer to its update. -/
  persisted : List (String × WriteAnswer Exc)
  buy : Except Exc String
  /-- `transport_deadline_rejected` after the purchase. -/
  deadlineRejected : Bool
  acknowledged : WriteAnswer Exc
  waitFilled : Except Exc ExecutionReport
  cancelOrder : Except Exc Unit
  reconcile : Except Exc ExecutionReport
  recordStatus : WriteAnswer Exc
  pause : Except Exc Unit
  persistBalance : Except Exc Unit
  pauseDeadline : Except Exc Unit
  /-- The telegram message of the handler. -/
  sendTimeout : Except Exc Unit
  cancelAfterError : Except Exc Unit
  waitAfterError : Except Exc ExecutionReport
  persistBalanceAfterError : Except Exc Unit
  recordError : WriteAnswer Exc
  pauseAfterError : Except Exc Unit

/-- The arguments of `_submit_entry_leg`. -/
structure EntryLeg where
  leg : Leg
  market : MarketSpec
  venueLabel : String
  tokenId : String
  side : BinarySide
  contracts : Dec
  maxPrice : Dec
  capitalUsd : Dec

/-- `EntryLegResult`. -/
structure EntryLegResult where
  orderId : String
  report : Option ExecutionReport
  error : Option Exc

/-- `ExecutionReport.from_amounts` of a cancelled order without a fill. -/
def nothingFilled (orderId : String) (contracts : Dec) : ExecutionReport where
  orderId := orderId
  status := .cancelled
  amountRequested := max 0 contracts
  amountFilled := 0
  remainingAmount := max 0 (Dec.sub (max 0 contracts) 0)
  avgPrice := 0

namespace Router

variable (router : Router) (config : Config) (answers : BuyAnswers) (call : EntryLeg)

/-- The intent `_submit_entry_leg` creates. -/
def entryIntent : OrderIntent where
  clientOrderId := answers.clientOrderId
  route := router.route.name
  marketKey := positionKey call.market
  venue := call.venueLabel
  tokenId := call.tokenId
  binarySide := call.side
  action := "BUY"
  quantity := Dec.money call.contracts
  limitPrice := Dec.money call.maxPrice

/-- `reject_before_venue_submit`, where the intent exists. -/
def rejectBeforeVenueSubmit (orderId : String) : Effect EntryLegResult := do
  updateIntent router answers.clientOrderId answers.rejectIntent .cancelled none
  pure ⟨orderId, some (nothingFilled orderId call.contracts), some (.rejected none)⟩

/-- `_debit_cached_balance`. -/
def debitCachedBalance (venueLabel : String) (amountUsd : Dec) (w : World) : World :=
  { w with
    optimisticDebits := w.optimisticDebits.set venueLabel
      (Dec.add ((w.optimisticDebits.get? venueLabel).getD 0) amountUsd) }

/-- What `_debit_reported_fill` debits: the price of the fill with its fee, and not more than was
reserved. -/
def debitAmount (report : ExecutionReport) : Except Exc Dec :=
  if 0 < report.avgPrice then
    (venueFeePct config call.venueLabel call.market).map fun fee =>
      min call.capitalUsd (Dec.mul (Dec.mul report.amountFilled report.avgPrice) (Dec.add 1 fee))
  else .ok call.capitalUsd

/-- `_debit_reported_fill`. -/
def debitReportedFill (report : ExecutionReport) : Effect Unit :=
  whenever (report.hasFill = true) do
    let actual ← await (debitAmount config call report)
    modify (debitCachedBalance call.venueLabel actual)

/-! ## The body of the `try` -/

/-- `buy_with_order_id_persistence`: the purchase is out once it is called. -/
def buy : Effect String := do
  modify fun w => w.submitBuy answers.clientOrderId call.market call.leg call.venueLabel
    call.tokenId call.contracts
  persistOrderIds router answers.clientOrderId answers.persisted failedBeforeOrder

/-- The body after the purchase returned its order id. -/
def confirmBuy (orderId : String) : Effect EntryLegResult := do
  updateIntent router answers.clientOrderId answers.acknowledged .acknowledged (some orderId)
  let first ← observed World.observeBuy answers.waitFilled
  let report ← finalReport World.observeBuy answers.cancelOrder answers.reconcile first
  updateIntent router answers.clientOrderId answers.recordStatus (intentStatusFromReport report)
    (some orderId)
  whenever (router.repository ∧ intentStatusFromReport report = .unknown) (await answers.pause)
  debitReportedFill config call report
  await answers.persistBalance
  pure ⟨orderId, some report, none⟩

/-- The purchase and what follows it: `order_id` when the body is left, and how. -/
def placeBuy : Effect (String × Except Exc EntryLegResult) := do
  let orderId ← router.buy answers call
  match answers.buy with
  | .error exc => pure (orderId, .error exc)
  | .ok returned =>
      if orderId = failedBeforeOrder ∨ returned.toLower ≠ orderId.toLower then
        pure (orderId, .error (.failed none))
      else do
        let outcome ← attempt Exc.any (router.confirmBuy config answers call returned)
        pure (returned, outcome)

/-- The body of the `try`. -/
def submitBuy : Effect (String × Except Exc EntryLegResult) :=
  match answers.windowGuardBeforeBuy with
  | .error exc => pure (failedBeforeOrder, .error exc)
  | .ok false => pure (failedBeforeOrder, .error (.rejected none))
  | .ok true =>
      if answers.readyBeforeBuy = false then do
        let outcome ← attempt Exc.any
          (router.rejectBeforeVenueSubmit answers call failedBeforeOrder)
        pure (failedBeforeOrder, outcome)
      else router.placeBuy config answers call

/-! ## The handlers -/

/-- `except asyncio.CancelledError`. -/
def onBuyCancelled (orderId : String) : Effect EntryLegResult := do
  updateIntent router answers.clientOrderId answers.recordError .unknown (knownOrderId orderId)
  let _ ← attempt Exc.caught
    (whenever (orderId ≠ failedBeforeOrder) (await answers.cancelAfterError))
  throw .cancelled

/-- Is this an `OrderSubmissionRejected`? -/
def isRejected : Exc → Bool
  | .rejected _ => true
  | _ => false

/-- The report `except Exception` finds. -/
def reconcileBuy (orderId : String) (exc : Exc) : Effect (Option ExecutionReport) :=
  if isRejected exc then pure (some (nothingFilled orderId call.contracts))
  else if orderId = failedBeforeOrder then pure none
  else do
    let _ ← attempt Exc.caught (await answers.cancelAfterError)
    match ← attempt Exc.caught (observed World.observeBuy answers.waitAfterError) with
    | .ok report => pure (some report)
    | .error _ => pure none

/-- The status `except Exception` records. -/
def buyStatusAfterError (report : Option ExecutionReport) (exc : Exc) : OrderIntentStatus :=
  if isRejected exc then .cancelled
  else match report with
    | some report => intentStatusFromReport report
    | none => .unknown

/-- The debit of `except Exception`. -/
def debitAfterError (report : Option ExecutionReport) : Effect Unit :=
  match report with
  | none => pure ()
  | some report => do
      debitReportedFill config call report
      await answers.persistBalanceAfterError

/-- `except Exception`. -/
def onBuyError (before : String) (exc : Exc) : Effect EntryLegResult := do
  whenever (answers.deadlineRejected = true) (await answers.pauseDeadline)
  let orderId := if before = failedBeforeOrder then exc.orderId?.getD before else before
  whenever (exc = .transactionTimeout) (await answers.sendTimeout)
  let report ← reconcileBuy answers call orderId exc
  debitAfterError config answers call report
  let status := buyStatusAfterError report exc
  updateIntent router answers.clientOrderId answers.recordError status (knownOrderId orderId)
  whenever (router.repository ∧ status = .unknown) (await answers.pauseAfterError)
  pure ⟨orderId, report, some exc⟩

/-- The `except` clauses. -/
def onBuyExit : String × Except Exc EntryLegResult → Effect EntryLegResult
  | (_, .ok result) => pure result
  | (orderId, .error .cancelled) => router.onBuyCancelled answers orderId
  | (orderId, .error exc) => router.onBuyError config answers call orderId exc

/-- The `try` and its handlers. -/
def tryBuy : Effect EntryLegResult := do
  let outcome ← router.submitBuy config answers call
  router.onBuyExit config answers call outcome

/-- From the creation of the intent on; without a store there is none, and no readiness is asked
before the `try`. -/
def submitWithIntent : Effect EntryLegResult :=
  if router.repository = false then router.tryBuy config answers call
  else do
    createOrderIntent answers.createIntent (router.entryIntent answers call)
    if answers.readyAfterCreate = false then
      router.rejectBeforeVenueSubmit answers call failedBeforeOrder
    else do
      updateIntent router answers.clientOrderId answers.submitting .submitting none
      if answers.readyAfterSubmitting = false then
        router.rejectBeforeVenueSubmit answers call failedBeforeOrder
      else router.tryBuy config answers call

/-- `_submit_entry_leg`. -/
def submitEntryLeg : Effect EntryLegResult := do
  let isOpen ← await answers.windowGuard
  if isOpen = false then
    pure ⟨failedBeforeOrder, some (nothingFilled failedBeforeOrder call.contracts),
      some (.rejected none)⟩
  else router.submitWithIntent config answers call

/-- `_normalize_entry_result`. -/
def normalizeEntryResult (result : Except Exc EntryLegResult) : Effect EntryLegResult :=
  match result with
  | .ok result => pure result
  | .error .cancelled => throw .cancelled
  | .error exc => pure ⟨failedBeforeOrder, none, some exc⟩

end Router

end ArbitrageEngine.Execution
