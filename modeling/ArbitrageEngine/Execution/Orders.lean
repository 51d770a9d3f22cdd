/-
# ArbitrageEngine.Execution.Orders -- reports, exceptions and durable order intents

What the execution router exchanges with a venue and with the store.  A venue answers with an
`ExecutionReport` or an exception; the store keeps one intent for each order, and
`intentStatusFromReport` says what a report makes of it.

Beside the tables and the ledger the state keeps logs of the sales and purchases that were submitted,
with what the venue reported filled on each, and of the results the risk controller was told of.
The program has no such logs: they are what the properties of entries and exits are about.
-/
import ArbitrageEngine.Lib.Effect
import ArbitrageEngine.Models

namespace ArbitrageEngine.Execution

open Lib.Effect

/-! ## Reports -/

inductive ExecutionStatus
  | stillOpen
  | partlyFilled
  | filled
  | cancelled
  | expired
deriving DecidableEq, Repr

/-- `ExecutionReport`. -/
structure ExecutionReport where
  orderId : String
  status : ExecutionStatus
  amountRequested : Dec
  amountFilled : Dec
  remainingAmount : Dec
  avgPrice : Dec
deriving DecidableEq

namespace ExecutionReport

/-- `is_filled`. -/
def isFilled (report : ExecutionReport) : Bool :=
  report.remainingAmount ≤ Dec.epsilon ∧ 0 < report.amountFilled

/-- `has_fill`. -/
def hasFill (report : ExecutionReport) : Bool := Dec.epsilon < report.amountFilled

end ExecutionReport

/-- What an awaited call raises. -/
inductive Exc
  /-- `asyncio.CancelledError`, which `except Exception` does not catch. -/
  | cancelled
  /-- `OrderResidualExposure`. -/
  | residual (report : ExecutionReport) (residualContracts : Dec)
  /-- `OrderSubmissionRejected`. -/
  | rejected (orderId : Option String)
  /-- `TransactionTimeoutException`. -/
  | transactionTimeout
  /-- Any other exception, with its `order_id` attribute where it has one. -/
  | failed (orderId : Option String)
deriving DecidableEq

namespace Exc

/-- `except Exception as exc`. -/
def caught : Exc → Option Exc
  | cancelled => none
  | exc => some exc

/-- `except BaseException as exc`, and what `gather(..., return_exceptions=True)` returns. -/
def any (exc : Exc) : Option Exc := some exc

/-- `getattr(exc, "order_id", None)`, where it is a non-empty string. -/
def orderId? : Exc → Option String
  | residual report _ => truthy (some report.orderId)
  | rejected orderId => truthy orderId
  | failed orderId => truthy orderId
  | _ => none

end Exc

/-! ## Order intents -/

inductive OrderIntentStatus
  | prepared
  | submitting
  | acknowledged
  | partlyFilled
  | filled
  | cancelPending
  | cancelled
  | unknown
  | manualReview
deriving DecidableEq, Repr

/-- `_intent_status_from_report`. -/
def intentStatusFromReport (report : ExecutionReport) : OrderIntentStatus :=
  if report.status = .stillOpen then .unknown
  else if report.isFilled then .filled
  else if report.hasFill then .partlyFilled
  else if report.status = .cancelled ∨ report.status = .expired then .cancelled
  else .unknown

/-- `OrderIntent`. -/
structure OrderIntent where
  clientOrderId : String
  route : String
  marketKey : String
  venue : String
  tokenId : String
  binarySide : BinarySide
  action : String
  quantity : Dec
  limitPrice : Dec
  status : OrderIntentStatus := .prepared
  venueOrderId : Option String := none
deriving DecidableEq

/-! ## The state -/

/-- A leg of a position. -/
inductive Leg
  | first
  | second
deriving DecidableEq, Repr

/-- A sale that was submitted. -/
structure SellOrder where
  clientOrderId : String
  /-- The market of the position it was submitted for. -/
  market : MarketSpec
  leg : Leg
  /-- The venue whose client it was submitted to. -/
  client : String
  tokenId : String
  contracts : Dec
  /-- The largest filled amount the venue reported for it. -/
  filled : Dec := 0
  /-- The last report with that amount. -/
  report : Option ExecutionReport := none
  /-- Was an earlier sale of this leg unresolved when it was submitted? -/
  blind : Bool
deriving DecidableEq

/-- A purchase that was submitted. -/
structure BuyOrder where
  clientOrderId : String
  /-- The market it was submitted for. -/
  market : MarketSpec
  leg : Leg
  /-- The venue whose client it was submitted to. -/
  client : String
  tokenId : String
  contracts : Dec
  /-- The largest filled amount the venue reported for it. -/
  filled : Dec := 0
deriving DecidableEq

/-- What entries and exits read and write, with the orders newest first. -/
structure World where
  intents : Lib.Dict String OrderIntent
  positions : Lib.Dict String OpenPosition
  ledger : PositionLedger
  sells : List SellOrder
  buys : List BuyOrder := []
  /-- `_optimistic_debits`. -/
  optimisticDebits : Lib.Dict String Dec := .empty
  /-- The results `record_realized_result` was called with. -/
  realized : List Dec := []
deriving DecidableEq

/-- An effect of the router. -/
abbrev Effect (α : Type) : Type := EStateM Exc World α

/-- The order has an UNKNOWN intent with a venue order id: its outcome is not known. -/
def World.unresolved (w : World) (clientOrderId : String) : Bool :=
  match w.intents.get? clientOrderId with
  | none => false
  | some intent => intent.status = .unknown ∧ intent.venueOrderId ≠ none

/-- Some sale of this leg is unresolved. -/
def World.unresolvedLeg (w : World) (key : String) (leg : Leg) : Bool :=
  w.sells.any fun sell =>
    positionKey sell.market = key ∧ sell.leg = leg ∧ w.unresolved sell.clientOrderId

/-- Log a sale. -/
def World.submit (w : World) (clientOrderId : String) (market : MarketSpec) (leg : Leg)
    (client tokenId : String) (contracts : Dec) : World :=
  { w with
    sells :=
      { clientOrderId := clientOrderId
        market := market
        leg := leg
        client := client
        tokenId := tokenId
        contracts := contracts
        blind := w.unresolvedLeg (positionKey market) leg } :: w.sells }

/-- Log what a report says of the sale submitted last. -/
def World.observe (w : World) (report : ExecutionReport) : World :=
  match w.sells with
  | [] => w
  | sell :: older =>
      { w with
        sells :=
          { sell with
            filled := max sell.filled report.amountFilled
            report := if sell.filled ≤ report.amountFilled then some report else sell.report } ::
            older }

/-- Log a purchase. -/
def World.submitBuy (w : World) (clientOrderId : String) (market : MarketSpec) (leg : Leg)
    (client tokenId : String) (contracts : Dec) : World :=
  { w with
    buys :=
      { clientOrderId := clientOrderId
        market := market
        leg := leg
        client := client
        tokenId := tokenId
        contracts := contracts } :: w.buys }

/-- Log what a report says of the purchase submitted last. -/
def World.observeBuy (w : World) (report : ExecutionReport) : World :=
  match w.buys with
  | [] => w
  | buy :: older =>
      { w with buys := { buy with filled := max buy.filled report.amountFilled } :: older }

/-! ## The store -/

/-- `create_order_intent`: the client order id is the primary key. -/
def createOrderIntent (answer : WriteAnswer Exc) (intent : OrderIntent) : Effect Unit := do
  let w ← get
  match w.intents.get? intent.clientOrderId with
  | some _ => throw (.failed none)
  | none => transact answer fun w =>
      { w with intents := w.intents.set intent.clientOrderId intent }

/-- `update_order_intent`. -/
def updateOrderIntent (answer : WriteAnswer Exc) (clientOrderId : String)
    (status : OrderIntentStatus) (venueOrderId : Option String) : Effect Unit := do
  let w ← get
  match w.intents.get? clientOrderId with
  | none => throw (.failed none)
  | some intent => transact answer fun w =>
      { w with
        intents := w.intents.set clientOrderId
          { intent with status := status, venueOrderId := venueOrderId.or intent.venueOrderId } }

/-- `_add_position`. -/
def addPosition (repository : Bool) (answer : WriteAnswer Exc) (position : OpenPosition) :
    Effect Unit := do
  let key := positionKey position.market
  whenever (repository = true)
    (transact answer fun w => { w with positions := w.positions.set key position })
  modify fun w => { w with ledger := w.ledger.add position }

/-- `_remove_position`. -/
def removePosition (repository : Bool) (answer : WriteAnswer Exc) (key : String) :
    Effect Unit := do
  whenever (repository = true)
    (transact answer fun w => { w with positions := w.positions.erase key })
  modify fun w => { w with ledger := w.ledger.erase key }

end ArbitrageEngine.Execution
