/-
# ArbitrageEngine.Reconciliation.IntentSteps -- a leg and a cycle over one order intent

`_submit_entry_leg` and `_submit_exit_leg` write the durable intent of their order; a reconciliation
cycle reads the unresolved intents once and writes them later, each after calls to the venue.  Both
are machines here: a phase says which call is awaited, and an answer of the environment is a step.
`update_order_intent` replaces the status whatever it was, so how the steps of the two machines
interleave decides what the intent ends with.

The messages and the pauses of a handler, and the debit with the save of the balances, are one call
each: none of them touches the intent.
-/
import ArbitrageEngine.Execution.EntryLeg

namespace ArbitrageEngine.Reconciliation

open Execution Lib.Effect

/-! ## The intent -/

/-- `create_order_intent` with its status, or `update_order_intent`. -/
inductive IntentWrite
  | create (intent : OrderIntent)
  | update (status : OrderIntentStatus) (venueOrderId : Option String)
deriving DecidableEq

/-- The row after a write. -/
def IntentWrite.apply : IntentWrite → Option OrderIntent → Option OrderIntent
  | create intent, _ => some intent
  | update status venueOrderId, row => row.map fun intent =>
      { intent with status := status, venueOrderId := venueOrderId.or intent.venueOrderId }

/-- The row after the transaction of a write. -/
def afterWrite (answer : WriteAnswer Exc) (write : IntentWrite) (row : Option OrderIntent) :
    Option OrderIntent :=
  if answer.commits then write.apply row else row

/-- The statuses `unresolved_order_intents` leaves out. -/
def isTerminal : OrderIntentStatus → Bool
  | .filled | .cancelled => true
  | _ => false

/-! ## The leg -/

/-- Which leg it is, and the intent it creates. -/
structure LegCall where
  isEntry : Bool
  intent : OrderIntent
deriving DecidableEq

/-- The call a leg awaits.  `orderId` is its local of that name. -/
inductive LegPhase
  | creating
  | submitting
  /-- The update of `reject_before_venue_submit`, before the `try` or inside it. -/
  | rejecting (inTry : Bool)
  | guarding
  /-- The purchase or sale, during which the client calls `persist_order_id`. -/
  | placing (orderId : String)
  | acknowledging (orderId : String)
  | waiting (orderId : String)
  | cancelling (orderId : String) (report : ExecutionReport)
  | rereading (orderId : String) (report : ExecutionReport)
  | recording (orderId : String) (report : ExecutionReport)
  /-- The pause after an unknown outcome; for an entry also the debit and the save. -/
  | finishing (orderId : String)
  /-- `except OrderResidualExposure`. -/
  | exposed (orderId : String)
  /-- `except asyncio.CancelledError`. -/
  | shuttingDown (orderId : String)
  /-- The messages and pauses of `except Exception`. -/
  | handling (orderId : String) (exc : Exc)
  | cancellingAfterError (orderId : String) (exc : Exc)
  | waitingAfterError (orderId : String) (exc : Exc)
  /-- The debit and the save of `except Exception`. -/
  | savingAfterError (orderId : String) (status : OrderIntentStatus)
  | recordingError (orderId : String) (status : OrderIntentStatus)
  | over
deriving DecidableEq

/-- What an awaited call of a leg answers.  An entry asks `_entry_runtime_ready_for_market` after
some of its calls. -/
inductive LegAnswer
  | wrote (answer : WriteAnswer Exc) (ready : Bool)
  | guarded (answer : Except Exc Bool) (ready : Bool)
  /-- One call of `persist_order_id`. -/
  | persisted (orderId : String) (answer : WriteAnswer Exc)
  | placed (answer : Except Exc String)
  | called (answer : Except Exc Unit)
  | reported (answer : Except Exc ExecutionReport)

/-- The exception an answer raises in the leg. -/
def LegAnswer.raised : LegAnswer → Option Exc
  | wrote (.failed _ exc) _ | guarded (.error exc) _ | placed (.error exc)
  | called (.error exc) | reported (.error exc) => some exc
  | _ => none

namespace LegCall

variable (call : LegCall)

/-- Which `except` clause takes an exception of the `try`. -/
def raises (orderId : String) : Exc → LegPhase
  | .cancelled => .shuttingDown orderId
  | .residual report contracts =>
      if call.isEntry then .handling orderId (.residual report contracts)
      else .exposed report.orderId
  | exc => .handling orderId exc

/-- A rejection ends the leg, unless its update raises in the `try`. -/
def afterRejection (inTry : Bool) : WriteAnswer Exc → LegPhase
  | .done => .over
  | .failed _ exc => if inTry then call.raises failedBeforeOrder exc else .over

/-- The call after `order_id` was confirmed and the status recorded. -/
def afterRecording (orderId : String) (status : OrderIntentStatus) : LegPhase :=
  if call.isEntry ∨ status = .unknown then .finishing orderId else .over

/-- `except Exception` after its messages: the order id of the exception, and what is read of the
order. -/
def handle (before : String) (exc : Exc) : LegPhase :=
  let orderId := if before = failedBeforeOrder then exc.orderId?.getD before else before
  if call.isEntry ∧ Router.isRejected exc then .savingAfterError orderId .cancelled
  else if orderId = failedBeforeOrder then .recordingError orderId .unknown
  else .cancellingAfterError orderId exc

/-- `except Exception` after it read the order. -/
def afterReading (orderId : String) (exc : Exc) : Except Exc ExecutionReport → LegPhase
  | .error .cancelled => .over
  | .error (.residual report contracts) =>
      if call.isEntry then .recordingError orderId .unknown
      else .recordingError orderId (Router.statusAfterError (some report)
        (.residual report contracts))
  | .error _ => .recordingError orderId .unknown
  | .ok report =>
      if call.isEntry then
        .savingAfterError orderId (Router.buyStatusAfterError (some report) exc)
      else .recordingError orderId (Router.statusAfterError (some report) exc)

/-- The write a phase awaits. -/
def write : LegPhase → Option IntentWrite
  | .creating => some (.create { call.intent with status := .prepared, venueOrderId := none })
  | .submitting => some (.update .submitting none)
  | .rejecting _ => some (.update .cancelled none)
  | .acknowledging orderId => some (.update .acknowledged (some orderId))
  | .recording orderId report => some (.update (intentStatusFromReport report) (some orderId))
  | .exposed orderId => some (.update .manualReview (some orderId))
  | .shuttingDown orderId => some (.update .unknown (knownOrderId orderId))
  | .recordingError orderId status => some (.update status (knownOrderId orderId))
  | _ => none

/-- The phase after an answer; no phase if it answers another call. -/
def next : LegPhase → LegAnswer → Option LegPhase
  | .creating, .wrote .done ready =>
      some (if call.isEntry ∧ ready = false then .rejecting false else .submitting)
  | .creating, .wrote (.failed _ _) _ => some .over
  | .submitting, .wrote .done ready =>
      some (if call.isEntry = false then .placing failedBeforeOrder
        else if ready then .guarding else .rejecting false)
  | .submitting, .wrote (.failed _ _) _ => some .over
  | .rejecting inTry, .wrote answer _ => some (call.afterRejection inTry answer)
  | .guarding, .guarded (.error exc) _ => some (call.raises failedBeforeOrder exc)
  | .guarding, .guarded (.ok false) _ => some (call.raises failedBeforeOrder (.rejected none))
  | .guarding, .guarded (.ok true) ready =>
      some (if ready then .placing failedBeforeOrder else .rejecting true)
  | .placing orderId, .persisted prepared _ =>
      some (.placing (if prepared = "" then orderId else prepared))
  | .placing orderId, .placed (.error exc) => some (call.raises orderId exc)
  | .placing orderId, .placed (.ok returned) =>
      some (if orderId = failedBeforeOrder ∨ returned.toLower ≠ orderId.toLower then
        call.raises orderId (.failed none) else .acknowledging returned)
  | .acknowledging orderId, .wrote .done _ => some (.waiting orderId)
  | .acknowledging orderId, .wrote (.failed _ exc) _ => some (call.raises orderId exc)
  | .waiting orderId, .reported (.error exc) => some (call.raises orderId exc)
  | .waiting orderId, .reported (.ok report) =>
      some (if report.isFilled then .recording orderId report else .cancelling orderId report)
  | .cancelling orderId _, .called (.error .cancelled) => some (call.raises orderId .cancelled)
  | .cancelling orderId report, .called _ => some (.rereading orderId report)
  | .rereading orderId _, .reported (.error .cancelled) => some (call.raises orderId .cancelled)
  | .rereading orderId report, .reported (.error _) => some (.recording orderId report)
  | .rereading orderId previous, .reported (.ok current) =>
      some (.recording orderId
        (if previous.amountFilled ≤ current.amountFilled then current else previous))
  | .recording orderId report, .wrote .done _ =>
      some (call.afterRecording orderId (intentStatusFromReport report))
  | .recording orderId _, .wrote (.failed _ exc) _ => some (call.raises orderId exc)
  | .finishing _, .called (.ok _) => some .over
  | .finishing orderId, .called (.error exc) => some (call.raises orderId exc)
  | .exposed _, .wrote _ _ => some .over
  | .shuttingDown _, .wrote _ _ => some .over
  | .handling _ _, .called (.error _) => some .over
  | .handling orderId exc, .called (.ok _) => some (call.handle orderId exc)
  | .cancellingAfterError _ _, .called (.error .cancelled) => some .over
  | .cancellingAfterError orderId exc, .called _ => some (.waitingAfterError orderId exc)
  | .waitingAfterError orderId exc, .reported answer => some (call.afterReading orderId exc answer)
  | .savingAfterError _ _, .called (.error _) => some .over
  | .savingAfterError orderId status, .called (.ok _) => some (.recordingError orderId status)
  | .recordingError _ _, .wrote _ _ => some .over
  | _, _ => none

/-- The row after an answer. -/
def row (phase : LegPhase) (answer : LegAnswer) (row : Option OrderIntent) : Option OrderIntent :=
  match phase, answer with
  | .placing _, .persisted prepared answer =>
      if prepared = "" then row
      else afterWrite answer (.update .submitting (some prepared)) row
  | phase, .wrote answer _ => (call.write phase).elim row fun write => afterWrite answer write row
  | _, _ => row

end LegCall

/-! ## The cycle -/

/-- `_SYNTHETIC_MARKET_KEY_PREFIXES` and `_SYNTHETIC_TOKEN_IDS`: `_is_synthetic_order_intent`. -/
def isSyntheticOrderIntent (intent : OrderIntent) : Bool :=
  (intent.marketKey.startsWith "integration:" ∨ intent.marketKey.startsWith "restart:") ∧
    intent.tokenId ∈ ["integration-token", "restart-token"]

/-- `_intent_status`. -/
def intentStatus : ExecutionStatus → OrderIntentStatus
  | .stillOpen => .acknowledged
  | .partlyFilled => .partlyFilled
  | .filled => .filled
  | .cancelled => .cancelled
  | .expired => .cancelled

/-- The call a cycle awaits, as far as it concerns the intent. -/
inductive CyclePhase
  | idle
  /-- `restore_order_context` and `get_order` for the copy. -/
  | fetching (venueOrderId : String)
  /-- An update of the loop over the copies; one from a report also stores the venue order. -/
  | storing (status : OrderIntentStatus) (venueOrderId : Option String) (fromReport : Bool)
  | upserting
  /-- `list_open_orders`. -/
  | listing
  /-- The loop over the open orders. -/
  | openOrders
  | upsertingOpen (venueOrderId : String)
  | marking (venueOrderId : String)
  | cancellingOpen (venueOrderId : String)
  | fetchingOpen (venueOrderId : String)
  | storingOpen (venueOrderId : String) (status : OrderIntentStatus)
  | storingFailed (venueOrderId : String)
  /-- The exposures of `list_fills`. -/
  | exposures
  /-- `record_residual_exit_exposure`, from one of the two loops. -/
  | recordingExposure (venueOrderId : String) (fromFills : Bool)
  | storingExposure (venueOrderId : String) (fromFills : Bool)
deriving DecidableEq

/-- A cycle: the copy of the intent it read, whether that counts as potentially submitted, and the
residual orders it has handled. -/
structure Cycle where
  phase : CyclePhase := .idle
  copy : Option OrderIntent := none
  potentiallySubmitted : Bool := false
  handledResiduals : List String := []
deriving DecidableEq

/-- A step of a cycle. -/
inductive CycleAnswer
  /-- The unresolved intents are read: is there a grace, and was the row updated recently? -/
  | read (allowInflightGrace recent : Bool)
  /-- `get_order`; does its exception say that there is no such order? -/
  | reported (answer : Except Exc ExecutionReport) (notFound : Bool)
  | wrote (answer : WriteAnswer Exc)
  | called (answer : Except Exc Unit)
  /-- The next open order, and what `can_defer_untracked` says of it. -/
  | order (venueOrderId : String) (clientOrderId : Option String) (canDefer : Bool)
  /-- The next exposure of `list_fills`. -/
  | exposure (orderId : String)
  /-- The loop is through. -/
  | through

/-- Is this the order of the intent?  `client_order_id_for_venue_order`. -/
def isVenueOrder (venueOrderId : String) (intent : OrderIntent) : Bool :=
  match intent.venueOrderId with
  | none => false
  | some known =>
      known = venueOrderId ∨
        (':' ∉ venueOrderId.toList ∧ (":" ++ venueOrderId).toList <:+ known.toList)

/-- `_is_recent_inflight_intent`; `recent` says that its update is within the grace. -/
def isRecentInflightIntent (intent : OrderIntent) (recent : Bool) : Bool :=
  (intent.status = .prepared ∨ intent.status = .submitting) ∧ recent

/-- The first call for a copy that is not graced. -/
def reachCopy (copy : OrderIntent) : CyclePhase :=
  match truthy copy.venueOrderId with
  | some venueOrderId => .fetching venueOrderId
  | none =>
      if isSyntheticOrderIntent copy then .storing .cancelled none false
      else .storing .manualReview none false

/-- The cycle after it read the intent; `routes` are those of its runtime, none meaning all. -/
def readCycle (routes : List String) (allowInflightGrace recent : Bool)
    (row : Option OrderIntent) : Cycle :=
  match row.filter fun intent =>
      isTerminal intent.status = false ∧ (routes = [] ∨ intent.route ∈ routes) with
  | none => { phase := .listing }
  | some copy =>
      if allowInflightGrace ∧ isRecentInflightIntent copy recent then
        { phase := .listing, copy := some copy, potentiallySubmitted := copy.status = .submitting }
      else { phase := reachCopy copy, copy := some copy }

/-- The loop over the copies after `get_order`; what it does not take ends the cycle. -/
def afterFetching (copy : OrderIntent) (venueOrderId : String) (notFound : Bool) :
    Except Exc ExecutionReport → CyclePhase
  | .ok report => .storing (intentStatus report.status) (some venueOrderId) true
  | .error (.residual report _) =>
      if copy.action = "SELL" then .recordingExposure report.orderId false else .idle
  | .error .cancelled => .idle
  | .error _ =>
      if isSyntheticOrderIntent copy ∧ notFound then .storing .cancelled (some venueOrderId) false
      else .idle

/-- The status an open order is stored with after it was cancelled. -/
def reconciledStatus (report : ExecutionReport) : OrderIntentStatus :=
  if intentStatus report.status = .acknowledged then .unknown else intentStatus report.status

/-- What the loop over the open orders does with an order; orders of other intents are passed. -/
def reachOrder (cycle : Cycle) (row : Option OrderIntent) (clientOrderId venueOrderId : String)
    (remoteClientOrderId : Option String) (canDefer : Bool) : CyclePhase :=
  let persisted := row.any (isVenueOrder venueOrderId)
  let remote := truthy remoteClientOrderId = some clientOrderId
  if (persisted ∨ remote) ∧ cycle.potentiallySubmitted ∧ canDefer then .openOrders
  else if persisted ∨ (remote ∧ cycle.copy.isSome) then .upsertingOpen venueOrderId
  else .openOrders

/-- What the loop over the exposures does with one; exposures of other intents are passed. -/
def reachExposure (cycle : Cycle) (row : Option OrderIntent) (orderId : String) : CyclePhase :=
  if row.any (fun intent => intent.venueOrderId.any fun known => known.toLower = orderId.toLower) ∧
      orderId.toLower ∉ cycle.handledResiduals then
    if row.any (fun intent => intent.action = "SELL") then .recordingExposure orderId true
    else .idle
  else .exposures

/-- The write a phase awaits. -/
def CyclePhase.write : CyclePhase → Option IntentWrite
  | .storing status venueOrderId _ => some (.update status venueOrderId)
  | .marking venueOrderId => some (.update .cancelPending (some venueOrderId))
  | .storingOpen venueOrderId status => some (.update status (some venueOrderId))
  | .storingFailed venueOrderId => some (.update .unknown (some venueOrderId))
  | .storingExposure venueOrderId _ => some (.update .manualReview (some venueOrderId))
  | _ => none

/-- The phase after a write that was done. -/
def CyclePhase.afterWrite : CyclePhase → CyclePhase
  | .storing _ _ fromReport => if fromReport then .upserting else .listing
  | .marking venueOrderId => .cancellingOpen venueOrderId
  | .storingExposure _ fromFills => if fromFills then .exposures else .listing
  | _ => .openOrders

/-- The phase after a write that failed: the loop over the open orders takes what its cancellation
raises. -/
def CyclePhase.afterFailure (phase : CyclePhase) (exc : Exc) : CyclePhase :=
  match phase with
  | .storingOpen venueOrderId _ => if exc = .cancelled then .idle else .storingFailed venueOrderId
  | _ => .idle

/-- The phase after a call returned. -/
def CyclePhase.afterCall : CyclePhase → Option CyclePhase
  | .upserting => some .listing
  | .listing => some .openOrders
  | .upsertingOpen venueOrderId => some (.marking venueOrderId)
  | .cancellingOpen venueOrderId => some (.fetchingOpen venueOrderId)
  | .recordingExposure venueOrderId fromFills => some (.storingExposure venueOrderId fromFills)
  | _ => none

/-- The phase after a call raised. -/
def CyclePhase.afterError (phase : CyclePhase) (exc : Exc) : CyclePhase :=
  match phase with
  | .cancellingOpen venueOrderId | .fetchingOpen venueOrderId =>
      if exc = .cancelled then .idle else .storingFailed venueOrderId
  | _ => .idle

/-- One step of the cycle; `clientOrderId` is the key of the intent. -/
def Cycle.step (routes : List String) (clientOrderId : String) (row : Option OrderIntent)
    (cycle : Cycle) : CycleAnswer → Option Cycle
  | .read allowInflightGrace recent =>
      if cycle.phase = .idle then some (readCycle routes allowInflightGrace recent row) else none
  | .reported answer notFound =>
      match cycle.phase, answer with
      | .fetching venueOrderId, answer =>
          cycle.copy.map fun copy =>
            { cycle with phase := afterFetching copy venueOrderId notFound answer }
      | .fetchingOpen venueOrderId, .ok report =>
          some { cycle with phase := .storingOpen venueOrderId (reconciledStatus report) }
      | .fetchingOpen venueOrderId, .error exc =>
          some { cycle with phase := CyclePhase.afterError (.fetchingOpen venueOrderId) exc }
      | _, _ => none
  | .wrote answer =>
      match cycle.phase.write, answer with
      | none, _ => none
      | some _, .failed _ exc => some { cycle with phase := cycle.phase.afterFailure exc }
      | some _, .done =>
          some { cycle with
            phase := cycle.phase.afterWrite
            handledResiduals :=
              match cycle.phase with
              | .storingExposure venueOrderId _ => venueOrderId.toLower :: cycle.handledResiduals
              | _ => cycle.handledResiduals }
  | .called (.ok _) => cycle.phase.afterCall.map fun phase => { cycle with phase := phase }
  | .called (.error exc) =>
      cycle.phase.afterCall.map fun _ => { cycle with phase := cycle.phase.afterError exc }
  | .order venueOrderId remoteClientOrderId canDefer =>
      if cycle.phase = .openOrders then
        some { cycle with
          phase := reachOrder cycle row clientOrderId venueOrderId remoteClientOrderId canDefer }
      else none
  | .exposure orderId =>
      if cycle.phase = .exposures then
        some { cycle with phase := reachExposure cycle row orderId }
      else none
  | .through =>
      match cycle.phase with
      | .openOrders => some { cycle with phase := .exposures }
      | .exposures => some { cycle with phase := .idle }
      | _ => none

/-- The row after a step of the cycle. -/
def Cycle.row (cycle : Cycle) (answer : CycleAnswer) (row : Option OrderIntent) :
    Option OrderIntent :=
  match cycle.phase.write, answer with
  | some write, .wrote answer => afterWrite answer write row
  | _, _ => row

/-! ## Both -/

/-- The stored intent, the leg and the cycle. -/
structure IntentState where
  row : Option OrderIntent := none
  leg : LegPhase := .creating
  cycle : Cycle := {}
deriving DecidableEq

/-- A step of one of the two. -/
inductive IntentAct
  | leg (answer : LegAnswer)
  | cycle (answer : CycleAnswer)

/-- One step; the cycles are those of a runtime with these routes. -/
def intentStep (call : LegCall) (routes : List String) (s : IntentState) :
    IntentAct → Option IntentState
  | .leg answer =>
      (call.next s.leg answer).map fun phase =>
        { s with leg := phase, row := call.row s.leg answer s.row }
  | .cycle answer =>
      (s.cycle.step routes call.intent.clientOrderId s.row answer).map fun cycle =>
        { s with cycle := cycle, row := s.cycle.row answer s.row }

end ArbitrageEngine.Reconciliation
