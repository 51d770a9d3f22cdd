/-
# ArbitrageEngine.Reconciliation.VenueCycle -- one reconciliation cycle

`_reconcile_venue` goes through the unresolved intents, the open orders and the fills of a venue and
counts what does not fit as drift; `_run_once_unlocked` does so for every venue and decides whether
the engine is ready.  What the store and the venue answer is part of the rows, orders and fills.

An order or fill of no intent may be that of a submission on its way: it is passed over if fewer
venue orders were passed over so far than there are recent SUBMITTING intents.  The locals keep a
log of what was passed over, which the program does not have.
-/
import ArbitrageEngine.Reconciliation.IntentSteps

namespace ArbitrageEngine.Reconciliation

open Execution Lib.Effect

/-! ## Answers -/

/-- A row of `unresolved_order_intents`, with the answers to its calls. -/
structure UnresolvedRow where
  intent : OrderIntent
  /-- Its update is at most `_INFLIGHT_SUBMISSION_GRACE_SECONDS` old. -/
  recent : Bool
  /-- `restore_order_context` and `get_order`. -/
  fetch : Except Exc ExecutionReport
  notFound : Bool
  updateIntent : Except Exc Unit
  upsertVenueOrder : Except Exc Unit
  /-- `_persist_residual_exit_exposure` after its check. -/
  persistExposure : Except Exc Unit

/-- An order of `list_open_orders`. -/
structure OpenOrder where
  venueOrderId : String
  clientOrderId : String
  /-- `client_order_id_for_venue_order`. -/
  persisted : Except Exc (Option String)
  upsertVenueOrder : Except Exc Unit
  markCancelPending : Except Exc Unit
  cancelOrder : Except Exc Unit
  fetch : Except Exc ExecutionReport
  updateIntent : Except Exc Unit
  updateFailed : Except Exc Unit

/-- A fill of `list_fills`. -/
structure ListedFill where
  fillId : String
  venueOrderId : String
  clientOrderId : String
  /-- `client_order_id_for_venue_order`. -/
  persisted : Except Exc (Option String)
  insert : Except Exc Bool

/-- An exposure of the batch `list_fills` raises. -/
structure ListedExposure where
  orderId : String
  /-- The action of the intent found for it. -/
  context : Option String
  persistExposure : Except Exc Unit

/-- The active `ExternalAccountBaseline`. -/
structure Baseline where
  accountFingerprint : String
  fillRefs : List String

/-- The answers to one `_reconcile_venue`. -/
structure VenueAnswers where
  baseline : Except Exc (Option Baseline)
  /-- `reconciliation_account_fingerprint`. -/
  fingerprint : Option String
  unresolved : Except Exc (List UnresolvedRow)
  openOrders : Except Exc (List OpenOrder)
  /-- The rows and contexts of the fills. -/
  fillContexts : Except Exc Unit
  fills : Except Exc (List ListedExposure × List ListedFill)
  auditDeferred : Except Exc Unit
  auditOpenOrders : Except Exc Unit
  auditFills : Except Exc Unit
  /-- The positions of a full cycle: how many do not match. -/
  mismatches : Except Exc ℕ
  recordReconciliation : Except Exc Unit
  /-- `_is_transient_reconciliation_exception`. -/
  isTransient : Exc → Bool

/-! ## Locals -/

/-- Something of no intent that was passed over, by its venue order id. -/
inductive Deferred
  | order (venueOrderId : String)
  | fill (fillId venueOrderId : String)
deriving DecidableEq

/-- The venue order of what was passed over. -/
def Deferred.venueOrderId : Deferred → String
  | order venueOrderId => venueOrderId
  | fill _ venueOrderId => venueOrderId

/-- The locals of `_reconcile_venue`, and the log. -/
structure VenueLocals where
  checked : ℕ := 0
  fillsRecorded : ℕ := 0
  drift : ℕ := 0
  untrackedOpenOrderIds : List String := []
  untrackedFillRefs : List String := []
  gracedVenueOrderIds : List String := []
  handledResidualOrderIds : List String := []
  deferred : List Deferred := []
deriving DecidableEq

/-- The body of `_reconcile_venue`. -/
abbrev VenueEffect (α : Type) : Type := EStateM Exc VenueLocals α

/-- `checked += 1`. -/
def countChecked (l : VenueLocals) : VenueLocals := { l with checked := l.checked + 1 }

/-- `drift += amount`. -/
def addDrift (amount : ℕ) (l : VenueLocals) : VenueLocals := { l with drift := l.drift + amount }

/-- `untracked_open_order_ids.add`. -/
def addUntrackedOrder (venueOrderId : String) (l : VenueLocals) : VenueLocals :=
  { l with untrackedOpenOrderIds := l.untrackedOpenOrderIds.insert venueOrderId }

/-- `untracked_fill_refs.add`. -/
def addUntrackedFill (fillRef : String) (l : VenueLocals) : VenueLocals :=
  { l with untrackedFillRefs := l.untrackedFillRefs.insert fillRef }

/-- `handled_residual_order_ids.add`. -/
def addHandled (orderId : String) (l : VenueLocals) : VenueLocals :=
  { l with handledResidualOrderIds := l.handledResidualOrderIds.insert orderId }

/-- `fills_recorded += int(inserted)`. -/
def countRecorded (inserted : Bool) (l : VenueLocals) : VenueLocals :=
  { l with fillsRecorded := l.fillsRecorded + if inserted then 1 else 0 }

/-- Log what was passed over. -/
def logDeferred (item : Deferred) (l : VenueLocals) : VenueLocals :=
  { l with deferred := item :: l.deferred }

/-! ## The grace -/

/-- Is the row in `graced_intent_ids`? -/
def UnresolvedRow.graced (allowInflightGrace : Bool) (row : UnresolvedRow) : Bool :=
  allowInflightGrace ∧ isRecentInflightIntent row.intent row.recent

/-- `potentially_submitted_intent_ids`. -/
def potentiallySubmitted (allowInflightGrace : Bool) (rows : List UnresolvedRow) : List String :=
  ((rows.filter fun row => row.graced allowInflightGrace ∧ row.intent.status = .submitting).map
    fun row => row.intent.clientOrderId).dedup

/-- `unresolved_client_order_ids`. -/
def unresolvedClientOrderIds (rows : List UnresolvedRow) : List String :=
  rows.map fun row => row.intent.clientOrderId

/-- `can_defer_untracked`. -/
def canDeferUntracked (submitted : List String) (venueOrderId : String) : VenueEffect Bool := do
  let l ← get
  if venueOrderId ∈ l.gracedVenueOrderIds then pure true
  else if submitted.length ≤ l.gracedVenueOrderIds.length then pure false
  else do
    modify fun l => { l with gracedVenueOrderIds := venueOrderId :: l.gracedVenueOrderIds }
    pure true

/-- `if (persisted … or remote …) and can_defer_untracked(…)`. -/
def defersSubmission (submitted : List String) (persisted remote : Option String)
    (venueOrderId : String) : VenueEffect Bool :=
  if persisted.any (fun id => id ∈ submitted) ∨ remote.any (fun id => id ∈ submitted) then
    canDeferUntracked submitted venueOrderId
  else pure false

/-- The client order id of an order or fill: the stored one, or the venue's if it is unresolved. -/
def knownClientOrderId (unresolved : List String) (persisted remote : Option String) :
    Option String :=
  (truthy persisted).or (remote.filter fun id => id ∈ unresolved)

/-! ## The three loops -/

/-- An intent of the first loop. -/
def reconcileIntent (allowInflightGrace : Bool) (row : UnresolvedRow) : VenueEffect Unit := do
  modify countChecked
  if row.graced allowInflightGrace then pure ()
  else match truthy row.intent.venueOrderId with
    | none => do
        whenever (isSyntheticOrderIntent row.intent = false) (modify (addDrift 1))
        await row.updateIntent
    | some _ => do
        match ← attempt Exc.any (await row.fetch) with
        | .ok report => do
            await row.updateIntent
            await row.upsertVenueOrder
            whenever (intentStatus report.status = .unknown ∨
              intentStatus report.status = .manualReview) (modify (addDrift 1))
        | .error (.residual report _) =>
            if row.intent.action ≠ "SELL" then throw (.failed none)
            else do
              await row.persistExposure
              modify (addHandled report.orderId.toLower)
              modify (addDrift 1)
        | .error exc =>
            if exc ≠ .cancelled ∧ isSyntheticOrderIntent row.intent ∧ row.notFound then
              await row.updateIntent
            else throw exc

/-- `cancel_order` and what follows it. -/
def cancelOpenOrder (order : OpenOrder) : VenueEffect Unit := do
  await order.cancelOrder
  let report ← await order.fetch
  await order.updateIntent
  whenever (reconciledStatus report ≠ .cancelled ∧ reconciledStatus report ≠ .filled)
    (modify (addDrift 1))

/-- An open order of an intent. -/
def closeOpenOrder (order : OpenOrder) : VenueEffect Unit := do
  await order.upsertVenueOrder
  await order.markCancelPending
  match ← attempt Exc.caught (cancelOpenOrder order) with
  | .ok _ => pure ()
  | .error _ => do
      modify (addDrift 1)
      await order.updateFailed

/-- An open order of no intent. -/
def untrackedOrder (submitted : List String) (venueOrderId : String) : VenueEffect Unit := do
  let deferred ← canDeferUntracked submitted venueOrderId
  modify (if deferred then logDeferred (.order venueOrderId) else addUntrackedOrder venueOrderId)

/-- An order of the second loop. -/
def reconcileOrder (submitted unresolved : List String) (order : OpenOrder) :
    VenueEffect Unit := do
  modify countChecked
  let persisted ← await order.persisted
  let remote := truthy (some order.clientOrderId)
  let deferred ← defersSubmission submitted persisted remote order.venueOrderId
  if deferred then pure ()
  else match knownClientOrderId unresolved persisted remote with
    | none => untrackedOrder submitted order.venueOrderId
    | some _ => closeOpenOrder order

/-- An exposure of the batch. -/
def reconcileExposure (exposure : ListedExposure) : VenueEffect Unit :=
  match exposure.context with
  | none => throw (.failed none)
  | some action => do
      let l ← get
      if exposure.orderId.toLower ∈ l.handledResidualOrderIds then pure ()
      else if action ≠ "SELL" then throw (.failed none)
      else do
        await exposure.persistExposure
        modify (addHandled exposure.orderId.toLower)
        modify (addDrift 1)

/-- `fill.fill_id or fill.venue_order_id`. -/
def ListedFill.ref (fill : ListedFill) : String :=
  if fill.fillId = "" then fill.venueOrderId else fill.fillId

/-- A fill of no intent. -/
def untrackedFill (submitted fillRefs : List String) (fill : ListedFill) : VenueEffect Unit := do
  let deferred ← canDeferUntracked submitted fill.venueOrderId
  modify (if deferred then logDeferred (.fill fill.fillId fill.venueOrderId)
    else if fill.ref ∈ fillRefs then id else addUntrackedFill fill.ref)

/-- A fill of the third loop. -/
def reconcileFill (submitted unresolved fillRefs : List String) (fill : ListedFill) :
    VenueEffect Unit := do
  let persisted ← await fill.persisted
  let remote := truthy (some fill.clientOrderId)
  let deferred ← defersSubmission submitted persisted remote fill.venueOrderId
  if deferred then pure ()
  else match knownClientOrderId unresolved persisted remote with
    | none => untrackedFill submitted fillRefs fill
    | some _ => do
        let inserted ← await fill.insert
        modify (countRecorded inserted)

/-! ## The cycle of a venue -/

/-- The fill refs of the active baseline, whose account must be that of the client. -/
def baselineFillRefs (fingerprint : Option String) :
    Option Baseline → Except Exc (List String)
  | none => .ok []
  | some baseline =>
      match fingerprint with
      | none => .error (.failed none)
      | some current =>
          if current.toLower = baseline.accountFingerprint.toLower then .ok baseline.fillRefs
          else .error (.failed none)

/-- The audits, each after its drift. -/
def countUntracked (answers : VenueAnswers) : VenueEffect Unit := do
  let l ← get
  whenever (l.gracedVenueOrderIds ≠ []) (await answers.auditDeferred)
  whenever (l.untrackedOpenOrderIds ≠ []) do
    modify (addDrift l.untrackedOpenOrderIds.length)
    await answers.auditOpenOrders
  whenever (l.untrackedFillRefs ≠ []) do
    modify (addDrift l.untrackedFillRefs.length)
    await answers.auditFills

/-- The positions of a full cycle. -/
def countMismatches (answers : VenueAnswers) (full : Bool) : VenueEffect Unit :=
  whenever (full = true) do
    let mismatches ← await answers.mismatches
    modify (addDrift mismatches)

/-- The body of the `try` of `_reconcile_venue`. -/
def venueBody (answers : VenueAnswers) (full allowInflightGrace : Bool) : VenueEffect Unit := do
  let baseline ← await answers.baseline
  let fillRefs ← await (baselineFillRefs answers.fingerprint baseline)
  let rows ← await answers.unresolved
  let submitted := potentiallySubmitted allowInflightGrace rows
  let unresolved := unresolvedClientOrderIds rows
  rows.forM (reconcileIntent allowInflightGrace)
  let orders ← await answers.openOrders
  orders.forM (reconcileOrder submitted unresolved)
  await answers.fillContexts
  let (exposures, fills) ← await answers.fills
  exposures.forM reconcileExposure
  fills.forM (reconcileFill submitted unresolved fillRefs)
  countUntracked answers
  countMismatches answers full

/-- `ReconciliationResult`, as far as readiness goes. -/
structure ReconciliationResult where
  driftCount : ℕ
  success : Bool
  transientFailure : Bool
deriving DecidableEq

/-- The locals a cycle ends with. -/
def venueLocals (answers : VenueAnswers) (full allowInflightGrace : Bool) : VenueLocals :=
  finalState (venueBody answers full allowInflightGrace) {}

/-- The result after the `try`; a cancellation goes on. -/
def venueResult (answers : VenueAnswers) (full allowInflightGrace : Bool) :
    Except Exc ReconciliationResult :=
  let drift := (venueLocals answers full allowInflightGrace).drift
  match raised (venueBody answers full allowInflightGrace) {} with
  | none => .ok ⟨drift, true, false⟩
  | some .cancelled => .error .cancelled
  | some exc => .ok ⟨drift, false, answers.isTransient exc⟩

/-- `_reconcile_venue`. -/
def reconcileVenue (full allowInflightGrace : Bool) (answers : VenueAnswers) :
    Except Exc ReconciliationResult := do
  let result ← venueResult answers full allowInflightGrace
  answers.recordReconciliation
  pure result

/-! ## Readiness -/

/-- What `ReconciliationService` keeps of its cycles. -/
structure ServiceState where
  ready : Bool := false
  consecutiveTransientFailures : ℕ := 0
deriving DecidableEq

/-- `_partition_reconciliation_failures`, the first part. -/
def isHardFailure (result : ReconciliationResult) : Bool :=
  0 < result.driftCount ∨ (result.success = false ∧ result.transientFailure = false)

/-- The second part. -/
def isTransientFailure (result : ReconciliationResult) : Bool :=
  result.driftCount = 0 ∧ result.success = false ∧ result.transientFailure

/-- The end of `_run_once_unlocked`. -/
def afterCycle (results : List ReconciliationResult) (service : ServiceState) : ServiceState :=
  if results.any isHardFailure then ⟨false, 0⟩
  else if results.any isTransientFailure then
    ⟨false, service.consecutiveTransientFailures + 1⟩
  else ⟨true, 0⟩

/-- `_run_once_unlocked`: a venue that raises leaves the service as it was. -/
def runOnce (venues : List VenueAnswers) (full : Bool) (service : ServiceState) :
    Except Exc (List ReconciliationResult × ServiceState) := do
  let results ← venues.mapM (reconcileVenue full true)
  pure (results, afterCycle results service)

/-- One round of `_run` that is not cancelled: an exception ends readiness. -/
def runRound (venues : List VenueAnswers) (full : Bool) (service : ServiceState) :
    ServiceState :=
  match runOnce venues full service with
  | .ok (_, next) => next
  | .error _ => { service with ready := false }

/-- Did the attempt for a venue succeed at startup? -/
def isStartupSuccess : Except Exc ReconciliationResult → Bool
  | .error _ => false
  | .ok result => result.success ∧ ¬ 0 < result.driftCount

/-- `_startup_reconcile_unlocked`: each venue with the answers to its attempts, which end with the
first that succeeds.  Is the service ready? -/
def startupReady (venues : List (List VenueAnswers)) : Bool :=
  venues.all fun attempts => attempts.any fun answers =>
    isStartupSuccess (reconcileVenue true false answers)

end ArbitrageEngine.Reconciliation
