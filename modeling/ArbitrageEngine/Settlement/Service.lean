/-
# ArbitrageEngine.Settlement.Service -- one pass of the settlement service

`SettlementService.run_once` and what it calls, as effects on the durable tables and the in-memory
ledger.  Every awaited call is answered by the environment: a store write may fail before or after
its commit, a connector may return any report, and either may end in an exception or with the death
of the process.  The answers to one pass are a record with a field for each call; no call is made
twice for one leg, so a field stands for one await.

Two logs that the service does not keep say what happened outside: which redemptions were
submitted, and which positions were removed while the table of intents stood how.
-/
import ArbitrageEngine.Lib.Effect
import ArbitrageEngine.Settlement.Intents

namespace ArbitrageEngine.Settlement

open Lib.Effect

/-! ## The environment -/

/-- An audit row. -/
structure AuditEvent where
  event : String
  positionKey : String
  detail : String
deriving DecidableEq

/-- What a pass reads and writes. -/
structure World where
  intents : RedemptionTable
  positions : Lib.Dict String OpenPosition
  audits : List AuditEvent
  ledger : PositionLedger
  /-- The `redeem_position` calls so far. -/
  redeemed : List RedemptionKey
  /-- The positions removed so far, each with the intents at its removal. -/
  removed : List (OpenPosition × RedemptionTable)
deriving DecidableEq

/-- An effect of the service. -/
abbrev Effect (α : Type) : Type := EStateM Fault World α

/-- The answers to the awaits of `_manual_review`. -/
structure ManualReviewAnswers where
  savePosition : WriteAnswer Fault
  audit : WriteAnswer Fault
  pause : Except Fault Unit
  sendHtml : Except Fault Unit

/-- The answers to the awaits that concern one leg of a position. -/
structure LegAnswers where
  settlementStatus : Except Fault SettlementStatus
  lookup : Except Fault Unit
  redemptionId : String
  createdAt : Time
  create : WriteAnswer Fault
  reread : Except Fault Unit
  reconcile : Except Fault RedemptionReport
  checkedAt : Time
  confirm : WriteAnswer Fault
  marker : WriteAnswer Fault
  redeem : Except Fault RedemptionReport
  record : WriteAnswer Fault
  markUnknown : WriteAnswer Fault
  /-- The clock at the writes of this leg. -/
  writtenAt : Time
  manualReview : ManualReviewAnswers
  /-- `is_paused()` after the leg: other tasks may have paused or resumed during its awaits. -/
  isPaused : Bool

/-- The answers that concern one position. -/
structure PositionAnswers where
  first : LegAnswers
  second : LegAnswers
  manualReview : ManualReviewAnswers
  audit : WriteAnswer Fault
  removePosition : WriteAnswer Fault

/-- How the service is configured. -/
structure Service where
  /-- Is there a durable repository? -/
  repository : Bool
  /-- The client of a venue, by its `prepare_settlement_request`: the clients fill in the
  collateral token or raise. -/
  clients : String → Option (SettlementRequest → Except String String)

/-! ## Manual review -/

/-- `_manual_review`. -/
def manualReview (service : Service) (answers : ManualReviewAnswers) (position : OpenPosition)
    (reason : String) : Effect Unit := do
  let updated := { position with status := "manual_review" }
  let key := positionKey position.market
  if service.repository then
    transact answers.savePosition fun w => { w with positions := w.positions.set key updated }
    transact answers.audit fun w =>
      { w with audits := w.audits ++ [⟨"settlement_manual_review", key, reason⟩] }
  modify fun w => { w with ledger := w.ledger.add updated }
  await answers.pause
  await answers.sendHtml

/-- `update_redemption_intent`. -/
def updateRedemptionIntent (answer : WriteAnswer Fault) (now : Time) (redemptionId : String)
    (status : RedemptionIntentStatus) (txHash error : Option String) :
    Effect RedemptionIntent := do
  let w ← get
  match w.intents.byId redemptionId with
  | none => throw (.raised ("Unknown redemption id: " ++ redemptionId))
  | some row => do
      transact answer fun w =>
        { w with intents := w.intents.update redemptionId status txHash error now }
      pure (row.updated status txHash error now)

/-- `_mark_unknown`. -/
def markUnknown (service : Service) (answers : LegAnswers) (position : OpenPosition)
    (intent : RedemptionIntent) (reason : String) : Effect Bool := do
  let _ ← updateRedemptionIntent answers.markUnknown answers.writtenAt intent.redemptionId .unknown
    intent.txHash (some reason)
  manualReview service answers.manualReview position
    ("UNKNOWN redemption for " ++ intent.venue ++ ": " ++ reason)
  pure false

/-! ## One redemption -/

/-- The intent `_process_redemption` works on: the stored one, or the one it creates and reads
back. -/
def intentFor (service : Service) (answers : LegAnswers) (position : OpenPosition)
    (request : SettlementRequest) : Effect (Option RedemptionIntent) := do
  await answers.lookup
  let w ← get
  match w.intents.lookup request.key with
  | some intent => pure (some intent)
  | none => do
      let candidate := RedemptionIntent.candidate request answers.redemptionId answers.createdAt
      transact answers.create fun w => { w with intents := w.intents.create candidate }
      await answers.reread
      let w ← get
      match w.intents.lookup request.key with
      | some intent => pure (some intent)
      | none => do
          manualReview service answers.manualReview position
            ("could not persist redemption intent for " ++ request.venue)
          pure none

/-- `REDEMPTION_PENDING_TIMEOUT_SECONDS`, in the unit of `Time`. -/
def redemptionPendingTimeout : Time := 180 * 1000000

/-- The branch of `_process_redemption` for a SUBMITTED or UNKNOWN intent: ask the connector about
the transaction that was sent. -/
def reconcileSubmitted (service : Service) (answers : LegAnswers) (position : OpenPosition)
    (intent : RedemptionIntent) : Effect Bool :=
  if truthy intent.txHash = none then
    markUnknown service answers position intent
      "transaction hash unavailable; blind retry forbidden"
  else do
    match ← attempt Fault.caught (await answers.reconcile) with
    | .error exc =>
        markUnknown service answers position intent ("receipt reconciliation failed: " ++ exc)
    | .ok report =>
        if report.status = .confirmed then do
          let _ ← updateRedemptionIntent answers.confirm answers.writtenAt intent.redemptionId
            .confirmed report.txHash none
          pure true
        else if report.status = .unknown ∧ truthy report.error = none ∧
            answers.checkedAt - intent.updatedAt < redemptionPendingTimeout then
          pure false
        else
          markUnknown service answers position intent
            ((truthy report.error).getD "redemption receipt unresolved after timeout")

/-- What `_process_redemption` does with the report of a submission. -/
def recordReport (service : Service) (answers : LegAnswers) (position : OpenPosition)
    (request : SettlementRequest) (intent : RedemptionIntent) (report : RedemptionReport) :
    Effect Bool := do
  let _ ← updateRedemptionIntent answers.record answers.writtenAt intent.redemptionId report.status
    report.txHash report.error
  if report.status = .confirmed then pure true
  else if report.status = .submitted ∧ truthy report.txHash ≠ none then pure false
  else if report.status = .failed ∨ report.status = .manualReview then do
    manualReview service answers.manualReview position
      ("redemption submission is " ++ report.status.value ++ " for " ++ request.venue ++ ": " ++
        (truthy report.error).getD "unknown")
    pure false
  else
    markUnknown service answers position
      { intent with txHash := (truthy report.txHash).or intent.txHash }
      ((truthy report.error).getD "redemption submission result is ambiguous")

/-- The branch of `_process_redemption` for a PENDING intent: the UNKNOWN marker is written before
the redemption is submitted. -/
def submitRedemption (service : Service) (answers : LegAnswers) (position : OpenPosition)
    (request : SettlementRequest) (intent : RedemptionIntent) : Effect Bool := do
  let intent ← updateRedemptionIntent answers.marker answers.writtenAt intent.redemptionId .unknown
    none (some "submission entered ambiguity window; blind retry is forbidden")
  modify fun w => { w with redeemed := w.redeemed ++ [request.key] }
  match ← attempt Fault.caught (await answers.redeem) with
  | .error exc =>
      markUnknown service answers position intent
        ("redemption submission failed ambiguously: " ++ exc)
  | .ok report => recordReport service answers position request intent report

/-- `_process_redemption`. -/
def processRedemption (service : Service) (answers : LegAnswers) (position : OpenPosition)
    (request : SettlementRequest) : Effect Bool := do
  match ← intentFor service answers position request with
  | none => pure false
  | some intent =>
      match intent.status with
      | .confirmed => pure true
      | .failed | .manualReview => do
          manualReview service answers.manualReview position
            ("redemption is " ++ intent.status.value ++ " for " ++ request.venue)
          pure false
      | .submitted | .unknown => reconcileSubmitted service answers position intent
      | .pending => submitRedemption service answers position request intent

/-! ## One position -/

/-- `_settlement_request`. -/
def settlementRequest (position : OpenPosition) (venue : String) (expectedContracts : Dec) :
    Option SettlementRequest :=
  let market := position.market
  let request (marketId conditionId : Option String) (collateral : String) :
      Option SettlementRequest :=
    match truthy marketId, truthy conditionId with
    | some marketId, some conditionId =>
        some ⟨positionKey market, venue, marketId, conditionId, collateral, expectedContracts⟩
    | _, _ => none
  if venue = market.venueALabel then
    request ((truthy market.polymarketMarketId).or market.conditionId)
      (if venue = "Polymarket" then market.conditionId else market.polymarketMarketId) ""
  else if venue = "Predict.fun" ∨ venue = "SX Bet" ∨ venue = "Opinion" then
    request market.predictFunMarketId market.predictFunMarketId ""
  else if venue = "Myriad" then
    request market.myriadMarketId market.myriadMarketId
      ((truthy market.myriadCollateralToken).getD "")
  else none

/-- One round of the loop of `_reconcile_position` that builds the requests; an error is the reason
for a manual review. -/
def prepareRequest (service : Service) (position : OpenPosition) (venue : String)
    (expectedContracts : Dec) : Except String SettlementRequest :=
  match service.clients venue, settlementRequest position venue expectedContracts with
  | some prepareSettlementRequest, some request =>
      match prepareSettlementRequest request with
      | .ok collateralToken => .ok { request with collateralToken := collateralToken }
      | .error exc => .error ("invalid settlement configuration for " ++ venue ++ ": " ++ exc)
  | _, _ => .error ("settlement metadata or connector unavailable for " ++ venue)

/-- The requests of both legs. -/
def prepareRequests (service : Service) (position : OpenPosition) :
    Except String (SettlementRequest × SettlementRequest) := do
  let first ← prepareRequest service position position.market.venueALabel
    position.polymarketContracts
  let second ← prepareRequest service position position.market.venueBLabel
    position.predictFunContracts
  pure (first, second)

/-- The status lookups of both legs. -/
def settlementStatuses (answers : PositionAnswers) :
    Effect (SettlementStatus × SettlementStatus) := do
  let first ← await answers.first.settlementStatus
  let second ← await answers.second.settlementStatus
  pure (first, second)

/-- `_remove`. -/
def removePosition (answers : PositionAnswers) (position : OpenPosition) : Effect Unit := do
  let key := positionKey position.market
  transact answers.removePosition fun w =>
    { w with
      positions := w.positions.erase key
      removed := w.removed ++ [(position, w.intents)] }
  modify fun w => { w with ledger := w.ledger.erase key }

/-- The rest of `_reconcile_position` once both markets are resolved. -/
def redeemBoth (service : Service) (answers : PositionAnswers) (position : OpenPosition)
    (first second : SettlementRequest) : Effect Unit := do
  let firstConfirmed ← processRedemption service answers.first position first
  if answers.first.isPaused then pure ()
  else do
    let secondConfirmed ← processRedemption service answers.second position second
    if answers.second.isPaused then pure ()
    else if firstConfirmed ∧ secondConfirmed then do
      transact answers.audit fun w =>
        { w with
          audits := w.audits ++ [⟨"position_redemption_confirmed", positionKey position.market,
            first.venue ++ "," ++ second.venue⟩] }
      removePosition answers position
    else pure ()

/-- Is this a status that needs an operator? -/
def unsupportedPayout (status : SettlementStatus) : Prop :=
  status = .void ∨ status = .manualReview

instance (status : SettlementStatus) : Decidable (unsupportedPayout status) :=
  inferInstanceAs (Decidable (_ ∨ _))

/-- `_reconcile_position`. -/
def reconcilePosition (service : Service) (answers : PositionAnswers) (position : OpenPosition) :
    Effect Unit :=
  let review := manualReview service answers.manualReview position
  if service.repository = false then review "durable redemption storage is unavailable"
  else
    match prepareRequests service position with
    | .error reason => review reason
    | .ok (first, second) => do
        match ← attempt Fault.caught (settlementStatuses answers) with
        | .error exc => review ("settlement status lookup failed: " ++ exc)
        | .ok (a, b) =>
            if a = .stillOpen ∨ b = .stillOpen then pure ()
            else if unsupportedPayout a ∨ unsupportedPayout b then
              review ("unsupported or conflicting payout: ['" ++ a.value ++ "', '" ++ b.value ++
                "']")
            else redeemBoth service answers position first second

/-! ## One pass -/

/-- Does `run_once` look at this position? -/
def dueForSettlement (now : Time) (position : OpenPosition) : Bool :=
  match position.market.expiresAt with
  | none => false
  | some expiresAt =>
      ¬ now < expiresAt ∧ position.status ∉ ["closed", "settled", "manual_review"]

/-- `run_once` over the positions the ledger held when it started. -/
def reconcileAll (service : Service) (now : Time) (answers : ℕ → PositionAnswers)
    (positions : List OpenPosition) : Effect Unit :=
  positions.zipIdx.forM fun (position, i) =>
    if dueForSettlement now position then reconcilePosition service (answers i) position
    else pure ()

/-- `run_once`. -/
def runOnce (service : Service) (now : Time) (answers : ℕ → PositionAnswers) : Effect Unit := do
  let w ← get
  reconcileAll service now answers w.ledger.values

end ArbitrageEngine.Settlement
