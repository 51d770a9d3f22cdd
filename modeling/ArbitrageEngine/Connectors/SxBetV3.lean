/-
# ArbitrageEngine.Connectors.SxBetV3 -- prepared orders

The V3 connector signs an order when an entry is previewed and keeps it for ten seconds under the
fingerprint of its payload.  The entry claims both of its prepared orders before it submits either,
and the submission consumes them; either way the order must match what is asked for in every field.

Signing, the transport and the venue are left out: a prepared order is what they left in the cache,
and `submitTakerOrder` ends where the prepared order is handed over.
-/
import ArbitrageEngine.Decimal
import ArbitrageEngine.Lib.Effect
import ArbitrageEngine.Models
import Mathlib.Data.List.MinMax

namespace ArbitrageEngine.SxBetV3

open Lib.Effect

/-! ## Prepared orders -/

/-- Why a prepared order is refused. -/
inductive Rejection
  | missingDeadline
  | notPrepared
  | mismatch
  | invalidFingerprint
  | invalidDeadline
  | deadlineNear
  | invalidExpiry
  | expiring
  | invalidClientOrderId
deriving DecidableEq, Repr

/-- The texts of the exceptions. -/
def Rejection.message : Rejection → String
  | missingDeadline => "SX Bet V3 prepared entry is missing a market submission deadline"
  | notPrepared => "SX Bet V3 prepared order is missing, expired, or already consumed"
  | mismatch => "SX Bet V3 prepared order does not match the authorized entry"
  | invalidFingerprint => "SX Bet V3 prepared order fingerprint is invalid"
  | invalidDeadline => "SX Bet V3 market submission deadline is invalid"
  | deadlineNear =>
      "SX Bet V3 entry lacks the final 15-second cutoff buffer plus transport-start allowance"
  | invalidExpiry => "SX Bet V3 signed order expiry is invalid"
  | expiring => "SX Bet V3 signed order may expire before transport starts"
  | invalidClientOrderId =>
      "SX Bet V3 client_order_id must be 1-64 ASCII letters, digits, underscores, or hyphens"

/-- The signed payload, as far as it is read: its `expiry`, where that is a finite decimal, and the
text the fingerprint is taken of. -/
structure Payload where
  expiry : Option Dec
  signedText : String
deriving DecidableEq

/-- What an order is asked to be: the arguments that `_consume_prepared_order` compares. -/
structure OrderTerms where
  tokenId : String
  syntheticSide : BinarySide
  actualSide : BinarySide
  contracts : Dec
  price : Dec
  action : String
deriving DecidableEq

/-- `_V3SubmittedOrder`. -/
structure SubmittedOrder where
  orderId : String
  terms : OrderTerms
  submittedStake : Dec
deriving DecidableEq

/-- `_V3PreparedOrder`. -/
structure PreparedOrder where
  payload : Payload
  submitted : SubmittedOrder
  fingerprint : String
  preparedAtMonotonic : Dec
deriving DecidableEq

/-- The caches of the connector. -/
structure Connector where
  prepared : Lib.Dict String PreparedOrder
  claimed : Lib.Dict String PreparedOrder
deriving DecidableEq

/-- An effect on the caches. -/
abbrev Effect (α : Type) : Type := EStateM Rejection Connector α

/-- The clocks an operation reads: `time.monotonic()` and `time.time()`. -/
structure Clock where
  monotonic : Dec
  unix : Dec

/-! ## The cache -/

/-- `_V3_PREPARED_ORDER_TTL_SECONDS`. -/
def preparedOrderTtlSeconds : Dec := 10

/-- `_V3_PREPARED_ORDER_CACHE_LIMIT`. -/
def preparedOrderCacheLimit : ℕ := 512

/-- `_prune_prepared_orders`. -/
def prunePreparedOrders (clock : Clock) (connector : Connector) : Connector :=
  let staleBefore := clock.monotonic - preparedOrderTtlSeconds
  { connector with
    prepared := connector.prepared.filter fun entry =>
      ¬ entry.2.preparedAtMonotonic < staleBefore }

/-- `_store_prepared_order`: a full cache loses its oldest order. -/
def storePreparedOrder (clock : Clock) (prepared : PreparedOrder) (connector : Connector) :
    Connector :=
  let pruned := prunePreparedOrders clock connector
  let orders :=
    if pruned.prepared.entries.length < preparedOrderCacheLimit then pruned.prepared
    else
      match pruned.prepared.values.argmin PreparedOrder.preparedAtMonotonic with
      | some oldest => pruned.prepared.erase oldest.fingerprint
      | none => pruned.prepared
  { pruned with prepared := orders.set prepared.fingerprint prepared }

/-! ## Claiming and consuming -/

variable (digest : String → Payload → String)

/-- Take the order of a fingerprint out of the caches, a claimed one first. -/
def takePreparedOrder (fingerprint : String) (connector : Connector) :
    Option PreparedOrder × Connector :=
  match connector.claimed.get? fingerprint with
  | some prepared => (some prepared, { connector with claimed := connector.claimed.erase fingerprint })
  | none =>
      (connector.prepared.get? fingerprint,
        { connector with prepared := connector.prepared.erase fingerprint })

/-- `_consume_prepared_order`; `digest` is `_v3_order_payload_fingerprint`. -/
def consumePreparedOrder (clock : Clock) (fingerprint : Option String) (terms : OrderTerms) :
    Effect (Option PreparedOrder) :=
  match fingerprint with
  | none => pure none
  | some fingerprint => do
      modify (prunePreparedOrders clock)
      match ← modifyGet (takePreparedOrder fingerprint) with
      | none => throw .notPrepared
      | some prepared =>
          if prepared.submitted.terms ≠ terms then throw .mismatch
          else if digest prepared.submitted.orderId prepared.payload ≠ fingerprint then
            throw .invalidFingerprint
          else pure (some prepared)

/-- `_assert_submission_window`: the buffer is 15 seconds and the transport may take 10 to start. -/
def assertSubmissionWindow (clock : Clock) (deadline : Option Dec) : Effect Unit :=
  match deadline with
  | none => pure ()
  | some deadline =>
      if deadline ≤ 0 then throw .invalidDeadline
      else if deadline ≤ Dec.add clock.unix 25 then throw .deadlineNear
      else pure ()

/-- `_assert_signed_order_expiry`. -/
def assertSignedOrderExpiry (clock : Clock) (payload : Payload) : Effect Unit :=
  match payload.expiry with
  | none => throw .invalidExpiry
  | some expiry => if expiry ≤ Dec.add clock.unix 10 then throw .expiring else pure ()

/-- `claim_prepared_order`. -/
def claimPreparedOrder (clock : Clock) (fingerprint : Option String) (terms : OrderTerms)
    (deadline : Option Dec) : Effect (Option String) :=
  if fingerprint ≠ none ∧ deadline = none then throw .missingDeadline
  else do
    match fingerprint, ← consumePreparedOrder digest clock fingerprint terms with
    | some fingerprint, some prepared => do
        assertSubmissionWindow clock deadline
        assertSignedOrderExpiry clock prepared.payload
        modify fun connector =>
          { connector with claimed := connector.claimed.set fingerprint prepared }
        pure (some fingerprint)
    | _, _ => pure none

/-- `release_prepared_order`. -/
def releasePreparedOrder (fingerprint : Option String) : Effect Unit :=
  match fingerprint with
  | none => pure ()
  | some fingerprint =>
      modify fun connector => { connector with claimed := connector.claimed.erase fingerprint }

/-- `_V3_CLIENT_ORDER_ID_PATTERN`. -/
def validClientOrderId (clientOrderId : String) : Bool :=
  1 ≤ clientOrderId.length ∧ clientOrderId.length ≤ 64 ∧
    clientOrderId.all fun c => c.isAlphanum || c = '_' || c = '-'

/-- `_submit_taker_order` up to the point where the order is tracked: the prepared order that will
be posted, or none where a new one is built from the book. -/
def submitTakerOrder (clock : Clock) (terms : OrderTerms) (clientOrderId : Option String)
    (fingerprint : Option String) (deadline : Option Dec) : Effect (Option PreparedOrder) := do
  let prepared ← consumePreparedOrder digest clock fingerprint terms
  if fingerprint ≠ none ∧ deadline = none then throw .missingDeadline
  else
    match prepared with
    | none => pure none
    | some prepared =>
        let resolved := (truthy clientOrderId).getD
          (prepared.submitted.orderId.dropPrefix "0x").toString
        if validClientOrderId resolved = false then throw .invalidClientOrderId
        else do
          assertSubmissionWindow clock deadline
          assertSignedOrderExpiry clock prepared.payload
          pure (some prepared)

/-- The terms of a buy: its actual side is the side itself. -/
def buyTerms (tokenId : String) (side : BinarySide) (contracts price : Dec) : OrderTerms :=
  ⟨tokenId, side, side, contracts, price, "BUY"⟩

/-- `buy_with_order_id_persistence`; contracts and price are floats. -/
def buyWithOrderIdPersistence (clock : Clock) (tokenId : String) (side : BinarySide)
    (contracts maxPrice : Dec) (clientOrderId fingerprint : Option String)
    (deadline : Option Dec) : Effect (Option PreparedOrder) :=
  submitTakerOrder digest clock (buyTerms tokenId side contracts maxPrice) clientOrderId
    fingerprint deadline

end ArbitrageEngine.SxBetV3
