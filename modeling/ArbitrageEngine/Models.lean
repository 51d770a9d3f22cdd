/-
# ArbitrageEngine.Models -- markets, positions and the statuses they go through

The records of `models.py` that the modelled code reads, with the fields it reads.  A venue is its
label, as in the source: the code compares labels and looks clients up by them, and nothing
restricts a market to the labels the engine knows.
-/
import ArbitrageEngine.Decimal
import ArbitrageEngine.Lib.Dict
import Mathlib.Data.Finset.Lattice.Basic
import Mathlib.Data.Finset.Sort
import Mathlib.Data.String.Basic

namespace ArbitrageEngine

/-- A point in time, in microseconds since the epoch; a naive `datetime` is read as UTC. -/
abbrev Time : Type := ℤ

/-- `value` where Python takes it for true, `None` where it is `None` or empty. -/
def truthy (value : Option String) : Option String := value.filter (· ≠ "")

/-- `sorted(texts)`. -/
def sortedTexts (texts : Finset String) : List String := texts.sort (· ≤ ·)

@[simp]
theorem mem_sortedTexts {texts : Finset String} {text : String} :
    text ∈ sortedTexts texts ↔ text ∈ texts :=
  Finset.mem_sort _

/-! ## Enumerations -/

inductive BinarySide
  | yes
  | no
deriving DecidableEq, Repr

namespace BinarySide

/-- The enumeration's value. -/
def value : BinarySide → String
  | yes => "YES"
  | no => "NO"

/-- `opposite_binary_side`. -/
def opposite : BinarySide → BinarySide
  | yes => no
  | no => yes

end BinarySide

inductive MappingStatus
  | candidate
  | verified
  | rejected
  | stale
deriving DecidableEq, Repr

inductive SettlementStatus
  | stillOpen
  | resolved
  | void
  | redeemPending
  | settled
  | manualReview
deriving DecidableEq, Repr

inductive RedemptionIntentStatus
  | pending
  | submitted
  | confirmed
  | unknown
  | failed
  | manualReview
deriving DecidableEq, Repr

namespace SettlementStatus

/-- The enumeration's value. -/
def value : SettlementStatus → String
  | .stillOpen => "OPEN"
  | .resolved => "RESOLVED"
  | .void => "VOID"
  | .redeemPending => "REDEEM_PENDING"
  | .settled => "SETTLED"
  | .manualReview => "MANUAL_REVIEW"

end SettlementStatus

namespace RedemptionIntentStatus

/-- The enumeration's value. -/
def value : RedemptionIntentStatus → String
  | .pending => "PENDING"
  | .submitted => "SUBMITTED"
  | .confirmed => "CONFIRMED"
  | .unknown => "UNKNOWN"
  | .failed => "FAILED"
  | .manualReview => "MANUAL_REVIEW"

end RedemptionIntentStatus

/-! ## Markets -/

/-- `MarketSpec`: one market as two venues list it.  The `polymarket` fields are those of the first
leg and the `predict_fun` fields those of the second, whatever the labels say. -/
structure MarketSpec where
  symbol : String
  targetLabel : String
  polymarketTokenId : String
  polymarketSide : BinarySide
  predictFunTokenId : String
  predictFunSide : BinarySide
  venueALabel : String := "Polymarket"
  venueBLabel : String := "Predict.fun"
  expiresAt : Option Time := none
  conditionId : Option String := none
  polymarketMarketId : Option String := none
  predictFunFeeRateBps : Option ℤ := none
  predictFunMarketId : Option String := none
  myriadMarketId : Option String := none
  myriadCollateralToken : Option String := none
  rulesFingerprint : Option String := none
  category : Option String := none
  mappingStatus : MappingStatus := .candidate
  resolutionSource : Option String := none
  outcomeSemantics : Option String := none
  cutoffAt : Option Time := none
  verifiedRoutes : Finset String := ∅
deriving DecidableEq

/-- `position_key`: the key of a market in the ledger and in the store. -/
def positionKey (market : MarketSpec) : String :=
  let fingerprint :=
    (truthy market.rulesFingerprint).getD (market.symbol ++ ":" ++ market.targetLabel)
  fingerprint ++ ":" ++
    market.venueALabel ++ ":" ++ market.polymarketTokenId ++ ":" ++
      market.polymarketSide.value ++ ":" ++
    market.venueBLabel ++ ":" ++ market.predictFunTokenId ++ ":" ++ market.predictFunSide.value

/-! ## Positions -/

/-- `ResidualExitSnapshot`: the cumulative account of an exit order that closed some contracts and
left an opposite exposure. -/
structure ResidualExitSnapshot where
  venueOrderId : String
  requestedContracts : Dec
  closedContracts : Dec
  exitProceedsUsd : Dec
  residualContracts : Dec
deriving DecidableEq

/-- The residual exposure of one leg, with the orders and snapshots it was booked from. -/
structure ResidualExits where
  exposureContracts : Dec := 0
  orderIds : List String := []
  snapshots : List ResidualExitSnapshot := []
deriving DecidableEq

/-- `OpenPosition`. -/
structure OpenPosition where
  market : MarketSpec
  polymarketContracts : Dec
  polymarketEntryPrice : Dec
  predictFunContracts : Dec
  predictFunEntryPrice : Dec
  polymarketOrderId : String
  predictFunOrderId : String
  status : String := "open"
  polymarketUnwindAttempts : ℕ := 0
  polymarketClosed : Bool := false
  predictFunClosed : Bool := false
  polymarketExitPrice : Option Dec := none
  predictFunExitPrice : Option Dec := none
  unmatchedFirstContracts : Dec := 0
  unmatchedSecondContracts : Dec := 0
  polymarketClosedContracts : Dec := 0
  predictFunClosedContracts : Dec := 0
  polymarketExitProceedsUsd : Dec := 0
  predictFunExitProceedsUsd : Dec := 0
  polymarketResidual : ResidualExits := {}
  predictFunResidual : ResidualExits := {}
deriving DecidableEq

/-- `PositionLedger`: the positions this process manages, under their keys. -/
abbrev PositionLedger : Type := Lib.Dict String OpenPosition

/-- `PositionLedger.add`. -/
def PositionLedger.add (ledger : PositionLedger) (position : OpenPosition) : PositionLedger :=
  ledger.set (positionKey position.market) position

end ArbitrageEngine
