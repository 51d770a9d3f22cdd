/-
# ArbitrageEngine.Execution.RiskLimits -- what an entry may add to the ledger

`_risk_limits_allow` compares what the ledger holds and what an entry costs with the limits of the
configuration.  All its sums are sums of the decimal context, in the order of the ledger, so what is
proved about them rests on one fact: a sum of costs in this arithmetic does not grow when positions
leave or cost less.
-/
import ArbitrageEngine.Execution.Balances
import ArbitrageEngine.Execution.Entry
import Mathlib.Data.List.Forall2

namespace ArbitrageEngine

/-! ## The cost of a position -/

namespace OpenPosition

/-- `polymarket_contracts * polymarket_entry_price`. -/
def firstCost (position : OpenPosition) : Dec :=
  Dec.mul position.polymarketContracts position.polymarketEntryPrice

/-- `predict_fun_contracts * predict_fun_entry_price`. -/
def secondCost (position : OpenPosition) : Dec :=
  Dec.mul position.predictFunContracts position.predictFunEntryPrice

/-- Is the exposure of the position unresolved? -/
def isUnresolved (position : OpenPosition) : Bool :=
  position.status = "entry_pending" ∨ position.status = "unwind_pending" ∨
    position.status = "partial_exit_pending" ∨ position.status = "manual_review"

end OpenPosition

namespace Execution

/-! ## Plans and limits -/

/-- `_RISK_USD_EPSILON`. -/
def riskUsdEpsilon : Dec := 1 / 10 ^ 9

/-- The limits `_handle_signal_locked` and `_risk_limits_allow` read. -/
structure RiskLimits where
  maxOpenPositions : ℤ
  maxTotalNotionalUsd : Dec
  maxMarketExposureUsd : Dec
  maxVenueExposureUsd : Dec
  maxUnresolvedExposureUsd : Dec
deriving DecidableEq

/-- `PositionPlan`. -/
structure PositionPlan where
  polymarketContracts : Dec
  polymarketCapitalUsd : Dec
  predictFunContracts : Dec
  predictFunCapitalUsd : Dec
  totalCostUsd : Dec
  polymarketFeeUsd : Dec := 0
  predictFunFeeUsd : Dec := 0
deriving DecidableEq

/-- `ArbitrageSignal`, with the plan and the chain cost the limits look at. -/
structure EntrySignal where
  market : MarketSpec
  plan : PositionPlan
  fixedChainCostUsd : Dec
  polymarketPrice : Dec
  predictFunPrice : Dec
deriving DecidableEq

namespace EntrySignal

/-- What the purchase reads of a signal. -/
def toArbitrageSignal (signal : EntrySignal) : ArbitrageSignal where
  market := signal.market
  polymarketContracts := signal.plan.polymarketContracts
  predictFunContracts := signal.plan.predictFunContracts
  polymarketCapitalUsd := Dec.add signal.plan.polymarketCapitalUsd signal.plan.polymarketFeeUsd
  predictFunCapitalUsd := Dec.add signal.plan.predictFunCapitalUsd signal.plan.predictFunFeeUsd
  polymarketPrice := signal.polymarketPrice
  predictFunPrice := signal.predictFunPrice

/-- The capital of the first leg, on the venue of the router. -/
def firstCapital (signal : EntrySignal) (labels : String × String) : LegCapital :=
  ⟨labels.1, signal.plan.polymarketCapitalUsd, signal.plan.polymarketFeeUsd⟩

/-- The capital of the second leg. -/
def secondCapital (signal : EntrySignal) (labels : String × String) : LegCapital :=
  ⟨labels.2, signal.plan.predictFunCapitalUsd, signal.plan.predictFunFeeUsd⟩

/-- `principal_cost`. -/
def principalCost (signal : EntrySignal) : Dec :=
  Dec.add signal.plan.polymarketCapitalUsd signal.plan.predictFunCapitalUsd

end EntrySignal

/-! ## Exposure -/

/-- A position is added to the sum of both legs. -/
def addNotional (total : Dec) (position : OpenPosition) : Dec :=
  Dec.add total (Dec.add position.firstCost position.secondCost)

/-- `total_notional`. -/
def totalNotional (positions : List OpenPosition) : Dec := positions.foldl addNotional 0

/-- `unresolved`. -/
def unresolvedNotional (positions : List OpenPosition) : Dec :=
  totalNotional (positions.filter OpenPosition.isUnresolved)

/-- `venue_exposure[label] = venue_exposure.get(label, Decimal(0)) + amount`. -/
def raise (exposure : Lib.Dict String Dec) (label : String) (amount : Dec) :
    Lib.Dict String Dec :=
  exposure.set label (Dec.add (amountOf exposure label) amount)

/-- `venue_exposure`. -/
def venueExposure (positions : List OpenPosition) : Lib.Dict String Dec :=
  positions.foldl
    (fun exposure position =>
      raise (raise exposure position.market.venueALabel position.firstCost)
        position.market.venueBLabel position.secondCost)
    .empty

/-- `_risk_limits_allow`, for a router of the two venues. -/
def riskLimitsAllow (limits : RiskLimits) (labels : String × String)
    (positions : List OpenPosition) (signal : EntrySignal) (allInCostUsd : Option Dec) : Bool :=
  let allInCost := allInCostUsd.getD (Dec.add signal.plan.totalCostUsd signal.fixedChainCostUsd)
  let venueBound := Dec.add limits.maxVenueExposureUsd riskUsdEpsilon
  if allInCostUsd = none ∧ signal.fixedChainCostUsd < 0 then false
  else if signal.principalCost < 0 ∨ allInCost < signal.principalCost then false
  else if Dec.add limits.maxTotalNotionalUsd riskUsdEpsilon <
      Dec.add (totalNotional positions) allInCost then false
  else if Dec.add limits.maxMarketExposureUsd riskUsdEpsilon < signal.principalCost then false
  else if venueBound <
        Dec.add (amountOf (venueExposure positions) labels.1) signal.plan.polymarketCapitalUsd ∨
      venueBound <
        Dec.add (amountOf (venueExposure positions) labels.2) signal.plan.predictFunCapitalUsd then
    false
  else if limits.maxUnresolvedExposureUsd < unresolvedNotional positions then false
  else true

/-- What a signal that is allowed meets. -/
theorem riskLimitsAllow_eq_true {limits : RiskLimits} {labels : String × String}
    {positions : List OpenPosition} {signal : EntrySignal} {allInCostUsd : Dec}
    (h : riskLimitsAllow limits labels positions signal (some allInCostUsd) = true) :
    signal.principalCost ≤ allInCostUsd ∧
    Dec.add (totalNotional positions) allInCostUsd ≤
      Dec.add limits.maxTotalNotionalUsd riskUsdEpsilon ∧
    Dec.add (amountOf (venueExposure positions) labels.1) signal.plan.polymarketCapitalUsd ≤
      Dec.add limits.maxVenueExposureUsd riskUsdEpsilon ∧
    Dec.add (amountOf (venueExposure positions) labels.2) signal.plan.predictFunCapitalUsd ≤
      Dec.add limits.maxVenueExposureUsd riskUsdEpsilon := by
  simp only [riskLimitsAllow, Option.getD_some, reduceCtorEq, false_and, if_false,
    Bool.if_false_left, Bool.and_eq_true, Bool.not_eq_true', decide_eq_false_iff_not, not_or,
    not_lt] at h
  obtain ⟨⟨_, hprincipal⟩, htotal, _, ⟨hfirst, hsecond⟩, _⟩ := h
  exact ⟨hprincipal, htotal, hfirst, hsecond⟩

/-! ## Sums of costs -/

/-- Less exposure to the same market. -/
structure Shrinks (position larger : OpenPosition) : Prop where
  market : position.market = larger.market
  first : position.firstCost ≤ larger.firstCost
  second : position.secondCost ≤ larger.secondCost

theorem Shrinks.refl (position : OpenPosition) : Shrinks position position :=
  ⟨rfl, le_rfl, le_rfl⟩

/-- A position that costs something, if anything. -/
def NonnegCost (position : OpenPosition) : Prop :=
  0 ≤ position.firstCost ∧ 0 ≤ position.secondCost

/-- A running sum of costs: it grows with its start and with every cost, and stays what the context
holds. -/
structure Accumulates (add : Dec → OpenPosition → Dec) : Prop where
  mono : ∀ {a b : Dec} {position larger : OpenPosition}, a ≤ b → Shrinks position larger →
    add a position ≤ add b larger
  le : ∀ {a : Dec} {position : OpenPosition}, Dec.Exact a → NonnegCost position →
    a ≤ add a position
  exact : ∀ {a : Dec} {position : OpenPosition}, Dec.Exact a → Dec.Exact (add a position)

namespace Accumulates

variable {add : Dec → OpenPosition → Dec}

theorem le_foldl (h : Accumulates add) {positions : List OpenPosition}
    (hnonneg : ∀ position ∈ positions, NonnegCost position) {a : Dec} (ha : Dec.Exact a) :
    a ≤ positions.foldl add a := by
  induction positions generalizing a with
  | nil => exact le_rfl
  | cons position rest ih =>
      have hstep := h.le ha (hnonneg position List.mem_cons_self)
      have hrest : add a position ≤ rest.foldl add (add a position) :=
        ih (fun p hp => hnonneg p (List.mem_cons_of_mem _ hp)) (h.exact ha)
      exact hstep.trans hrest

/-- **Fewer and smaller positions do not sum to more.** -/
theorem foldl_le (h : Accumulates add) {positions larger : List OpenPosition}
    (hle : List.SublistForall₂ Shrinks positions larger)
    (hnonneg : ∀ position ∈ larger, NonnegCost position) {a b : Dec} (hab : a ≤ b)
    (hb : Dec.Exact b) : positions.foldl add a ≤ larger.foldl add b := by
  induction hle generalizing a b with
  | nil => exact hab.trans (h.le_foldl hnonneg hb)
  | cons hshrinks _ ih =>
      exact ih (fun p hp => hnonneg p (List.mem_cons_of_mem _ hp)) (h.mono hab hshrinks)
        (h.exact hb)
  | cons_right _ ih =>
      have hskip := h.le hb (hnonneg _ List.mem_cons_self)
      exact ih (fun p hp => hnonneg p (List.mem_cons_of_mem _ hp)) (hab.trans hskip) (h.exact hb)

end Accumulates

theorem addNotional_accumulates : Accumulates addNotional where
  mono := by
    intro a b position larger hab hshrinks
    have hnotional : Dec.add position.firstCost position.secondCost ≤
        Dec.add larger.firstCost larger.secondCost :=
      Dec.ctx_mono (add_le_add hshrinks.first hshrinks.second)
    exact Dec.ctx_mono (add_le_add hab hnotional)
  le := by
    intro a position ha hnonneg
    have hnotional := Dec.add_nonneg hnonneg.1 hnonneg.2
    have hle := Dec.ctx_mono (le_add_of_nonneg_right hnotional : a ≤ a + _)
    rwa [show Dec.ctx a = a from ha] at hle
  exact := fun _ => Dec.exact_ctx _

/-- What a position adds to the exposure on one venue. -/
def addVenueCost (venue : String) (exposure : Dec) (position : OpenPosition) : Dec :=
  let withFirst :=
    if position.market.venueALabel = venue then Dec.add exposure position.firstCost else exposure
  if position.market.venueBLabel = venue then Dec.add withFirst position.secondCost else withFirst

theorem addVenueCost_accumulates (venue : String) : Accumulates (addVenueCost venue) where
  mono := by
    intro a b position larger hab hshrinks
    unfold addVenueCost
    rw [hshrinks.market]
    -- Each leg is added on both sides, or on neither.
    have hfirst : (if larger.market.venueALabel = venue then Dec.add a position.firstCost else a) ≤
        (if larger.market.venueALabel = venue then Dec.add b larger.firstCost else b) := by
      split
      · exact Dec.ctx_mono (add_le_add hab hshrinks.first)
      · exact hab
    dsimp only
    split
    · exact Dec.ctx_mono (add_le_add hfirst hshrinks.second)
    · exact hfirst
  le := by
    intro a position ha hnonneg
    unfold addVenueCost
    have hgrow : ∀ {x cost : Dec}, Dec.Exact x → 0 ≤ cost → x ≤ Dec.add x cost := by
      intro x cost hx hcost
      have hle := Dec.ctx_mono (le_add_of_nonneg_right hcost : x ≤ x + cost)
      rwa [show Dec.ctx x = x from hx] at hle
    dsimp only
    split <;> split
    · exact (hgrow ha hnonneg.1).trans (hgrow (Dec.exact_ctx _) hnonneg.2)
    · exact hgrow ha hnonneg.2
    · exact hgrow ha hnonneg.1
    · exact le_rfl
  exact := by
    intro a position ha
    unfold addVenueCost
    dsimp only
    split <;> split
    · exact Dec.exact_ctx _
    · exact Dec.exact_ctx _
    · exact Dec.exact_ctx _
    · exact ha

theorem amountOf_raise (exposure : Lib.Dict String Dec) (label venue : String) (amount : Dec) :
    amountOf (raise exposure label amount) venue =
      if label = venue then Dec.add (amountOf exposure venue) amount
      else amountOf exposure venue := by
  unfold raise
  by_cases h : label = venue
  · simp [h]
  · rw [if_neg h, amountOf_set_of_ne _ (Ne.symm h)]

/-- What the dictionary says of one venue is a running sum. -/
theorem amountOf_venueExposure (positions : List OpenPosition) (venue : String) :
    amountOf (venueExposure positions) venue = positions.foldl (addVenueCost venue) 0 := by
  have hfold : ∀ exposure : Lib.Dict String Dec,
      amountOf (positions.foldl (fun exposure position =>
        raise (raise exposure position.market.venueALabel position.firstCost)
          position.market.venueBLabel position.secondCost) exposure) venue =
      positions.foldl (addVenueCost venue) (amountOf exposure venue) := by
    induction positions with
    | nil => exact fun _ => rfl
    | cons position rest ih =>
        intro exposure
        rw [List.foldl_cons, ih, amountOf_raise, amountOf_raise]
        rfl
  exact hfold .empty

theorem totalNotional_le {positions larger : List OpenPosition}
    (hle : List.SublistForall₂ Shrinks positions larger)
    (hnonneg : ∀ position ∈ larger, NonnegCost position) :
    totalNotional positions ≤ totalNotional larger :=
  addNotional_accumulates.foldl_le hle hnonneg le_rfl Dec.ctx_zero

theorem venueExposure_le {positions larger : List OpenPosition}
    (hle : List.SublistForall₂ Shrinks positions larger)
    (hnonneg : ∀ position ∈ larger, NonnegCost position) (venue : String) :
    amountOf (venueExposure positions) venue ≤ amountOf (venueExposure larger) venue := by
  rw [amountOf_venueExposure, amountOf_venueExposure]
  exact (addVenueCost_accumulates venue).foldl_le hle hnonneg le_rfl Dec.ctx_zero

theorem totalNotional_concat (positions : List OpenPosition) (position : OpenPosition) :
    totalNotional (positions ++ [position]) = addNotional (totalNotional positions) position := by
  simp [totalNotional]

theorem venueExposure_concat (positions : List OpenPosition) (position : OpenPosition)
    (venue : String) :
    amountOf (venueExposure (positions ++ [position])) venue =
      addVenueCost venue (amountOf (venueExposure positions) venue) position := by
  simp [amountOf_venueExposure]

end Execution

end ArbitrageEngine
