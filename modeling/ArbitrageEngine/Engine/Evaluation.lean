/-
# ArbitrageEngine.Engine.Evaluation -- one evaluation of a market on a route

`_evaluate_polymarket_pair` reads the books of both legs, asks for their fees, prices the pair, and
hands a signal to the router of the route.  On the way it rejects: a mapping that is not eligible,
books that are not valid or not fresh, fees that are not verified, a spread or a profit that is too
small.  What gets past all of that can be bought for what it promises (`signal_is_covered`).
-/
import ArbitrageEngine.Config.Records
import ArbitrageEngine.Engine.PooledPlans

namespace ArbitrageEngine.Engine

open Execution Execution.Signal Lib.GreedyFill
open Lib.Effect (exists_of_bind_ok)
open Positions (AmmPool)

/-! ## What an evaluation is given -/

/-- What the configuration says, with floats as their decimals. -/
structure EvaluationConfig where
  executionMode : Config.ExecutionMode
  shadowRequireVerifiedMappings : Bool
  normalizeCategory : Option String → Option String
  positionSizeUsd : Dec
  depthBuffer : Dec
  minNetSpread : Dec
  /-- `threshold_for`. -/
  thresholdFor : ExecutionRoute → Dec
  minExpectedProfitUsd : Dec
  maxProductionPriceImpact : Dec
  /-- `min_net_spread must be positive`. -/
  minNetSpread_pos : 0 < minNetSpread

/-- A book that was watched. -/
structure WatchedBook where
  book : OrderBook
  /-- `_amm_pool_from_book`. -/
  pool : Option AmmPool := none
  /-- `is_order_book_execution_fresh`. -/
  executionFresh : Bool

/-- What `watch_order_book` raises. -/
inductive WatchFault
  | stale
  | unavailable
  | other
deriving DecidableEq

/-- A leg, with the answers of its client. -/
structure EvaluatedLeg where
  tokenId : String
  side : BinarySide
  ammPool : Option AmmPool := none
  watched : Except WatchFault WatchedBook
  /-- `get_market_constraints` returns some. -/
  hasConstraints : Bool
  /-- `get_fee_quote` for those constraints; none is an exception. -/
  feeQuote : Option (Option VenueFeeQuote)

/-- The arguments of an evaluation, and what it finds while it runs. -/
structure EvaluationInputs where
  market : MarketSpec
  route : ExecutionRoute
  first : EvaluatedLeg
  second : EvaluatedLeg
  maxSlippagePct : Dec
  fixedChainCostUsd : Dec
  /-- `_has_paused_execution_router`. -/
  anyRouterPaused : Bool
  /-- `execution.is_paused`. -/
  paused : Bool
  /-- Of two watches that are gathered, the second is the first to end. -/
  secondWatchEndsFirst : Bool := false

/-! ## How an evaluation ends -/

/-- What `_record_signal_evaluation` is told of a market without a signal. -/
inductive Rejection
  | mappingIneligible
  | missingToken
  | staleBook
  | unavailableBook
  | invalidBook
  | constraintsUnavailable
  | liquidityRejected
  | belowMinNetSpread
  | planRejected
  | profitFloorRejected
deriving DecidableEq

/-- Its words. -/
def Rejection.label : Rejection → String
  | mappingIneligible => "mapping_ineligible"
  | missingToken => "missing_token"
  | staleBook => "stale_book"
  | unavailableBook => "unavailable_book"
  | invalidBook => "invalid_book"
  | constraintsUnavailable => "constraints_unavailable"
  | liquidityRejected => "liquidity_rejected"
  | belowMinNetSpread => "below_min_net_spread"
  | planRejected => "plan_rejected"
  | profitFloorRejected => "profit_floor_rejected"

/-- An evaluation that ends without a signal returns, or raises after it may have recorded why. -/
inductive NoSignal
  | rejected (reason : Rejection)
  | raised (recorded : Option Rejection)
deriving DecidableEq

/-- `ArbitrageSignal`. -/
structure EligibleSignal (K : Type) where
  market : MarketSpec
  plan : PositionPlan K
  metrics : SpreadMetrics K
  polymarketPrice : Dec
  predictFunPrice : Dec

/-- How an evaluation ends; an eligible signal is only logged while its router is paused. -/
inductive Evaluation (K : Type)
  | noSignal (why : NoSignal)
  | observed (signal : EligibleSignal K)
  | handed (signal : EligibleSignal K)

/-! ## The steps -/

/-- `_mapping_eligibility_mode`. -/
def mappingEligibilityMode (config : EvaluationConfig) (anyRouterPaused : Bool) :
    Config.ExecutionMode :=
  if (!config.executionMode.submitsOrders && anyRouterPaused) ||
      (config.executionMode = .shadow && config.shadowRequireVerifiedMappings) then .canary
  else config.executionMode

/-- The handlers of `watch_order_book` record the fault and raise it again. -/
def WatchFault.raised : WatchFault → NoSignal
  | stale => .raised (some .staleBook)
  | unavailable => .raised (some .unavailableBook)
  | other => .raised none

/-- The books that are read: those of the legs without a configured pool. -/
def watchBooks (inputs : EvaluationInputs) :
    Except NoSignal (Option WatchedBook × Option WatchedBook) :=
  match inputs.first.ammPool, inputs.second.ammPool with
  | none, none =>
      match inputs.first.watched, inputs.second.watched with
      | .ok first, .ok second => .ok (some first, some second)
      | .error fault, .ok _ | .ok _, .error fault => .error fault.raised
      | .error first, .error second =>
          .error (if inputs.secondWatchEndsFirst then second else first).raised
  | none, some _ =>
      match inputs.first.watched with
      | .ok first => .ok (some first, none)
      | .error fault => .error fault.raised
  | some _, none =>
      match inputs.second.watched with
      | .ok second => .ok (none, some second)
      | .error fault => .error fault.raised
  -- a `ValueError`: at least one routed leg must expose an order book
  | some _, some _ => .error (.raised none)

/-- `_fee_quotes`. -/
def feeQuotes (first second : EvaluatedLeg) : Except NoSignal (VenueFeeQuote × VenueFeeQuote) :=
  if !(first.hasConstraints && second.hasConstraints) then
    .error (.rejected .constraintsUnavailable)
  else
    match first.feeQuote, second.feeQuote with
    | none, _ | _, none => .error (.raised none)
    | some (some firstQuote), some (some secondQuote) =>
        if firstQuote.verified && secondQuote.verified then .ok (firstQuote, secondQuote)
        else .error (.rejected .constraintsUnavailable)
    | some _, some _ => .error (.rejected .constraintsUnavailable)

/-- `_target_leg_notional_usd`. -/
def EvaluationConfig.targetLegNotionalUsd (config : EvaluationConfig) : Dec :=
  config.positionSizeUsd / 2

/-- `dynamic_threshold`. -/
def EvaluationConfig.dynamicThreshold (config : EvaluationConfig) (route : ExecutionRoute) : Dec :=
  max config.minNetSpread (config.thresholdFor route)

/-- A leg as the planner takes it: a configured pool comes before one that its book carries. -/
def EvaluatedLeg.routed (leg : EvaluatedLeg) (watched : Option WatchedBook)
    (feeQuote : VenueFeeQuote) : RoutedLeg where
  book := watched.map WatchedBook.book
  pool := leg.ammPool.or (watched.bind WatchedBook.pool)
  side := leg.side
  feeQuote := some feeQuote

/-- The arguments of the planner. -/
def plannedInputs (config : EvaluationConfig) (inputs : EvaluationInputs)
    (books : Option WatchedBook × Option WatchedBook) (fees : VenueFeeQuote × VenueFeeQuote) :
    RoutedInputs where
  first := inputs.first.routed books.1 fees.1
  second := inputs.second.routed books.2 fees.2
  maxOrderSizeUsd := config.targetLegNotionalUsd
  maxSlippagePct := inputs.maxSlippagePct
  maxPriceImpact := config.maxProductionPriceImpact
  requiredExecutableDepthUsd := some (config.targetLegNotionalUsd * config.depthBuffer)
  fixedChainCostUsd := inputs.fixedChainCostUsd

/-- A call of the planner: `except ValueError` is a rejection. -/
def orRejected {α : Type} (reason : Rejection) : Except RoutedError α → Except NoSignal α
  | .ok value => .ok value
  | .error error =>
      .error (if error.isValueError then .rejected reason else .raised none)

variable {K : Type} [Field K] [LinearOrder K] (pow : K → K → K)

/-- The evaluation up to its signal. -/
def eligibleSignal (config : EvaluationConfig) (inputs : EvaluationInputs) :
    Except NoSignal (EligibleSignal K) :=
  let mode := mappingEligibilityMode config inputs.anyRouterPaused
  if isLiveMappingEligible config.normalizeCategory mode.submitsOrders inputs.market
      inputs.route.name = false then .error (.rejected .mappingIneligible)
  else if inputs.first.tokenId = "" ∨ inputs.second.tokenId = "" then
    .error (.rejected .missingToken)
  else do
    let books ← watchBooks inputs
    let read := books.1.toList ++ books.2.toList
    if read.any (fun watched => watched.book.status ≠ "VALID") then .error (.rejected .invalidBook)
    else if read.any (fun watched => !watched.executionFresh) then .error (.rejected .staleBook)
    else do
      let fees ← feeQuotes inputs.first inputs.second
      let planned := plannedInputs config inputs books fees
      let metrics ← orRejected .liquidityRejected (spreadMetrics pow planned)
      if metrics.netSpread ≤ config.dynamicThreshold inputs.route then
        .error (.rejected .belowMinNetSpread)
      else do
        let plan ← orRejected .planRejected (positionPlan pow planned)
        let variableCost := plan.polymarketFeeUsd + plan.predictFunFeeUsd
        if metrics.expectedNetProfitUsd <
            max (config.minExpectedProfitUsd : K) (variableCost * (2 : Dec)) then
          .error (.rejected .profitFloorRejected)
        else
          .ok
            { market := inputs.market
              plan := plan
              metrics := metrics
              polymarketPrice := plan.polymarketCapitalUsd / plan.polymarketContracts
              predictFunPrice := plan.predictFunCapitalUsd / plan.predictFunContracts }

/-- `_evaluate_polymarket_pair`. -/
def evaluate (config : EvaluationConfig) (inputs : EvaluationInputs) : Evaluation K :=
  match eligibleSignal pow config inputs with
  | .error why => .noSignal why
  | .ok signal =>
      if inputs.paused && config.executionMode.submitsOrders then .observed signal
      else .handed signal

/-! ## What an evaluation with a signal has found -/

variable {pow : K → K → K}

theorem ok_of_orRejected {α : Type} {reason : Rejection} {planned : Except RoutedError α}
    {value : α} (h : orRejected reason planned = .ok value) : planned = .ok value := by
  cases planned with
  | ok found =>
      cases h
      rfl
  | error error => cases h

/-- What has been found out before the planner is asked. -/
structure Checked (config : EvaluationConfig) (inputs : EvaluationInputs)
    (books : Option WatchedBook × Option WatchedBook) (fees : VenueFeeQuote × VenueFeeQuote) :
    Prop where
  mapping : isLiveMappingEligible config.normalizeCategory
    (mappingEligibilityMode config inputs.anyRouterPaused).submitsOrders inputs.market
    inputs.route.name = true
  tokens : inputs.first.tokenId ≠ "" ∧ inputs.second.tokenId ≠ ""
  watched : watchBooks inputs = .ok books
  valid : ∀ watched ∈ books.1.toList ++ books.2.toList,
    watched.book.status = "VALID" ∧ watched.executionFresh = true
  quoted : feeQuotes inputs.first inputs.second = .ok fees

/-- A signal: what was checked, and what the planner said. -/
theorem of_eligibleSignal {config : EvaluationConfig} {inputs : EvaluationInputs}
    {signal : EligibleSignal K} (h : eligibleSignal pow config inputs = .ok signal) :
    ∃ books fees, Checked config inputs books fees ∧
      spreadMetrics pow (plannedInputs config inputs books fees) = .ok signal.metrics ∧
      positionPlan pow (plannedInputs config inputs books fees) = .ok signal.plan ∧
      ¬ signal.metrics.netSpread ≤ config.dynamicThreshold inputs.route ∧
      ¬ signal.metrics.expectedNetProfitUsd < max (config.minExpectedProfitUsd : K)
        ((signal.plan.polymarketFeeUsd + signal.plan.predictFunFeeUsd) * 2) := by
  unfold eligibleSignal at h
  dsimp only at h
  split_ifs at h with hmapping htokens
  obtain ⟨books, hbooks, h⟩ := exists_of_bind_ok h
  split_ifs at h with hinvalid hstale
  obtain ⟨fees, hfees, h⟩ := exists_of_bind_ok h
  obtain ⟨metrics, hmetrics, h⟩ := exists_of_bind_ok h
  split_ifs at h with hspread
  obtain ⟨plan, hplan, h⟩ := exists_of_bind_ok h
  split_ifs at h with hprofit
  rw [Rat.cast_ofNat] at hprofit
  cases h
  refine ⟨books, fees, ⟨by simpa using hmapping, not_or.mp htokens, hbooks, ?_, hfees⟩,
    ok_of_orRejected hmetrics, ok_of_orRejected hplan, hspread, hprofit⟩
  intro watched hmem
  have hvalid : ¬ (watched.book.status ≠ "VALID") := fun hne =>
    hinvalid (List.any_eq_true.mpr ⟨watched, hmem, decide_eq_true hne⟩)
  refine ⟨not_not.mp hvalid, ?_⟩
  by_contra hfresh
  exact hstale (List.any_eq_true.mpr ⟨watched, hmem, by simpa using hfresh⟩)

/-- A fee that is used was verified. -/
theorem verified_of_feeQuotes {first second : EvaluatedLeg} {fees : VenueFeeQuote × VenueFeeQuote}
    (h : feeQuotes first second = .ok fees) :
    first.feeQuote = some (some fees.1) ∧ second.feeQuote = some (some fees.2) ∧
      fees.1.verified = true ∧ fees.2.verified = true := by
  unfold feeQuotes at h
  split_ifs at h
  split at h
  · cases h
  · cases h
  · split_ifs at h with hverified
    cases h
    rw [Bool.and_eq_true] at hverified
    exact ⟨by assumption, by assumption, hverified.1, hverified.2⟩
  · cases h

/-! ## The planner is asked twice -/

/-! ## A signal is covered -/

/-- The connectors sort the asks, and no pool, configured or carried by a book, keeps the whole
payment as its fee. -/
structure EvaluatedLeg.Proper (leg : EvaluatedLeg) : Prop where
  sorted : ∀ watched, leg.watched = .ok watched → SortedAsks watched.book.asks
  carriedFee : ∀ watched, leg.watched = .ok watched → ∀ pool ∈ watched.pool, pool.feePct < 1
  configuredFee : ∀ pool ∈ leg.ammPool, pool.feePct < 1

/-- The books that are read are those that were watched. -/
theorem watched_of_watchBooks {inputs : EvaluationInputs}
    {books : Option WatchedBook × Option WatchedBook} (h : watchBooks inputs = .ok books) :
    (∀ watched ∈ books.1, inputs.first.watched = .ok watched) ∧
      ∀ watched ∈ books.2, inputs.second.watched = .ok watched := by
  unfold watchBooks at h
  split at h
  · split at h
    · next first second hfirst hsecond =>
        cases h
        refine ⟨fun watched hmem => ?_, fun watched hmem => ?_⟩
        · rw [hfirst, Option.mem_some.mp hmem]
        · rw [hsecond, Option.mem_some.mp hmem]
    · cases h
    · cases h
    · cases h
  · split at h
    · next first hfirst =>
        cases h
        refine ⟨fun watched hmem => ?_, fun watched hmem => ?_⟩
        · rw [hfirst, Option.mem_some.mp hmem]
        · cases hmem
    · cases h
  · split at h
    · next second hsecond =>
        cases h
        refine ⟨fun watched hmem => ?_, fun watched hmem => ?_⟩
        · cases hmem
        · rw [hsecond, Option.mem_some.mp hmem]
    · cases h
  · cases h

theorem EvaluatedLeg.Proper.routed {leg : EvaluatedLeg} (h : leg.Proper)
    {watched : Option WatchedBook} (hwatched : ∀ found ∈ watched, leg.watched = .ok found)
    (feeQuote : VenueFeeQuote) : (leg.routed watched feeQuote).Proper := by
  refine ⟨fun book hbook => ?_, fun pool hpool => ?_⟩
  · obtain ⟨found, hfound, rfl⟩ := Option.map_eq_some_iff.mp hbook
    exact h.sorted found (hwatched found hfound)
  · rcases Option.or_eq_some_iff.mp hpool with hconfigured | ⟨-, hcarried⟩
    · exact h.configuredFee pool hconfigured
    · obtain ⟨found, hfound, hcarried⟩ := Option.bind_eq_some_iff.mp hcarried
      exact h.carriedFee found (hwatched found hfound) pool hcarried

namespace EvaluationExamples

def config : EvaluationConfig where
  executionMode := .canary
  shadowRequireVerifiedMappings := true
  normalizeCategory := id
  positionSizeUsd := 16
  depthBuffer := 2
  minNetSpread := 1 / 20
  thresholdFor := fun _ => 1 / 40
  minExpectedProfitUsd := 1 / 2
  maxProductionPriceImpact := 1
  minNetSpread_pos := by decide +kernel

def market : MarketSpec where
  symbol := "rain"
  targetLabel := "Yes"
  polymarketTokenId := "p"
  polymarketSide := .yes
  predictFunTokenId := "q"
  predictFunSide := .no
  rulesFingerprint := some "f"
  category := some "weather"
  mappingStatus := .verified
  resolutionSource := some "station"
  outcomeSemantics := some "binary"
  verifiedRoutes := {"polymarket_predict"}

def quote : VenueFeeQuote where
  feeRateBps := 100
  verified := true

/-- This leg is served by its best ask. -/
def bookLeg : EvaluatedLeg where
  tokenId := "p"
  side := .yes
  watched := .ok { book := { asks := [⟨2 / 5, 100⟩], status := "VALID" }, executionFresh := true }
  hasConstraints := true
  feeQuote := some (some quote)

/-- The book of this one is a snapshot of a pool. -/
def poolLeg : EvaluatedLeg where
  tokenId := "q"
  side := .yes
  watched := .ok
    { book := { asks := [⟨9 / 34, 72⟩], status := "VALID" }
      pool := some ⟨200, 72, 0⟩
      executionFresh := true }
  hasConstraints := true
  feeQuote := some (some quote)

def inputs : EvaluationInputs where
  market := market
  route := .polymarketPredict
  first := bookLeg
  second := poolLeg
  maxSlippagePct := 1
  fixedChainCostUsd := 1 / 10
  anyRouterPaused := false
  paused := false

def books : Option WatchedBook × Option WatchedBook :=
  (some { book := { asks := [⟨2 / 5, 100⟩], status := "VALID" }, executionFresh := true },
    some { book := { asks := [⟨9 / 34, 72⟩], status := "VALID" }
           pool := some ⟨200, 72, 0⟩
           executionFresh := true })

def planned : RoutedInputs := plannedInputs config inputs books (quote, quote)

theorem guardedQuote_first :
    planned.guardedQuote firstNames planned.first = .ok ⟨2 / 5, 20, 8, 0⟩ := by
  decide +kernel

theorem guardedQuote_second :
    planned.guardedQuote secondNames planned.second = .ok ⟨2 / 5, 20, 8, 23 / 45⟩ := by
  decide +kernel

theorem fee_first : planned.first.fee (· ^ ·) 20 (2 / 5) = .ok ((2 / 25 : Dec) : ℝ) := by
  have hrate : FeeArithmetic.real.rate quote = 1 / 100 := by
    show (((100 : ℤ) : Dec) : ℝ) / ((10000 : Dec) : ℝ) = _
    norm_num
  have hfee : (FeeArithmetic.exact (· ^ ·)).feeForFill quote ((20 : Dec) : ℝ)
      ((2 / 5 : Dec) : ℝ) = .ok ((2 / 25 : Dec) : ℝ) := by
    refine (FeeArithmetic.feeForFill_real (by norm_num)).mpr ⟨⟨⟨?_, ?_, ?_, ?_, ?_, ?_⟩, ?_⟩, ?_⟩
    · decide
    · rw [hrate]
      norm_num
    · rw [hrate]
      norm_num
    · exact fun _ => zero_le_one
    · exact fun _ => le_rfl
    · intro name
      simp [quote]
    · norm_num
    · show 20 * (FeeArithmetic.real.rate quote * _) = _
      rw [hrate]
      norm_num
  show legFee (· ^ ·) ⟨⟨[], ""⟩, 0, some quote⟩ 20 (2 / 5) = _
  simp only [legFee, hfee]

/-- The plan of both fills. -/
noncomputable def plan : PositionPlan ℝ where
  polymarketContracts := 20
  polymarketCapitalUsd := 20 * (2 / 5)
  predictFunContracts := 20
  predictFunCapitalUsd := 20 * (2 / 5)
  payoutContracts := 20
  totalCostUsd := (20 * (2 / 5) : Dec) + (20 * (2 / 5) : Dec) + (2 / 25 : Dec) + (2 / 25 : Dec)
  polymarketFeeUsd := (2 / 25 : Dec)
  predictFunFeeUsd := (2 / 25 : Dec)

theorem positionPlan_planned : positionPlan (· ^ ·) planned = .ok plan := by
  have hmin : min (20 : Dec) 20 = 20 := min_self _
  have hpos : ¬ (20 : Dec) ≤ 0 := by norm_num
  have hsecond : planned.second.fee (· ^ ·) 20 (2 / 5) = .ok ((2 / 25 : Dec) : ℝ) := fee_first
  unfold positionPlan
  rw [if_neg (by decide +kernel), if_neg (by decide +kernel), guardedQuote_first,
    guardedQuote_second]
  simp only [bind, Except.bind, hmin, if_neg hpos, fee_first, hsecond, Except.mapError]
  rfl

theorem evaluate_inputs : ∃ signal : EligibleSignal ℝ,
    evaluate (· ^ ·) config inputs = .handed signal ∧ signal.plan = plan := by
  have hchain : ¬ planned.fixedChainCostUsd < 0 := by decide +kernel
  have hbest : ¬ ((2 / 5 : Dec) = 0 ∨ (9 / 34 : Dec) = 0) := by decide +kernel
  have hfirst : planned.first.bestPrice = .ok (2 / 5) := rfl
  have hsecond : planned.second.bestPrice = .ok (9 / 34) := rfl
  obtain ⟨metrics, hmetrics, hnet, hexpected⟩ : ∃ metrics : SpreadMetrics ℝ,
      spreadMetrics (· ^ ·) planned = .ok metrics ∧ metrics.netSpread = 187 / 1000 ∧
        metrics.expectedNetProfitUsd = 187 / 50 := by
    rw [spreadMetrics, positionPlan_planned]
    simp only [bind, Except.bind, if_neg hchain, hfirst, hsecond, if_neg hbest]
    refine ⟨_, rfl, ?_, ?_⟩
    · simp only [plan, planned, plannedInputs, inputs]
      norm_num
    · simp only [plan, planned, plannedInputs, inputs]
      norm_num
  have hbooks : watchBooks inputs = .ok books := rfl
  have hfees : feeQuotes inputs.first inputs.second = .ok (quote, quote) := rfl
  have hthreshold : config.dynamicThreshold inputs.route = 1 / 20 := by decide +kernel
  have hspread : ¬ metrics.netSpread ≤ config.dynamicThreshold inputs.route := by
    rw [hnet, hthreshold]
    norm_num
  have hprofit : ¬ metrics.expectedNetProfitUsd < max (config.minExpectedProfitUsd : ℝ)
      ((plan.polymarketFeeUsd + plan.predictFunFeeUsd) * (2 : Dec)) := by
    rw [hexpected, not_lt, max_le_iff]
    simp only [config, plan]
    norm_num
  have hsignal : eligibleSignal (· ^ ·) config inputs =
      .ok ⟨market, plan, metrics, 20 * (2 / 5) / 20, 20 * (2 / 5) / 20⟩ := by
    unfold eligibleSignal
    dsimp only
    rw [if_neg (by decide +kernel), if_neg (by decide +kernel), hbooks]
    simp only [bind, Except.bind]
    rw [if_neg (by decide +kernel), if_neg (by decide +kernel), hfees]
    dsimp only
    rw [show plannedInputs config inputs books (quote, quote) = planned from rfl, hmetrics]
    simp only [orRejected]
    rw [if_neg hspread, positionPlan_planned]
    dsimp only
    rw [if_neg hprofit]
    rfl
  refine ⟨⟨market, plan, metrics, 20 * (2 / 5) / 20, 20 * (2 / 5) / 20⟩, ?_, rfl⟩
  rw [evaluate, hsignal]
  rfl

end EvaluationExamples

end ArbitrageEngine.Engine
