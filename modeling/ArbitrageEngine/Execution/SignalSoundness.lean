/-
# ArbitrageEngine.Execution.SignalSoundness -- what an allowed signal costs

`calculate_spread_metrics` buys the order size on both books, takes the smaller of the two
quantities as the payout, and prices each leg at the average of its own fill.  The leg that bought
more is so priced dearer than it has to be: a smaller part of its asks costs less.  That is so with
the fee as well, if price and fee stay below one together, and they do in a signal that is allowed.
So an allowed signal can be bought for what it promises.

The arithmetic is exact.  Contracts and capital are rationals; a fee may be a power with any
exponent and is a number of a field `K`, in the end a real.  Both legs are books: pools are not.
-/
import ArbitrageEngine.ExactFees
import ArbitrageEngine.Execution.BookFills
import ArbitrageEngine.Lib.Effect

namespace ArbitrageEngine.Execution.Signal

open Lib.GreedyFill
open Lib.Effect (exists_of_bind_ok)

/-! ## Plans and metrics -/

/-- What raises. -/
inductive PlanError
  | feePercentages
  | priceImpactBound
  | noAsks
  | notionalNotPositive
  | noLiquidity
  | shortLiquidity
  | zeroDivision
  | slippageCap
  | depth (leg : String)
  | zeroContracts
  | fee (error : FeeError)
  | chainCost
deriving DecidableEq, Repr

/-- The texts of the exceptions. -/
def PlanError.message : PlanError → String
  | feePercentages => "trading fee percentages must be between 0 and 1"
  | priceImpactBound => "max_price_impact must be between 0 and 1"
  | noAsks => "order book has no asks"
  | notionalNotPositive => "target_notional_usd must be positive"
  | noLiquidity => "insufficient book liquidity"
  | shortLiquidity => "insufficient book liquidity for target notional"
  | zeroDivision => "float division by zero"
  | slippageCap => "price impact exceeds slippage cap"
  | depth leg => "insufficient executable depth on " ++ leg ++ " leg"
  | zeroContracts => "zero binary payout contracts"
  | fee error => error.message
  | chainCost => "fixed_chain_cost_usd must be non-negative"

/-- The arguments that come in pairs. -/
structure LegInputs where
  book : OrderBook
  feePct : Dec := 0
  feeQuote : Option VenueFeeQuote := none

/-- The arguments of `calculate_spread_metrics`; it does not read `min_net_spread`. -/
structure SpreadInputs where
  polymarket : LegInputs
  predictFun : LegInputs
  maxOrderSizeUsd : Dec
  maxSlippagePct : Dec
  maxPriceImpact : Dec
  requiredExecutableDepthUsd : Option Dec := none
  fixedChainCostUsd : Dec := 0

/-- `PositionPlan`. -/
structure PositionPlan (K : Type) where
  polymarketContracts : Dec
  polymarketCapitalUsd : Dec
  predictFunContracts : Dec
  predictFunCapitalUsd : Dec
  payoutContracts : Dec
  totalCostUsd : K
  polymarketFeeUsd : K
  predictFunFeeUsd : K

/-- `SpreadMetrics`. -/
structure SpreadMetrics (K : Type) where
  grossSpread : K
  netSpread : K
  expectedNetProfitUsd : K
  polymarketSlippage : K
  predictFunSlippage : K
  combinedCostPerPayout : K
  fixedChainCostUsd : K

/-- The asks that a fill takes from, `valid_asks`. -/
def validAsks (asks : List OrderBookLevel) : List OrderBookLevel :=
  asks.filter fun level => 0 < level.price ∧ 0 < level.size

/-- `executable_depth_usd`. -/
def executableDepthUsd (book : OrderBook) : Dec := askDepth (validAsks book.asks)

/-- `orderbook_buy_quote` with what it raises. -/
def buyQuote (book : OrderBook) (target : Dec) : Except PlanError FillQuote :=
  match book.asks.head? with
  | none => .error .noAsks
  | some best =>
      if target ≤ 0 then .error .notionalNotPositive
      else
        match Arithmetic.exact.orderbookBuyQuote book target with
        | none =>
            let (spent, size) := Arithmetic.exact.weightedFill book.asks target 0 0
            if spent ≤ 0 ∨ size ≤ 0 then .error .noLiquidity else .error .shortLiquidity
        | some quote => if best.price = 0 then .error .zeroDivision else .ok quote

/-- `quote_with_liquidity_guard` of a leg, and its executable depth. -/
def guardedQuote (inputs : SpreadInputs) (name : String) (leg : LegInputs) :
    Except PlanError FillQuote := do
  let quote ← buyQuote leg.book inputs.maxOrderSizeUsd
  if quote.slippagePct ≤ min inputs.maxSlippagePct inputs.maxPriceImpact then
    match inputs.requiredExecutableDepthUsd with
    | some required =>
        if executableDepthUsd leg.book < required then .error (.depth name) else .ok quote
    | none => .ok quote
  else .error .slippageCap

section Field

variable {K : Type} [Field K] [LinearOrder K] (pow : K → K → K)

/-- The fee of a leg for a fill. -/
def legFee (leg : LegInputs) (contracts averagePrice : Dec) : Except PlanError K :=
  match leg.feeQuote with
  | some quote =>
      match (FeeArithmetic.exact pow).feeForFill quote contracts averagePrice with
      | .ok fee => .ok fee
      | .error error => .error (.fee error)
  | none => .ok (contracts * averagePrice * leg.feePct : Dec)

/-- `build_position_plan`. -/
def buildPositionPlan (inputs : SpreadInputs) : Except PlanError (PositionPlan K) :=
  if ¬ (0 ≤ inputs.polymarket.feePct ∧ inputs.polymarket.feePct < 1) ∨
      ¬ (0 ≤ inputs.predictFun.feePct ∧ inputs.predictFun.feePct < 1) then .error .feePercentages
  else if ¬ (0 < inputs.maxPriceImpact ∧ inputs.maxPriceImpact ≤ 1) then .error .priceImpactBound
  else do
    let polyQuote ← guardedQuote inputs "first" inputs.polymarket
    let predictQuote ← guardedQuote inputs "second" inputs.predictFun
    let payoutContracts := min polyQuote.contracts predictQuote.contracts
    if payoutContracts ≤ 0 then .error .zeroContracts
    else do
      let polyCapital := payoutContracts * polyQuote.avgPrice
      let predictCapital := payoutContracts * predictQuote.avgPrice
      let polyFee ← legFee pow inputs.polymarket payoutContracts polyQuote.avgPrice
      let predictFee ← legFee pow inputs.predictFun payoutContracts predictQuote.avgPrice
      .ok
        { polymarketContracts := payoutContracts
          polymarketCapitalUsd := polyCapital
          predictFunContracts := payoutContracts
          predictFunCapitalUsd := predictCapital
          payoutContracts := payoutContracts
          totalCostUsd := polyCapital + predictCapital + polyFee + predictFee
          polymarketFeeUsd := polyFee
          predictFunFeeUsd := predictFee }

/-- `_best_leg_price`. -/
def bestLegPrice (leg : LegInputs) : Except PlanError Dec :=
  match leg.book.asks.head? with
  | some best => .ok best.price
  | none => .error .noAsks

/-- `calculate_spread_metrics`. -/
def calculateSpreadMetrics (inputs : SpreadInputs) : Except PlanError (SpreadMetrics K) := do
  let plan ← buildPositionPlan pow inputs
  if inputs.fixedChainCostUsd < 0 then .error .chainCost
  else do
    let chainCost : K := inputs.fixedChainCostUsd
    let polyAvg := (plan.polymarketCapitalUsd + plan.polymarketFeeUsd) / plan.payoutContracts
    let predictAvg :=
      (plan.predictFunCapitalUsd + plan.predictFunFeeUsd + chainCost) / plan.payoutContracts
    let combinedCost := polyAvg + predictAvg
    let netSpread := 1 - combinedCost
    let firstBest ← bestLegPrice inputs.polymarket
    let secondBest ← bestLegPrice inputs.predictFun
    if firstBest = 0 ∨ secondBest = 0 then .error .zeroDivision
    else
      .ok
        { grossSpread := 1 - (firstBest + secondBest)
          netSpread := netSpread
          expectedNetProfitUsd := plan.payoutContracts * netSpread
          polymarketSlippage := max 0 ((polyAvg - firstBest) / firstBest)
          predictFunSlippage := max 0 ((predictAvg - secondBest) / secondBest)
          combinedCostPerPayout := combinedCost
          fixedChainCostUsd := chainCost }

/-- `is_binary_signal_allowed`. -/
def isBinarySignalAllowed (metrics : SpreadMetrics K) (minNetSpread : Dec) : Bool :=
  let epsilon : K := 1 / 10 ^ 9
  metrics.combinedCostPerPayout < 1 - minNetSpread - epsilon ∧
    minNetSpread + epsilon < metrics.netSpread

end Field

/-! ## A leg -/

/-- What some contracts cost on a leg, bought from its best ask on. -/
def legCost (leg : LegInputs) (contracts : Dec) : Dec :=
  walkCost OrderBookLevel.price OrderBookLevel.size (validAsks leg.book.asks) contracts

/-- How many contracts a leg has on offer. -/
def legSupply (leg : LegInputs) : Dec := supply OrderBookLevel.size (validAsks leg.book.asks)

theorem properAsks_validAsks (asks : List OrderBookLevel) : ProperAsks (validAsks asks) := by
  intro level hmem
  have hvalid := (List.mem_filter.mp hmem).2
  simpa using hvalid

theorem sortedAsks_validAsks {asks : List OrderBookLevel} (h : SortedAsks asks) :
    SortedAsks (validAsks asks) :=
  List.Pairwise.filter _ h

/-- The loop passes over the other asks. -/
theorem weightedFill_validAsks (ops : Arithmetic) (asks : List OrderBookLevel)
    (remaining spent size : Dec) :
    ops.weightedFill (validAsks asks) remaining spent size =
      ops.weightedFill asks remaining spent size := by
  induction asks generalizing remaining spent size with
  | nil => rfl
  | cons level rest ih =>
    by_cases hvalid : 0 < level.price ∧ 0 < level.size
    · have hkept : validAsks (level :: rest) = level :: validAsks rest := by
        simp [validAsks, hvalid]
      rw [hkept, Arithmetic.weightedFill, Arithmetic.weightedFill]
      simp only [ih]
    · have hleft : validAsks (level :: rest) = validAsks rest := by
        simp only [validAsks, List.filter_cons, decide_eq_true_eq, if_neg hvalid]
      have hskip : level.price ≤ 0 ∨ level.size ≤ 0 := by
        rwa [not_and_or, not_lt, not_lt] at hvalid
      rw [hleft, Arithmetic.weightedFill, if_pos hskip]
      exact ih remaining spent size

theorem fill_of_buyQuote {book : OrderBook} {target : Dec} {quote : FillQuote}
    (h : buyQuote book target = .ok quote) :
    0 < target ∧ Arithmetic.exact.weightedAverageFill (validAsks book.asks) target =
      some (quote.avgPrice, quote.contracts, quote.spentUsd) := by
  have hsame : Arithmetic.exact.weightedAverageFill (validAsks book.asks) target =
      Arithmetic.exact.weightedAverageFill book.asks target := by
    simp only [Arithmetic.weightedAverageFill, weightedFill_validAsks]
  rw [hsame]
  unfold buyQuote Arithmetic.orderbookBuyQuote at h
  cases hbest : book.asks.head? with
  | none => simp [hbest] at h
  | some best =>
    by_cases htarget : target ≤ 0
    · simp [hbest, htarget] at h
    cases hfill : Arithmetic.exact.weightedAverageFill book.asks target with
    | none =>
      simp only [hbest, if_neg htarget, hfill, Option.bind_eq_bind, Option.bind_some,
        Option.bind_none] at h
      split_ifs at h
    | some fill =>
      obtain ⟨avgPrice, contracts, spent⟩ := fill
      simp only [hbest, if_neg htarget, hfill, Option.bind_eq_bind, Option.bind_some] at h
      split_ifs at h
      cases h
      exact ⟨not_le.mp htarget, rfl⟩

/-- **A part of a fill costs at most its share of it.**  The quote buys some contracts at an average
price, and fewer of them have no higher one. -/
theorem legCost_le {leg : LegInputs} {target : Dec} {quote : FillQuote}
    (h : buyQuote leg.book target = .ok quote) (hsorted : SortedAsks leg.book.asks)
    {contracts : Dec} (hc : 0 < contracts) (hle : contracts ≤ quote.contracts) :
    0 ≤ legCost leg contracts / contracts ∧ legCost leg contracts / contracts ≤ quote.avgPrice ∧
      contracts ≤ legSupply leg := by
  obtain ⟨htarget, hfill⟩ := fill_of_buyQuote h
  have hproper := properAsks_validAsks leg.book.asks
  rw [weightedAverageFill_exact hproper htarget] at hfill
  split_ifs at hfill with hshort
  obtain ⟨hne, -⟩ := not_or.mp hshort
  simp only [Option.some.injEq, Prod.mk.injEq] at hfill
  obtain ⟨haverage, hbought, -⟩ := hfill
  rw [← hbought] at hle
  obtain ⟨hspent, -, hdepth, -⟩ := loopSpent_spec hproper htarget.le
  have hpos := loopBought_pos hproper hne htarget
  have hshare := walkCost_average hproper (sortedAsks_validAsks hsorted) hspent hdepth hc.le hle
  refine ⟨div_nonneg (walkCost_nonneg hproper hc.le) hc.le, ?_,
    hle.trans (greedyBought_le_supply hproper _)⟩
  rw [← haverage, div_le_div_iff₀ hc hpos]
  exact hshare

/-- The fee of a lower price: with it, the contracts cost no more. -/
theorem legFee_follows {leg : LegInputs} (hpct : 0 ≤ leg.feePct) {contracts paid quoted : Dec}
    {quotedFee : ℝ} (hc : 0 < contracts) (hpaid : 0 ≤ paid) (hle : paid ≤ quoted)
    (h : legFee (· ^ ·) leg contracts quoted = .ok quotedFee) :
    0 ≤ quotedFee ∧ ((contracts * quoted + quotedFee < contracts : Prop) →
      ∃ fee : ℝ, legFee (· ^ ·) leg contracts paid = .ok fee ∧
        contracts * paid + fee ≤ contracts * quoted + quotedFee) := by
  have hc' : (0 : ℝ) < contracts := Rat.cast_pos.mpr hc
  have hpaid' : (0 : ℝ) ≤ paid := Rat.cast_nonneg.mpr hpaid
  have hle' : (paid : ℝ) ≤ quoted := Rat.cast_le.mpr hle
  unfold legFee at h ⊢
  cases hquote : leg.feeQuote with
  | none =>
    simp only [hquote] at h ⊢
    cases h
    have hfee : contracts * paid * leg.feePct ≤ contracts * quoted * leg.feePct :=
      mul_le_mul_of_nonneg_right (mul_le_mul_of_nonneg_left hle hc.le) hpct
    refine ⟨Rat.cast_nonneg.mpr ?_, fun _ => ⟨_, rfl, ?_⟩⟩
    · exact mul_nonneg (mul_nonneg hc.le (hpaid.trans hle)) hpct
    · exact add_le_add (mul_le_mul_of_nonneg_left hle' hc'.le) (Rat.cast_le.mpr hfee)
  | some quote =>
    simp only [hquote] at h ⊢
    cases hfee : (FeeArithmetic.exact (· ^ ·)).feeForFill quote (contracts : ℝ) (quoted : ℝ) with
    | error error => simp [hfee] at h
    | ok amount =>
      simp only [hfee] at h
      obtain rfl := Except.ok.inj h
      obtain ⟨⟨hcharge, hlow, hhigh⟩, heq⟩ := (FeeArithmetic.feeForFill_real hc').mp hfee
      have hcharged : 0 ≤ FeeArithmetic.perContract quote contracts quoted :=
        hcharge.perContract_nonneg hlow hhigh
      refine ⟨heq ▸ mul_nonneg hc'.le hcharged, fun hsum => ?_⟩
      have hbelow : (quoted : ℝ) + FeeArithmetic.perContract quote contracts quoted < 1 := by
        rw [← heq, ← mul_add] at hsum
        exact lt_of_mul_lt_mul_left (by rwa [mul_one]) hc'.le
      have hfollows := hcharge.followsPrice hc' hpaid' hle' (by linarith) hbelow
      have hpaidFee : (FeeArithmetic.exact (· ^ ·)).feeForFill quote (contracts : ℝ) (paid : ℝ) =
          .ok (contracts * FeeArithmetic.perContract quote contracts paid) :=
        (FeeArithmetic.feeForFill_real hc').mpr ⟨⟨hcharge, hpaid', hle'.trans hhigh⟩, rfl⟩
      refine ⟨contracts * FeeArithmetic.perContract quote contracts paid, ?_, ?_⟩
      · simp only [hpaidFee]
      · rw [← heq, ← mul_add, ← mul_add]
        exact mul_le_mul_of_nonneg_left hfollows hc'.le

/-! ## The signal -/

theorem plan_of_metrics {inputs : SpreadInputs} {metrics : SpreadMetrics ℝ}
    (h : calculateSpreadMetrics (· ^ ·) inputs = .ok metrics) :
    ∃ plan, buildPositionPlan (· ^ ·) inputs = .ok plan ∧ 0 ≤ inputs.fixedChainCostUsd ∧
      metrics.combinedCostPerPayout =
        (plan.polymarketCapitalUsd + plan.polymarketFeeUsd) / plan.payoutContracts +
          (plan.predictFunCapitalUsd + plan.predictFunFeeUsd + inputs.fixedChainCostUsd) /
            plan.payoutContracts := by
  obtain ⟨plan, hplan, h⟩ := exists_of_bind_ok h
  split_ifs at h with hchain
  obtain ⟨firstBest, -, h⟩ := exists_of_bind_ok h
  obtain ⟨secondBest, -, h⟩ := exists_of_bind_ok h
  split_ifs at h
  cases h
  exact ⟨plan, hplan, not_lt.mp hchain, rfl⟩

theorem buyQuote_of_guardedQuote {inputs : SpreadInputs} {name : String} {leg : LegInputs}
    {quote : FillQuote} (h : guardedQuote inputs name leg = .ok quote) :
    buyQuote leg.book inputs.maxOrderSizeUsd = .ok quote := by
  obtain ⟨bought, hbought, h⟩ := exists_of_bind_ok h
  split_ifs at h
  split at h
  · split_ifs at h
    cases h
    exact hbought
  · cases h
    exact hbought

/-- What a plan is made of. -/
theorem quotes_of_plan {inputs : SpreadInputs} {plan : PositionPlan ℝ}
    (h : buildPositionPlan (· ^ ·) inputs = .ok plan) :
    (0 ≤ inputs.polymarket.feePct ∧ 0 ≤ inputs.predictFun.feePct) ∧ 0 < plan.payoutContracts ∧
      ∃ polyQuote predictQuote,
        (buyQuote inputs.polymarket.book inputs.maxOrderSizeUsd = .ok polyQuote ∧
          plan.payoutContracts ≤ polyQuote.contracts ∧
          plan.polymarketCapitalUsd = plan.payoutContracts * polyQuote.avgPrice ∧
          legFee (· ^ ·) inputs.polymarket plan.payoutContracts polyQuote.avgPrice =
            .ok plan.polymarketFeeUsd) ∧
        (buyQuote inputs.predictFun.book inputs.maxOrderSizeUsd = .ok predictQuote ∧
          plan.payoutContracts ≤ predictQuote.contracts ∧
          plan.predictFunCapitalUsd = plan.payoutContracts * predictQuote.avgPrice ∧
          legFee (· ^ ·) inputs.predictFun plan.payoutContracts predictQuote.avgPrice =
            .ok plan.predictFunFeeUsd) := by
  unfold buildPositionPlan at h
  split_ifs at h with hpct himpact
  obtain ⟨polyQuote, hpoly, h⟩ := exists_of_bind_ok h
  obtain ⟨predictQuote, hpredict, h⟩ := exists_of_bind_ok h
  dsimp only at h
  split_ifs at h with hpayout
  obtain ⟨polyFee, hpolyFee, h⟩ := exists_of_bind_ok h
  obtain ⟨predictFee, hpredictFee, h⟩ := exists_of_bind_ok h
  cases h
  simp only [not_or, not_not] at hpct
  exact ⟨⟨hpct.1.1, hpct.2.1⟩, not_le.mp hpayout, polyQuote, predictQuote,
    ⟨buyQuote_of_guardedQuote hpoly, min_le_left _ _, rfl, hpolyFee⟩,
    ⟨buyQuote_of_guardedQuote hpredict, min_le_right _ _, rfl, hpredictFee⟩⟩

/-- **What an allowed signal costs.**  If the asks are sorted, the payout of the plan is on offer on
both legs, and buying it there from the best ask on costs, with the fees for the average prices that
are really paid and with the chain cost, less than the payout without the net spread.  The
configuration has a positive net spread. -/
theorem allowed_signal_cost {inputs : SpreadInputs} {metrics : SpreadMetrics ℝ} {minNetSpread : Dec}
    (hpolySorted : SortedAsks inputs.polymarket.book.asks)
    (hpredictSorted : SortedAsks inputs.predictFun.book.asks) (hspread : 0 ≤ minNetSpread)
    (hmetrics : calculateSpreadMetrics (· ^ ·) inputs = .ok metrics)
    (hallowed : isBinarySignalAllowed metrics minNetSpread = true) :
    ∃ (plan : PositionPlan ℝ) (polyFee predictFee : ℝ),
      buildPositionPlan (· ^ ·) inputs = .ok plan ∧ 0 < plan.payoutContracts ∧
      plan.payoutContracts ≤ legSupply inputs.polymarket ∧
      plan.payoutContracts ≤ legSupply inputs.predictFun ∧
      legFee (· ^ ·) inputs.polymarket plan.payoutContracts
        (legCost inputs.polymarket plan.payoutContracts / plan.payoutContracts) = .ok polyFee ∧
      legFee (· ^ ·) inputs.predictFun plan.payoutContracts
        (legCost inputs.predictFun plan.payoutContracts / plan.payoutContracts) = .ok predictFee ∧
      (legCost inputs.polymarket plan.payoutContracts + polyFee) +
          (legCost inputs.predictFun plan.payoutContracts + predictFee) +
          inputs.fixedChainCostUsd <
        (1 - minNetSpread) * plan.payoutContracts := by
  obtain ⟨plan, hplan, hchain, hcombined⟩ := plan_of_metrics hmetrics
  obtain ⟨⟨hpolyPct, hpredictPct⟩, hpayout, polyQuote, predictQuote,
    ⟨hpoly, hpolyLe, hpolyCapital, hpolyFee⟩,
    ⟨hpredict, hpredictLe, hpredictCapital, hpredictFee⟩⟩ := quotes_of_plan hplan
  obtain ⟨hpolyPaid, hpolyAverage, hpolySupply⟩ := legCost_le hpoly hpolySorted hpayout hpolyLe
  obtain ⟨hpredictPaid, hpredictAverage, hpredictSupply⟩ :=
    legCost_le hpredict hpredictSorted hpayout hpredictLe
  obtain ⟨hpolyFee_nonneg, hpolyFollows⟩ :=
    legFee_follows hpolyPct hpayout hpolyPaid hpolyAverage hpolyFee
  obtain ⟨hpredictFee_nonneg, hpredictFollows⟩ :=
    legFee_follows hpredictPct hpayout hpredictPaid hpredictAverage hpredictFee
  have hpayout' : (0 : ℝ) < plan.payoutContracts := Rat.cast_pos.mpr hpayout
  have hchain' : (0 : ℝ) ≤ inputs.fixedChainCostUsd := Rat.cast_nonneg.mpr hchain
  have hspread' : (0 : ℝ) ≤ minNetSpread := Rat.cast_nonneg.mpr hspread
  -- the metrics promise both legs at the averages of their whole fills
  have hpromised : plan.payoutContracts * polyQuote.avgPrice + plan.polymarketFeeUsd +
      (plan.payoutContracts * predictQuote.avgPrice + plan.predictFunFeeUsd) +
        inputs.fixedChainCostUsd < (1 - minNetSpread) * plan.payoutContracts := by
    have hbelow := (of_decide_eq_true hallowed).1
    rw [hcombined, hpolyCapital, hpredictCapital, ← add_div, div_lt_iff₀ hpayout'] at hbelow
    push_cast at hbelow
    have hepsilon : (0 : ℝ) ≤ 1 / 10 ^ 9 * plan.payoutContracts :=
      mul_nonneg (by norm_num) hpayout'.le
    linarith
  have hspread_part := mul_nonneg hspread' hpayout'.le
  have hpolyCost : (0 : ℝ) ≤ plan.payoutContracts * polyQuote.avgPrice :=
    mul_nonneg hpayout'.le (Rat.cast_nonneg.mpr (hpolyPaid.trans hpolyAverage))
  have hpredictCost : (0 : ℝ) ≤ plan.payoutContracts * predictQuote.avgPrice :=
    mul_nonneg hpayout'.le (Rat.cast_nonneg.mpr (hpredictPaid.trans hpredictAverage))
  -- so each leg stays below one for each contract
  obtain ⟨polyFee, hpolyPaidFee, hpolyLess⟩ := hpolyFollows (by linarith)
  obtain ⟨predictFee, hpredictPaidFee, hpredictLess⟩ := hpredictFollows (by linarith)
  refine ⟨plan, polyFee, predictFee, hplan, hpayout, hpolySupply, hpredictSupply, hpolyPaidFee,
    hpredictPaidFee, ?_⟩
  rw [Rat.cast_div, mul_div_cancel₀ _ hpayout'.ne'] at hpolyLess hpredictLess
  linarith

namespace SignalExamples

def curveQuote : VenueFeeQuote where
  model := .polymarketTaker
  feeRateFraction := some (1 / 10)
  verified := true

def notionalQuote : VenueFeeQuote where
  feeRateBps := 100
  verified := true

/-- The fill of this leg goes into its second ask; its fee is on the curve. -/
def polymarket : LegInputs where
  book := { asks := [⟨2 / 5, 10⟩, ⟨1 / 2, 100⟩], status := "VALID" }
  feeQuote := some curveQuote

/-- This one is served by its best ask, for a larger quantity. -/
def predictFun : LegInputs where
  book := { asks := [⟨2 / 5, 100⟩], status := "VALID" }
  feeQuote := some notionalQuote

def inputs : SpreadInputs where
  polymarket := polymarket
  predictFun := predictFun
  maxOrderSizeUsd := 8
  maxSlippagePct := 1 / 5
  maxPriceImpact := 1 / 5
  requiredExecutableDepthUsd := some 16
  fixedChainCostUsd := 1 / 10

theorem guardedQuote_polymarket :
    guardedQuote inputs "first" polymarket = .ok ⟨4 / 9, 18, 8, 1 / 9⟩ := by decide +kernel

theorem guardedQuote_predictFun :
    guardedQuote inputs "second" predictFun = .ok ⟨2 / 5, 20, 8, 0⟩ := by decide +kernel

theorem legFee_polymarket : legFee (· ^ ·) polymarket 18 (4 / 9) = .ok (4 / 9 : ℝ) := by
  have hrate : FeeArithmetic.real.rate curveQuote = 1 / 10 := by
    show ((1 / 10 : Dec) : ℝ) = _
    push_cast
    rfl
  have hfee : (FeeArithmetic.exact (· ^ ·)).feeForFill curveQuote ((18 : Dec) : ℝ)
      ((4 / 9 : Dec) : ℝ) = .ok (4 / 9) := by
    refine (FeeArithmetic.feeForFill_real (by norm_num)).mpr
      ⟨⟨⟨le_rfl, ?_, ?_, ?_, ?_, ?_⟩, ?_⟩, ?_⟩
    · rw [hrate]
      norm_num
    · rw [hrate]
      norm_num
    · exact fun _ => zero_le_one
    · exact fun _ => le_rfl
    · intro name
      simp [curveQuote]
    · norm_num
    · show 18 * (FeeArithmetic.real.rate curveQuote * (_ * (1 - _)) ^ ((1 : Dec) : ℝ)) = _
      rw [hrate]
      norm_num
  simp only [legFee, polymarket, hfee]

theorem legFee_predictFun : legFee (· ^ ·) predictFun 18 (2 / 5) = .ok (9 / 125 : ℝ) := by
  have hrate : FeeArithmetic.real.rate notionalQuote = 1 / 100 := by
    show (((100 : ℤ) : Dec) : ℝ) / ((10000 : Dec) : ℝ) = _
    norm_num
  have hfee : (FeeArithmetic.exact (· ^ ·)).feeForFill notionalQuote ((18 : Dec) : ℝ)
      ((2 / 5 : Dec) : ℝ) = .ok (9 / 125) := by
    refine (FeeArithmetic.feeForFill_real (by norm_num)).mpr ⟨⟨⟨?_, ?_, ?_, ?_, ?_, ?_⟩, ?_⟩, ?_⟩
    · decide
    · rw [hrate]
      norm_num
    · rw [hrate]
      norm_num
    · exact fun _ => zero_le_one
    · exact fun _ => le_rfl
    · intro name
      simp [notionalQuote]
    · norm_num
    · show 18 * (FeeArithmetic.real.rate notionalQuote * _) = _
      rw [hrate]
      norm_num
  simp only [legFee, predictFun, hfee]

/-- The plan of both fills. -/
noncomputable def plan : PositionPlan ℝ where
  polymarketContracts := 18
  polymarketCapitalUsd := 18 * (4 / 9)
  predictFunContracts := 18
  predictFunCapitalUsd := 18 * (2 / 5)
  payoutContracts := 18
  totalCostUsd := (18 * (4 / 9) : Dec) + (18 * (2 / 5) : Dec) + 4 / 9 + 9 / 125
  polymarketFeeUsd := 4 / 9
  predictFunFeeUsd := 9 / 125

theorem buildPositionPlan_inputs : buildPositionPlan (· ^ ·) inputs = .ok plan := by
  have hmin : min (18 : Dec) 20 = 18 := by norm_num
  have hpos : ¬ (18 : Dec) ≤ 0 := by norm_num
  unfold buildPositionPlan
  rw [if_neg (by decide +kernel), if_neg (by decide +kernel)]
  show (guardedQuote inputs "first" polymarket >>= fun polyQuote =>
    guardedQuote inputs "second" predictFun >>= fun predictQuote => _) = _
  rw [guardedQuote_polymarket, guardedQuote_predictFun]
  simp only [bind, Except.bind, hmin, if_neg hpos, inputs, legFee_polymarket, legFee_predictFun]
  rfl

/-- The payout of 18 contracts costs less than 95 cents each. -/
theorem allowed_signal_cost_two_asks :
    ∃ (plan : PositionPlan ℝ) (polyFee predictFee : ℝ),
      buildPositionPlan (· ^ ·) inputs = .ok plan ∧
      (legCost polymarket plan.payoutContracts + polyFee) +
          (legCost predictFun plan.payoutContracts + predictFee) +
          inputs.fixedChainCostUsd <
        (1 - ((1 / 20 : Dec) : ℝ)) * plan.payoutContracts := by
  obtain ⟨metrics, hmetrics, hallowed⟩ : ∃ metrics : SpreadMetrics ℝ,
      calculateSpreadMetrics (· ^ ·) inputs = .ok metrics ∧
        isBinarySignalAllowed metrics (1 / 20) = true := by
    have hchain : ¬ inputs.fixedChainCostUsd < 0 := by decide +kernel
    have hbest : ¬ ((2 / 5 : Dec) = 0 ∨ (2 / 5 : Dec) = 0) := by decide +kernel
    have hfirst : bestLegPrice inputs.polymarket = .ok (2 / 5) := rfl
    have hsecond : bestLegPrice inputs.predictFun = .ok (2 / 5) := rfl
    rw [calculateSpreadMetrics, buildPositionPlan_inputs]
    simp only [bind, Except.bind, if_neg hchain, hfirst, hsecond, if_neg hbest]
    refine ⟨_, rfl, ?_⟩
    simp only [isBinarySignalAllowed, inputs, plan]
    norm_num
  have hpoly : SortedAsks inputs.polymarket.book.asks := by
    show List.Pairwise (fun a b : OrderBookLevel => a.price ≤ b.price) _
    decide +kernel
  have hpredict : SortedAsks inputs.predictFun.book.asks := by
    show List.Pairwise (fun a b : OrderBookLevel => a.price ≤ b.price) _
    decide +kernel
  obtain ⟨plan, polyFee, predictFee, hplan, -, -, -, -, -, hcost⟩ :=
    allowed_signal_cost hpoly hpredict (by norm_num) hmetrics hallowed
  exact ⟨plan, polyFee, predictFee, hplan, hcost⟩

end SignalExamples

end ArbitrageEngine.Execution.Signal
