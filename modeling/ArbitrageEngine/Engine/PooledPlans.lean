/-
# ArbitrageEngine.Engine.PooledPlans -- plans whose legs are books or pools

A leg is bought from an order book or from a pool that keeps the product of its reserves.  A book
may carry a pool; then the pool gives the quote, and the book the depth and the best price.  On books
alone this is `buildPositionPlan` (`positionPlan_ofBooks`).

A plan prices each leg at the average of its whole fill.  Fewer contracts have no higher price, on a
book as in a pool, so the payout of a plan can be bought for what the plan says (`plan_is_covered`).
-/
import ArbitrageEngine.Execution.SignalSoundness
import ArbitrageEngine.Lib.ConstantProduct
import ArbitrageEngine.Positions.Codec

namespace ArbitrageEngine.Engine

open Execution Execution.Signal Lib.GreedyFill
open Lib.Effect (exists_of_bind_ok mapError_bind)
open Positions (AmmPool)

/-! ## Quotes -/

/-- What raises: a `ValueError`, but for a division by zero. -/
inductive RoutedError
  | plan (error : PlanError)
  | reserves
  | noContracts
  | decimalDivision
  /-- Neither a book nor a pool, for a quote or for a price. -/
  | missing (argument : String)
  | unpriced
deriving DecidableEq

/-- The texts of the exceptions. -/
def RoutedError.message : RoutedError → String
  | plan error => error.message
  | reserves => "AMM reserves must be positive"
  | noContracts => "AMM quote returned zero contracts"
  | decimalDivision => "[<class 'decimal.DivisionByZero'>]"
  | missing argument => argument ++ "_book or " ++ argument ++ "_amm_pool is required"
  | unpriced => "order book or AMM pool is required"

/-- `except ValueError` catches it. -/
def RoutedError.isValueError : RoutedError → Bool
  | plan .zeroDivision | decimalDivision => false
  | plan _ | reserves | noContracts | missing _ | unpriced => true

/-- A leg of a plan. -/
structure RoutedLeg where
  book : Option OrderBook
  pool : Option AmmPool
  side : BinarySide
  feePct : Dec := 0
  feeQuote : Option VenueFeeQuote := none

/-- What the plan calls its legs. -/
structure LegNames where
  argument : String
  ordinal : String

def firstNames : LegNames := ⟨"polymarket", "first"⟩

def secondNames : LegNames := ⟨"predict_fun", "second"⟩

/-- `x_reserve` and `y_reserve`. -/
def reserves (pool : AmmPool) : BinarySide → Dec × Dec
  | .yes => (pool.noReserve, pool.yesReserve)
  | .no => (pool.yesReserve, pool.noReserve)

/-- `spot_price`. -/
def spotPrice (pool : AmmPool) (side : BinarySide) : Dec :=
  (reserves pool side).1 / ((reserves pool side).1 + (reserves pool side).2)

/-- `amm_buy_quote`. -/
def ammBuyQuote (pool : AmmPool) (side : BinarySide) (target : Dec) :
    Except RoutedError FillQuote :=
  let (x, y) := reserves pool side
  if target ≤ 0 then .error (.plan .notionalNotPositive)
  else if x ≤ 0 ∨ y ≤ 0 then .error .reserves
  else if x + target * (1 - pool.feePct) = 0 then .error .decimalDivision
  else
    let contractsOut := Lib.ConstantProduct.swapOut x y pool.feePct target
    if contractsOut ≤ 0 then .error .noContracts
    else
      .ok
        { avgPrice := target / contractsOut
          contracts := contractsOut
          spentUsd := target
          slippagePct :=
            max 0 ((target / contractsOut - spotPrice pool side) / spotPrice pool side) }

/-- The quote function of a leg. -/
def RoutedLeg.quote (leg : RoutedLeg) (names : LegNames) (target : Dec) :
    Except RoutedError FillQuote :=
  match leg.pool, leg.book with
  | some pool, _ => ammBuyQuote pool leg.side target
  | none, some book => (buyQuote book target).mapError .plan
  | none, none => .error (.missing names.argument)

/-! ## Plans -/

/-- The arguments of `calculate_spread_metrics`. -/
structure RoutedInputs where
  first : RoutedLeg
  second : RoutedLeg
  maxOrderSizeUsd : Dec
  maxSlippagePct : Dec
  maxPriceImpact : Dec
  requiredExecutableDepthUsd : Option Dec := none
  fixedChainCostUsd : Dec := 0

/-- `quote_with_liquidity_guard` of a leg, and the executable depth of its book. -/
def RoutedInputs.guardedQuote (inputs : RoutedInputs) (names : LegNames) (leg : RoutedLeg) :
    Except RoutedError FillQuote := do
  let quote ← leg.quote names inputs.maxOrderSizeUsd
  if quote.slippagePct ≤ min inputs.maxSlippagePct inputs.maxPriceImpact then
    match inputs.requiredExecutableDepthUsd, leg.book with
    | some required, some book =>
        if executableDepthUsd book < required then .error (.plan (.depth names.ordinal))
        else .ok quote
    | _, _ => .ok quote
  else .error (.plan .slippageCap)

section Field

variable {K : Type} [Field K] [LinearOrder K] (pow : K → K → K)

/-- The fee of a leg does not depend on where the leg is bought. -/
def RoutedLeg.fee (leg : RoutedLeg) (contracts averagePrice : Dec) : Except PlanError K :=
  legFee pow ⟨⟨[], ""⟩, leg.feePct, leg.feeQuote⟩ contracts averagePrice

/-- `build_position_plan`. -/
def positionPlan (inputs : RoutedInputs) : Except RoutedError (PositionPlan K) :=
  if ¬ (0 ≤ inputs.first.feePct ∧ inputs.first.feePct < 1) ∨
      ¬ (0 ≤ inputs.second.feePct ∧ inputs.second.feePct < 1) then .error (.plan .feePercentages)
  else if ¬ (0 < inputs.maxPriceImpact ∧ inputs.maxPriceImpact ≤ 1) then
    .error (.plan .priceImpactBound)
  else do
    let polyQuote ← inputs.guardedQuote firstNames inputs.first
    let predictQuote ← inputs.guardedQuote secondNames inputs.second
    let payoutContracts := min polyQuote.contracts predictQuote.contracts
    if payoutContracts ≤ 0 then .error (.plan .zeroContracts)
    else do
      let polyCapital := payoutContracts * polyQuote.avgPrice
      let predictCapital := payoutContracts * predictQuote.avgPrice
      let polyFee ← (inputs.first.fee pow payoutContracts polyQuote.avgPrice).mapError .plan
      let predictFee ← (inputs.second.fee pow payoutContracts predictQuote.avgPrice).mapError .plan
      .ok
        { polymarketContracts := payoutContracts
          polymarketCapitalUsd := polyCapital
          predictFunContracts := payoutContracts
          predictFunCapitalUsd := predictCapital
          payoutContracts := payoutContracts
          totalCostUsd := polyCapital + predictCapital + polyFee + predictFee
          polymarketFeeUsd := polyFee
          predictFunFeeUsd := predictFee }

/-- `_best_leg_price`. -/
def RoutedLeg.bestPrice (leg : RoutedLeg) : Except RoutedError Dec :=
  match leg.book, leg.pool with
  | some book, _ =>
      match book.asks.head? with
      | some best => .ok best.price
      | none => .error (.plan .noAsks)
  | none, some pool =>
      let (x, y) := reserves pool leg.side
      if x + y = 0 then .error (.plan .zeroDivision) else .ok (x / (x + y))
  | none, none => .error .unpriced

/-- `calculate_spread_metrics`. -/
def spreadMetrics (inputs : RoutedInputs) : Except RoutedError (SpreadMetrics K) := do
  let plan ← positionPlan pow inputs
  if inputs.fixedChainCostUsd < 0 then .error (.plan .chainCost)
  else do
    let chainCost : K := inputs.fixedChainCostUsd
    let polyAvg := (plan.polymarketCapitalUsd + plan.polymarketFeeUsd) / plan.payoutContracts
    let predictAvg :=
      (plan.predictFunCapitalUsd + plan.predictFunFeeUsd + chainCost) / plan.payoutContracts
    let combinedCost := polyAvg + predictAvg
    let netSpread := 1 - combinedCost
    let firstBest ← inputs.first.bestPrice
    let secondBest ← inputs.second.bestPrice
    if firstBest = 0 ∨ secondBest = 0 then .error (.plan .zeroDivision)
    else
      .ok
        { grossSpread := 1 - (firstBest + secondBest)
          netSpread := netSpread
          expectedNetProfitUsd := plan.payoutContracts * netSpread
          polymarketSlippage := max 0 ((polyAvg - firstBest) / firstBest)
          predictFunSlippage := max 0 ((predictAvg - secondBest) / secondBest)
          combinedCostPerPayout := combinedCost
          fixedChainCostUsd := chainCost }

/-! ## On books alone -/

/-- A leg of a plan on books. -/
def RoutedLeg.ofBook (leg : LegInputs) (side : BinarySide) : RoutedLeg where
  book := some leg.book
  pool := none
  side := side
  feePct := leg.feePct
  feeQuote := leg.feeQuote

/-- A plan on books. -/
def RoutedInputs.ofBooks (inputs : SpreadInputs) (firstSide secondSide : BinarySide) :
    RoutedInputs where
  first := .ofBook inputs.polymarket firstSide
  second := .ofBook inputs.predictFun secondSide
  maxOrderSizeUsd := inputs.maxOrderSizeUsd
  maxSlippagePct := inputs.maxSlippagePct
  maxPriceImpact := inputs.maxPriceImpact
  requiredExecutableDepthUsd := inputs.requiredExecutableDepthUsd
  fixedChainCostUsd := inputs.fixedChainCostUsd

theorem guardedQuote_ofBooks (inputs : SpreadInputs) (firstSide secondSide side : BinarySide)
    (names : LegNames) (leg : LegInputs) :
    (RoutedInputs.ofBooks inputs firstSide secondSide).guardedQuote names (.ofBook leg side) =
      (guardedQuote inputs names.ordinal leg).mapError .plan := by
  show (do
    let quote ← (buyQuote leg.book inputs.maxOrderSizeUsd).mapError RoutedError.plan
    if quote.slippagePct ≤ min inputs.maxSlippagePct inputs.maxPriceImpact then
      match inputs.requiredExecutableDepthUsd, some leg.book with
      | some required, some book =>
          if executableDepthUsd book < required then .error (.plan (.depth names.ordinal))
          else .ok quote
      | _, _ => .ok quote
    else .error (.plan .slippageCap)) = _
  unfold guardedQuote
  cases buyQuote leg.book inputs.maxOrderSizeUsd with
  | error error => rfl
  | ok quote =>
      show (if _ then _ else _) = Except.mapError _ (if _ then _ else _)
      split
      · cases inputs.requiredExecutableDepthUsd with
        | none => rfl
        | some required =>
            show (if _ then _ else _) = Except.mapError _ (if _ then _ else _)
            split <;> rfl
      · rfl

/-- On books the plan is that of `buildPositionPlan`. -/
theorem positionPlan_ofBooks (inputs : SpreadInputs) (firstSide secondSide : BinarySide) :
    positionPlan pow (.ofBooks inputs firstSide secondSide) =
      (buildPositionPlan pow inputs).mapError RoutedError.plan := by
  have hfirst := guardedQuote_ofBooks inputs firstSide secondSide firstSide firstNames
    inputs.polymarket
  have hsecond := guardedQuote_ofBooks inputs firstSide secondSide secondSide secondNames
    inputs.predictFun
  unfold buildPositionPlan
  simp only [apply_ite (Except.mapError RoutedError.plan), mapError_bind]
  rw [show guardedQuote inputs "first" _ = guardedQuote inputs firstNames.ordinal inputs.polymarket
      from rfl, ← hfirst,
    show guardedQuote inputs "second" _ = guardedQuote inputs secondNames.ordinal inputs.predictFun
      from rfl, ← hsecond]
  rfl

theorem bestPrice_ofBook (leg : LegInputs) (side : BinarySide) :
    (RoutedLeg.ofBook leg side).bestPrice = (bestLegPrice leg).mapError .plan := by
  show (match leg.book.asks.head? with
    | some best => Except.ok best.price
    | none => Except.error (RoutedError.plan .noAsks)) = _
  unfold bestLegPrice
  cases leg.book.asks.head? <;> rfl

/-- And the metrics are those of `calculateSpreadMetrics`. -/
theorem spreadMetrics_ofBooks (inputs : SpreadInputs) (firstSide secondSide : BinarySide) :
    spreadMetrics pow (.ofBooks inputs firstSide secondSide) =
      (calculateSpreadMetrics pow inputs).mapError RoutedError.plan := by
  unfold calculateSpreadMetrics
  simp only [mapError_bind, apply_ite (Except.mapError RoutedError.plan)]
  rw [← positionPlan_ofBooks pow inputs firstSide secondSide,
    ← bestPrice_ofBook inputs.polymarket firstSide, ← bestPrice_ofBook inputs.predictFun secondSide]
  rfl

end Field

/-! ## What a plan costs -/

/-- The leg without its pool, as a plan on books has it. -/
def RoutedLeg.onBook (leg : RoutedLeg) (book : OrderBook) : LegInputs :=
  ⟨book, leg.feePct, leg.feeQuote⟩

/-- What some contracts cost on a leg: in its pool, or from the best ask of its book on. -/
def RoutedLeg.cost (leg : RoutedLeg) (contracts : Dec) : Dec :=
  match leg.pool, leg.book with
  | some pool, _ =>
      let (x, y) := reserves pool leg.side
      Lib.ConstantProduct.cost x y pool.feePct contracts
  | none, some book => legCost (leg.onBook book) contracts
  | none, none => 0

/-- So many contracts are on offer; a pool is never emptied. -/
def RoutedLeg.Offers (leg : RoutedLeg) (contracts : Dec) : Prop :=
  match leg.pool, leg.book with
  | some pool, _ => contracts < (reserves pool leg.side).2
  | none, some book => contracts ≤ legSupply (leg.onBook book)
  | none, none => False

/-- The connectors sort the asks of a book, and no pool keeps the whole payment as its fee. -/
structure RoutedLeg.Proper (leg : RoutedLeg) : Prop where
  sorted : ∀ book ∈ leg.book, SortedAsks book.asks
  poolFee : ∀ pool ∈ leg.pool, pool.feePct < 1

theorem swapOut_of_ammBuyQuote {pool : AmmPool} {side : BinarySide} {target : Dec}
    {quote : FillQuote} (h : ammBuyQuote pool side target = .ok quote) :
    0 < target ∧ 0 < (reserves pool side).1 ∧ 0 < (reserves pool side).2 ∧
      quote.contracts = Lib.ConstantProduct.swapOut (reserves pool side).1 (reserves pool side).2
        pool.feePct target ∧ quote.avgPrice = target / quote.contracts := by
  unfold ammBuyQuote at h
  generalize reserves pool side = sides at h ⊢
  obtain ⟨x, y⟩ := sides
  dsimp only at h
  split_ifs at h with htarget hreserves
  cases h
  obtain ⟨hx, hy⟩ := not_or.mp hreserves
  exact ⟨not_le.mp htarget, not_le.mp hx, not_le.mp hy, rfl, rfl⟩

/-- **Fewer contracts have no higher price**, in a pool as on a book. -/
theorem cost_le {leg : RoutedLeg} {names : LegNames} {target : Dec} {quote : FillQuote}
    (hproper : leg.Proper) (h : leg.quote names target = .ok quote) {contracts : Dec}
    (hc : 0 < contracts) (hle : contracts ≤ quote.contracts) :
    0 ≤ leg.cost contracts / contracts ∧ leg.cost contracts / contracts ≤ quote.avgPrice ∧
      leg.Offers contracts := by
  obtain ⟨book, pool, side, feePct, feeQuote⟩ := leg
  cases pool with
  | some pool =>
      have hfee : pool.feePct < 1 := hproper.poolFee pool rfl
      obtain ⟨htarget, hx, hy, hcontracts, haverage⟩ := swapOut_of_ammBuyQuote h
      have hlt : quote.contracts < (reserves pool side).2 :=
        hcontracts ▸ Lib.ConstantProduct.swapOut_lt hx hy hfee htarget
      have hpaid := Lib.ConstantProduct.cost_average hx hfee hc hle hlt
      rw [show Lib.ConstantProduct.cost _ _ _ quote.contracts = target from
        hcontracts ▸ Lib.ConstantProduct.cost_swapOut hx hy hfee htarget, ← haverage] at hpaid
      exact ⟨div_nonneg (Lib.ConstantProduct.cost_nonneg hx hfee hc.le (hle.trans_lt hlt)) hc.le,
        hpaid, hle.trans_lt hlt⟩
  | none =>
      cases book with
      | none => cases h
      | some book =>
          let onBook : LegInputs := ⟨book, feePct, feeQuote⟩
          have hbuy : buyQuote onBook.book target = .ok quote := by
            cases hquote : buyQuote book target with
            | error error => simp [RoutedLeg.quote, hquote, Except.mapError] at h
            | ok bought => simpa [RoutedLeg.quote, hquote, Except.mapError] using h
          have hsorted : SortedAsks onBook.book.asks := hproper.sorted book rfl
          exact legCost_le hbuy hsorted hc hle

theorem quote_of_guardedQuote {inputs : RoutedInputs} {names : LegNames} {leg : RoutedLeg}
    {quote : FillQuote} (h : inputs.guardedQuote names leg = .ok quote) :
    leg.quote names inputs.maxOrderSizeUsd = .ok quote := by
  obtain ⟨bought, hbought, h⟩ := exists_of_bind_ok h
  split_ifs at h
  split at h
  · split_ifs at h
    cases h
    exact hbought
  · cases h
    exact hbought

/-- A leg of a plan: what it was quoted, for no fewer contracts, and what it then costs. -/
structure Quoted (inputs : RoutedInputs) (leg : RoutedLeg) (payout capital : Dec) (fee : ℝ)
    (quote : FillQuote) (names : LegNames) : Prop where
  feePct : 0 ≤ leg.feePct
  quoted : leg.quote names inputs.maxOrderSizeUsd = .ok quote
  payout_le : payout ≤ quote.contracts
  capital_eq : capital = payout * quote.avgPrice
  fee_eq : leg.fee (· ^ ·) payout quote.avgPrice = .ok fee

theorem legs_of_positionPlan {inputs : RoutedInputs} {plan : PositionPlan ℝ}
    (h : positionPlan (· ^ ·) inputs = .ok plan) :
    0 < plan.payoutContracts ∧ ∃ firstQuote secondQuote,
      Quoted inputs inputs.first plan.payoutContracts plan.polymarketCapitalUsd
        plan.polymarketFeeUsd firstQuote firstNames ∧
      Quoted inputs inputs.second plan.payoutContracts plan.predictFunCapitalUsd
        plan.predictFunFeeUsd secondQuote secondNames := by
  have hok : ∀ {fee : Except PlanError ℝ} {amount : ℝ},
      fee.mapError RoutedError.plan = .ok amount → fee = .ok amount := by
    intro fee amount hfee
    cases fee with
    | error error => cases hfee
    | ok charged =>
        cases hfee
        rfl
  unfold positionPlan at h
  split_ifs at h with hpct himpact
  obtain ⟨polyQuote, hpoly, h⟩ := exists_of_bind_ok h
  obtain ⟨predictQuote, hpredict, h⟩ := exists_of_bind_ok h
  dsimp only at h
  split_ifs at h with hpayout
  obtain ⟨polyFee, hpolyFee, h⟩ := exists_of_bind_ok h
  obtain ⟨predictFee, hpredictFee, h⟩ := exists_of_bind_ok h
  cases h
  simp only [not_or, not_not] at hpct
  exact ⟨not_le.mp hpayout, polyQuote, predictQuote,
    ⟨hpct.1.1, quote_of_guardedQuote hpoly, min_le_left _ _, rfl, hok hpolyFee⟩,
    ⟨hpct.2.1, quote_of_guardedQuote hpredict, min_le_right _ _, rfl, hok hpredictFee⟩⟩

/-- Such a leg costs no more when it is bought, if it was quoted below its payout. -/
theorem Quoted.covered {inputs : RoutedInputs} {leg : RoutedLeg} {payout capital : Dec} {fee : ℝ}
    {quote : FillQuote} {names : LegNames} (h : Quoted inputs leg payout capital fee quote names)
    (hproper : leg.Proper) (hpayout : 0 < payout) :
    0 ≤ (capital : ℝ) ∧ 0 ≤ fee ∧ leg.Offers payout ∧ ((capital + fee < payout : Prop) →
      ∃ paidFee : ℝ, leg.fee (· ^ ·) payout (leg.cost payout / payout) = .ok paidFee ∧
        leg.cost payout + paidFee ≤ capital + fee) := by
  have hpayout' : (0 : ℝ) < payout := Rat.cast_pos.mpr hpayout
  obtain ⟨hpaid, haverage, hoffers⟩ := cost_le hproper h.quoted hpayout h.payout_le
  obtain ⟨hfee, hfollows⟩ := legFee_follows h.feePct hpayout hpaid haverage h.fee_eq
  have hcapital : (capital : ℝ) = payout * quote.avgPrice := by
    rw [h.capital_eq, Rat.cast_mul]
  refine ⟨?_, hfee, hoffers, fun hbelow => ?_⟩
  · rw [hcapital]
    exact mul_nonneg hpayout'.le (Rat.cast_nonneg.mpr (hpaid.trans haverage))
  · obtain ⟨paidFee, hpaidFee, hless⟩ := hfollows (by rwa [← hcapital])
    rw [Rat.cast_div, mul_div_cancel₀ _ hpayout'.ne', ← hcapital] at hless
    exact ⟨paidFee, hpaidFee, hless⟩

theorem plan_of_spreadMetrics {inputs : RoutedInputs} {metrics : SpreadMetrics ℝ}
    (h : spreadMetrics (· ^ ·) inputs = .ok metrics) :
    ∃ plan, positionPlan (· ^ ·) inputs = .ok plan ∧ 0 ≤ inputs.fixedChainCostUsd ∧
      metrics.expectedNetProfitUsd = plan.payoutContracts * metrics.netSpread ∧
      metrics.netSpread =
        1 - ((plan.polymarketCapitalUsd + plan.polymarketFeeUsd) / plan.payoutContracts +
          (plan.predictFunCapitalUsd + plan.predictFunFeeUsd + inputs.fixedChainCostUsd) /
            plan.payoutContracts) := by
  obtain ⟨plan, hplan, h⟩ := exists_of_bind_ok h
  split_ifs at h with hchain
  obtain ⟨firstBest, -, h⟩ := exists_of_bind_ok h
  obtain ⟨secondBest, -, h⟩ := exists_of_bind_ok h
  split_ifs at h
  cases h
  exact ⟨plan, hplan, not_lt.mp hchain, rfl, rfl⟩

/-- What the legs of a plan come to when they are bought, with the fees for the prices really paid
and with the chain cost. -/
structure Covered (inputs : RoutedInputs) (plan : PositionPlan ℝ) (profit firstFee secondFee : ℝ) :
    Prop where
  payout_pos : 0 < plan.payoutContracts
  firstOffers : inputs.first.Offers plan.payoutContracts
  secondOffers : inputs.second.Offers plan.payoutContracts
  firstFee_eq : inputs.first.fee (· ^ ·) plan.payoutContracts
    (inputs.first.cost plan.payoutContracts / plan.payoutContracts) = .ok firstFee
  secondFee_eq : inputs.second.fee (· ^ ·) plan.payoutContracts
    (inputs.second.cost plan.payoutContracts / plan.payoutContracts) = .ok secondFee
  cost_le : (inputs.first.cost plan.payoutContracts + firstFee) +
      (inputs.second.cost plan.payoutContracts + secondFee) + inputs.fixedChainCostUsd ≤
    plan.payoutContracts - profit

/-- **A plan is covered.**  With a positive net spread the payout is on offer on both legs, and the
expected profit is left after what it costs to buy there. -/
theorem plan_is_covered {inputs : RoutedInputs} {metrics : SpreadMetrics ℝ}
    (hfirst : inputs.first.Proper) (hsecond : inputs.second.Proper)
    (hmetrics : spreadMetrics (· ^ ·) inputs = .ok metrics) (hspread : 0 < metrics.netSpread) :
    ∃ plan firstFee secondFee, positionPlan (· ^ ·) inputs = .ok plan ∧
      Covered inputs plan metrics.expectedNetProfitUsd firstFee secondFee := by
  obtain ⟨plan, hplan, hchain, hprofit, hnet⟩ := plan_of_spreadMetrics hmetrics
  obtain ⟨hpayout, firstQuote, secondQuote, hfirstLeg, hsecondLeg⟩ := legs_of_positionPlan hplan
  have hpayout' : (0 : ℝ) < plan.payoutContracts := Rat.cast_pos.mpr hpayout
  have hchain' : (0 : ℝ) ≤ inputs.fixedChainCostUsd := Rat.cast_nonneg.mpr hchain
  -- what the plan says that both legs cost
  have hpromised : plan.polymarketCapitalUsd + plan.polymarketFeeUsd +
      (plan.predictFunCapitalUsd + plan.predictFunFeeUsd + inputs.fixedChainCostUsd) =
        plan.payoutContracts - metrics.expectedNetProfitUsd := by
    rw [← add_div] at hnet
    rw [hprofit, hnet]
    field_simp
    ring
  have hexpected : 0 < metrics.expectedNetProfitUsd := hprofit ▸ mul_pos hpayout' hspread
  obtain ⟨hfirstCapital, hfirstFee, hfirstOffers, hfirstPaid⟩ := hfirstLeg.covered hfirst hpayout
  obtain ⟨hsecondCapital, hsecondFee, hsecondOffers, hsecondPaid⟩ :=
    hsecondLeg.covered hsecond hpayout
  obtain ⟨firstFee, hfirstEq, hfirstLess⟩ := hfirstPaid (by linarith)
  obtain ⟨secondFee, hsecondEq, hsecondLess⟩ := hsecondPaid (by linarith)
  exact ⟨plan, firstFee, secondFee, hplan, hpayout, hfirstOffers, hsecondOffers, hfirstEq,
    hsecondEq, by linarith⟩

end ArbitrageEngine.Engine
