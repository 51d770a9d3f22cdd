/-
# ArbitrageEngine.ExactFees -- the fee of a fill in exact arithmetic

`fee_for_fill` is written here for any arithmetic.  In the decimal context it is the code's; over
the reals a fee is what it is meant to be, an exponent that is no whole number included.  There a
fill is charged its contracts times a charge on the price, and a lower price never costs more with
its charge than a higher one that stays below one: for none of the models, though some charge less
as the price rises.
-/
import ArbitrageEngine.Fees
import ArbitrageEngine.Lib.CostCurves

namespace ArbitrageEngine

open Lib.CostCurves

/-! ## The fee in any arithmetic -/

/-- The numbers a fee is computed with, and how their operators round. -/
structure FeeArithmetic (K : Type*) where
  ofDec : Dec → K
  sub : K → K → K
  mul : K → K → K
  div : K → K → K
  pow : K → K → K

namespace FeeArithmetic

section Code

variable {K : Type*} [LinearOrder K] (ops : FeeArithmetic K)

/-- `rate`. -/
def rate (quote : VenueFeeQuote) : K :=
  match quote.feeRateFraction with
  | some fraction => ops.ofDec fraction
  | none => ops.div (ops.ofDec quote.feeRateBps) (ops.ofDec 10000)

/-- `curve_factor`. -/
def curveFactor (quote : VenueFeeQuote) (averagePrice : K) : K :=
  let priceCurve := ops.mul averagePrice (ops.sub (ops.ofDec 1) averagePrice)
  if quote.feeExponent = 0 then ops.ofDec 1
  else if priceCurve = ops.ofDec 0 then ops.ofDec 0
  else ops.pow priceCurve (ops.ofDec quote.feeExponent)

/-- `effective_rate`. -/
def effectiveRate (quote : VenueFeeQuote) (averagePrice : K) : K :=
  ops.div (ops.mul (ops.rate quote) (min averagePrice (ops.sub (ops.ofDec 1) averagePrice)))
    (ops.ofDec (1 / 2))

/-- `curve_fee`. -/
def curveFee (quote : VenueFeeQuote) (contracts averagePrice : K) : K :=
  ops.mul (ops.mul (ops.mul contracts (ops.rate quote)) averagePrice)
    (ops.sub (ops.ofDec 1) averagePrice)

/-- `fee_for_fill`. -/
def feeForFill (quote : VenueFeeQuote) (contracts averagePrice : K) : Except FeeError K :=
  if quote.feeRateBps < 0 then .error .rateBpsNegative
  else if averagePrice < ops.ofDec 0 ∨ ops.ofDec 1 < averagePrice then .error .priceOutOfRange
  else if ops.rate quote < ops.ofDec 0 ∨ ops.ofDec 1 ≤ ops.rate quote then .error .rateOutOfRange
  else
    match quote.model with
    | .polymarketDynamic | .polymarketTaker =>
        if quote.feeExponent < 0 then .error .exponentNegative
        else .ok (ops.mul (ops.mul contracts (ops.rate quote)) (ops.curveFactor quote averagePrice))
    | .notionalBps => .ok (ops.mul (ops.mul contracts averagePrice) (ops.rate quote))
    | .myriadCurve =>
        .ok (ops.mul (ops.mul contracts averagePrice) (ops.effectiveRate quote averagePrice))
    | .opinionCurve =>
        if contracts ≤ ops.ofDec 0 then .ok (ops.ofDec 0)
        else if quote.minimumFeeUsd < 0 then .error .minimumFeeNegative
        else .ok (max (ops.curveFee quote contracts averagePrice) (ops.ofDec quote.minimumFeeUsd))
    | .sxPayoutProfit =>
        .ok (ops.mul (ops.mul contracts (ops.sub (ops.ofDec 1) averagePrice)) (ops.rate quote))
    | .zeroFee => .ok (ops.ofDec 0)
    | .other name => .error (.unsupportedModel name)

end Code

/-- The decimal context. -/
def context (power : DecimalPower) : FeeArithmetic Dec where
  ofDec := id
  sub := Dec.sub
  mul := Dec.mul
  div := Dec.div
  pow := power.pow

/-- The operators of a field, with a power. -/
def exact {K : Type*} [Field K] (pow : K → K → K) : FeeArithmetic K where
  ofDec := fun x => x
  sub := (· - ·)
  mul := (· * ·)
  div := (· / ·)
  pow := pow

/-- The reals. -/
noncomputable def real : FeeArithmetic ℝ := exact (· ^ ·)

theorem rate_context (power : DecimalPower) (quote : VenueFeeQuote) :
    (context power).rate quote = quote.rate := by
  rw [rate, VenueFeeQuote.rate]
  cases quote.feeRateFraction <;> rfl

/-- The code is the fee in the decimal context. -/
theorem feeForFill_context (power : DecimalPower) (quote : VenueFeeQuote)
    (contracts averagePrice : Dec) :
    (context power).feeForFill quote contracts averagePrice =
      quote.feeForFill power contracts averagePrice := by
  unfold feeForFill VenueFeeQuote.feeForFill
  simp only [effectiveRate, curveFee, rate_context]
  rfl

/-! ## The fee over the reals -/

/-- What a fee of the reals is for one contract of a fill. -/
noncomputable def perContract (quote : VenueFeeQuote) (contracts price : ℝ) : ℝ :=
  match quote.model with
  | .polymarketDynamic | .polymarketTaker =>
      real.rate quote * (price * (1 - price)) ^ (quote.feeExponent : ℝ)
  | .notionalBps => real.rate quote * price
  | .myriadCurve => 2 * real.rate quote * (price * min price (1 - price))
  | .opinionCurve =>
      max (real.rate quote * (price * (1 - price))) (quote.minimumFeeUsd / contracts)
  | .sxPayoutProfit => real.rate quote * (1 - price)
  | .zeroFee | .other _ => 0

/-- The quote charges a fill of some contracts, whatever its price. -/
structure Chargeable (quote : VenueFeeQuote) : Prop where
  bps : 0 ≤ quote.feeRateBps
  rate_nonneg : 0 ≤ real.rate quote
  rate_lt_one : real.rate quote < 1
  exponent : quote.model = .polymarketDynamic ∨ quote.model = .polymarketTaker →
    0 ≤ quote.feeExponent
  minimumFee : quote.model = .opinionCurve → 0 ≤ quote.minimumFeeUsd
  supported : ∀ name, quote.model ≠ .other name

@[simp]
theorem real_ofDec_zero : real.ofDec 0 = 0 := Rat.cast_zero

@[simp]
theorem real_ofDec_one : real.ofDec 1 = 1 := Rat.cast_one

theorem curveFactor_real (quote : VenueFeeQuote) (price : ℝ) :
    real.curveFactor quote price = (price * (1 - price)) ^ (quote.feeExponent : ℝ) := by
  simp only [curveFactor, real_ofDec_zero, real_ofDec_one]
  show (if quote.feeExponent = 0 then 1 else if price * (1 - price) = 0 then 0
    else (price * (1 - price)) ^ (quote.feeExponent : ℝ)) = _
  split_ifs with hzero hcurve
  · rw [hzero, Rat.cast_zero, Real.rpow_zero]
  · rw [hcurve, Real.zero_rpow (Rat.cast_ne_zero.mpr hzero)]
  · rfl

theorem effectiveRate_real (quote : VenueFeeQuote) (price : ℝ) :
    real.effectiveRate quote price = 2 * real.rate quote * min price (1 - price) := by
  rw [effectiveRate, real_ofDec_one]
  show real.rate quote * min price (1 - price) / ((1 / 2 : Dec) : ℝ) = _
  push_cast
  ring

/-- What passes the checks in front of the models. -/
theorem feeForFill_real_checks {quote : VenueFeeQuote} {contracts price fee : ℝ}
    (h : real.feeForFill quote contracts price = .ok fee) :
    0 ≤ quote.feeRateBps ∧ (0 ≤ price ∧ price ≤ 1) ∧ 0 ≤ real.rate quote ∧ real.rate quote < 1 := by
  simp only [feeForFill, real_ofDec_zero, real_ofDec_one] at h
  by_cases hbps : quote.feeRateBps < 0
  · rw [if_pos hbps] at h
    cases h
  by_cases hprice : price < 0 ∨ 1 < price
  · rw [if_neg hbps, if_pos hprice] at h
    cases h
  by_cases hrate : real.rate quote < 0 ∨ 1 ≤ real.rate quote
  · rw [if_neg hbps, if_neg hprice, if_pos hrate] at h
    cases h
  rw [not_or, not_lt, not_lt] at hprice
  rw [not_or, not_lt, not_le] at hrate
  exact ⟨not_lt.mp hbps, hprice, hrate⟩

/-- **A fee over the reals.**  It is charged for every price from zero to one if for any, and it is
the contracts times the charge on the price. -/
theorem feeForFill_real {quote : VenueFeeQuote} {contracts price fee : ℝ} (hc : 0 < contracts) :
    real.feeForFill quote contracts price = .ok fee ↔
      (Chargeable quote ∧ 0 ≤ price ∧ price ≤ 1) ∧
        contracts * perContract quote contracts price = fee := by
  suffices h : ∀ (hbps : 0 ≤ quote.feeRateBps) (hprice : 0 ≤ price ∧ price ≤ 1)
      (hrate : 0 ≤ real.rate quote ∧ real.rate quote < 1),
      (real.feeForFill quote contracts price = .ok fee ↔
        Chargeable quote ∧ contracts * perContract quote contracts price = fee) by
    constructor
    · intro hfee
      obtain ⟨hbps, hprice, hrate⟩ := feeForFill_real_checks hfee
      obtain ⟨hcharge, heq⟩ := (h hbps hprice hrate).mp hfee
      exact ⟨⟨hcharge, hprice⟩, heq⟩
    · rintro ⟨⟨hcharge, hprice⟩, heq⟩
      exact (h hcharge.bps hprice ⟨hcharge.rate_nonneg, hcharge.rate_lt_one⟩).mpr ⟨hcharge, heq⟩
  intro hbps hprice hrate
  have hcharge (he : quote.model = .polymarketDynamic ∨ quote.model = .polymarketTaker →
        0 ≤ quote.feeExponent)
      (hminimum : quote.model = .opinionCurve → 0 ≤ quote.minimumFeeUsd)
      (hsupported : ∀ name, quote.model ≠ .other name) {amount : ℝ}
      (hamount : amount = contracts * perContract quote contracts price) :
      ((.ok amount : Except FeeError ℝ) = .ok fee ↔
        Chargeable quote ∧ contracts * perContract quote contracts price = fee) := by
    rw [hamount, Except.ok.injEq]
    exact (and_iff_right ⟨hbps, hrate.1, hrate.2, he, hminimum, hsupported⟩).symm
  simp only [feeForFill, real_ofDec_zero, real_ofDec_one]
  rw [if_neg hbps.not_gt, if_neg (not_or.mpr ⟨hprice.1.not_gt, hprice.2.not_gt⟩),
    if_neg (not_or.mpr ⟨hrate.1.not_gt, hrate.2.not_ge⟩)]
  cases hmodel : quote.model with
  | polymarketDynamic | polymarketTaker =>
    by_cases he : quote.feeExponent < 0
    · simp only [if_pos he, reduceCtorEq, false_iff, not_and]
      intro h
      exact absurd he (h.exponent (by simp [hmodel])).not_gt
    · simp only [if_neg he, curveFactor_real]
      refine hcharge (fun _ => not_lt.mp he) (by simp [hmodel]) (by simp [hmodel]) ?_
      simp only [perContract, hmodel]
      exact mul_assoc contracts (real.rate quote) _
  | notionalBps =>
    refine hcharge (by simp [hmodel]) (by simp [hmodel]) (by simp [hmodel]) ?_
    simp only [perContract, hmodel]
    show contracts * price * real.rate quote = contracts * (real.rate quote * price)
    ring
  | myriadCurve =>
    refine hcharge (by simp [hmodel]) (by simp [hmodel]) (by simp [hmodel]) ?_
    simp only [perContract, hmodel, effectiveRate_real]
    show contracts * price * (2 * real.rate quote * min price (1 - price)) = _
    ring
  | opinionCurve =>
    rw [if_neg hc.not_ge]
    by_cases hminimum : quote.minimumFeeUsd < 0
    · simp only [if_pos hminimum, reduceCtorEq, false_iff, not_and]
      intro h
      exact absurd hminimum (h.minimumFee hmodel).not_gt
    · rw [if_neg hminimum]
      refine hcharge (by simp [hmodel]) (fun _ => not_lt.mp hminimum) (by simp [hmodel]) ?_
      simp only [perContract, hmodel, curveFee, real_ofDec_one]
      show max (contracts * real.rate quote * price * (1 - price)) (quote.minimumFeeUsd : ℝ) = _
      rw [mul_max_of_nonneg _ _ hc.le, mul_div_cancel₀ _ hc.ne']
      congr 1
      ring
  | sxPayoutProfit =>
    refine hcharge (by simp [hmodel]) (by simp [hmodel]) (by simp [hmodel]) ?_
    simp only [perContract, hmodel]
    show contracts * (1 - price) * real.rate quote = contracts * (real.rate quote * (1 - price))
    ring
  | zeroFee =>
    refine hcharge (by simp [hmodel]) (by simp [hmodel]) (by simp [hmodel]) ?_
    simp only [perContract, hmodel, mul_zero]
  | other name =>
    simp only [reduceCtorEq, false_iff, not_and]
    intro h
    exact absurd hmodel (h.supported name)

/-- **The charge on a price follows the price**, whatever the model. -/
theorem Chargeable.followsPrice {quote : VenueFeeQuote} (h : Chargeable quote) {contracts : ℝ}
    (hc : 0 < contracts) : FollowsPrice (perContract quote contracts) := by
  have hrate := h.rate_nonneg
  unfold perContract
  cases hmodel : quote.model with
  | polymarketDynamic | polymarketTaker =>
    exact followsPrice_rate_curve hrate h.rate_lt_one.le
      (Rat.cast_nonneg.mpr (h.exponent (by simp [hmodel])))
  | notionalBps => exact (Mounts.price.scale hrate).followsPrice
  | myriadCurve => exact (Mounts.minCurve.scale (mul_nonneg zero_le_two hrate)).followsPrice
  | opinionCurve =>
    have hfloor : (0 : ℝ) ≤ quote.minimumFeeUsd / contracts :=
      div_nonneg (Rat.cast_nonneg.mpr (h.minimumFee hmodel)) hc.le
    exact ((Mounts.curve.scale hrate).max (.const hfloor)).followsPrice
  | sxPayoutProfit => exact (Mounts.rest.scale hrate).followsPrice
  | zeroFee | other => exact (Mounts.const le_rfl).followsPrice

theorem Chargeable.perContract_nonneg {quote : VenueFeeQuote} (h : Chargeable quote)
    {contracts price : ℝ} (hlow : 0 ≤ price) (hhigh : price ≤ 1) :
    0 ≤ perContract quote contracts price := by
  have hrate := h.rate_nonneg
  have hrest : 0 ≤ 1 - price := sub_nonneg.mpr hhigh
  unfold perContract
  cases quote.model with
  | polymarketDynamic | polymarketTaker =>
    exact mul_nonneg hrate (Real.rpow_nonneg (mul_nonneg hlow hrest) _)
  | notionalBps => exact mul_nonneg hrate hlow
  | myriadCurve =>
    exact mul_nonneg (mul_nonneg zero_le_two hrate) (mul_nonneg hlow (le_min hlow hrest))
  | opinionCurve => exact le_max_of_le_left (mul_nonneg hrate (mul_nonneg hlow hrest))
  | sxPayoutProfit => exact mul_nonneg hrate hrest
  | zeroFee | other => exact le_rfl

end FeeArithmetic

end ArbitrageEngine
