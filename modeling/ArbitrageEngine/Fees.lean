/-
# ArbitrageEngine.Fees -- what a venue charges for a fill

`VenueFeeQuote.fee_for_fill` charges a fill of some contracts at an average price by the model of
the venue.  Seen over the price, a fee rises, falls, or rises up to one half and falls from there,
so between two prices no fee is larger than at one of them, or at one half if that lies between:
what `_worst_case_fee_between` relies on.  The context rounds every operation, so that holds up to a
few units of the last digit.

Where the code raises `ValueError` the charge is an error; `is_finite` holds of every number here.
-/
import ArbitrageEngine.ContextError

namespace ArbitrageEngine

open Lib.Relative

/-! ## Fee quotes -/

/-- The values of `VenueFeeQuote.model` that have a formula, and any other one. -/
inductive FeeModel
  | polymarketDynamic
  | polymarketTaker
  | notionalBps
  | myriadCurve
  | opinionCurve
  | sxPayoutProfit
  | zeroFee
  | other (name : String)
deriving DecidableEq, Repr

/-- `VenueFeeQuote`, without the names of the venue and of the source. -/
structure VenueFeeQuote where
  feeRateBps : ℤ := 0
  model : FeeModel := .notionalBps
  verified : Bool := false
  feeExponent : Dec := 1
  feeRateFraction : Option Dec := none
  minimumFeeUsd : Dec := 0
deriving DecidableEq

/-- Why a fill is not charged. -/
inductive FeeError
  | rateBpsNegative
  | priceOutOfRange
  | rateOutOfRange
  | exponentNegative
  | minimumFeeNegative
  | unsupportedModel (name : String)
deriving DecidableEq, Repr

/-- The texts of the exceptions. -/
def FeeError.message : FeeError → String
  | rateBpsNegative => "fee_rate_bps must be non-negative"
  | priceOutOfRange => "average_price must be between 0 and 1"
  | rateOutOfRange => "fee rate must be finite and between 0 and 1"
  | exponentNegative => "fee_exponent must be finite and non-negative"
  | minimumFeeNegative => "minimum_fee_usd must be finite and non-negative"
  | unsupportedModel name => "unsupported fee model: " ++ name

namespace VenueFeeQuote

variable (power : DecimalPower)

/-- `rate`: the fraction, or else the basis points. -/
def rate (quote : VenueFeeQuote) : Dec :=
  quote.feeRateFraction.getD (Dec.div quote.feeRateBps 10000)

/-- `curve_factor` of a Polymarket price curve. -/
def curveFactor (exponent priceCurve : Dec) : Dec :=
  if exponent = 0 then 1
  else if priceCurve = 0 then 0
  else power.pow priceCurve exponent

/-- `price_curve`. -/
def priceCurve (price : Dec) : Dec := Dec.mul price (Dec.sub 1 price)

/-- `contracts * rate * curve_factor`. -/
def polymarketFee (quote : VenueFeeQuote) (contracts price : Dec) : Dec :=
  Dec.mul (Dec.mul contracts quote.rate) (curveFactor power quote.feeExponent (priceCurve price))

/-- `contracts * average_price * effective_rate`. -/
def myriadFee (quote : VenueFeeQuote) (contracts price : Dec) : Dec :=
  Dec.mul (Dec.mul contracts price)
    (Dec.div (Dec.mul quote.rate (min price (Dec.sub 1 price))) (1 / 2))

/-- `curve_fee`. -/
def opinionFee (quote : VenueFeeQuote) (contracts price : Dec) : Dec :=
  Dec.mul (Dec.mul (Dec.mul contracts quote.rate) price) (Dec.sub 1 price)

/-- `contracts * (1 - average_price) * rate`. -/
def payoutFee (quote : VenueFeeQuote) (contracts price : Dec) : Dec :=
  Dec.mul (Dec.mul contracts (Dec.sub 1 price)) quote.rate

/-- `fee_for_fill`. -/
def feeForFill (quote : VenueFeeQuote) (contracts averagePrice : Dec) : Except FeeError Dec :=
  if quote.feeRateBps < 0 then .error .rateBpsNegative
  else if averagePrice < 0 ∨ 1 < averagePrice then .error .priceOutOfRange
  else if quote.rate < 0 ∨ 1 ≤ quote.rate then .error .rateOutOfRange
  else
    match quote.model with
    | .polymarketDynamic | .polymarketTaker =>
        if quote.feeExponent < 0 then .error .exponentNegative
        else .ok (quote.polymarketFee power contracts averagePrice)
    | .notionalBps => .ok (Dec.mul (Dec.mul contracts averagePrice) quote.rate)
    | .myriadCurve => .ok (quote.myriadFee contracts averagePrice)
    | .opinionCurve =>
        -- the floor is charged on any non-zero fill
        if contracts ≤ 0 then .ok 0
        else if quote.minimumFeeUsd < 0 then .error .minimumFeeNegative
        else .ok (max (quote.opinionFee contracts averagePrice) quote.minimumFeeUsd)
    | .sxPayoutProfit => .ok (quote.payoutFee contracts averagePrice)
    | .zeroFee => .ok 0
    | .other name => .error (.unsupportedModel name)

/-! ## The amount of a fee -/

/-- The amount that is charged where nothing is raised. -/
def amount (quote : VenueFeeQuote) (contracts price : Dec) : Dec :=
  match quote.model with
  | .polymarketDynamic | .polymarketTaker => quote.polymarketFee power contracts price
  | .notionalBps => Dec.mul (Dec.mul contracts price) quote.rate
  | .myriadCurve => quote.myriadFee contracts price
  | .opinionCurve =>
      if contracts ≤ 0 then 0 else max (quote.opinionFee contracts price) quote.minimumFeeUsd
  | .sxPayoutProfit => quote.payoutFee contracts price
  | .zeroFee | .other _ => 0

/-- The quote charges a fill of the contracts, whatever its price. -/
structure Charges (quote : VenueFeeQuote) (contracts : Dec) : Prop where
  bps : 0 ≤ quote.feeRateBps
  rate_nonneg : 0 ≤ quote.rate
  rate_lt_one : quote.rate < 1
  exponent : quote.model = .polymarketDynamic ∨ quote.model = .polymarketTaker →
    0 ≤ quote.feeExponent
  minimumFee : quote.model = .opinionCurve → 0 < contracts → 0 ≤ quote.minimumFeeUsd
  supported : ∀ name, quote.model ≠ .other name

/-- What is checked for one price is checked for every price. -/
theorem charges_of_feeForFill {quote : VenueFeeQuote} {contracts price fee : Dec}
    (h : quote.feeForFill power contracts price = .ok fee) :
    quote.Charges contracts ∧ 0 ≤ price ∧ price ≤ 1 ∧
      fee = quote.amount power contracts price := by
  rw [feeForFill] at h
  by_cases hbps : quote.feeRateBps < 0
  · rw [if_pos hbps] at h
    cases h
  by_cases hprice : price < 0 ∨ 1 < price
  · rw [if_neg hbps, if_pos hprice] at h
    cases h
  by_cases hrate : quote.rate < 0 ∨ 1 ≤ quote.rate
  · rw [if_neg hbps, if_neg hprice, if_pos hrate] at h
    cases h
  rw [if_neg hbps, if_neg hprice, if_neg hrate] at h
  rw [not_or, not_lt, not_lt] at hprice
  rw [not_or, not_lt, not_le] at hrate
  have hbase : 0 ≤ quote.feeRateBps := not_lt.mp hbps
  cases hmodel : quote.model with
  | polymarketDynamic | polymarketTaker =>
    simp only [hmodel] at h
    by_cases hexponent : quote.feeExponent < 0
    · rw [if_pos hexponent] at h
      cases h
    · rw [if_neg hexponent] at h
      cases h
      refine ⟨⟨hbase, hrate.1, hrate.2, fun _ => not_lt.mp hexponent, ?_, ?_⟩, hprice.1, hprice.2, ?_⟩
      all_goals simp [hmodel, amount]
  | opinionCurve =>
    simp only [hmodel] at h
    by_cases hpos : contracts ≤ 0
    · rw [if_pos hpos] at h
      cases h
      refine ⟨⟨hbase, hrate.1, hrate.2, ?_, fun _ h => absurd hpos h.not_ge, ?_⟩, hprice.1, hprice.2, ?_⟩
      all_goals simp [hmodel, amount, hpos]
    · rw [if_neg hpos] at h
      by_cases hminimum : quote.minimumFeeUsd < 0
      · rw [if_pos hminimum] at h
        cases h
      · rw [if_neg hminimum] at h
        cases h
        refine ⟨⟨hbase, hrate.1, hrate.2, ?_, fun _ _ => not_lt.mp hminimum, ?_⟩, hprice.1, hprice.2, ?_⟩
        all_goals simp [hmodel, amount, hpos]
  | notionalBps | myriadCurve | sxPayoutProfit | zeroFee =>
    simp only [hmodel] at h
    cases h
    refine ⟨⟨hbase, hrate.1, hrate.2, ?_, ?_, ?_⟩, hprice.1, hprice.2, ?_⟩
    all_goals simp [hmodel, amount]
  | other name =>
    simp only [hmodel] at h
    cases h

theorem Charges.feeForFill {quote : VenueFeeQuote} {contracts price : Dec}
    (h : quote.Charges contracts) (hlow : 0 ≤ price) (hhigh : price ≤ 1) :
    quote.feeForFill power contracts price = .ok (quote.amount power contracts price) := by
  rw [VenueFeeQuote.feeForFill, if_neg h.bps.not_gt,
    if_neg (not_or.mpr ⟨hlow.not_gt, hhigh.not_gt⟩),
    if_neg (not_or.mpr ⟨h.rate_nonneg.not_gt, h.rate_lt_one.not_ge⟩)]
  cases hmodel : quote.model with
  | polymarketDynamic =>
    have hexponent := h.exponent (.inl hmodel)
    simp only [if_neg hexponent.not_gt, amount, hmodel]
  | polymarketTaker =>
    have hexponent := h.exponent (.inr hmodel)
    simp only [if_neg hexponent.not_gt, amount, hmodel]
  | opinionCurve =>
    by_cases hpos : contracts ≤ 0
    · simp only [if_pos hpos, amount, hmodel]
    · have hminimum := h.minimumFee hmodel (not_le.mp hpos)
      simp only [if_neg hpos, if_neg hminimum.not_gt, amount, hmodel]
  | notionalBps | myriadCurve | sxPayoutProfit | zeroFee => simp only [amount, hmodel]
  | other name => exact absurd hmodel (h.supported name)

/-! ## The price at which a fee is largest -/

/-- How the fee of a model depends on the price, for fixed contracts and rate. -/
def shape : FeeModel → Dec → Dec
  | .polymarketDynamic, price | .polymarketTaker, price | .opinionCurve, price =>
      price * (1 - price)
  | .notionalBps, price => price
  | .myriadCurve, price => price * min price (1 - price)
  | .sxPayoutProfit, price => 1 - price
  | .zeroFee, _ | .other _, _ => 0

/-- Between two prices no shape is higher than at one of them, or at one half in between. -/
theorem shape_le (model : FeeModel) {low price high : Dec} (hlow : 0 ≤ low)
    (hle : low ≤ price) (hge : price ≤ high) :
    shape model price ≤ shape model low ∨ shape model price ≤ shape model high ∨
      (low ≤ 1 / 2 ∧ 1 / 2 ≤ high ∧ shape model price ≤ shape model (1 / 2)) := by
  have hquarter : price * (1 - price) ≤ 1 / 4 := by nlinarith [sq_nonneg (price - 1 / 2)]
  -- below one half the curves rise to the higher price, above it they fall from the lower one
  have hcurve : price * (1 - price) ≤ low * (1 - low) ∨ price * (1 - price) ≤ high * (1 - high) ∨
      (low ≤ 1 / 2 ∧ 1 / 2 ≤ high) := by
    rcases le_total high (1 / 2) with hhalf | hhalf
    · exact .inr (.inl (by nlinarith))
    · rcases le_total (1 / 2) low with hhalf' | hhalf'
      · exact .inl (by nlinarith)
      · exact .inr (.inr ⟨hhalf', hhalf⟩)
  cases model with
  | polymarketDynamic | polymarketTaker | opinionCurve =>
    rcases hcurve with h | h | h
    · exact .inl h
    · exact .inr (.inl h)
    · refine .inr (.inr ⟨h.1, h.2, ?_⟩)
      show price * (1 - price) ≤ 1 / 2 * (1 - 1 / 2)
      linarith
  | notionalBps => exact .inr (.inl hge)
  | sxPayoutProfit => exact .inl (sub_le_sub_left hle 1)
  | myriadCurve =>
    rcases le_total high (1 / 2) with hhalf | hhalf
    · refine .inr (.inl ?_)
      show price * min price (1 - price) ≤ high * min high (1 - high)
      rw [min_eq_left (by linarith : price ≤ 1 - price), min_eq_left (by linarith : high ≤ 1 - high)]
      exact mul_le_mul hge hge (hlow.trans hle) (hlow.trans (hle.trans hge))
    · rcases le_total (1 / 2) low with hhalf' | hhalf'
      · refine .inl ?_
        show price * min price (1 - price) ≤ low * min low (1 - low)
        rw [min_eq_right (by linarith : 1 - price ≤ price), min_eq_right (by linarith : 1 - low ≤ low)]
        nlinarith
      · refine .inr (.inr ⟨hhalf', hhalf, ?_⟩)
        show price * min price (1 - price) ≤ 1 / 2 * min (1 / 2) (1 - 1 / 2)
        have hmin : price * min price (1 - price) ≤ 1 / 4 := by
          rcases le_total price (1 / 2) with h | h
          · rw [min_eq_left (by linarith : price ≤ 1 - price)]
            nlinarith
          · rw [min_eq_right (by linarith : 1 - price ≤ price)]
            exact hquarter
        norm_num at hmin ⊢
        exact hmin
  | zeroFee | other => exact .inl le_rfl

/-! ## The context on a fee -/

open Dec in
theorem sub_within {price : Dec} (h : price ≤ 1) : Within slack 1 (Dec.sub 1 price) (1 - price) :=
  ctx_within (by linarith)

theorem sub_nonneg_of_le {price : Dec} (h : price ≤ 1) : 0 ≤ Dec.sub 1 price :=
  Dec.ctx_nonneg (by linarith)

theorem priceCurve_nonneg {price : Dec} (hlow : 0 ≤ price) (hhigh : price ≤ 1) :
    0 ≤ priceCurve price :=
  Dec.mul_nonneg hlow (sub_nonneg_of_le hhigh)

theorem priceCurve_within {price : Dec} (hlow : 0 ≤ price) (hhigh : price ≤ 1) :
    Within Dec.slack 2 (priceCurve price) (price * (1 - price)) := by
  have h := Dec.mul_within hlow (sub_nonneg_of_le hhigh) (.refl Dec.slack price) (sub_within hhigh)
  exact h

theorem curveFactor_nonneg {exponent curve : Dec} (he : 0 ≤ exponent) (hcurve : 0 ≤ curve) :
    0 ≤ curveFactor power exponent curve := by
  rw [curveFactor]
  split_ifs with hexponent hzero
  · exact zero_le_one
  · exact le_rfl
  · exact power.pow_nonneg (lt_of_le_of_ne hcurve (Ne.symm hzero))
      (lt_of_le_of_ne he (Ne.symm hexponent))

theorem curveFactor_le {exponent x y : Dec} (he : 0 ≤ exponent) (hx : 0 ≤ x) (hy : 0 ≤ y)
    (hxy : x ≤ Dec.slack ^ 4 * y) (hsmall : y ≤ 26 / 100) :
    curveFactor power exponent x ≤
      Dec.slack ^ 4 * curveFactor power exponent y + 5 / 10 ^ 27 := by
  have hright : 0 ≤ Dec.slack ^ 4 * curveFactor power exponent y :=
    mul_nonneg (Dec.slack_pow_nonneg 4) (curveFactor_nonneg power he hy)
  by_cases hexponent : exponent = 0
  · simp only [curveFactor, if_pos hexponent]
    norm_num [Dec.slack]
  by_cases hzero : x = 0
  · have hleft : curveFactor power exponent x = 0 := by
      rw [curveFactor, if_neg hexponent, if_pos hzero]
    rw [hleft]
    linarith [(by norm_num : (0 : Dec) ≤ 5 / 10 ^ 27)]
  have hxpos : 0 < x := lt_of_le_of_ne hx (Ne.symm hzero)
  have hypos : 0 < y := by
    by_contra hnot
    have hyzero : y = 0 := le_antisymm (not_lt.mp hnot) hy
    rw [hyzero, mul_zero] at hxy
    exact hnot (hxpos.trans_le (hxy.trans_eq hyzero.symm))
  simp only [curveFactor, if_neg hexponent, if_neg hzero, if_neg hypos.ne']
  exact power.pow_le hxpos hypos (lt_of_le_of_ne he (Ne.symm hexponent)) hxy hsmall

theorem payoutFee_within (quote : VenueFeeQuote) {contracts price : Dec} (hc : 0 ≤ contracts)
    (hrate : 0 ≤ quote.rate) (hhigh : price ≤ 1) :
    Within Dec.slack 3 (quote.payoutFee contracts price)
      (contracts * (1 - price) * quote.rate) := by
  have hrest := sub_nonneg_of_le hhigh
  have hinner := Dec.mul_within hc hrest (.refl Dec.slack contracts) (sub_within hhigh)
  have h := Dec.mul_within (Dec.mul_nonneg hc hrest) hrate hinner (.refl _ quote.rate)
  exact h

theorem opinionFee_within (quote : VenueFeeQuote) {contracts price : Dec} (hc : 0 ≤ contracts)
    (hrate : 0 ≤ quote.rate) (hlow : 0 ≤ price) (hhigh : price ≤ 1) :
    Within Dec.slack 4 (quote.opinionFee contracts price)
      (contracts * quote.rate * (price * (1 - price))) := by
  have hbase := Dec.mul_within hc hrate (.refl Dec.slack contracts) (.refl _ quote.rate)
  have hpriced := Dec.mul_within (Dec.mul_nonneg hc hrate) hlow hbase (.refl _ price)
  have h := Dec.mul_within (Dec.mul_nonneg (Dec.mul_nonneg hc hrate) hlow) (sub_nonneg_of_le hhigh)
    hpriced (sub_within hhigh)
  rw [← mul_assoc]
  exact h

theorem myriadFee_within (quote : VenueFeeQuote) {contracts price : Dec} (hc : 0 ≤ contracts)
    (hrate : 0 ≤ quote.rate) (hlow : 0 ≤ price) (hhigh : price ≤ 1) :
    Within Dec.slack 5 (quote.myriadFee contracts price)
      (2 * contracts * quote.rate * (price * min price (1 - price))) := by
  have hmin : Within Dec.slack 1 (min price (Dec.sub 1 price)) (min price (1 - price)) :=
    ((Within.refl _ price).mono Dec.one_le_slack (by omega) hlow).min Dec.one_le_slack
      (sub_within hhigh)
  have hmin_nonneg : 0 ≤ min price (Dec.sub 1 price) := le_min hlow (sub_nonneg_of_le hhigh)
  have hrated := Dec.mul_within hrate hmin_nonneg (.refl _ _) hmin
  have hhalf : Within Dec.slack (1 + (2 + 0))
      (Dec.div (Dec.mul quote.rate (min price (Dec.sub 1 price))) (1 / 2))
      (quote.rate * min price (1 - price) * 2) := by
    have h := Dec.mul_within (Dec.mul_nonneg hrate hmin_nonneg) zero_le_two hrated (.refl _ 2)
    rw [Dec.mul] at h
    rw [Dec.div, div_div_eq_mul_div, div_one]
    exact h
  have hnotional := Dec.mul_within hc hlow (.refl Dec.slack contracts) (.refl _ price)
  have hhalf_nonneg : 0 ≤ Dec.div (Dec.mul quote.rate (min price (Dec.sub 1 price))) (1 / 2) :=
    Dec.ctx_nonneg (div_nonneg (Dec.mul_nonneg hrate hmin_nonneg) (by norm_num))
  have h := Dec.mul_within (Dec.mul_nonneg hc hlow) hhalf_nonneg hnotional hhalf
  have hform : 2 * contracts * quote.rate * (price * min price (1 - price)) =
      contracts * price * (quote.rate * min price (1 - price) * 2) := by ring
  rw [hform]
  exact h

theorem amount_nonneg {quote : VenueFeeQuote} {contracts price : Dec} (hc : 0 ≤ contracts)
    (h : quote.Charges contracts) (hlow : 0 ≤ price) (hhigh : price ≤ 1) :
    0 ≤ quote.amount power contracts price := by
  have hrest := sub_nonneg_of_le hhigh
  have hrate := h.rate_nonneg
  have hmin : 0 ≤ min price (Dec.sub 1 price) := le_min hlow hrest
  rw [amount]
  split
  · next hmodel =>
    exact Dec.mul_nonneg (Dec.mul_nonneg hc hrate)
      (curveFactor_nonneg power (h.exponent (.inl hmodel)) (priceCurve_nonneg hlow hhigh))
  · next hmodel =>
    exact Dec.mul_nonneg (Dec.mul_nonneg hc hrate)
      (curveFactor_nonneg power (h.exponent (.inr hmodel)) (priceCurve_nonneg hlow hhigh))
  · exact Dec.mul_nonneg (Dec.mul_nonneg hc hlow) hrate
  · exact Dec.mul_nonneg (Dec.mul_nonneg hc hlow)
      (Dec.ctx_nonneg (div_nonneg (Dec.mul_nonneg hrate hmin) (by norm_num)))
  · split
    · exact le_rfl
    · exact le_max_of_le_left
        (Dec.mul_nonneg (Dec.mul_nonneg (Dec.mul_nonneg hc hrate) hlow) hrest)
  · exact Dec.mul_nonneg (Dec.mul_nonneg hc hrest) hrate
  · exact le_rfl
  · exact le_rfl

/-- An amount that agrees with a multiple of its shape follows the shape. -/
theorem le_of_within {k : ℕ} {x y factor high low : Dec} (hfactor : 0 ≤ factor)
    (hx : Within Dec.slack k x (factor * low)) (hy : Within Dec.slack k y (factor * high))
    (h : low ≤ high) : x ≤ Dec.slack ^ (k + k) * y := by
  calc x ≤ Dec.slack ^ k * (factor * low) := hx.1
    _ ≤ Dec.slack ^ k * (factor * high) :=
        mul_le_mul_of_nonneg_left (mul_le_mul_of_nonneg_left h hfactor) (Dec.slack_pow_nonneg k)
    _ ≤ Dec.slack ^ k * (Dec.slack ^ k * y) :=
        mul_le_mul_of_nonneg_left hy.2 (Dec.slack_pow_nonneg k)
    _ = Dec.slack ^ (k + k) * y := by ring

theorem polymarketFee_le {quote : VenueFeeQuote} {contracts p q : Dec} (hc : 0 ≤ contracts)
    (hrate : 0 ≤ quote.rate) (hrate' : quote.rate < 1) (he : 0 ≤ quote.feeExponent) (hp : 0 ≤ p)
    (hp' : p ≤ 1) (hq : 0 ≤ q) (hq' : q ≤ 1) (hshape : p * (1 - p) ≤ q * (1 - q)) :
    quote.polymarketFee power contracts p ≤
      Dec.slack ^ 10 * quote.polymarketFee power contracts q + contracts / 10 ^ 26 := by
  have hbase : 0 ≤ Dec.mul contracts quote.rate := Dec.mul_nonneg hc hrate
  have hbase_le : Dec.mul contracts quote.rate ≤ Dec.slack ^ 1 * contracts := by
    have hle : contracts * quote.rate ≤ contracts := mul_le_of_le_one_right hc hrate'.le
    have h := (Dec.ctx_within (mul_nonneg hc hrate)).1
    exact h.trans (mul_le_mul_of_nonneg_left hle (Dec.slack_pow_nonneg 1))
  have hx := priceCurve_nonneg hp hp'
  have hy := priceCurve_nonneg hq hq'
  have hcurve : priceCurve p ≤ Dec.slack ^ (2 + 2) * priceCurve q := by
    refine le_of_within zero_le_one ?_ ?_ hshape
    · rw [one_mul]
      exact priceCurve_within hp hp'
    · rw [one_mul]
      exact priceCurve_within hq hq'
  have hsmall : priceCurve q ≤ 26 / 100 := by
    have h := (priceCurve_within hq hq').1
    have hquarter : q * (1 - q) ≤ 1 / 4 := by nlinarith [sq_nonneg (q - 1 / 2)]
    have hmul := mul_le_mul_of_nonneg_left hquarter (Dec.slack_pow_nonneg 2)
    have hslack : Dec.slack ^ 2 * (1 / 4) ≤ 26 / 100 := by norm_num [Dec.slack]
    linarith
  have hfactor := curveFactor_le power he hx hy hcurve hsmall
  have hfactor_nonneg := curveFactor_nonneg power he hx
  have hfactor_nonneg' := curveFactor_nonneg power he hy
  set base : Dec := Dec.mul contracts quote.rate with hbase_eq
  set f : Dec := curveFactor power quote.feeExponent (priceCurve p)
  set g : Dec := curveFactor power quote.feeExponent (priceCurve q)
  have hleft : Dec.mul base f ≤ Dec.slack ^ 1 * (base * f) :=
    (Dec.ctx_within (mul_nonneg hbase hfactor_nonneg)).1
  have hright : base * g ≤ Dec.slack ^ 1 * Dec.mul base g :=
    (Dec.ctx_within (mul_nonneg hbase hfactor_nonneg')).2
  have hmul : base * f ≤ Dec.slack ^ 4 * (base * g) + 5 / 10 ^ 27 * base := by
    have h := mul_le_mul_of_nonneg_left hfactor hbase
    linarith
  have herror : Dec.slack ^ 1 * (5 / 10 ^ 27 * base) ≤ contracts / 10 ^ 26 := by
    have h : Dec.slack ^ 1 * (5 / 10 ^ 27 * base) ≤
        Dec.slack ^ 1 * (5 / 10 ^ 27 * (Dec.slack ^ 1 * contracts)) := by
      refine mul_le_mul_of_nonneg_left ?_ (Dec.slack_pow_nonneg 1)
      exact mul_le_mul_of_nonneg_left hbase_le (by norm_num)
    have hconst : Dec.slack ^ 1 * (5 / 10 ^ 27 * Dec.slack ^ 1) ≤ 1 / 10 ^ 26 := by
      norm_num [Dec.slack]
    have hscaled := mul_le_mul_of_nonneg_right hconst hc
    linarith
  have hmono : Dec.slack ^ 6 * Dec.mul base g ≤ Dec.slack ^ 10 * Dec.mul base g :=
    mul_le_mul_of_nonneg_right (pow_le_pow_right₀ Dec.one_le_slack (by omega))
      (Dec.mul_nonneg hbase hfactor_nonneg')
  show Dec.mul base f ≤ Dec.slack ^ 10 * Dec.mul base g + contracts / 10 ^ 26
  calc Dec.mul base f ≤ Dec.slack ^ 1 * (Dec.slack ^ 4 * (base * g) + 5 / 10 ^ 27 * base) :=
        hleft.trans (mul_le_mul_of_nonneg_left hmul (Dec.slack_pow_nonneg 1))
    _ = Dec.slack ^ 5 * (base * g) + Dec.slack ^ 1 * (5 / 10 ^ 27 * base) := by ring
    _ ≤ Dec.slack ^ 5 * (Dec.slack ^ 1 * Dec.mul base g) + contracts / 10 ^ 26 :=
        add_le_add (mul_le_mul_of_nonneg_left hright (Dec.slack_pow_nonneg 5)) herror
    _ = Dec.slack ^ 6 * Dec.mul base g + contracts / 10 ^ 26 := by ring
    _ ≤ Dec.slack ^ 10 * Dec.mul base g + contracts / 10 ^ 26 := by linarith

/-- A fee follows its shape, up to the rounding of the context. -/
theorem amount_le {quote : VenueFeeQuote} {contracts p q : Dec} (hc : 0 ≤ contracts)
    (h : quote.Charges contracts) (hp : 0 ≤ p) (hp' : p ≤ 1) (hq : 0 ≤ q) (hq' : q ≤ 1)
    (hshape : shape quote.model p ≤ shape quote.model q) :
    quote.amount power contracts p ≤
      Dec.slack ^ 10 * quote.amount power contracts q + contracts / 10 ^ 26 := by
  have hamount := amount_nonneg power hc h hq hq'
  have herror : 0 ≤ contracts / 10 ^ 26 := div_nonneg hc (by norm_num)
  have hrate := h.rate_nonneg
  have hrest := sub_nonneg_of_le hq'
  have hlift {k : ℕ} (hk : k ≤ 10) {x y : Dec} (hy : 0 ≤ y) (hxy : x ≤ Dec.slack ^ k * y) :
      x ≤ Dec.slack ^ 10 * y + contracts / 10 ^ 26 := by
    have hpow := mul_le_mul_of_nonneg_right (pow_le_pow_right₀ Dec.one_le_slack hk) hy
    linarith
  cases hmodel : quote.model with
  | polymarketDynamic =>
    simp only [amount, hmodel]
    simp only [shape, hmodel] at hshape
    exact polymarketFee_le power hc hrate h.rate_lt_one (h.exponent (.inl hmodel)) hp hp' hq hq' hshape
  | polymarketTaker =>
    simp only [amount, hmodel]
    simp only [shape, hmodel] at hshape
    exact polymarketFee_le power hc hrate h.rate_lt_one (h.exponent (.inr hmodel)) hp hp' hq hq' hshape
  | notionalBps =>
    simp only [amount, hmodel] at hamount ⊢
    simp only [shape, hmodel] at hshape
    refine hlift (k := 0) (by omega) hamount ?_
    rw [pow_zero, one_mul]
    have hinner : Dec.mul contracts p ≤ Dec.mul contracts q :=
      Dec.ctx_mono (mul_le_mul_of_nonneg_left hshape hc)
    exact Dec.ctx_mono (mul_le_mul_of_nonneg_right hinner hrate)
  | myriadCurve =>
    simp only [amount, hmodel] at hamount ⊢
    simp only [shape, hmodel] at hshape
    have hfactor : 0 ≤ 2 * contracts * quote.rate := by positivity
    have hle := le_of_within hfactor (myriadFee_within quote hc hrate hp hp')
      (myriadFee_within quote hc hrate hq hq') hshape
    exact hlift (by omega) hamount hle
  | opinionCurve =>
    simp only [amount, hmodel] at hamount ⊢
    simp only [shape, hmodel] at hshape
    split_ifs with hpos
    · linarith
    · have hopinion : 0 ≤ quote.opinionFee contracts q :=
        Dec.mul_nonneg (Dec.mul_nonneg (Dec.mul_nonneg hc hrate) hq) hrest
      have hle := le_of_within (mul_nonneg hc hrate) (opinionFee_within quote hc hrate hp hp')
        (opinionFee_within quote hc hrate hq hq') hshape
      have hcurve := hlift (by omega) hopinion hle
      have hminimum := h.minimumFee hmodel (not_le.mp hpos)
      have hone : (1 : Dec) ≤ Dec.slack ^ 10 := one_le_pow₀ Dec.one_le_slack
      refine max_le ?_ ?_
      · have hmax := mul_le_mul_of_nonneg_left (le_max_left (quote.opinionFee contracts q)
          quote.minimumFeeUsd) (Dec.slack_pow_nonneg 10)
        linarith
      · have hmax := mul_le_mul_of_nonneg_left (le_max_right (quote.opinionFee contracts q)
          quote.minimumFeeUsd) (Dec.slack_pow_nonneg 10)
        have hself := mul_le_mul_of_nonneg_right hone hminimum
        linarith
  | sxPayoutProfit =>
    simp only [amount, hmodel] at hamount ⊢
    simp only [shape, hmodel] at hshape
    have hx := payoutFee_within quote hc hrate hp'
    have hy := payoutFee_within quote hc hrate hq'
    rw [mul_right_comm] at hx hy
    have hle := le_of_within (mul_nonneg hc hrate) hx hy hshape
    exact hlift (by omega) hamount hle
  | zeroFee | other =>
    simp only [amount, hmodel]
    linarith

/-- `_worst_case_fee_between`. -/
def worstCaseFeeBetween (quote : VenueFeeQuote) (contracts averagePrice limitPrice : Dec) :
    Except FeeError Dec := do
  let low := min averagePrice limitPrice
  let high := max averagePrice limitPrice
  let atLow ← quote.feeForFill power contracts low
  let atHigh ← quote.feeForFill power contracts high
  if low ≤ 1 / 2 ∧ 1 / 2 ≤ high then
    let atHalf ← quote.feeForFill power contracts (1 / 2)
    .ok (max (max atLow atHigh) atHalf)
  else .ok (max atLow atHigh)

/-- **The worst case bounds every fee between the two prices**, up to the rounding of the context.
-/
theorem fee_le_worstCase {quote : VenueFeeQuote} {contracts averagePrice limitPrice price worst : Dec}
    (hc : 0 ≤ contracts)
    (h : quote.worstCaseFeeBetween power contracts averagePrice limitPrice = .ok worst)
    (hlow : averagePrice ≤ price) (hhigh : price ≤ limitPrice) :
    0 ≤ worst ∧ quote.Charges contracts ∧ 0 ≤ averagePrice ∧ limitPrice ≤ 1 ∧
      quote.amount power contracts price ≤ Dec.slack ^ 10 * worst + contracts / 10 ^ 26 := by
  have hle : averagePrice ≤ limitPrice := hlow.trans hhigh
  rw [worstCaseFeeBetween, min_eq_left hle, max_eq_right hle] at h
  -- both ends are charged, so every price in between is
  cases hatLow : quote.feeForFill power contracts averagePrice with
  | error => simp [hatLow, bind, Except.bind] at h
  | ok atLow =>
  cases hatHigh : quote.feeForFill power contracts limitPrice with
  | error => simp [hatLow, hatHigh, bind, Except.bind] at h
  | ok atHigh =>
  obtain ⟨hcharges, hlow_nonneg, -, hlow_eq⟩ := charges_of_feeForFill power hatLow
  obtain ⟨-, -, hhigh_one, hhigh_eq⟩ := charges_of_feeForFill power hatHigh
  have hprice : 0 ≤ price := hlow_nonneg.trans hlow
  have hprice' : price ≤ 1 := hhigh.trans hhigh_one
  have hatLow_nonneg : 0 ≤ atLow :=
    hlow_eq ▸ amount_nonneg power hc hcharges hlow_nonneg (hle.trans hhigh_one)
  have hworst : max atLow atHigh ≤ worst ∧
      (averagePrice ≤ 1 / 2 → 1 / 2 ≤ limitPrice → quote.amount power contracts (1 / 2) ≤ worst) := by
    have hhalf := hcharges.feeForFill power (by norm_num : (0 : Dec) ≤ 1 / 2) (by norm_num)
    simp only [hatLow, hatHigh, bind, Except.bind] at h
    split_ifs at h with hbetween
    · rw [hhalf] at h
      cases h
      exact ⟨le_max_left _ _, fun _ _ => le_max_right _ _⟩
    · cases h
      exact ⟨le_rfl, fun h h' => absurd ⟨h, h'⟩ hbetween⟩
  have hbound {q : Dec} (hq : 0 ≤ q) (hq' : q ≤ 1)
      (hshape : shape quote.model price ≤ shape quote.model q)
      (hle : quote.amount power contracts q ≤ worst) :
      quote.amount power contracts price ≤ Dec.slack ^ 10 * worst + contracts / 10 ^ 26 := by
    have h := amount_le power hc hcharges hprice hprice' hq hq' hshape
    have hmul := mul_le_mul_of_nonneg_left hle (Dec.slack_pow_nonneg 10)
    linarith
  refine ⟨hatLow_nonneg.trans ((le_max_left _ _).trans hworst.1), hcharges, hlow_nonneg, hhigh_one, ?_⟩
  rcases shape_le quote.model hlow_nonneg hlow hhigh with hshape | hshape | ⟨hbelow, habove, hshape⟩
  · exact hbound hlow_nonneg (hle.trans hhigh_one) hshape
      (hlow_eq ▸ (le_max_left _ _).trans hworst.1)
  · exact hbound (hprice.trans hhigh) hhigh_one hshape
      (hhigh_eq ▸ (le_max_right _ _).trans hworst.1)
  · exact hbound (by norm_num) (by norm_num) hshape (hworst.2 hbelow habove)

end VenueFeeQuote

end ArbitrageEngine
