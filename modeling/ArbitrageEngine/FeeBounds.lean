/-
# ArbitrageEngine.FeeBounds -- how far the worst-case fee covers a fill

An order of some contracts may fill in part, at any average price between the quoted one and its
limit.  A fee does not fall with the contracts, and between two prices it is no larger than at the
prices that `_worst_case_fee_between` asks for.  Where the fee is a product of factors that all move
one way with the price, as the notional and the payout fees are, the context keeps that order; the
curves turn, and there the bound holds up to the rounding of the context.
-/
import ArbitrageEngine.Fees

namespace ArbitrageEngine.VenueFeeQuote

open Lib.Relative

variable (power : DecimalPower) {quote : VenueFeeQuote} {contracts : Dec}

/-! ## Fewer contracts -/

/-- What is charged for some contracts is charged for fewer. -/
theorem Charges.of_le (h : quote.Charges contracts) {fewer : Dec} (hle : fewer ≤ contracts) :
    quote.Charges fewer :=
  { h with minimumFee := fun hmodel hpos => h.minimumFee hmodel (hpos.trans_le hle) }

/-- A fee does not fall with the contracts. -/
theorem amount_le_of_contracts_le (h : quote.Charges contracts) {fewer price : Dec}
    (hle : fewer ≤ contracts) (hlow : 0 ≤ price) (hhigh : price ≤ 1) :
    quote.amount power fewer price ≤ quote.amount power contracts price := by
  have hrest := sub_nonneg_of_le hhigh
  have hrate := h.rate_nonneg
  have hmul {x y z : Dec} (hz : 0 ≤ z) (hxy : x ≤ y) : Dec.mul x z ≤ Dec.mul y z :=
    Dec.ctx_mono (mul_le_mul_of_nonneg_right hxy hz)
  have hpolymarket (he : 0 ≤ quote.feeExponent) :
      quote.polymarketFee power fewer price ≤ quote.polymarketFee power contracts price :=
    hmul (curveFactor_nonneg power he (priceCurve_nonneg hlow hhigh)) (hmul hrate hle)
  cases hmodel : quote.model with
  | polymarketDynamic =>
    simp only [amount, hmodel]
    exact hpolymarket (h.exponent (.inl hmodel))
  | polymarketTaker =>
    simp only [amount, hmodel]
    exact hpolymarket (h.exponent (.inr hmodel))
  | notionalBps =>
    simp only [amount, hmodel]
    exact hmul hrate (hmul hlow hle)
  | myriadCurve =>
    simp only [amount, hmodel]
    have hcurve : 0 ≤ Dec.div (Dec.mul quote.rate (min price (Dec.sub 1 price))) (1 / 2) :=
      Dec.ctx_nonneg (div_nonneg (Dec.mul_nonneg hrate (le_min hlow hrest)) (by norm_num))
    exact hmul hcurve (hmul hlow hle)
  | opinionCurve =>
    simp only [amount, hmodel]
    have hcurve : quote.opinionFee fewer price ≤ quote.opinionFee contracts price :=
      hmul hrest (hmul hlow (hmul hrate hle))
    split_ifs with hnone hnone'
    · exact le_rfl
    · have hminimum := h.minimumFee hmodel (not_le.mp hnone')
      exact hminimum.trans (le_max_right _ _)
    · exact absurd (hle.trans ‹_›) hnone
    · exact max_le_max_right _ hcurve
  | sxPayoutProfit =>
    simp only [amount, hmodel]
    exact hmul hrate (hmul hrest hle)
  | zeroFee | other =>
    simp only [amount, hmodel]
    exact le_rfl

/-! ## Prices in between -/

/-- The models whose fees the context keeps in the order of the prices. -/
def KeepsOrder (model : FeeModel) : Prop :=
  model = .notionalBps ∨ model = .sxPayoutProfit ∨ model = .zeroFee

/-- Such a fee is no larger than at one of the two ends. -/
theorem amount_le_max_of_keepsOrder (hmodel : KeepsOrder quote.model) (hc : 0 ≤ contracts)
    (hrate : 0 ≤ quote.rate) {low price high : Dec} (hlow : low ≤ price) (hhigh : price ≤ high) :
    quote.amount power contracts price ≤
      max (quote.amount power contracts low) (quote.amount power contracts high) := by
  rcases hmodel with hmodel | hmodel | hmodel
  · apply le_max_of_le_right
    simp only [amount, hmodel]
    have hnotional : Dec.mul contracts price ≤ Dec.mul contracts high :=
      Dec.ctx_mono (mul_le_mul_of_nonneg_left hhigh hc)
    exact Dec.ctx_mono (mul_le_mul_of_nonneg_right hnotional hrate)
  · apply le_max_of_le_left
    simp only [amount, hmodel]
    have hrest : Dec.sub 1 price ≤ Dec.sub 1 low := Dec.ctx_mono (sub_le_sub_left hlow 1)
    have hprofit : Dec.mul contracts (Dec.sub 1 price) ≤ Dec.mul contracts (Dec.sub 1 low) :=
      Dec.ctx_mono (mul_le_mul_of_nonneg_left hrest hc)
    exact Dec.ctx_mono (mul_le_mul_of_nonneg_right hprofit hrate)
  · simp only [amount, hmodel, max_self, le_refl]

/-- The two prices may come in either order. -/
theorem worstCaseFeeBetween_sorted (averagePrice limitPrice : Dec) :
    quote.worstCaseFeeBetween power contracts averagePrice limitPrice =
      quote.worstCaseFeeBetween power contracts (min averagePrice limitPrice)
        (max averagePrice limitPrice) := by
  rw [worstCaseFeeBetween, worstCaseFeeBetween, min_eq_left min_le_max, max_eq_right min_le_max]

/-- The worst case is at least the fee at either end. -/
theorem ends_le_worstCase {low high worst : Dec} (hle : low ≤ high)
    (h : quote.worstCaseFeeBetween power contracts low high = .ok worst) :
    max (quote.amount power contracts low) (quote.amount power contracts high) ≤ worst := by
  rw [worstCaseFeeBetween, min_eq_left hle, max_eq_right hle] at h
  cases hatLow : quote.feeForFill power contracts low with
  | error => simp [hatLow, bind, Except.bind] at h
  | ok atLow =>
  cases hatHigh : quote.feeForFill power contracts high with
  | error => simp [hatLow, hatHigh, bind, Except.bind] at h
  | ok atHigh =>
  obtain ⟨hcharges, -, -, rfl⟩ := charges_of_feeForFill power hatLow
  obtain ⟨-, -, -, rfl⟩ := charges_of_feeForFill power hatHigh
  have hhalf := hcharges.feeForFill power (by norm_num : (0 : Dec) ≤ 1 / 2) (by norm_num)
  simp only [hatLow, hatHigh, hhalf, bind, Except.bind] at h
  split_ifs at h
  · cases h
    exact le_max_left _ _
  · cases h
    exact le_rfl

/-- Where the quote charges the contracts, there is a worst case. -/
theorem exists_worstCase (h : quote.Charges contracts) {low high : Dec} (hlow : 0 ≤ low)
    (hle : low ≤ high) (hhigh : high ≤ 1) :
    ∃ worst, quote.worstCaseFeeBetween power contracts low high = .ok worst := by
  have hatLow := h.feeForFill power hlow (hle.trans hhigh)
  have hatHigh := h.feeForFill power (hlow.trans hle) hhigh
  have hhalf := h.feeForFill power (by norm_num : (0 : Dec) ≤ 1 / 2) (by norm_num)
  rw [worstCaseFeeBetween, min_eq_left hle, max_eq_right hle]
  simp only [hatLow, hatHigh, hhalf, bind, Except.bind]
  split_ifs
  · exact ⟨_, rfl⟩
  · exact ⟨_, rfl⟩

/-- **The worst-case fee covers every partial fill** at a price between the average and the limit:
exactly for the notional, the payout and the zero fee, and up to the rounding of the context for the
curves. -/
theorem partialFill_le_worstCase (quote : VenueFeeQuote) (contracts averagePrice limitPrice : Dec)
    (hcharges : quote.Charges contracts) (haverage : 0 ≤ averagePrice ∧ averagePrice ≤ 1)
    (hlimit : 0 ≤ limitPrice ∧ limitPrice ≤ 1) :
    ∃ worst, quote.worstCaseFeeBetween power contracts averagePrice limitPrice = .ok worst ∧
      ∀ filled price, 0 ≤ filled → filled ≤ contracts → min averagePrice limitPrice ≤ price →
        price ≤ max averagePrice limitPrice →
          ∃ fee, quote.feeForFill power filled price = .ok fee ∧
            (KeepsOrder quote.model → fee ≤ worst) ∧
            fee ≤ Dec.slack ^ 10 * worst + contracts / 10 ^ 26 := by
  obtain ⟨worst, h⟩ := exists_worstCase power hcharges (le_min haverage.1 hlimit.1) min_le_max
    (max_le haverage.2 hlimit.2)
  refine ⟨worst, by rw [worstCaseFeeBetween_sorted, h], ?_⟩
  intro filled price hfilled hle hlow hhigh
  have hc : 0 ≤ contracts := hfilled.trans hle
  obtain ⟨-, -, hlow_nonneg, hhigh_one, hworst⟩ := fee_le_worstCase power hc h hlow hhigh
  have hprice : 0 ≤ price := hlow_nonneg.trans hlow
  have hprice' : price ≤ 1 := hhigh.trans hhigh_one
  have hfewer := amount_le_of_contracts_le power hcharges hle hprice hprice'
  refine ⟨quote.amount power filled price,
    (hcharges.of_le hle).feeForFill power hprice hprice', fun hmodel => ?_, hfewer.trans hworst⟩
  calc quote.amount power filled price ≤ quote.amount power contracts price := hfewer
    _ ≤ max (quote.amount power contracts (min averagePrice limitPrice))
          (quote.amount power contracts (max averagePrice limitPrice)) :=
        amount_le_max_of_keepsOrder power hmodel hc hcharges.rate_nonneg hlow hhigh
    _ ≤ worst := ends_le_worstCase power min_le_max h

namespace FeeBoundExamples

/-- Opinion's curve at seven percent, without a floor. -/
def opinionQuote : VenueFeeQuote where
  model := .opinionCurve
  feeRateFraction := some (7 / 100)

theorem opinionQuote_charges : opinionQuote.Charges 4 where
  bps := by decide
  rate_nonneg := by decide +kernel
  rate_lt_one := by decide +kernel
  exponent := by rintro (h | h) <;> cases h
  minimumFee := fun _ _ => le_rfl
  supported := fun name h => by cases h

theorem partialFill_le_worstCase_half :
    ∃ worst, opinionQuote.worstCaseFeeBetween DecimalPower.rounded 4 (1 / 4) (3 / 4) = .ok worst ∧
      ∃ fee, opinionQuote.feeForFill DecimalPower.rounded 3 (1 / 2) = .ok fee ∧
        fee ≤ Dec.slack ^ 10 * worst + 4 / 10 ^ 26 := by
  obtain ⟨worst, hworst, hfills⟩ := partialFill_le_worstCase DecimalPower.rounded opinionQuote 4
    (1 / 4) (3 / 4) opinionQuote_charges (by norm_num) (by norm_num)
  obtain ⟨fee, hfee, -, hle⟩ := hfills 3 (1 / 2) (by norm_num) (by norm_num) (by norm_num)
    (by norm_num)
  exact ⟨worst, hworst, fee, hfee, hle⟩

/-- A price in the middle of two that differ in the last of 27 digits: the context rounds its fee
up, and theirs down. -/
theorem opinionFee_above_worstCase :
    ∃ worst fee,
      opinionQuote.worstCaseFeeBetween DecimalPower.rounded 4
          (448806113328389129023201136 / 10 ^ 27) (448806113328389129023201138 / 10 ^ 27) =
        .ok worst ∧
      opinionQuote.feeForFill DecimalPower.rounded 4
          (448806113328389129023201137 / 10 ^ 27) =
        .ok fee ∧
      worst < fee := by
  have hcharge : ∀ price : Dec, 0 ≤ price → price ≤ 1 →
      opinionQuote.feeForFill DecimalPower.rounded 4 price =
        .ok (max (opinionQuote.opinionFee 4 price) 0) := by
    intro price hlow hhigh
    rw [opinionQuote_charges.feeForFill DecimalPower.rounded hlow hhigh]
    show Except.ok (if (4 : Dec) ≤ 0 then 0 else max (opinionQuote.opinionFee 4 price) 0) = _
    rw [if_neg (by norm_num)]
  refine ⟨max (max (opinionQuote.opinionFee 4 (448806113328389129023201136 / 10 ^ 27)) 0)
    (max (opinionQuote.opinionFee 4 (448806113328389129023201138 / 10 ^ 27)) 0), _, ?_,
    hcharge _ (by norm_num) (by norm_num), by decide +kernel⟩
  rw [worstCaseFeeBetween, min_eq_left (by norm_num), max_eq_right (by norm_num),
    hcharge _ (by norm_num) (by norm_num), hcharge _ (by norm_num) (by norm_num)]
  simp only [bind, Except.bind]
  rw [if_neg (by norm_num)]

end FeeBoundExamples

end ArbitrageEngine.VenueFeeQuote
