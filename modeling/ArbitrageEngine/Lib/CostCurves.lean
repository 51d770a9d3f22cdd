/-
# ArbitrageEngine.Lib.CostCurves -- charges that depend on a price below one

A claim that pays one is bought at a price between zero and one, and a charge on the price comes on
top.  A charge may fall as the price rises, and then a lower price can be the dearer one.  It is not
for the charges here, as long as price and charge stay below one together: either the charge grows
at least as fast as what is left of the price up to one shrinks, or it falls more slowly than the
price rises.
-/
import Mathlib.Analysis.Convex.SpecificFunctions.Basic
import Mathlib.Analysis.Complex.ExponentialBounds
import Mathlib.Tactic.Linarith

namespace ArbitrageEngine.Lib.CostCurves

/-! ## Charges over a price -/

section Ordered

variable {K : Type*} [Field K] [LinearOrder K]

/-- A lower price costs no more, with the charge, than one that stays below one with its charge. -/
def FollowsPrice (charge : K → K) : Prop :=
  ∀ ⦃paid quoted : K⦄, 0 ≤ paid → paid ≤ quoted → quoted < 1 → quoted + charge quoted < 1 →
    paid + charge paid ≤ quoted + charge quoted

/-- A charge whose share of what is left up to one does not fall as the price rises. -/
def Mounts (charge : K → K) : Prop :=
  ∀ ⦃low high : K⦄, 0 ≤ low → low ≤ high → high < 1 →
    charge low * (1 - high) ≤ charge high * (1 - low)

variable [IsStrictOrderedRing K] {charge other : K → K}

theorem Mounts.followsPrice (h : Mounts charge) : FollowsPrice charge := by
  intro paid quoted hpaid hle hquoted hsum
  have hleft : 0 < 1 - quoted := sub_pos.mpr hquoted
  have hroom : 0 ≤ (quoted - paid) * (1 - (quoted + charge quoted)) :=
    mul_nonneg (sub_nonneg.mpr hle) (sub_pos.mpr hsum).le
  have hmounts := h hpaid hle hquoted
  refine le_of_mul_le_mul_right ?_ hleft
  calc (paid + charge paid) * (1 - quoted)
      = paid * (1 - quoted) + charge paid * (1 - quoted) := by ring
    _ ≤ paid * (1 - quoted) + charge quoted * (1 - paid) := by linarith
    _ ≤ paid * (1 - quoted) + charge quoted * (1 - paid) +
          (quoted - paid) * (1 - (quoted + charge quoted)) := by linarith
    _ = (quoted + charge quoted) * (1 - quoted) := by ring

/-! ## How such charges are made -/

theorem Mounts.const {amount : K} (h : 0 ≤ amount) : Mounts fun _ => amount :=
  fun _ _ _ hle _ => mul_le_mul_of_nonneg_left (sub_le_sub_left hle 1) h

theorem Mounts.price : Mounts fun price : K => price := by
  intro low high _ hle _
  show low * (1 - high) ≤ high * (1 - low)
  linarith

omit [IsStrictOrderedRing K] in
theorem Mounts.rest : Mounts fun price : K => 1 - price := by
  intro low high _ _ _
  exact (mul_comm _ _).le

theorem Mounts.scale (h : Mounts charge) {factor : K} (hfactor : 0 ≤ factor) :
    Mounts fun price => factor * charge price := by
  intro low high hlow hle hhigh
  have hmul := mul_le_mul_of_nonneg_left (h hlow hle hhigh) hfactor
  show factor * charge low * (1 - high) ≤ factor * charge high * (1 - low)
  rwa [mul_assoc, mul_assoc]

theorem Mounts.max (h : Mounts charge) (h' : Mounts other) :
    Mounts fun price => max (charge price) (other price) := by
  intro low high hlow hle hhigh
  have hrest : 0 ≤ 1 - high := (sub_pos.mpr hhigh).le
  have hrest' : 0 ≤ 1 - low := hrest.trans (sub_le_sub_left hle 1)
  show Max.max (charge low) (other low) * (1 - high) ≤
    Max.max (charge high) (other high) * (1 - low)
  rw [max_mul_of_nonneg _ _ hrest, max_mul_of_nonneg _ _ hrest']
  exact max_le_max (h hlow hle hhigh) (h' hlow hle hhigh)

theorem Mounts.min (h : Mounts charge) (h' : Mounts other) :
    Mounts fun price => min (charge price) (other price) := by
  intro low high hlow hle hhigh
  have hrest : 0 ≤ 1 - high := (sub_pos.mpr hhigh).le
  have hrest' : 0 ≤ 1 - low := hrest.trans (sub_le_sub_left hle 1)
  show Min.min (charge low) (other low) * (1 - high) ≤
    Min.min (charge high) (other high) * (1 - low)
  rw [min_mul_of_nonneg _ _ hrest, min_mul_of_nonneg _ _ hrest']
  exact min_le_min (h hlow hle hhigh) (h' hlow hle hhigh)

/-- A factor that rises with the price may be put before such a charge. -/
theorem Mounts.mul_rising (h : Mounts charge)
    (hcharge : ∀ price, 0 ≤ price → price < 1 → 0 ≤ charge price)
    (hnonneg : ∀ price, 0 ≤ price → 0 ≤ other price)
    (hrising : ∀ low high, 0 ≤ low → low ≤ high → other low ≤ other high) :
    Mounts fun price => other price * charge price := by
  intro low high hlow hle hhigh
  have hhigh_nonneg := hlow.trans hle
  have hrest : 0 ≤ charge high * (1 - low) :=
    mul_nonneg (hcharge high hhigh_nonneg hhigh) (sub_nonneg.mpr (hle.trans hhigh.le))
  calc other low * charge low * (1 - high)
      = other low * (charge low * (1 - high)) := mul_assoc _ _ _
    _ ≤ other low * (charge high * (1 - low)) :=
        mul_le_mul_of_nonneg_left (h hlow hle hhigh) (hnonneg low hlow)
    _ ≤ other high * (charge high * (1 - low)) :=
        mul_le_mul_of_nonneg_right (hrising low high hlow hle) hrest
    _ = other high * charge high * (1 - low) := (mul_assoc _ _ _).symm

theorem Mounts.price_mul (h : Mounts charge)
    (hcharge : ∀ price, 0 ≤ price → price < 1 → 0 ≤ charge price) :
    Mounts fun price => price * charge price :=
  h.mul_rising hcharge (fun _ h => h) (fun _ _ _ h => h)

/-- The charge of a curve that is highest at one half. -/
theorem Mounts.curve : Mounts fun price : K => price * (1 - price) :=
  Mounts.rest.price_mul fun _ _ h => (sub_pos.mpr h).le

theorem Mounts.minCurve : Mounts fun price : K => price * Min.min price (1 - price) :=
  (Mounts.price.min Mounts.rest).price_mul fun _ h h' => le_min h (sub_pos.mpr h').le

end Ordered

/-! ## Powers of the curve -/

/-- An exponent of at most one. -/
theorem Mounts.curve_rpow {exponent : ℝ} (he : 0 ≤ exponent) (he' : exponent ≤ 1) :
    Mounts fun price : ℝ => price ^ exponent * (1 - price) ^ exponent := by
  have hrest : Mounts fun price : ℝ => (1 - price) ^ exponent := by
    intro low high _ hle hhigh
    have hpos : 0 < 1 - high := sub_pos.mpr hhigh
    have hpos' : 0 < 1 - low := hpos.trans_le (sub_le_sub_left hle 1)
    have hpow : (1 - low) ^ (exponent - 1) ≤ (1 - high) ^ (exponent - 1) :=
      Real.rpow_le_rpow_of_nonpos hpos (sub_le_sub_left hle 1) (sub_nonpos.mpr he')
    rw [Real.rpow_sub_one hpos'.ne', Real.rpow_sub_one hpos.ne', div_le_div_iff₀ hpos' hpos] at hpow
    exact hpow
  refine hrest.mul_rising (fun price _ h => ?_) (fun price h => ?_) fun low high hlow hle => ?_
  · exact Real.rpow_nonneg (sub_pos.mpr h).le exponent
  · exact Real.rpow_nonneg h exponent
  · exact Real.rpow_le_rpow hlow hle he

/-- Below one quarter a power of at least one is no steeper than its base. -/
theorem rpow_sub_rpow_le {x y exponent : ℝ} (hx : 0 ≤ x) (hle : x ≤ y) (hy : y ≤ 1 / 4)
    (he : 1 ≤ exponent) : y ^ exponent - x ^ exponent ≤ y - x := by
  rcases (hx.trans hle).eq_or_lt with hzero | hpos
  · have hxzero : x = 0 := le_antisymm (hle.trans_eq hzero.symm) hx
    rw [hxzero, ← hzero]
    simp
  -- the tangent at the larger base lies below the power
  have htangent : 1 + exponent * (x / y - 1) ≤ (x / y) ^ exponent := by
    have h := one_add_mul_self_le_rpow_one_add
      (by linarith [div_nonneg hx hpos.le] : -1 ≤ x / y - 1) he
    rwa [add_sub_cancel] at h
  have hbelow : y ^ exponent - x ^ exponent ≤ exponent * y ^ (exponent - 1) * (y - x) := by
    rw [Real.div_rpow hx hpos.le, le_div_iff₀ (Real.rpow_pos_of_pos hpos _)] at htangent
    have hslope : (1 + exponent * (x / y - 1)) * y ^ exponent =
        y ^ exponent - exponent * y ^ (exponent - 1) * (y - x) := by
      rw [Real.rpow_sub_one hpos.ne']
      field_simp
      ring
    linarith
  have hslope : exponent * y ^ (exponent - 1) ≤ 1 := by
    have hmono : y ^ (exponent - 1) ≤ (1 / 4) ^ (exponent - 1) :=
      Real.rpow_le_rpow hpos.le hy (sub_nonneg.mpr he)
    have hgrowth : exponent ≤ 4 ^ (exponent - 1) := by
      calc exponent = exponent - 1 + 1 := by ring
        _ ≤ Real.exp (exponent - 1) := Real.add_one_le_exp _
        _ = Real.exp 1 ^ (exponent - 1) := (Real.exp_one_rpow _).symm
        _ ≤ 4 ^ (exponent - 1) :=
            Real.rpow_le_rpow (Real.exp_pos 1).le
              (Real.exp_one_lt_d9.le.trans (by norm_num)) (sub_nonneg.mpr he)
    calc exponent * y ^ (exponent - 1)
        ≤ exponent * (1 / 4) ^ (exponent - 1) :=
          mul_le_mul_of_nonneg_left hmono (zero_le_one.trans he)
      _ = exponent / 4 ^ (exponent - 1) := by
          rw [one_div, Real.inv_rpow (by norm_num), div_eq_mul_inv]
      _ ≤ 1 := (div_le_one (Real.rpow_pos_of_pos (by norm_num) _)).mpr hgrowth
  calc y ^ exponent - x ^ exponent ≤ exponent * y ^ (exponent - 1) * (y - x) := hbelow
    _ ≤ 1 * (y - x) := mul_le_mul_of_nonneg_right hslope (sub_nonneg.mpr hle)
    _ = y - x := one_mul _

/-- **A rate below one on a power of the curve** follows the price for every exponent. -/
theorem followsPrice_rate_curve {rate exponent : ℝ} (hrate : 0 ≤ rate) (hrate' : rate ≤ 1)
    (he : 0 ≤ exponent) :
    FollowsPrice fun price : ℝ => rate * (price * (1 - price)) ^ exponent := by
  intro paid quoted hpaid hle hquoted hsum
  have hquoted_nonneg := hpaid.trans hle
  rcases le_total exponent 1 with he' | he'
  · -- the charge grows at least as fast as what is left
    have hsplit {price : ℝ} (h : 0 ≤ price) (h' : price < 1) :
        rate * (price * (1 - price)) ^ exponent =
          rate * (price ^ exponent * (1 - price) ^ exponent) := by
      rw [Real.mul_rpow h (sub_pos.mpr h').le]
    have hfollows := ((Mounts.curve_rpow he he').scale hrate).followsPrice
    simp only [hsplit hquoted_nonneg hquoted, hsplit hpaid (hle.trans_lt hquoted)] at hsum ⊢
    exact hfollows hpaid hle hquoted hsum
  · -- the charge falls by at most what the price rises
    have hcurve : 0 ≤ paid * (1 - paid) := mul_nonneg hpaid (by linarith)
    have hcurve' : 0 ≤ quoted * (1 - quoted) := mul_nonneg hquoted_nonneg (by linarith)
    have hquarter : paid * (1 - paid) ≤ 1 / 4 := by nlinarith [sq_nonneg (paid - 1 / 2)]
    have hfall : paid * (1 - paid) - quoted * (1 - quoted) ≤ quoted - paid := by nlinarith
    have hdrop : (paid * (1 - paid)) ^ exponent - (quoted * (1 - quoted)) ^ exponent ≤
        quoted - paid := by
      rcases le_total (paid * (1 - paid)) (quoted * (1 - quoted)) with hcase | hcase
      · have hmono := Real.rpow_le_rpow hcurve hcase he
        linarith
      · exact (rpow_sub_rpow_le hcurve' hcase hquarter he').trans hfall
    have hscaled := mul_le_mul_of_nonneg_left hdrop hrate
    have hrest := mul_le_mul_of_nonneg_right hrate' (sub_nonneg.mpr hle)
    show paid + rate * (paid * (1 - paid)) ^ exponent ≤
      quoted + rate * (quoted * (1 - quoted)) ^ exponent
    linarith

end ArbitrageEngine.Lib.CostCurves
