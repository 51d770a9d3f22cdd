/-
# ArbitrageEngine.Lib.Relative -- numbers that agree up to a factor

Two non-negative numbers agree *within `k` factors of `r`* if neither is more than `r ^ k` times the
other.  The relation is symmetric, the factors add up along a chain, and products, quotients, sums
and minima keep it, so the error of a computation is read off its operations.  One rounding to
significant digits costs one factor.  A power of a small number moves by no more than its base.
-/
import ArbitrageEngine.Lib.Rounding
import Mathlib.Analysis.SpecialFunctions.Pow.Real

namespace ArbitrageEngine.Lib.Relative

open Lib.Rounding

variable {K : Type*} [Field K] [LinearOrder K] [IsStrictOrderedRing K] {r : K}

/-- `x` and `y` agree within `k` factors of `r`. -/
def Within (r : K) (k : ℕ) (x y : K) : Prop := x ≤ r ^ k * y ∧ y ≤ r ^ k * x

omit [IsStrictOrderedRing K] in
theorem Within.refl (r x : K) : Within r 0 x x := by simp [Within]

omit [IsStrictOrderedRing K] in
theorem Within.symm {k : ℕ} {x y : K} (h : Within r k x y) : Within r k y x := ⟨h.2, h.1⟩

theorem Within.trans (hr : 1 ≤ r) {k l : ℕ} {x y z : K} (hxy : Within r k x y)
    (hyz : Within r l y z) : Within r (k + l) x z := by
  have hpow (n : ℕ) : 0 ≤ r ^ n := pow_nonneg (zero_le_one.trans hr) n
  constructor
  · calc x ≤ r ^ k * y := hxy.1
      _ ≤ r ^ k * (r ^ l * z) := mul_le_mul_of_nonneg_left hyz.1 (hpow k)
      _ = r ^ (k + l) * z := by ring
  · calc z ≤ r ^ l * y := hyz.2
      _ ≤ r ^ l * (r ^ k * x) := mul_le_mul_of_nonneg_left hxy.2 (hpow l)
      _ = r ^ (k + l) * x := by ring

theorem Within.nonneg (hr : 1 ≤ r) {k : ℕ} {x y : K} (h : Within r k x y) (hx : 0 ≤ x) :
    0 ≤ y := by
  have hpow : 0 < r ^ k := pow_pos (zero_lt_one.trans_le hr) k
  exact nonneg_of_mul_nonneg_right (hx.trans h.1) hpow

theorem Within.mono (hr : 1 ≤ r) {k l : ℕ} (hkl : k ≤ l) {x y : K} (hx : 0 ≤ x)
    (h : Within r k x y) : Within r l x y := by
  have hpow : r ^ k ≤ r ^ l := pow_le_pow_right₀ hr hkl
  constructor
  · exact h.1.trans (mul_le_mul_of_nonneg_right hpow (h.nonneg hr hx))
  · exact h.2.trans (mul_le_mul_of_nonneg_right hpow hx)

theorem Within.mul (hr : 1 ≤ r) {k l : ℕ} {x x' y y' : K} (hx : 0 ≤ x) (hy : 0 ≤ y)
    (h : Within r k x x') (h' : Within r l y y') : Within r (k + l) (x * y) (x' * y') := by
  have hpow (n : ℕ) : 0 ≤ r ^ n := pow_nonneg (zero_le_one.trans hr) n
  have hx' : 0 ≤ x' := h.nonneg hr hx
  have hy' : 0 ≤ y' := h'.nonneg hr hy
  constructor
  · calc x * y ≤ r ^ k * x' * (r ^ l * y') :=
          mul_le_mul h.1 h'.1 hy (mul_nonneg (hpow k) hx')
      _ = r ^ (k + l) * (x' * y') := by ring
  · calc x' * y' ≤ r ^ k * x * (r ^ l * y) :=
          mul_le_mul h.2 h'.2 hy' (mul_nonneg (hpow k) hx)
      _ = r ^ (k + l) * (x * y) := by ring

theorem Within.add {k : ℕ} {x x' y y' : K} (h : Within r k x x') (h' : Within r k y y') :
    Within r k (x + y) (x' + y') := by
  constructor
  · rw [mul_add]
    exact add_le_add h.1 h'.1
  · rw [mul_add]
    exact add_le_add h.2 h'.2

theorem Within.min (hr : 1 ≤ r) {k : ℕ} {x x' y y' : K} (h : Within r k x x')
    (h' : Within r k y y') : Within r k (min x y) (min x' y') := by
  have hpow : 0 ≤ r ^ k := pow_nonneg (zero_le_one.trans hr) k
  constructor
  · rw [mul_min_of_nonneg _ _ hpow]
    exact min_le_min h.1 h'.1
  · rw [mul_min_of_nonneg _ _ hpow]
    exact min_le_min h.2 h'.2

/-- Rounding to significant digits costs one factor. -/
theorem within_significant {b p : ℕ} (hb : 1 < b) (hp : 0 < p) {x : ℚ} (hx : 0 ≤ x) :
    Within (1 + (b : ℚ) / (b : ℚ) ^ p) 1 (significant b p x) x := by
  have hbpos : (0 : ℚ) < b := by exact_mod_cast Nat.zero_lt_of_lt hb
  have htwo : (2 : ℚ) ≤ b := by exact_mod_cast hb
  have hpow : (0 : ℚ) < (b : ℚ) ^ p := pow_pos hbpos p
  rcases hx.eq_or_lt with rfl | hpos
  · rw [significant_zero]
    simp [Within]
  -- the unit in the last place is at most `b / b ^ p` of the number, and of what it is rounded to
  have hlog : |x| < (b : ℚ) ^ (Int.log b x + 1) := by
    rw [abs_of_pos hpos]
    exact Int.lt_zpow_succ_log_self hb x
  have herror := abs_le.mp (abs_significant_sub_le (p := p) hb hlog)
  have hexp : (b : ℚ) ^ (Int.log b x + 1 - (p : ℤ)) = (b : ℚ) ^ Int.log b x * (b / (b : ℚ) ^ p) := by
    rw [zpow_sub₀ hbpos.ne', zpow_add_one₀ hbpos.ne', zpow_natCast]
    ring
  rw [hexp] at herror
  set c : ℚ := (b : ℚ) / (b : ℚ) ^ p with hc
  have hcpos : 0 < c := div_pos hbpos hpow
  have hself : (b : ℚ) ^ Int.log b x * c ≤ x * c :=
    mul_le_mul_of_nonneg_right (Int.zpow_log_le_self hb hpos) hcpos.le
  have hround : (b : ℚ) ^ Int.log b x * c ≤ significant b p x * c :=
    mul_le_mul_of_nonneg_right (zpow_le_significant hb hp hpos) hcpos.le
  have hnonneg : 0 ≤ (b : ℚ) ^ Int.log b x * c :=
    mul_nonneg (zpow_nonneg hbpos.le _) hcpos.le
  rw [Within, pow_one, add_mul, add_mul, one_mul, one_mul]
  constructor <;> linarith

/-! ## Powers of small numbers -/

/-- A relative error of the base is an absolute error of the power, whatever the exponent: what a
large exponent makes of the error, it takes from the power. -/
theorem rpow_le_rpow_add {x y d e : ℝ} (hx : 0 ≤ x) (hy : 0 < y) (hd : 0 ≤ d) (he : 0 ≤ e)
    (hxy : x ≤ (1 + d) * y) (hsmall : (1 + d) * y ≤ Real.exp (-1)) : x ^ e ≤ y ^ e + d := by
  have hfactor : 0 < 1 + d := by linarith
  set z : ℝ := (1 + d) * y with hz
  have hzpos : 0 < z := mul_pos hfactor hy
  have hzpow : z ^ e ≤ Real.exp (-e) := by
    calc z ^ e ≤ Real.exp (-1) ^ e := Real.rpow_le_rpow hzpos.le hsmall he
      _ = Real.exp (-e) := by rw [← Real.exp_mul, neg_one_mul]
  have hsplit : z ^ e = (1 + d) ^ e * y ^ e := Real.mul_rpow hfactor.le hy.le
  have hlog : Real.log (1 + d) ≤ d := by
    have h := Real.log_le_sub_one_of_pos hfactor
    linarith
  -- the factor is at least `1 - e * d`, and `e * z ^ e` is at most one
  have hshrink : z ^ e * (1 - e * d) ≤ y ^ e := by
    have hexp : 1 - e * d ≤ Real.exp (-(Real.log (1 + d) * e)) := by
      have h := Real.add_one_le_exp (-(Real.log (1 + d) * e))
      have hle := mul_le_mul_of_nonneg_right hlog he
      linarith
    have hinv : (1 + d) ^ e * Real.exp (-(Real.log (1 + d) * e)) = 1 := by
      rw [Real.rpow_def_of_pos hfactor, ← Real.exp_add, add_neg_cancel, Real.exp_zero]
    calc z ^ e * (1 - e * d)
        ≤ z ^ e * Real.exp (-(Real.log (1 + d) * e)) :=
          mul_le_mul_of_nonneg_left hexp (Real.rpow_nonneg hzpos.le e)
      _ = y ^ e * ((1 + d) ^ e * Real.exp (-(Real.log (1 + d) * e))) := by
          rw [hsplit]
          ring
      _ = y ^ e := by rw [hinv, mul_one]
  have hone : e * z ^ e ≤ 1 := by
    have hle : e ≤ Real.exp e := by linarith [Real.add_one_le_exp e]
    calc e * z ^ e ≤ Real.exp e * Real.exp (-e) :=
          mul_le_mul hle hzpow (Real.rpow_nonneg hzpos.le e) (Real.exp_pos e).le
      _ = 1 := by rw [← Real.exp_add, add_neg_cancel, Real.exp_zero]
  have hmono : x ^ e ≤ z ^ e := Real.rpow_le_rpow hx hxy he
  have hdiff : e * z ^ e * d ≤ 1 * d := mul_le_mul_of_nonneg_right hone hd
  linarith

end ArbitrageEngine.Lib.Relative
