/-
# ArbitrageEngine.ContextError -- what the decimal context can add to an amount

An operation of the default context returns its exact result up to one factor of `slack`, and a
power of two decimals up to two of them.  The lemmas here carry that through the products and sums
that fees and costs are made of.
-/
import ArbitrageEngine.Decimal
import ArbitrageEngine.Lib.Relative
import ArbitrageEngine.Lib.RoundedSums
import Mathlib.Analysis.Complex.ExponentialBounds

namespace ArbitrageEngine

open Lib.Relative

namespace Dec

/-- The factor one rounding of the context costs. -/
def slack : Dec := 1 + 10 / 10 ^ 28

theorem one_le_slack : 1 ≤ slack := by norm_num [slack]

theorem slack_pow_nonneg (k : ℕ) : 0 ≤ slack ^ k :=
  pow_nonneg (zero_le_one.trans one_le_slack) k

theorem ctx_within {x : Dec} (hx : 0 ≤ x) : Within slack 1 (ctx x) x := by
  have h := within_significant (b := 10) (p := 28) (by norm_num) (by norm_num) hx
  exact_mod_cast h

/-- The context does not round a positive number to zero. -/
theorem ctx_pos {x : Dec} (hx : 0 < x) : 0 < ctx x := by
  have h := (ctx_within hx.le).2
  rw [pow_one] at h
  exact (mul_pos_iff_of_pos_left (zero_lt_one.trans_le one_le_slack)).mp (hx.trans_le h)

theorem nonneg_of_ctx_nonneg {x : Dec} (h : 0 ≤ ctx x) : 0 ≤ x := by
  by_contra hneg
  have hpos : 0 < ctx (-x) := ctx_pos (by linarith)
  have hctx : ctx (-x) = -ctx x := Lib.Rounding.significant_neg 10 28 x
  rw [hctx] at hpos
  linarith

/-- The context is a rounding with a relative error of one unit in the last of 28 digits. -/
theorem ctx_rounding : Lib.RoundedSums.RelativeRounding ctx (10 / 10 ^ 28) where
  nonneg := by norm_num
  error := by
    have hpos : ∀ x : Dec, 0 ≤ x → |ctx x - x| ≤ 10 / 10 ^ 28 * |x| := by
      intro x hx
      obtain ⟨hup, hdown⟩ := ctx_within hx
      rw [pow_one, slack] at hup hdown
      rw [abs_of_nonneg hx, abs_le]
      constructor <;> linarith
    intro x
    rcases le_total 0 x with hx | hx
    · exact hpos x hx
    · have h := hpos (-x) (neg_nonneg.mpr hx)
      have hneg : ctx (-x) = -ctx x := Lib.Rounding.significant_neg 10 28 x
      rwa [hneg, abs_neg, ← neg_sub_neg, neg_neg, neg_neg, abs_sub_comm] at h

theorem mul_nonneg {a b : Dec} (ha : 0 ≤ a) (hb : 0 ≤ b) : 0 ≤ mul a b :=
  ctx_nonneg (Left.mul_nonneg ha hb)

theorem mul_within {k l : ℕ} {x x' y y' : Dec} (hx : 0 ≤ x) (hy : 0 ≤ y) (h : Within slack k x x')
    (h' : Within slack l y y') : Within slack (1 + (k + l)) (mul x y) (x' * y') :=
  (ctx_within (Left.mul_nonneg hx hy)).trans one_le_slack (h.mul one_le_slack hx hy h')

theorem add_within {k : ℕ} {x x' y y' : Dec} (hx : 0 ≤ x) (hy : 0 ≤ y) (h : Within slack k x x')
    (h' : Within slack k y y') : Within slack (1 + k) (add x y) (x' + y') :=
  (ctx_within (Left.add_nonneg hx hy)).trans one_le_slack (h.add h')

end Dec

/-! ## Powers -/

/-- `a ** b` in the default context, for a positive base and exponent: the exact power up to one
unit in the last of 28 digits. -/
structure DecimalPower where
  pow : Dec → Dec → Dec
  within : ∀ {x e : Dec}, 0 < x → 0 < e →
    Within ((Dec.slack : Dec) : ℝ) 2 (pow x e : ℝ) ((x : ℝ) ^ (e : ℝ))

namespace DecimalPower

theorem pow_nonneg (power : DecimalPower) {x e : Dec} (hx : 0 < x) (he : 0 < e) :
    0 ≤ power.pow x e := by
  have hslack : (1 : ℝ) ≤ ((Dec.slack : Dec) : ℝ) := by exact_mod_cast Dec.one_le_slack
  have hexact : (0 : ℝ) ≤ (x : ℝ) ^ (e : ℝ) := Real.rpow_nonneg (by exact_mod_cast hx.le) _
  exact_mod_cast (power.within hx he).symm.nonneg hslack hexact

/-- A power of a number below 0.26 moves by no more than its base does. -/
theorem pow_le (power : DecimalPower) {x y e : Dec} (hx : 0 < x) (hy : 0 < y) (he : 0 < e)
    (hxy : x ≤ Dec.slack ^ 4 * y) (hsmall : y ≤ 26 / 100) :
    power.pow x e ≤ Dec.slack ^ 4 * power.pow y e + 5 / 10 ^ 27 := by
  set s : ℝ := ((Dec.slack : Dec) : ℝ) with hs
  have hsvalue : s = 1 + 10 / 10 ^ 28 := by
    rw [hs, Dec.slack]
    push_cast
    ring
  have hxpos : (0 : ℝ) < (x : ℝ) := by exact_mod_cast hx
  have hypos : (0 : ℝ) < (y : ℝ) := by exact_mod_cast hy
  have hepos : (0 : ℝ) ≤ (e : ℝ) := by exact_mod_cast he.le
  have hbase : (x : ℝ) ≤ (1 + (s ^ 4 - 1)) * (y : ℝ) := by
    have h : ((x : Dec) : ℝ) ≤ ((Dec.slack ^ 4 * y : Dec) : ℝ) := by exact_mod_cast hxy
    push_cast at h
    rw [← hs] at h
    linarith
  have hysmall : (y : ℝ) ≤ 26 / 100 := by
    have h : ((y : Dec) : ℝ) ≤ ((26 / 100 : Dec) : ℝ) := by exact_mod_cast hsmall
    push_cast at h
    exact h
  have hexp : (1 + (s ^ 4 - 1)) * (y : ℝ) ≤ Real.exp (-1) := by
    have hbound : 1 + (s ^ 4 - 1) ≤ 11 / 10 := by
      rw [hsvalue]
      norm_num
    have hthird : (1 : ℝ) / 3 ≤ Real.exp (-1) := by
      rw [Real.exp_neg, one_div]
      exact inv_anti₀ (Real.exp_pos 1) Real.exp_one_lt_three.le
    have hmul := mul_le_mul hbound hysmall hypos.le (by norm_num)
    linarith
  have hd : 0 ≤ s ^ 4 - 1 := by
    rw [hsvalue]
    norm_num
  have hpow := rpow_le_rpow_add hxpos.le hypos hd hepos hbase hexp
  have hsq : 0 ≤ s ^ 2 := by positivity
  have hreal : (power.pow x e : ℝ) ≤ s ^ 4 * (power.pow y e : ℝ) + 5 / 10 ^ 27 := by
    calc (power.pow x e : ℝ) ≤ s ^ 2 * (x : ℝ) ^ (e : ℝ) := (power.within hx he).1
      _ ≤ s ^ 2 * ((y : ℝ) ^ (e : ℝ) + (s ^ 4 - 1)) := mul_le_mul_of_nonneg_left hpow hsq
      _ ≤ s ^ 2 * (s ^ 2 * (power.pow y e : ℝ) + (s ^ 4 - 1)) := by
          have h := (power.within hy he).2
          exact mul_le_mul_of_nonneg_left (by linarith) hsq
      _ = s ^ 4 * (power.pow y e : ℝ) + s ^ 2 * (s ^ 4 - 1) := by ring
      _ ≤ s ^ 4 * (power.pow y e : ℝ) + 5 / 10 ^ 27 := by
          have h : s ^ 2 * (s ^ 4 - 1) ≤ 5 / 10 ^ 27 := by
            rw [hsvalue]
            norm_num
          linarith
  have hcast : ((power.pow x e : Dec) : ℝ) ≤
      ((Dec.slack ^ 4 * power.pow y e + 5 / 10 ^ 27 : Dec) : ℝ) := by
    push_cast
    exact hreal
  exact Rat.cast_le.mp hcast

/-- Some decimal is close enough to any power. -/
theorem exists_within (x e : Dec) :
    ∃ q : Dec, 0 < x → 0 < e →
      Within ((Dec.slack : Dec) : ℝ) 2 (q : ℝ) ((x : ℝ) ^ (e : ℝ)) := by
  by_cases hx : 0 < x
  · have hy : (0 : ℝ) < (x : ℝ) ^ (e : ℝ) := Real.rpow_pos_of_pos (by exact_mod_cast hx) _
    set s : ℝ := ((Dec.slack : Dec) : ℝ) with hs
    have hslack : 1 < s ^ 2 := by
      have h : (1 : ℝ) < s := by
        rw [hs]
        exact_mod_cast (by norm_num [Dec.slack] : (1 : Dec) < Dec.slack)
      exact one_lt_pow₀ h two_ne_zero
    obtain ⟨q, hq, hq'⟩ := exists_rat_btwn (lt_mul_of_one_lt_left hy hslack)
    refine ⟨q, fun _ _ => ⟨hq'.le, ?_⟩⟩
    exact hq.le.trans (le_mul_of_one_le_left (hy.trans hq).le hslack.le)
  · exact ⟨0, fun h => absurd h hx⟩

/-- Integral powers rounded once, and other powers to some decimal close enough. -/
noncomputable def rounded : DecimalPower where
  pow := fun x e =>
    if e.den = 1 then Dec.ctx (x ^ e.num.toNat) else Classical.choose (exists_within x e)
  within := by
    intro x e hx he
    have hslack : (1 : ℝ) ≤ ((Dec.slack : Dec) : ℝ) := by exact_mod_cast Dec.one_le_slack
    split
    · next hden =>
      obtain ⟨n, hn⟩ := Int.eq_ofNat_of_zero_le (Rat.num_nonneg.mpr he.le)
      have heq : e = (n : Dec) := by
        rw [← Rat.coe_int_num_of_den_eq_one hden, hn]
        simp
      have hpow : ((x : ℝ) ^ (e : ℝ)) = (((x ^ n : Dec)) : ℝ) := by
        rw [heq]
        push_cast
        exact Real.rpow_natCast _ n
      have hround := (Dec.ctx_within (pow_pos hx n).le).mono Dec.one_le_slack (by omega : 1 ≤ 2)
        (Dec.ctx_nonneg (pow_pos hx n).le)
      rw [hpow, hn, Int.toNat_natCast]
      constructor
      · exact_mod_cast hround.1
      · exact_mod_cast hround.2
    · exact Classical.choose_spec (exists_within x e) hx he

end DecimalPower

end ArbitrageEngine
