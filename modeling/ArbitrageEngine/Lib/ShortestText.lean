/-
# ArbitrageEngine.Lib.ShortestText -- the decimal a double is written as

A double is written with the fewest decimal digits that read back as the same double, and with the
ones closest to it where there are several.  Rounding to a double keeps the order and changes no
double, so writing keeps the order as well: the text of a larger double is a larger decimal, and a
number that reaches the text of a double still reaches it when it becomes a double and is written.
-/
import ArbitrageEngine.Lib.Binary64

namespace ArbitrageEngine.Lib.FloatValue

open Rounding

/-! ## The order of the grid -/

/-- The smallest normal number is a whole number of steps of the grid below it. -/
theorem normal_mul_steps : (2 : ℚ) ^ (-1022 : ℤ) * 2 ^ 1074 = ((2 ^ 52 : ℤ) : ℚ) := by
  rw [← zpow_natCast, ← zpow_add₀ (by norm_num)]
  norm_num

theorem normal_pos : (0 : ℚ) < 2 ^ (-1022 : ℤ) := zpow_pos (by norm_num) _

/-- Powers of two above the smallest normal number are significant digits alone. -/
theorem significant_normal : significant 2 53 ((2 : ℚ) ^ (-1022 : ℤ)) = 2 ^ (-1022 : ℤ) :=
  significant_eq_self (by norm_num) ⟨1, -1022, by norm_num, by norm_num⟩

theorem onGrid_of_small {q : ℚ} (h : |q| < 2 ^ (-1022 : ℤ)) :
    onGrid q = halfEven (q * 2 ^ 1074) / 2 ^ 1074 := if_pos h

theorem onGrid_of_normal {q : ℚ} (h : ¬|q| < 2 ^ (-1022 : ℤ)) : onGrid q = significant 2 53 q :=
  if_neg h

@[simp]
theorem onGrid_zero : onGrid 0 = 0 := by
  rw [onGrid_of_small (by rw [abs_zero]; exact normal_pos), zero_mul]
  simpa using halfEven_intCast 0

theorem onGrid_neg (q : ℚ) : onGrid (-q) = -onGrid q := by
  unfold onGrid
  rw [abs_neg]
  split_ifs
  · rw [neg_mul, halfEven_neg]
    push_cast
    exact neg_div _ _
  · exact significant_neg 2 53 q

theorem onGrid_le_normal {q : ℚ} (h : q ≤ 2 ^ (-1022 : ℤ)) : onGrid q ≤ 2 ^ (-1022 : ℤ) := by
  unfold onGrid
  split_ifs
  · rw [div_le_iff₀ (by positivity), normal_mul_steps]
    have hle : q * 2 ^ 1074 ≤ ((2 ^ 52 : ℤ) : ℚ) := by
      rw [← normal_mul_steps]
      exact mul_le_mul_of_nonneg_right h (by positivity)
    have hround := halfEven_mono hle
    rw [halfEven_intCast] at hround
    exact_mod_cast hround
  · exact (significant_mono (by norm_num) (by norm_num) h).trans significant_normal.le

theorem normal_le_onGrid {q : ℚ} (h : 2 ^ (-1022 : ℤ) ≤ q) : 2 ^ (-1022 : ℤ) ≤ onGrid q := by
  rw [onGrid_of_normal (by rw [abs_of_pos (normal_pos.trans_le h)]; exact h.not_gt)]
  exact significant_normal.ge.trans (significant_mono (by norm_num) (by norm_num) h)

/-- **Rounding to the grid keeps the order.** -/
theorem onGrid_mono {x y : ℚ} (h : x ≤ y) : onGrid x ≤ onGrid y := by
  by_cases hx : |x| < 2 ^ (-1022 : ℤ)
  · by_cases hy : |y| < 2 ^ (-1022 : ℤ)
    · rw [onGrid_of_small hx, onGrid_of_small hy]
      have hsteps : x * 2 ^ 1074 ≤ y * 2 ^ 1074 := mul_le_mul_of_nonneg_right h (by positivity)
      have hround := halfEven_mono hsteps
      exact div_le_div_of_nonneg_right (by exact_mod_cast hround) (by positivity)
    · -- above the small numbers is a normal one
      have hlarge : 2 ^ (-1022 : ℤ) ≤ y := by
        rcases le_abs.mp (not_lt.mp hy) with hpos | hneg
        · exact hpos
        · linarith [(abs_lt.mp hx).1]
      exact (onGrid_le_normal (abs_lt.mp hx).2.le).trans (normal_le_onGrid hlarge)
  · by_cases hy : |y| < 2 ^ (-1022 : ℤ)
    · have hlarge : 2 ^ (-1022 : ℤ) ≤ -x := by
        rcases le_abs.mp (not_lt.mp hx) with hpos | hneg
        · linarith [(abs_lt.mp hy).2]
        · exact hneg
      have hless : -y ≤ 2 ^ (-1022 : ℤ) := by linarith [(abs_lt.mp hy).1]
      have hneg := (onGrid_le_normal hless).trans (normal_le_onGrid hlarge)
      rw [onGrid_neg, onGrid_neg] at hneg
      exact neg_le_neg_iff.mp hneg
    · rw [onGrid_of_normal hx, onGrid_of_normal hy]
      exact significant_mono (by norm_num) (by norm_num) h

theorem abs_onGrid (q : ℚ) : |onGrid q| = onGrid |q| := by
  rcases le_total 0 q with hq | hq
  · have hpos := onGrid_mono hq
    rw [onGrid_zero] at hpos
    rw [abs_of_nonneg hq, abs_of_nonneg hpos]
  · have hneg := onGrid_mono hq
    rw [onGrid_zero] at hneg
    rw [abs_of_nonpos hq, abs_of_nonpos hneg, onGrid_neg]

/-- **What is on the grid stays where it is.** -/
theorem onGrid_onGrid (q : ℚ) : onGrid (onGrid q) = onGrid q := by
  by_cases hq : |q| < 2 ^ (-1022 : ℤ)
  · have hgrid := onGrid_of_small hq
    have hle : |onGrid q| ≤ 2 ^ (-1022 : ℤ) := by
      rw [abs_onGrid]
      exact onGrid_le_normal hq.le
    rcases hle.lt_or_eq with hlt | heq
    · -- a whole number of steps is not rounded again
      have hsteps : onGrid q * 2 ^ 1074 = halfEven (q * 2 ^ 1074) := by
        rw [hgrid, div_mul_cancel₀ _ (by positivity)]
      rw [onGrid_of_small hlt, hsteps, halfEven_intCast, hgrid]
    · have hfits : Fits 2 53 (onGrid q) := by
        rcases (abs_eq normal_pos.le).mp heq with hpos | hneg
        · exact ⟨1, -1022, by rw [hpos]; norm_num, by norm_num⟩
        · exact ⟨-1, -1022, by rw [hneg]; norm_num, by norm_num⟩
      rw [onGrid_of_normal heq.not_lt]
      exact significant_eq_self (by norm_num) hfits
  · have hgrid := onGrid_of_normal hq
    have hlarge : ¬|onGrid q| < 2 ^ (-1022 : ℤ) := by
      rw [abs_onGrid]
      exact (normal_le_onGrid (not_lt.mp hq)).not_gt
    rw [onGrid_of_normal hlarge, hgrid]
    exact significant_eq_self (by norm_num) (fits_significant (by norm_num) (by norm_num) q)

/-! ## Finite doubles -/

theorem nearest_ne_nan (q : ℚ) : nearest q ≠ nan := by
  unfold nearest
  split_ifs <;> simp

theorem nearest_of_lt {q : ℚ} (h : |onGrid q| < 2 ^ 1024) : nearest q = number (onGrid q) :=
  if_neg h.not_ge

end FloatValue

/-- A double that is a number. -/
structure Double where
  value : ℚ
  finite : FloatValue.nearest value = .number value

namespace Double

open FloatValue

theorem abs_onGrid_lt (d : Double) : |onGrid d.value| < 2 ^ 1024 := by
  by_contra hlarge
  have hfinite := d.finite
  unfold nearest at hfinite
  rw [if_pos (not_lt.mp hlarge)] at hfinite
  cases hfinite

/-- A double is its own nearest one. -/
theorem onGrid_value (d : Double) : onGrid d.value = d.value := by
  have hfinite := d.finite
  rw [nearest_of_lt d.abs_onGrid_lt] at hfinite
  exact number.inj hfinite

theorem abs_value_lt (d : Double) : |d.value| < 2 ^ 1024 := by
  have hlt := d.abs_onGrid_lt
  rwa [onGrid_value] at hlt

/-- `d / 2.0`; the half is no larger, so it is finite. -/
def half (d : Double) : Double where
  value := onGrid (d.value / 2)
  finite := by
    have hle : |d.value / 2| ≤ |d.value| := by
      rw [abs_div]
      exact div_le_self (abs_nonneg _) (by norm_num)
    have hsmall : |onGrid (d.value / 2)| < 2 ^ 1024 := by
      rw [abs_onGrid]
      apply (onGrid_mono hle).trans_lt
      rw [← abs_onGrid]
      exact d.abs_onGrid_lt
    rw [nearest_of_lt (by rwa [onGrid_onGrid]), onGrid_onGrid]

/-- `a * b`. -/
def mul (a b : Double) : FloatValue := nearest (a.value * b.value)

/-- `max(a, b)`. -/
def larger (a b : Double) : Double := if a.value < b.value then b else a

theorem value_larger (a b : Double) : (larger a b).value = max a.value b.value := by
  unfold larger
  split_ifs with h
  · exact (max_eq_right h.le).symm
  · exact (max_eq_left (not_lt.mp h)).symm

end Double

/-! ## The text of a double -/

namespace FloatValue

open Rounding

/-- The decimals of so many digits next to a number, the closest one first. -/
def decimalsNextTo (digits : ℕ) (q : ℚ) : List ℚ :=
  let ulp : ℚ := 10 ^ (Int.log 10 |q| + 1 - digits)
  [halfEven (q / ulp) * ulp, ⌊q / ulp⌋ * ulp, ⌈q / ulp⌉ * ulp]

/-- The decimal that `str` writes: of the fewest digits that read back as the double. -/
def shortest (q : ℚ) : ℚ :=
  (((List.range 17).flatMap fun digits => decimalsNextTo (digits + 1) q).find? fun x =>
    onGrid x = q).getD q

example : shortest (onGrid (1 / 10)) = 1 / 10 := by decide +kernel
example : shortest (onGrid (onGrid (1 / 10) + onGrid (2 / 10))) = 30000000000000004 / 10 ^ 17 := by
  decide +kernel

/-- **The text of a double reads back as the double.** -/
theorem onGrid_shortest {q : ℚ} (h : onGrid q = q) : onGrid (shortest q) = q := by
  unfold shortest
  cases hfind : ((List.range 17).flatMap fun digits => decimalsNextTo (digits + 1) q).find? fun x =>
      onGrid x = q with
  | none => exact h
  | some x =>
      have hreads := List.find?_some hfind
      simpa using hreads

/-- The text of a larger double is a larger decimal. -/
theorem shortest_mono {x y : ℚ} (hx : onGrid x = x) (hy : onGrid y = y) (h : x ≤ y) :
    shortest x ≤ shortest y := by
  rcases h.eq_or_lt with rfl | hlt
  · exact le_refl _
  · by_contra hnot
    -- reading both texts back would turn the order round
    have hread := onGrid_mono (not_le.mp hnot).le
    rw [onGrid_shortest hx, onGrid_shortest hy] at hread
    exact hread.not_gt hlt

/-- `Decimal(str(x))`; an infinity is written as one. -/
def written : FloatValue → FloatValue
  | number q => number (shortest q)
  | x => x

@[simp]
theorem written_number (q : ℚ) : written (number q) = number (shortest q) := rfl

theorem written_ne_nan {x : FloatValue} (h : x ≠ nan) : written x ≠ nan := by
  cases x with
  | number q => exact nofun
  | infinity negative => exact nofun
  | nan => exact absurd rfl h

/-- **What reaches the text of a double still reaches it as a double, and written.** -/
theorem not_lt_written_nearest (d : Double) {x : ℚ} (h : shortest d.value ≤ x) :
    lt (written (nearest x)) (number (shortest d.value)) = false := by
  have hread : d.value ≤ onGrid x := by
    have hmono := onGrid_mono h
    rwa [onGrid_shortest d.onGrid_value] at hmono
  by_cases hsmall : |onGrid x| < 2 ^ 1024
  · rw [nearest_of_lt hsmall]
    have hle := shortest_mono d.onGrid_value (onGrid_onGrid x) hread
    simpa [written] using hle
  · -- what is too large for a double is an infinity, above the double as the number was
    have hpos : ¬x < 0 := by
      intro hneg
      have hgrid := onGrid_mono hneg.le
      rw [onGrid_zero] at hgrid
      rw [abs_of_nonpos hgrid] at hsmall
      have hlow := (abs_lt.mp d.abs_value_lt).1
      exact hsmall (neg_lt.mp (hlow.trans_le hread))
    unfold nearest
    rw [if_pos (not_lt.mp hsmall), decide_eq_false hpos]
    rfl

end ArbitrageEngine.Lib.FloatValue
