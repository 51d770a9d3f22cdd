/-
# ArbitrageEngine.Lib.Rounding -- rounding of rationals to digits

Two number formats in one place, both over exact rationals: *fixed point* (`fixedPoint b k`: `k`
digits after the point, ties away from zero, as an SQL `NUMERIC` column rounds) and *significant
digits* (`significant b p`: `p` digits in base `b`, ties to even, as a decimal context or a binary
floating-point format rounds).  A value that already has the format is returned unchanged; that is
the only fact most callers need, and it is what lets an exact argument go through for the values a
program really handles.
-/
import Mathlib.Data.Int.Log
import Mathlib.Data.Rat.Floor
import Mathlib.Tactic.FieldSimp
import Mathlib.Tactic.Linarith
import Mathlib.Tactic.Positivity

namespace ArbitrageEngine.Lib.Rounding

/-! ## Nearest integers -/

/-- The nearest integer, ties to the even neighbour. -/
def halfEven (x : ℚ) : ℤ :=
  let low := ⌊x⌋
  let rest := x - low
  if rest < 1 / 2 then low
  else if 1 / 2 < rest then low + 1
  else if low % 2 = 0 then low
  else low + 1

/-- The nearest integer, ties away from zero. -/
def halfAway (x : ℚ) : ℤ :=
  if 0 ≤ x then ⌊x + 1 / 2⌋ else -⌊-x + 1 / 2⌋

@[simp]
theorem halfEven_intCast (n : ℤ) : halfEven (n : ℚ) = n := by
  simp [halfEven]

theorem halfEven_eq_floor_or (x : ℚ) : halfEven x = ⌊x⌋ ∨ halfEven x = ⌊x⌋ + 1 := by
  simp only [halfEven]
  split_ifs <;> simp

theorem halfEven_nonneg {x : ℚ} (hx : 0 ≤ x) : 0 ≤ halfEven x := by
  have hfloor : 0 ≤ ⌊x⌋ := Int.floor_nonneg.mpr hx
  simp only [halfEven]
  split_ifs <;> omega

theorem halfEven_mono {x y : ℚ} (h : x ≤ y) : halfEven x ≤ halfEven y := by
  rcases (Int.floor_le_floor h).lt_or_eq with hlt | heq
  · have hx : halfEven x ≤ ⌊x⌋ + 1 := by
      rcases halfEven_eq_floor_or x with h | h <;> omega
    have hy : ⌊y⌋ ≤ halfEven y := by
      rcases halfEven_eq_floor_or y with h | h <;> omega
    omega
  · simp only [halfEven, heq]
    split_ifs <;> first | omega | linarith

theorem abs_halfEven_sub_le (x : ℚ) : |(halfEven x : ℚ) - x| ≤ 1 / 2 := by
  have hlow : (⌊x⌋ : ℚ) ≤ x := Int.floor_le x
  have hhigh : x < ⌊x⌋ + 1 := Int.lt_floor_add_one x
  simp only [halfEven]
  rw [abs_le]
  split_ifs <;> push_cast <;> constructor <;> linarith

theorem halfEven_neg (x : ℚ) : halfEven (-x) = -halfEven x := by
  by_cases hint : x = ⌊x⌋
  · rw [hint, ← Int.cast_neg, halfEven_intCast, halfEven_intCast]
  -- the fractional parts of `x` and `-x` add up to one, and their floors have different parity
  have hlow : (⌊x⌋ : ℚ) < x := lt_of_le_of_ne (Int.floor_le x) (Ne.symm hint)
  have hhigh : x < ⌊x⌋ + 1 := Int.lt_floor_add_one x
  have hfloor : ⌊-x⌋ = -⌊x⌋ - 1 := by
    rw [Int.floor_eq_iff]
    push_cast
    constructor <;> linarith
  simp only [halfEven, hfloor]
  push_cast
  split_ifs <;> first | omega | (exfalso; linarith)

theorem halfAway_nonneg {x : ℚ} (hx : 0 ≤ x) : 0 ≤ halfAway x := by
  simp only [halfAway, if_pos hx]
  exact Int.floor_nonneg.mpr (by linarith)

/-! ## Fixed point -/

/-- Round to `k` digits after the point in base `b`, ties away from zero. -/
def fixedPoint (b k : ℕ) (x : ℚ) : ℚ := halfAway (x * b ^ k) / b ^ k

theorem fixedPoint_nonneg (b k : ℕ) {x : ℚ} (hx : 0 ≤ x) : 0 ≤ fixedPoint b k x := by
  have h : 0 ≤ halfAway (x * (b : ℚ) ^ k) := halfAway_nonneg (by positivity)
  have h' : (0 : ℚ) ≤ halfAway (x * (b : ℚ) ^ k) := by exact_mod_cast h
  exact div_nonneg h' (by positivity)

/-! ## Significant digits -/

/-- Round to `p` significant digits in base `b`, ties to even. -/
def significant (b p : ℕ) (x : ℚ) : ℚ :=
  let ulp : ℚ := (b : ℚ) ^ (Int.log b |x| + 1 - p)
  halfEven (x / ulp) * ulp

/-- `x` has at most `p` significant digits in base `b`. -/
def Fits (b p : ℕ) (x : ℚ) : Prop :=
  ∃ (m e : ℤ), x = m * (b : ℚ) ^ e ∧ |m| < (b : ℤ) ^ p

@[simp]
theorem significant_zero (b p : ℕ) : significant b p 0 = 0 := by
  have h : halfEven 0 = 0 := by simpa using halfEven_intCast 0
  simp [significant, h]

theorem significant_nonneg (b p : ℕ) {x : ℚ} (hx : 0 ≤ x) : 0 ≤ significant b p x := by
  have hulp : (0 : ℚ) ≤ (b : ℚ) ^ (Int.log b |x| + 1 - p) := zpow_nonneg (by positivity) _
  have h : 0 ≤ halfEven (x / (b : ℚ) ^ (Int.log b |x| + 1 - p)) :=
    halfEven_nonneg (div_nonneg hx hulp)
  exact mul_nonneg (by exact_mod_cast h) hulp

/-- What fits the format is returned unchanged. -/
theorem significant_eq_self {b p : ℕ} (hb : 1 < b) {x : ℚ} (h : Fits b p x) :
    significant b p x = x := by
  obtain ⟨m, e, rfl, hm⟩ := h
  by_cases hm0 : m = 0
  · simp [hm0]
  have hbpos : (0 : ℚ) < b := by exact_mod_cast Nat.zero_lt_of_lt hb
  have hpos : 0 < |(m : ℚ) * (b : ℚ) ^ e| := by
    rw [abs_pos]
    exact mul_ne_zero (by exact_mod_cast hm0) (zpow_ne_zero _ hbpos.ne')
  -- the leading digit stands below position `p + e`, so the unit in the last place divides `x`
  have hlt : |(m : ℚ) * (b : ℚ) ^ e| < (b : ℚ) ^ ((p : ℤ) + e) := by
    rw [abs_mul, abs_of_pos (zpow_pos hbpos e), zpow_add₀ hbpos.ne', zpow_natCast]
    exact mul_lt_mul_of_pos_right (by exact_mod_cast hm) (zpow_pos hbpos e)
  have hlog : Int.log b |(m : ℚ) * (b : ℚ) ^ e| < (p : ℤ) + e :=
    (Int.lt_zpow_iff_log_lt hb hpos).mp hlt
  set k : ℤ := Int.log b |(m : ℚ) * (b : ℚ) ^ e| + 1 - p with hk
  have hke : 0 ≤ e - k := by omega
  obtain ⟨n, hn⟩ := Int.eq_ofNat_of_zero_le hke
  have hquot : (m : ℚ) * (b : ℚ) ^ e / (b : ℚ) ^ k = ((m * (b : ℤ) ^ n : ℤ) : ℚ) := by
    rw [mul_div_assoc, ← zpow_sub₀ hbpos.ne', hn]
    push_cast
    simp
  simp only [significant]
  rw [← hk, hquot, halfEven_intCast, ← hquot]
  exact div_mul_cancel₀ _ (zpow_ne_zero _ hbpos.ne')

theorem Fits.mono {b p q : ℕ} (hb : 1 < b) (hpq : p ≤ q) {x : ℚ} (h : Fits b p x) :
    Fits b q x := by
  obtain ⟨m, e, hx, hm⟩ := h
  refine ⟨m, e, hx, hm.trans_le ?_⟩
  exact pow_le_pow_right₀ (by omega) hpq

/-- A quotient by the unit in the last place has at most `p` digits before the point. -/
theorem abs_div_ulp_lt {b : ℕ} (hb : 1 < b) (p : ℕ) (x : ℚ) :
    |x / (b : ℚ) ^ (Int.log b |x| + 1 - p)| < (b : ℚ) ^ p := by
  have hbpos : (0 : ℚ) < b := by exact_mod_cast Nat.zero_lt_of_lt hb
  have hulp : (0 : ℚ) < (b : ℚ) ^ (Int.log b |x| + 1 - p) := zpow_pos hbpos _
  rw [abs_div, abs_of_pos hulp, div_lt_iff₀ hulp, ← zpow_natCast, ← zpow_add₀ hbpos.ne']
  have hlog : |x| < (b : ℚ) ^ (Int.log b |x| + 1) := Int.lt_zpow_succ_log_self hb |x|
  have hexp : (p : ℤ) + (Int.log b |x| + 1 - p) = Int.log b |x| + 1 := by omega
  rw [hexp]
  exact hlog

/-- What is rounded fits. -/
theorem fits_significant {b p : ℕ} (hb : 1 < b) (hp : 0 < p) (x : ℚ) :
    Fits b p (significant b p x) := by
  have hquot := abs_lt.mp (abs_div_ulp_lt hb p x)
  set k : ℤ := Int.log b |x| + 1 - p with hk
  set y : ℚ := x / (b : ℚ) ^ k with hy
  have hbpos : (0 : ℚ) < b := by exact_mod_cast Nat.zero_lt_of_lt hb
  have hlow : -(b : ℤ) ^ p ≤ ⌊y⌋ := Int.le_floor.mpr (by push_cast; exact hquot.1.le)
  have hhigh : ⌊y⌋ < (b : ℤ) ^ p := Int.floor_lt.mpr (by push_cast; exact hquot.2)
  have hvalue : significant b p x = halfEven y * (b : ℚ) ^ k := rfl
  -- rounding may reach the next power, which has one digit
  by_cases htop : |halfEven y| < (b : ℤ) ^ p
  · exact ⟨halfEven y, k, hvalue, htop⟩
  · have hone : (1 : ℤ) < (b : ℤ) ^ p := one_lt_pow₀ (by omega) (by omega)
    have hcases : halfEven y = (b : ℤ) ^ p ∨ halfEven y = -(b : ℤ) ^ p := by
      rw [abs_lt] at htop
      rcases halfEven_eq_floor_or y with h | h <;> omega
    rcases hcases with h | h
    · refine ⟨1, p + k, ?_, by simpa using hone⟩
      rw [hvalue, h, zpow_add₀ hbpos.ne', zpow_natCast]
      push_cast
      ring
    · refine ⟨-1, p + k, ?_, by simpa using hone⟩
      rw [hvalue, h, zpow_add₀ hbpos.ne', zpow_natCast]
      push_cast
      ring

/-! ## Order -/

theorem significant_neg (b p : ℕ) (x : ℚ) : significant b p (-x) = -significant b p x := by
  simp only [significant, abs_neg, neg_div, halfEven_neg]
  push_cast
  exact neg_mul _ _

/-- A positive number is at most the next power of the base after rounding. -/
theorem significant_le_zpow {b p : ℕ} (hb : 1 < b) {x : ℚ} (hx : 0 < x) :
    significant b p x ≤ (b : ℚ) ^ (Int.log b x + 1) := by
  have hbpos : (0 : ℚ) < b := by exact_mod_cast Nat.zero_lt_of_lt hb
  have hquot := (abs_lt.mp (abs_div_ulp_lt hb p x)).2.le
  simp only [significant, abs_of_pos hx] at hquot ⊢
  set k : ℤ := Int.log b x + 1 - p with hk
  have hround : halfEven (x / (b : ℚ) ^ k) ≤ (b : ℤ) ^ p := by
    have h := halfEven_mono (y := (((b : ℤ) ^ p : ℤ) : ℚ)) (by push_cast; exact hquot)
    rwa [halfEven_intCast] at h
  have hexp : Int.log b x + 1 = (p : ℤ) + k := by omega
  rw [hexp, zpow_add₀ hbpos.ne', zpow_natCast]
  exact mul_le_mul_of_nonneg_right (by exact_mod_cast hround) (zpow_nonneg hbpos.le _)

/-- A positive number keeps the power of the base below it. -/
theorem zpow_le_significant {b p : ℕ} (hb : 1 < b) (hp : 0 < p) {x : ℚ} (hx : 0 < x) :
    (b : ℚ) ^ Int.log b x ≤ significant b p x := by
  have hbpos : (0 : ℚ) < b := by exact_mod_cast Nat.zero_lt_of_lt hb
  obtain ⟨q, rfl⟩ : ∃ q, p = q + 1 := ⟨p - 1, by omega⟩
  simp only [significant, abs_of_pos hx]
  set k : ℤ := Int.log b x + 1 - ((q + 1 : ℕ) : ℤ) with hk
  have hexp : Int.log b x = (q : ℤ) + k := by omega
  have hpow : (b : ℚ) ^ Int.log b x = (b : ℚ) ^ q * (b : ℚ) ^ k := by
    rw [hexp, zpow_add₀ hbpos.ne', zpow_natCast]
  have hquot : (b : ℚ) ^ q ≤ x / (b : ℚ) ^ k := by
    rw [le_div_iff₀ (zpow_pos hbpos k), ← hpow]
    exact Int.zpow_log_le_self hb hx
  have hround : (b : ℤ) ^ q ≤ halfEven (x / (b : ℚ) ^ k) := by
    have h := halfEven_mono (x := (((b : ℤ) ^ q : ℤ) : ℚ)) (by push_cast; exact hquot)
    rwa [halfEven_intCast] at h
  rw [hpow]
  exact mul_le_mul_of_nonneg_right (by exact_mod_cast hround) (zpow_nonneg hbpos.le _)

theorem significant_mono_of_pos {b p : ℕ} (hb : 1 < b) (hp : 0 < p) {x y : ℚ} (hx : 0 < x)
    (h : x ≤ y) : significant b p x ≤ significant b p y := by
  have hy : 0 < y := hx.trans_le h
  have hbpos : (0 : ℚ) < b := by exact_mod_cast Nat.zero_lt_of_lt hb
  rcases (Int.log_mono_right hx h : Int.log b x ≤ Int.log b y).lt_or_eq with hlt | heq
  · calc significant b p x ≤ (b : ℚ) ^ (Int.log b x + 1) := significant_le_zpow hb hx
      _ ≤ (b : ℚ) ^ Int.log b y := zpow_le_zpow_right₀ (by exact_mod_cast hb.le) (by omega)
      _ ≤ significant b p y := zpow_le_significant hb hp hy
  · simp only [significant, abs_of_pos hx, abs_of_pos hy, heq]
    have hulp : (0 : ℚ) < (b : ℚ) ^ (Int.log b y + 1 - (p : ℤ)) := zpow_pos hbpos _
    refine mul_le_mul_of_nonneg_right ?_ hulp.le
    exact_mod_cast halfEven_mono (div_le_div_of_nonneg_right h hulp.le)

/-- Rounding keeps the order. -/
theorem significant_mono {b p : ℕ} (hb : 1 < b) (hp : 0 < p) {x y : ℚ} (h : x ≤ y) :
    significant b p x ≤ significant b p y := by
  rcases lt_or_ge 0 x with hx | hx
  · exact significant_mono_of_pos hb hp hx h
  rcases le_or_gt 0 y with hy | hy
  · have hnonpos : significant b p x ≤ 0 := by
      have hneg := significant_nonneg b p (neg_nonneg.mpr hx)
      rw [significant_neg] at hneg
      linarith
    exact hnonpos.trans (significant_nonneg b p hy)
  · have hneg := significant_mono_of_pos (p := p) hb hp (neg_pos.mpr hy) (neg_le_neg h)
    rw [significant_neg, significant_neg] at hneg
    exact neg_le_neg_iff.mp hneg

/-- Rounding moves a number by at most half a unit in the last place. -/
theorem abs_significant_sub_le {b p : ℕ} (hb : 1 < b) {x : ℚ} {k : ℤ} (hx : |x| < (b : ℚ) ^ k) :
    |significant b p x - x| ≤ (b : ℚ) ^ (k - p) / 2 := by
  have hbpos : (0 : ℚ) < b := by exact_mod_cast Nat.zero_lt_of_lt hb
  by_cases hx0 : x = 0
  · rw [hx0, significant_zero, sub_zero, abs_zero]
    exact div_nonneg (zpow_nonneg hbpos.le _) zero_le_two
  have hpos : 0 < |x| := abs_pos.mpr hx0
  have hlog : Int.log b |x| < k := (Int.lt_zpow_iff_log_lt hb hpos).mp hx
  simp only [significant]
  set j : ℤ := Int.log b |x| + 1 - p with hj
  have hulp : (0 : ℚ) < (b : ℚ) ^ j := zpow_pos hbpos j
  have hsplit : (halfEven (x / (b : ℚ) ^ j) : ℚ) * (b : ℚ) ^ j - x =
      (halfEven (x / (b : ℚ) ^ j) - x / (b : ℚ) ^ j) * (b : ℚ) ^ j := by
    rw [sub_mul, div_mul_cancel₀ _ hulp.ne']
  rw [hsplit, abs_mul, abs_of_pos hulp]
  have hle : (b : ℚ) ^ j ≤ (b : ℚ) ^ (k - p) :=
    zpow_le_zpow_right₀ (by exact_mod_cast hb.le) (by omega)
  calc |(halfEven (x / (b : ℚ) ^ j) : ℚ) - x / (b : ℚ) ^ j| * (b : ℚ) ^ j
      ≤ 1 / 2 * (b : ℚ) ^ j := mul_le_mul_of_nonneg_right (abs_halfEven_sub_le _) hulp.le
    _ ≤ (b : ℚ) ^ (k - p) / 2 := by linarith

end ArbitrageEngine.Lib.Rounding
