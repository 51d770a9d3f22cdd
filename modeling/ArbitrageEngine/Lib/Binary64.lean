/-
# ArbitrageEngine.Lib.Binary64 -- double-precision numbers

A number is rounded to the nearest double: 53 significant binary digits, fewer below the normal
range and an infinity beyond the largest one.  The comparisons, the sum and the smallest and largest
of some values are the language's: each comparison with NaN is false, and `min` and `max` keep what
they have unless the next value is strictly better.
-/
import ArbitrageEngine.Lib.FloatOrder
import ArbitrageEngine.Lib.Rounding

namespace ArbitrageEngine.Lib.FloatValue

open Rounding

/-! ## Rounding -/

/-- The nearest number on the grid of the doubles, whatever its size. -/
def onGrid (q : ℚ) : ℚ :=
  if |q| < (2 : ℚ) ^ (-1022 : ℤ) then halfEven (q * 2 ^ 1074) / 2 ^ 1074 else significant 2 53 q

/-- The nearest double. -/
def nearest (q : ℚ) : FloatValue :=
  if 2 ^ 1024 ≤ |onGrid q| then infinity (q < 0) else number (onGrid q)

theorem abs_onGrid_le_two {q : ℚ} (hq : 0 ≤ q) (hle : q ≤ 2) : |onGrid q| ≤ 2 := by
  unfold onGrid
  split_ifs with hsmall
  · -- below the normal range the grid is finer than one
    rw [abs_of_nonneg hq] at hsmall
    have hone : q * 2 ^ 1074 ≤ ((2 ^ 1074 : ℤ) : ℚ) := by
      have hq1 : q ≤ 1 := hsmall.le.trans (zpow_le_one_of_nonpos₀ (by norm_num) (by norm_num))
      rw [Int.cast_pow, Int.cast_ofNat]
      exact mul_le_of_le_one_left (by positivity) hq1
    have hround := halfEven_mono hone
    rw [halfEven_intCast] at hround
    have hpos : 0 ≤ halfEven (q * 2 ^ 1074) := halfEven_nonneg (by positivity)
    have hroundQ : (halfEven (q * 2 ^ 1074) : ℚ) ≤ ((2 ^ 1074 : ℤ) : ℚ) := Int.cast_le.mpr hround
    rw [Int.cast_pow, Int.cast_ofNat] at hroundQ
    have hposQ : (0 : ℚ) ≤ halfEven (q * 2 ^ 1074) := by exact_mod_cast hpos
    rw [abs_of_nonneg (by positivity), div_le_iff₀ (by positivity)]
    exact hroundQ.trans (le_mul_of_one_le_left (by positivity) one_le_two)
  · have htwo : significant 2 53 2 = 2 :=
      significant_eq_self (by norm_num) ⟨1, 1, by norm_num, by norm_num⟩
    have hmono := significant_mono (b := 2) (p := 53) (by norm_num) (by norm_num) hle
    rw [htwo] at hmono
    rw [abs_of_nonneg (significant_nonneg 2 53 hq)]
    exact hmono

/-- A number between zero and two is not too large for a double. -/
theorem exists_nearest_eq_number {q : ℚ} (hq : 0 ≤ q) (hle : q ≤ 2) :
    ∃ r, nearest q = number r := by
  refine ⟨onGrid q, ?_⟩
  unfold nearest
  rw [if_neg]
  have habs := abs_onGrid_le_two hq hle
  have hbig : (2 : ℚ) < 2 ^ 1024 := by
    calc (2 : ℚ) = 2 ^ 1 := by norm_num
      _ < 2 ^ 1024 := pow_lt_pow_right₀ (by norm_num) (by norm_num)
  exact (habs.trans_lt hbig).not_ge

/-! ## Comparisons -/

/-- `a <= b`. -/
def le (a b : FloatValue) : Bool := lt a b || same a b

@[simp]
theorem lt_number {a b : ℚ} : lt (number a) (number b) = decide (a < b) := rfl

@[simp]
theorem le_number {a b : ℚ} : le (number a) (number b) = decide (a ≤ b) := by
  simp only [le, lt, same, number.injEq]
  rw [← Bool.decide_or, decide_eq_decide]
  exact le_iff_lt_or_eq.symm

@[simp]
theorem lt_nan_left (a : FloatValue) : lt nan a = false := by cases a <;> rfl

@[simp]
theorem lt_nan_right (a : FloatValue) : lt a nan = false := by cases a <;> rfl

@[simp]
theorem le_nan_left (a : FloatValue) : le nan a = false := by cases a <;> rfl

theorem le_of_lt {a b : FloatValue} (h : lt a b = true) : le a b = true := by
  rw [le, h, Bool.true_or]

/-- A value between two numbers is a number. -/
theorem exists_number_of_le {a b : ℚ} {x : FloatValue} (hlow : le (number a) x = true)
    (hhigh : le x (number b) = true) : ∃ q, x = number q ∧ a ≤ q ∧ q ≤ b := by
  cases x with
  | nan => cases hhigh
  | infinity negative => cases negative <;> simp [le, lt, same] at hlow hhigh
  | number q => exact ⟨q, rfl, by simpa using hlow, by simpa using hhigh⟩

/-- A value that is neither an infinity nor NaN. -/
def IsNumber (x : FloatValue) : Prop := ∃ q, x = number q

/-- Finite and positive. -/
def IsPositive (x : FloatValue) : Prop := ∃ q : ℚ, x = number q ∧ 0 < q

instance (x : FloatValue) : Decidable x.IsNumber :=
  match x with
  | number q => isTrue ⟨q, rfl⟩
  | infinity _ | nan => isFalse nofun

instance (x : FloatValue) : Decidable x.IsPositive :=
  match x with
  | number q =>
      if h : 0 < q then isTrue ⟨q, rfl, h⟩
      else isFalse fun ⟨_, hq, hpos⟩ => h (number.inj hq ▸ hpos)
  | infinity _ | nan => isFalse nofun

theorem IsPositive.isNumber {x : FloatValue} (h : x.IsPositive) : x.IsNumber :=
  h.imp fun _ h => h.1

/-- A test for values up to zero leaves the positive numbers, if it is a number that is tested. -/
theorem isPositive_iff {x : FloatValue} (h : le x (number 0) = false) :
    x.IsPositive ↔ x.IsNumber := by
  constructor
  · exact IsPositive.isNumber
  · rintro ⟨q, rfl⟩
    exact ⟨q, rfl, by simpa using h⟩

/-- A test for values below zero leaves zero besides. -/
theorem isPositive_iff_of_not_lt {x : FloatValue} (h : lt x (number 0) = false) :
    x.IsPositive ↔ x.IsNumber ∧ x ≠ number 0 := by
  constructor
  · rintro ⟨q, rfl, hpos⟩
    refine ⟨⟨q, rfl⟩, ?_⟩
    intro hzero
    cases hzero
    exact lt_irrefl 0 hpos
  · rintro ⟨⟨q, rfl⟩, hne⟩
    have hq : 0 ≤ q := by simpa using h
    refine ⟨q, rfl, lt_of_le_of_ne hq ?_⟩
    intro hzero
    exact hne (by rw [hzero])

/-! ## Sums, the smallest and the largest -/

/-- `a + b`. -/
def add : FloatValue → FloatValue → FloatValue
  | number a, number b => nearest (a + b)
  | number _, infinity negative => infinity negative
  | infinity negative, number _ => infinity negative
  | infinity negative, infinity negative' => if negative = negative' then infinity negative else nan
  | _, _ => nan

/-- `max(a, b)`. -/
def larger (a b : FloatValue) : FloatValue := if lt a b then b else a

/-- `min(a, *rest)`. -/
def smallest (a : FloatValue) (rest : List FloatValue) : FloatValue :=
  rest.foldl (fun least x => if lt x least then x else least) a

/-- The larger of a positive number and a number is a positive number. -/
theorem IsPositive.larger {a b : FloatValue} (ha : a.IsPositive) (hb : b.IsNumber) :
    (a.larger b).IsPositive := by
  obtain ⟨p, rfl, hp⟩ := ha
  obtain ⟨q, rfl⟩ := hb
  unfold FloatValue.larger
  split_ifs with h
  · have hpq : p < q := by simpa using h
    exact ⟨q, rfl, hp.trans hpq⟩
  · exact ⟨p, rfl, hp⟩

/-- The larger of two numbers is a number. -/
theorem IsNumber.larger {a b : FloatValue} (ha : a.IsNumber) (hb : b.IsNumber) :
    (a.larger b).IsNumber := by
  unfold FloatValue.larger
  split_ifs
  · exact hb
  · exact ha

/-- Among numbers the smallest is a number, and none is below it. -/
theorem smallest_numbers (p : ℚ) (rest : List FloatValue) (hrest : ∀ x ∈ rest, x.IsNumber) :
    ∃ least, smallest (number p) rest = number least ∧ least ≤ p ∧
      ∀ q : ℚ, number q ∈ rest → least ≤ q := by
  induction rest generalizing p with
  | nil => exact ⟨p, rfl, le_refl p, fun q hq => absurd hq List.not_mem_nil⟩
  | cons x rest ih =>
      obtain ⟨q, rfl⟩ := hrest x List.mem_cons_self
      have hothers : ∀ y ∈ rest, y.IsNumber := fun y hy => hrest y (List.mem_cons_of_mem _ hy)
      -- what is kept after the first of the others is the smaller of the two
      have hstep : smallest (number p) (number q :: rest) = smallest (number (min p q)) rest := by
        show List.foldl _ (if lt (number q) (number p) then number q else number p) rest = _
        by_cases hqp : q < p
        · rw [if_pos (by simpa using hqp), min_eq_right hqp.le]
          rfl
        · rw [if_neg (by simpa using hqp), min_eq_left (not_lt.mp hqp)]
          rfl
      obtain ⟨least, hleast, hle, hall⟩ := ih (min p q) hothers
      refine ⟨least, hstep.trans hleast, hle.trans (min_le_left p q), ?_⟩
      intro r hr
      rcases List.mem_cons.mp hr with heq | hmem
      · cases heq
        exact hle.trans (min_le_right p q)
      · exact hall r hmem

/-- Numbers whose smallest is not up to zero are positive. -/
theorem isPositive_of_smallest {a : FloatValue} {rest : List FloatValue} (ha : a.IsNumber)
    (hrest : ∀ x ∈ rest, x.IsNumber) (h : le (smallest a rest) (number 0) = false) :
    ∀ x ∈ a :: rest, x.IsPositive := by
  obtain ⟨p, rfl⟩ := ha
  obtain ⟨least, hleast, hle, hall⟩ := smallest_numbers p rest hrest
  have hpos : 0 < least := by
    rw [hleast] at h
    simpa using h
  intro x hx
  rcases List.mem_cons.mp hx with rfl | hmem
  · exact ⟨p, rfl, hpos.trans_le hle⟩
  · obtain ⟨q, rfl⟩ := hrest x hmem
    exact ⟨q, rfl, hpos.trans_le (hall q hmem)⟩

end ArbitrageEngine.Lib.FloatValue
