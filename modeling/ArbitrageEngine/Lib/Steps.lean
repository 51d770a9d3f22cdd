/-
# ArbitrageEngine.Lib.Steps -- rounding to a step, and which way it goes

The nearest integer of a number is below or above it, by the part behind the point and, where that
is one half, by the parity of the part in front.  A number of few digits stays away from every
multiple of a coarse step that it is not equal to.
-/
import ArbitrageEngine.Lib.Rounding
import Mathlib.Algebra.Order.Floor.Ring

namespace ArbitrageEngine.Lib.Rounding

/-! ## The direction of half-even rounding -/

/-- Half-even rounding does not go up. -/
def RoundsDown (x : ℚ) : Prop :=
  x - ⌊x⌋ < 1 / 2 ∨ x - ⌊x⌋ = 1 / 2 ∧ ⌊x⌋ % 2 = 0

/-- Half-even rounding does not go down. -/
def RoundsUp (x : ℚ) : Prop :=
  x = ⌊x⌋ ∨ 1 / 2 < x - ⌊x⌋ ∨ x - ⌊x⌋ = 1 / 2 ∧ ⌊x⌋ % 2 ≠ 0

instance (x : ℚ) : Decidable (RoundsDown x) := inferInstanceAs (Decidable (_ ∨ _))

instance (x : ℚ) : Decidable (RoundsUp x) := inferInstanceAs (Decidable (_ ∨ _))

theorem halfEven_le_iff {x : ℚ} : (halfEven x : ℚ) ≤ x ↔ RoundsDown x := by
  have hlow : (⌊x⌋ : ℚ) ≤ x := Int.floor_le x
  have hhigh : x < ⌊x⌋ + 1 := Int.lt_floor_add_one x
  simp only [halfEven, RoundsDown]
  split_ifs with hless hmore heven
  · exact iff_of_true hlow (.inl hless)
  · push_cast
    constructor
    · intro h
      linarith
    · rintro (h | ⟨h, -⟩) <;> linarith
  · have hhalf : x - ⌊x⌋ = 1 / 2 := le_antisymm (not_lt.mp hmore) (not_lt.mp hless)
    exact iff_of_true hlow (.inr ⟨hhalf, heven⟩)
  · have hhalf : x - ⌊x⌋ = 1 / 2 := le_antisymm (not_lt.mp hmore) (not_lt.mp hless)
    push_cast
    constructor
    · intro h
      linarith
    · rintro (h | ⟨-, h⟩)
      · linarith
      · exact absurd h heven

theorem le_halfEven_iff {x : ℚ} : x ≤ halfEven x ↔ RoundsUp x := by
  have hlow : (⌊x⌋ : ℚ) ≤ x := Int.floor_le x
  have hhigh : x < ⌊x⌋ + 1 := Int.lt_floor_add_one x
  simp only [halfEven, RoundsUp]
  split_ifs with hless hmore heven
  · constructor
    · intro h
      exact .inl (le_antisymm h hlow)
    · rintro (h | h | ⟨h, -⟩) <;> linarith
  · push_cast
    exact iff_of_true hhigh.le (.inr (.inl hmore))
  · have hhalf : x - ⌊x⌋ = 1 / 2 := le_antisymm (not_lt.mp hmore) (not_lt.mp hless)
    constructor
    · intro h
      linarith
    · rintro (h | h | ⟨-, h⟩)
      · linarith
      · linarith
      · exact absurd heven h
  · have hhalf : x - ⌊x⌋ = 1 / 2 := le_antisymm (not_lt.mp hmore) (not_lt.mp hless)
    push_cast
    exact iff_of_true hhigh.le (.inr (.inr ⟨hhalf, heven⟩))

/-! ## Numbers of few digits -/

/-- Above a bound, a number of few digits lies on a grid. -/
theorem Fits.grid {b p k : ℕ} (hb : 1 < b) {x : ℚ} (h : Fits b p x)
    (hlow : (b : ℚ) ^ p / b ^ (k + 1) < x) : ∃ n : ℤ, x * b ^ k = n := by
  obtain ⟨m, e, rfl, hm⟩ := h
  have hbpos : (0 : ℚ) < b := by exact_mod_cast Nat.zero_lt_of_lt hb
  have hb' : (1 : ℚ) < b := by exact_mod_cast hb
  have he : -(k : ℤ) ≤ e := by
    by_contra hlt
    have hle : (b : ℚ) ^ e ≤ (b : ℚ) ^ (-((k : ℤ) + 1)) :=
      zpow_le_zpow_right₀ hb'.le (by omega)
    have hm' : (m : ℚ) ≤ (b : ℚ) ^ p := by
      have h := (le_abs_self m).trans hm.le
      exact_mod_cast h
    have hpow : (0 : ℚ) ≤ (b : ℚ) ^ (-((k : ℤ) + 1)) := zpow_nonneg hbpos.le _
    have hmul : (m : ℚ) * (b : ℚ) ^ e ≤ (b : ℚ) ^ p * (b : ℚ) ^ (-((k : ℤ) + 1)) := by
      rcases le_total 0 (m : ℚ) with hpos | hneg
      · exact mul_le_mul hm' hle (zpow_nonneg hbpos.le _) (pow_nonneg hbpos.le _)
      · have hleft : (m : ℚ) * (b : ℚ) ^ e ≤ 0 :=
          mul_nonpos_of_nonpos_of_nonneg hneg (zpow_nonneg hbpos.le _)
        exact hleft.trans (mul_nonneg (pow_nonneg hbpos.le _) hpow)
    rw [zpow_neg, ← div_eq_mul_inv] at hmul
    exact absurd hlow (not_lt.mpr (by exact_mod_cast hmul))
  obtain ⟨j, hj⟩ := Int.eq_ofNat_of_zero_le (by omega : 0 ≤ e + k)
  refine ⟨m * b ^ j, ?_⟩
  rw [mul_assoc, ← zpow_natCast (b : ℚ) k, ← zpow_add₀ hbpos.ne', hj]
  push_cast
  rfl

end ArbitrageEngine.Lib.Rounding
