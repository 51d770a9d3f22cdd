/-
# ArbitrageEngine.Decimal -- the decimal arithmetic of the money code

Prices, contracts and dollars are `decimal.Decimal` values.  A finite decimal *is* the rational it
denotes; what the default context adds is that the result of every arithmetic operation is rounded
to 28 significant digits, ties to even.  Comparisons, `min` and `max` are exact.  A `MONEY` column
is `NUMERIC(38, 18)`: it rounds what is written to 18 digits after the point.
-/
import ArbitrageEngine.Lib.Rounding

namespace ArbitrageEngine

open Lib.Rounding

/-- A finite `Decimal`. -/
abbrev Dec : Type := ℚ

namespace Dec

/-- The rounding of the default decimal context (`prec = 28`, `ROUND_HALF_EVEN`). -/
def ctx (x : Dec) : Dec := significant 10 28 x

/-- `a + b` in the default context. -/
def add (a b : Dec) : Dec := ctx (a + b)

/-- `a - b` in the default context. -/
def sub (a b : Dec) : Dec := ctx (a - b)

/-- `a * b` in the default context. -/
def mul (a b : Dec) : Dec := ctx (a * b)

/-- `a / b` in the default context. -/
def div (a b : Dec) : Dec := ctx (a / b)

/-- `abs(a)` in the default context. -/
def absolute (a : Dec) : Dec := ctx |a|

/-- `execution.EPSILON` and the tolerance of the report properties, `Decimal("1e-18")`. -/
def epsilon : Dec := 1 / 10 ^ 18

/-- What a `MONEY` column (`Numeric(38, 18)`) holds after `x` is written to it. -/
def money (x : Dec) : Dec := fixedPoint 10 18 x

/-- The context does not round `x`. -/
def Exact (x : Dec) : Prop := ctx x = x

instance (x : Dec) : Decidable (Exact x) := inferInstanceAs (Decidable (ctx x = x))

theorem epsilon_pos : 0 < epsilon := by norm_num [epsilon]

/-- At most 28 significant digits are enough for exactness. -/
theorem exact_of_fits {x : Dec} (h : Fits 10 28 x) : Exact x :=
  significant_eq_self (by norm_num) h

/-- What the context rounded it does not round again. -/
theorem exact_ctx (x : Dec) : Exact (ctx x) :=
  exact_of_fits (fits_significant (by norm_num) (by norm_num) x)

@[simp]
theorem ctx_zero : ctx 0 = 0 := significant_zero 10 28

theorem ctx_nonneg {x : Dec} (hx : 0 ≤ x) : 0 ≤ ctx x := significant_nonneg 10 28 hx

theorem ctx_mono {x y : Dec} (h : x ≤ y) : ctx x ≤ ctx y :=
  significant_mono (by norm_num) (by norm_num) h

theorem add_nonneg {a b : Dec} (ha : 0 ≤ a) (hb : 0 ≤ b) : 0 ≤ add a b :=
  ctx_nonneg (by linarith)

theorem absolute_nonneg (a : Dec) : 0 ≤ absolute a := ctx_nonneg (abs_nonneg a)

theorem money_nonneg {x : Dec} (hx : 0 ≤ x) : 0 ≤ money x := fixedPoint_nonneg 10 18 hx

/-! ### Seventeen decimals

The tolerance of the code is a tenth of the last of 17 decimals, so a comparison up to the tolerance
is exact between such numbers, as long as the context holds them. -/

/-- A number with at most 17 decimals. -/
def Grid17 (x : Dec) : Prop := ∃ n : ℤ, x = n / 10 ^ 17

/-- A number with at most 17 decimals that the context holds. -/
def Fits17 (x : Dec) : Prop := Grid17 x ∧ |x| < 10 ^ 11

theorem grid17_iff_den {x : Dec} : Grid17 x ↔ (x * 10 ^ 17).den = 1 := by
  constructor
  · rintro ⟨n, rfl⟩
    rw [div_mul_cancel₀ _ (by norm_num)]
    exact Rat.den_intCast n
  · intro h
    exact ⟨(x * 10 ^ 17).num, by rw [Rat.coe_int_num_of_den_eq_one h]; field_simp⟩

instance (x : Dec) : Decidable (Grid17 x) := decidable_of_iff _ grid17_iff_den.symm

instance (x : Dec) : Decidable (Fits17 x) := inferInstanceAs (Decidable (Grid17 x ∧ _))

theorem Grid17.zero : Grid17 0 := ⟨0, by simp⟩

theorem Grid17.add {x y : Dec} (hx : Grid17 x) (hy : Grid17 y) : Grid17 (x + y) := by
  obtain ⟨m, rfl⟩ := hx
  obtain ⟨n, rfl⟩ := hy
  exact ⟨m + n, by push_cast; ring⟩

theorem Grid17.sub {x y : Dec} (hx : Grid17 x) (hy : Grid17 y) : Grid17 (x - y) := by
  obtain ⟨m, rfl⟩ := hx
  obtain ⟨n, rfl⟩ := hy
  exact ⟨m - n, by push_cast; ring⟩

/-- Two different such numbers are a unit of the last decimal apart. -/
theorem Grid17.step {x y : Dec} (hx : Grid17 x) (hy : Grid17 y) (h : x < y) :
    x + 1 / 10 ^ 17 ≤ y := by
  obtain ⟨m, rfl⟩ := hx
  obtain ⟨n, rfl⟩ := hy
  have hlt : m < n := by
    have h := (div_lt_div_iff_of_pos_right (by norm_num : (0 : ℚ) < 10 ^ 17)).mp h
    exact_mod_cast h
  have hle : (m : ℚ) + 1 ≤ n := by exact_mod_cast hlt
  rw [← add_div]
  exact div_le_div_of_nonneg_right hle (by norm_num)

theorem Fits17.exact {x : Dec} (h : Fits17 x) : Exact x := by
  obtain ⟨⟨n, rfl⟩, hlt⟩ := h
  refine exact_of_fits ⟨n, -17, by simp [div_eq_mul_inv], ?_⟩
  rw [abs_div, abs_of_pos (by norm_num : (0 : ℚ) < 10 ^ 17), div_lt_iff₀ (by norm_num)] at hlt
  have hlt : |(n : ℚ)| < 10 ^ 28 := by linarith
  exact_mod_cast hlt

/-- A number between two of them that has 17 decimals is one of them. -/
theorem Fits17.between {x y z : Dec} (hx : Fits17 x) (hz : Fits17 z) (hy : Grid17 y) (hxy : x ≤ y)
    (hyz : y ≤ z) : Fits17 y :=
  ⟨hy, (abs_le_max_abs_abs hxy hyz).trans_lt (max_lt hx.2 hz.2)⟩

theorem Fits17.epsilon_lt {x : Dec} (h : Fits17 x) (hpos : 0 < x) : epsilon < x := by
  have hstep := Grid17.zero.step h.1 hpos
  refine lt_of_lt_of_le ?_ hstep
  norm_num [epsilon]

/-- The tolerance does not bridge a step upwards. -/
theorem Fits17.add_epsilon_lt {x y : Dec} (hx : Fits17 x) (hy : Fits17 y) (h : x < y) :
    add x epsilon < y := by
  have hstep := hx.1.step hy.1 h
  have hbounds := abs_lt.mp hx.2
  have hybounds := abs_lt.mp hy.2
  have heps : epsilon = 1 / 10 ^ 18 := rfl
  have hlt : |x + epsilon| < ((10 : ℕ) : ℚ) ^ (11 : ℤ) := by
    rw [abs_lt, heps]
    norm_num at hbounds hybounds hstep ⊢
    constructor <;> linarith
  have herror := (abs_le.mp (abs_significant_sub_le (p := 28) (by norm_num : 1 < 10) hlt)).2
  have hulp : (((10 : ℕ) : ℚ) ^ ((11 : ℤ) - (28 : ℕ))) / 2 = 5 / 10 ^ 18 := by norm_num
  rw [hulp] at herror
  show significant 10 28 (x + epsilon) < y
  rw [heps] at herror ⊢
  norm_num at herror hstep ⊢
  linarith

theorem Fits17.le_add_epsilon {x y : Dec} (hy : Fits17 y) (h : y ≤ x) : y ≤ add x epsilon := by
  have hle := ctx_mono (le_add_of_le_of_nonneg h epsilon_pos.le)
  rwa [hy.exact] at hle

theorem Fits17.sub_epsilon_le {x y : Dec} (hy : Fits17 y) (h : x ≤ y) : sub x epsilon ≤ y := by
  have hle : ctx (x - epsilon) ≤ ctx y := ctx_mono (by linarith [epsilon_pos])
  rwa [hy.exact] at hle

/-- `format(x, ".2f")`. -/
def fixed2 (x : Dec) : String :=
  let cents := (halfEven (x * 100)).natAbs
  let sign := if x < 0 then "-" else ""
  let pad := if cents % 100 < 10 then "0" else ""
  sign ++ toString (cents / 100) ++ "." ++ pad ++ toString (cents % 100)

end Dec

/-! ## Floats

A float that meets the decimals again does so through `Decimal(str(f))`, so it is modelled by that
decimal, and `float(x)` by the decimal text of the float next to `x`. -/

/-- `Decimal(str(float(x)))`: decimals of up to 15 digits come back as they are, and the text of a
float has at most 17 digits. -/
structure FloatText where
  text : Dec → Dec
  text_of_fits : ∀ x, Fits 10 15 x → text x = x
  fits_text : ∀ x, Fits 10 17 (text x)

namespace FloatText

/-- The text with 17 digits, unless 15 are enough. -/
def digits17 : FloatText where
  text := fun x => if significant 10 15 x = x then x else significant 10 17 x
  text_of_fits := fun _ h => if_pos (significant_eq_self (by norm_num) h)
  fits_text := by
    intro x
    have hshort : Fits 10 15 (significant 10 15 x) := fits_significant (by norm_num) (by norm_num) x
    split
    · next h => exact (h ▸ hshort).mono (by norm_num) (by norm_num)
    · exact fits_significant (by norm_num) (by norm_num) x

end FloatText

end ArbitrageEngine
