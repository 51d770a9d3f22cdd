/-
# ArbitrageEngine.Lib.RoundedSums -- sums that are rounded after every addition

A running total that is rounded after every addition depends on the order of the terms.  How far it
can be from the exact sum follows from the relative error `u` of one rounding: after `n` additions
no further than `(1 + u) ^ n - 1` times the sum of the absolute values (`abs_roundedSum_sub_le`).  So
two orders of the same terms come to the same total up to twice that (`abs_roundedSum_perm_le`), and
nothing depends on which rounding it is.

Where the terms are computed with rounding themselves, their errors add to it: a product costs one
rounding more than its factors (`abs_round_mul_le`), and a total of terms that took `k` roundings
each is as far from the exact sum as `n + k` roundings allow (`abs_roundedSum_map_le`).
-/
import Mathlib.Algebra.Order.BigOperators.Group.List
import Mathlib.Algebra.Order.Field.Basic
import Mathlib.Algebra.Order.Ring.Abs
import Mathlib.Tactic.Linarith
import Mathlib.Tactic.Ring

namespace ArbitrageEngine.Lib.RoundedSums

variable {K : Type*} [Field K] [LinearOrder K] [IsStrictOrderedRing K] {round : K → K} {u : K}

/-- A rounding with a relative error of at most `u`. -/
structure RelativeRounding (round : K → K) (u : K) : Prop where
  nonneg : 0 ≤ u
  error : ∀ x, |round x - x| ≤ u * |x|

/-- The running total, rounded after every addition. -/
def roundedSum (round : K → K) (start : K) (terms : List K) : K :=
  terms.foldl (fun total term => round (total + term)) start

/-- The relative error that `n` roundings one after another can reach. -/
def growth (u : K) (n : ℕ) : K := (1 + u) ^ n - 1

theorem growth_nonneg (hu : 0 ≤ u) (n : ℕ) : 0 ≤ growth u n := by
  have h : 1 ≤ (1 + u) ^ n := one_le_pow₀ (by linarith)
  unfold growth
  linarith

omit [LinearOrder K] [IsStrictOrderedRing K] in
theorem growth_succ (u : K) (n : ℕ) : growth u (n + 1) = (1 + u) * growth u n + u := by
  unfold growth
  ring

theorem growth_mono (hu : 0 ≤ u) {m n : ℕ} (h : m ≤ n) : growth u m ≤ growth u n := by
  have hpow : (1 + u) ^ m ≤ (1 + u) ^ n := pow_le_pow_right₀ (by linarith) h
  unfold growth
  linarith

theorem sum_abs_nonneg (terms : List K) : 0 ≤ (terms.map fun term => |term|).sum := by
  apply List.sum_nonneg
  intro value hvalue
  obtain ⟨term, _, rfl⟩ := List.mem_map.mp hvalue
  exact abs_nonneg term

/-- How far the running total is from the exact sum. -/
theorem abs_roundedSum_sub_le (h : RelativeRounding round u) (terms : List K) (start : K) :
    |roundedSum round start terms - (start + terms.sum)| ≤
      growth u terms.length * (|start| + (terms.map fun term => |term|).sum) := by
  induction terms generalizing start with
  | nil => simp [roundedSum, growth]
  | cons term rest ih =>
      set exact := start + term with hexact
      set rounded := round exact with hrounded
      set weight := (rest.map fun term => |term|).sum with hweight
      have herror : |rounded - exact| ≤ u * |exact| := h.error exact
      have hsize : |rounded| ≤ (1 + u) * |exact| := by
        have htriangle : |rounded| ≤ |rounded - exact| + |exact| := by
          simpa using abs_add_le (rounded - exact) exact
        linarith
      have htriangle : |exact| ≤ |start| + |term| := abs_add_le start term
      have hgrowth : 0 ≤ growth u rest.length := growth_nonneg h.nonneg _
      have hrest : |roundedSum round rounded rest - (rounded + rest.sum)| ≤
          growth u rest.length * ((1 + u) * |exact| + weight) := by
        apply (ih rounded).trans
        apply mul_le_mul_of_nonneg_left _ hgrowth
        linarith
      have hsplit : roundedSum round start (term :: rest) - (start + (term :: rest).sum) =
          (roundedSum round rounded rest - (rounded + rest.sum)) + (rounded - exact) := by
        show roundedSum round rounded rest - _ = _
        rw [List.sum_cons, hexact]
        ring
      have hterms : growth u rest.length * ((1 + u) * |exact| + weight) + u * |exact| ≤
          growth u (rest.length + 1) * (|start| + |term| + weight) := by
        have hfirst : growth u (rest.length + 1) * |exact| ≤
            growth u (rest.length + 1) * (|start| + |term|) :=
          mul_le_mul_of_nonneg_left htriangle (growth_nonneg h.nonneg _)
        have hlast : growth u rest.length * weight ≤ growth u (rest.length + 1) * weight :=
          mul_le_mul_of_nonneg_right (growth_mono h.nonneg (Nat.le_succ _)) (sum_abs_nonneg rest)
        rw [growth_succ] at hfirst hlast ⊢
        linarith
      rw [hsplit, List.length_cons, List.map_cons, List.sum_cons, ← add_assoc]
      calc |(roundedSum round rounded rest - (rounded + rest.sum)) + (rounded - exact)|
          ≤ |roundedSum round rounded rest - (rounded + rest.sum)| + |rounded - exact| :=
            abs_add_le _ _
        _ ≤ growth u rest.length * ((1 + u) * |exact| + weight) + u * |exact| :=
            add_le_add hrest herror
        _ ≤ growth u (rest.length + 1) * (|start| + |term| + weight) := hterms

/-- What is within `growth u k` of a number is at most `(1 + u) ^ k` times as large. -/
theorem abs_le_of_abs_sub_le {k : ℕ} {x y : K} (h : |x - y| ≤ growth u k * |y|) :
    |x| ≤ (1 + u) ^ k * |y| := by
  have htriangle : |x| ≤ |x - y| + |y| := by simpa using abs_add_le (x - y) y
  unfold growth at h
  linarith

/-- A product takes one rounding more than its two factors. -/
theorem abs_round_mul_le (h : RelativeRounding round u) {k l : ℕ} {x x' y y' : K}
    (hx : |x' - x| ≤ growth u k * |x|) (hy : |y' - y| ≤ growth u l * |y|) :
    |round (x' * y') - x * y| ≤ growth u (k + l + 1) * |x * y| := by
  have hx' : |x'| ≤ (1 + u) ^ k * |x| := abs_le_of_abs_sub_le hx
  have hy' : |y'| ≤ (1 + u) ^ l * |y| := abs_le_of_abs_sub_le hy
  have hk : (0 : K) ≤ (1 + u) ^ k := pow_nonneg (by linarith [h.nonneg]) k
  have hsize : |x' * y'| ≤ (1 + u) ^ (k + l) * |x * y| := by
    rw [abs_mul, abs_mul, pow_add]
    calc |x'| * |y'| ≤ ((1 + u) ^ k * |x|) * ((1 + u) ^ l * |y|) :=
          mul_le_mul hx' hy' (abs_nonneg _) (mul_nonneg hk (abs_nonneg _))
      _ = (1 + u) ^ k * (1 + u) ^ l * (|x| * |y|) := by ring
  have hproduct : |x' * y' - x * y| ≤ growth u (k + l) * |x * y| := by
    have hsplit : x' * y' - x * y = (x' - x) * y' + x * (y' - y) := by ring
    have hfirst : |(x' - x) * y'| ≤ growth u k * |x| * ((1 + u) ^ l * |y|) := by
      rw [abs_mul]
      exact mul_le_mul hx hy' (abs_nonneg _)
        (mul_nonneg (growth_nonneg h.nonneg k) (abs_nonneg _))
    have hsecond : |x * (y' - y)| ≤ |x| * (growth u l * |y|) := by
      rw [abs_mul]
      exact mul_le_mul_of_nonneg_left hy (abs_nonneg _)
    calc |x' * y' - x * y| ≤ |(x' - x) * y'| + |x * (y' - y)| := by
          rw [hsplit]
          exact abs_add_le _ _
      _ ≤ growth u k * |x| * ((1 + u) ^ l * |y|) + |x| * (growth u l * |y|) :=
          add_le_add hfirst hsecond
      _ = growth u (k + l) * |x * y| := by
          rw [abs_mul]
          unfold growth
          rw [pow_add]
          ring
  calc |round (x' * y') - x * y|
      ≤ |round (x' * y') - x' * y'| + |x' * y' - x * y| := by
        simpa using abs_add_le (round (x' * y') - x' * y') (x' * y' - x * y)
    _ ≤ u * |x' * y'| + growth u (k + l) * |x * y| := add_le_add (h.error _) hproduct
    _ ≤ u * ((1 + u) ^ (k + l) * |x * y|) + growth u (k + l) * |x * y| := by
        have hmul := mul_le_mul_of_nonneg_left hsize h.nonneg
        linarith
    _ = growth u (k + l + 1) * |x * y| := by
        unfold growth
        ring

/-- A running total of terms that took `k` roundings each. -/
theorem abs_roundedSum_map_le (h : RelativeRounding round u) {α : Type*} {rounded exact : α → K}
    {k : ℕ} (items : List α)
    (hitems : ∀ item ∈ items, |rounded item - exact item| ≤ growth u k * |exact item|) :
    |roundedSum round 0 (items.map rounded) - (items.map exact).sum| ≤
      growth u (items.length + k) * (items.map fun item => |exact item|).sum := by
  set weight := (items.map fun item => |exact item|).sum with hweight
  have hsums : |(items.map rounded).sum - (items.map exact).sum| ≤ growth u k * weight ∧
      ((items.map rounded).map fun term => |term|).sum ≤ (1 + u) ^ k * weight := by
    rw [hweight]
    clear hweight weight
    induction items with
    | nil => simp
    | cons item rest ih =>
        obtain ⟨hfirst, hrest⟩ := List.forall_mem_cons.mp hitems
        obtain ⟨herror, hsize⟩ := ih hrest
        simp only [List.map_cons, List.sum_cons]
        constructor
        · have hsplit : rounded item + (rest.map rounded).sum -
              (exact item + (rest.map exact).sum) =
              (rounded item - exact item) + ((rest.map rounded).sum - (rest.map exact).sum) := by
            ring
          rw [hsplit, mul_add]
          exact (abs_add_le _ _).trans (add_le_add hfirst herror)
        · rw [mul_add]
          exact add_le_add (abs_le_of_abs_sub_le hfirst) hsize
  obtain ⟨herror, hsize⟩ := hsums
  have htotal := abs_roundedSum_sub_le h (items.map rounded) 0
  rw [abs_zero, zero_add, zero_add, List.length_map] at htotal
  have hgrowth := mul_le_mul_of_nonneg_left hsize (growth_nonneg h.nonneg items.length)
  calc |roundedSum round 0 (items.map rounded) - (items.map exact).sum|
      ≤ |roundedSum round 0 (items.map rounded) - (items.map rounded).sum| +
          |(items.map rounded).sum - (items.map exact).sum| := by
        simpa using abs_add_le (roundedSum round 0 (items.map rounded) - (items.map rounded).sum)
          ((items.map rounded).sum - (items.map exact).sum)
    _ ≤ growth u items.length * ((1 + u) ^ k * weight) + growth u k * weight := by linarith
    _ = growth u (items.length + k) * weight := by
        unfold growth
        rw [pow_add]
        ring

/-- Two orders of the same terms come to the same total up to the error of both. -/
theorem abs_roundedSum_perm_le (h : RelativeRounding round u) {terms others : List K}
    (hperm : terms.Perm others) :
    |roundedSum round 0 terms - roundedSum round 0 others| ≤
      2 * growth u terms.length * (terms.map fun term => |term|).sum := by
  have hterms := abs_roundedSum_sub_le h terms 0
  have hothers := abs_roundedSum_sub_le h others 0
  rw [← (hperm.map _).sum_eq, ← hperm.sum_eq, ← hperm.length_eq] at hothers
  rw [abs_zero, zero_add, zero_add] at hterms hothers
  calc |roundedSum round 0 terms - roundedSum round 0 others|
      = |(roundedSum round 0 terms - terms.sum) - (roundedSum round 0 others - terms.sum)| := by
        rw [sub_sub_sub_cancel_right]
    _ ≤ |roundedSum round 0 terms - terms.sum| + |roundedSum round 0 others - terms.sum| :=
        abs_sub _ _
    _ ≤ 2 * growth u terms.length * (terms.map fun term => |term|).sum := by linarith

end ArbitrageEngine.Lib.RoundedSums
