/-
# ArbitrageEngine.Lib.FloatOrder -- floating-point values and tuples of them

A floating-point value is a number, an infinity or not a number.  Tuples are compared at the first
place where they differ; what is not a number differs from everything and is neither below nor above
anything, so a tuple with it may be neither below nor above another one.  Without it the order of
tuples is the lexicographic one, and linear.
-/
import Mathlib.Data.List.Lex
import Mathlib.Order.WithBot
import Mathlib.Data.Rat.Defs
import Mathlib.Algebra.Order.Ring.Rat

namespace ArbitrageEngine.Lib

/-- A floating-point value. -/
inductive FloatValue
  | number (q : ℚ)
  | infinity (negative : Bool)
  | nan
deriving DecidableEq

namespace FloatValue

/-- `a == b`. -/
def same : FloatValue → FloatValue → Bool
  | nan, _ | _, nan => false
  | a, b => a = b

/-- `a < b`. -/
def lt : FloatValue → FloatValue → Bool
  | number a, number b => a < b
  | number _, infinity negative => !negative
  | infinity negative, number _ => negative
  | infinity negative, infinity negative' => negative && !negative'
  | _, _ => false

/-- `a < b` of tuples. -/
def tupleLt : List FloatValue → List FloatValue → Bool
  | a :: as, b :: bs => if same a b then tupleLt as bs else lt a b
  | [], _ :: _ => true
  | _, [] => false

/-- The place of a value in the order of the numbers and the infinities. -/
def rank : FloatValue → WithBot (WithTop ℚ)
  | number q => ((q : WithTop ℚ) : WithBot (WithTop ℚ))
  | infinity false => ((⊤ : WithTop ℚ) : WithBot (WithTop ℚ))
  | infinity true | nan => ⊥

theorem same_iff {a b : FloatValue} (ha : a ≠ nan) (hb : b ≠ nan) :
    same a b = true ↔ rank a = rank b := by
  cases a with
  | nan => exact absurd rfl ha
  | number q =>
      cases b with
      | nan => exact absurd rfl hb
      | number r => simp [same, rank]
      | infinity negative => cases negative <;> simp [same, rank]
  | infinity negative =>
      cases b with
      | nan => exact absurd rfl hb
      | number r => cases negative <;> simp [same, rank]
      | infinity negative' => cases negative <;> cases negative' <;> simp [same, rank]

theorem lt_iff {a b : FloatValue} (ha : a ≠ nan) (hb : b ≠ nan) :
    lt a b = true ↔ rank a < rank b := by
  cases a with
  | nan => exact absurd rfl ha
  | number q =>
      cases b with
      | nan => exact absurd rfl hb
      | number r => simp [lt, rank]
      | infinity negative =>
          cases negative with
          | false => exact iff_of_true rfl (WithBot.coe_lt_coe.mpr (WithTop.coe_lt_top q))
          | true => simp [lt, rank]
  | infinity negative =>
      cases b with
      | nan => exact absurd rfl hb
      | number r => cases negative <;> simp [lt, rank]
      | infinity negative' => cases negative <;> cases negative' <;> simp [lt, rank]

theorem same_comm (a b : FloatValue) : same a b = same b a := by
  cases a <;> cases b <;> simp [same, eq_comm]

theorem lt_asymm {a b : FloatValue} (h : lt a b = true) : lt b a = false := by
  cases a with
  | nan => cases b <;> simp [lt] at h
  | number q =>
      cases b with
      | nan => simp [lt] at h
      | number r =>
          have hqr : q < r := by simpa [lt] using h
          simpa [lt] using hqr.le
      | infinity negative => simpa [lt] using h
  | infinity negative =>
      cases b with
      | nan => simp [lt] at h
      | number r => simpa [lt] using h
      | infinity negative' => cases negative <;> cases negative' <;> simp_all [lt]

theorem tupleLt_asymm : ∀ {as bs : List FloatValue}, tupleLt as bs = true → tupleLt bs as = false
  | [], [], h => by simp [tupleLt] at h
  | [], _ :: _, _ => rfl
  | _ :: _, [], h => by simp [tupleLt] at h
  | a :: as, b :: bs, h => by
      rw [tupleLt] at h ⊢
      rw [same_comm b a]
      by_cases hsame : same a b = true
      · rw [if_pos hsame] at h ⊢
        exact tupleLt_asymm h
      · rw [if_neg hsame] at h ⊢
        exact lt_asymm h

/-- **Without NaN tuples are ordered lexicographically.** -/
theorem tupleLt_iff : ∀ {as bs : List FloatValue}, (∀ a ∈ as, a ≠ nan) → (∀ b ∈ bs, b ≠ nan) →
    (tupleLt as bs = true ↔ as.map rank < bs.map rank)
  | [], [], _, _ => by simp [tupleLt]
  | [], b :: bs, _, _ => by simp [tupleLt]
  | a :: as, [], _, _ => by simp [tupleLt]
  | a :: as, b :: bs, has, hbs => by
      have ha := has a List.mem_cons_self
      have hb := hbs b List.mem_cons_self
      have ih := tupleLt_iff (fun x hx => has x (List.mem_cons_of_mem _ hx))
        (fun x hx => hbs x (List.mem_cons_of_mem _ hx))
      rw [tupleLt, List.map_cons, List.map_cons, List.cons_lt_cons_iff]
      by_cases hsame : rank a = rank b
      · rw [if_pos ((same_iff ha hb).mpr hsame), ih]
        simp [hsame]
      · rw [if_neg (fun h => hsame ((same_iff ha hb).mp h)), lt_iff ha hb]
        simp [hsame]

end FloatValue

end ArbitrageEngine.Lib
