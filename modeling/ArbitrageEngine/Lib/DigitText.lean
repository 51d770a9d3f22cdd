/-
# ArbitrageEngine.Lib.DigitText -- reading decimal digits back

Numbers are written as decimal digits, of a fixed width or as many as they have, and read back from
a text that goes on after them.  A fixed width needs a number that fits; free digits need a text
after them that does not start with a digit.
-/
import Mathlib.Data.Char
import Mathlib.Data.List.Basic
import Mathlib.Tactic.Ring

namespace ArbitrageEngine.Lib.DigitText

/-! ## A fixed width -/

/-- The last `width` digits of a number. -/
def fixedDigits : (width n : ℕ) → List Char
  | 0, _ => []
  | width + 1, n => fixedDigits width (n / 10) ++ [Nat.digitChar (n % 10)]

/-- Read so many digits. -/
def takeDigits (width : ℕ) (text : List Char) : Option (ℕ × List Char) :=
  if (text.take width).length = width ∧ (text.take width).all Char.isDigit then
    some (Nat.ofDigitChars 10 (text.take width) 0, text.drop width)
  else none

/-- Read a mark. -/
def expect (mark : Char) : List Char → Option (List Char)
  | [] => none
  | c :: rest => if c = mark then some rest else none

@[simp]
theorem expect_cons (mark : Char) (rest : List Char) : expect mark (mark :: rest) = some rest :=
  if_pos rfl

@[simp]
theorem length_fixedDigits (width n : ℕ) : (fixedDigits width n).length = width := by
  induction width generalizing n with
  | zero => rfl
  | succ width ih => simp [fixedDigits, ih]

theorem isDigit_fixedDigits (width n : ℕ) : ∀ c ∈ fixedDigits width n, c.isDigit = true := by
  induction width generalizing n with
  | zero => nofun
  | succ width ih =>
    intro c hc
    rw [fixedDigits, List.mem_append, List.mem_singleton] at hc
    obtain hc | rfl := hc
    · exact ih _ c hc
    · rw [Nat.isDigit_digitChar, decide_eq_true_eq]
      omega

theorem ofDigitChars_fixedDigits {width n : ℕ} (h : n < 10 ^ width) :
    Nat.ofDigitChars 10 (fixedDigits width n) 0 = n := by
  induction width generalizing n with
  | zero =>
    rw [pow_zero] at h
    rw [fixedDigits, Nat.ofDigitChars_nil]
    omega
  | succ width ih =>
    rw [pow_succ] at h
    rw [fixedDigits, Nat.ofDigitChars_append, ih (by omega),
      Nat.ofDigitChars_cons_digitChar_of_lt_ten (Nat.mod_lt n (by omega)), Nat.ofDigitChars_nil]
    omega

/-- What was written in a fixed width is read back. -/
theorem takeDigits_fixedDigits {width n : ℕ} (h : n < 10 ^ width) (rest : List Char) :
    takeDigits width (fixedDigits width n ++ rest) = some (n, rest) := by
  have htake : (fixedDigits width n ++ rest).take width = fixedDigits width n :=
    List.take_left' (length_fixedDigits width n)
  have hdrop : (fixedDigits width n ++ rest).drop width = rest :=
    List.drop_left' (length_fixedDigits width n)
  unfold takeDigits
  rw [htake, hdrop, ofDigitChars_fixedDigits h, if_pos]
  refine ⟨length_fixedDigits width n, ?_⟩
  rw [List.all_eq_true]
  exact isDigit_fixedDigits width n

/-! ## The order of texts of one width -/

theorem toNat_of_isDigit {c : Char} (h : c.isDigit = true) : 48 ≤ c.toNat ∧ c.toNat ≤ 57 := by
  simp only [Char.isDigit, Bool.and_eq_true, decide_eq_true_eq, ge_iff_le] at h
  exact h

theorem ofDigitChars_lt {digits : List Char} (h : ∀ c ∈ digits, c.isDigit = true) :
    Nat.ofDigitChars 10 digits 0 < 10 ^ digits.length := by
  induction digits with
  | nil => simp
  | cons c rest ih =>
      have hc := toNat_of_isDigit (h c List.mem_cons_self)
      have hrest := ih fun d hd => h d (List.mem_cons_of_mem _ hd)
      rw [Nat.ofDigitChars_cons, Nat.ofDigitChars_eq_ofDigitChars_zero, List.length_cons, pow_succ]
      have hzero : '0'.toNat = 48 := rfl
      have hle : 10 ^ rest.length * (10 * 0 + (c.toNat - '0'.toNat)) ≤ 10 ^ rest.length * 9 :=
        Nat.mul_le_mul_left _ (by omega)
      omega

/-- Texts of digits of one width are ordered as their numbers. -/
theorem ofDigitChars_le {left : List Char} :
    ∀ {right : List Char}, left.length = right.length → (∀ c ∈ left, c.isDigit = true) →
      (∀ c ∈ right, c.isDigit = true) → ¬ right < left →
        Nat.ofDigitChars 10 left 0 ≤ Nat.ofDigitChars 10 right 0 := by
  induction left with
  | nil =>
      intro right _ _ _ _
      simp
  | cons c rest ih =>
      intro right hlength hleft hright hle
      cases right with
      | nil => cases hlength
      | cons d others =>
          have hwidth : rest.length = others.length := by simpa using hlength
          have hc := toNat_of_isDigit (hleft c List.mem_cons_self)
          have hd := toNat_of_isDigit (hright d List.mem_cons_self)
          have hrest : ∀ e ∈ rest, e.isDigit = true :=
            fun e he => hleft e (List.mem_cons_of_mem _ he)
          have hothers : ∀ e ∈ others, e.isDigit = true :=
            fun e he => hright e (List.mem_cons_of_mem _ he)
          rw [List.cons_lt_cons_iff] at hle
          have hfirst : ¬ d < c := fun hlt => hle (Or.inl hlt)
          rw [Nat.ofDigitChars_cons, Nat.ofDigitChars_cons, Nat.ofDigitChars_eq_ofDigitChars_zero,
            @Nat.ofDigitChars_eq_ofDigitChars_zero others, hwidth]
          by_cases heq : c = d
          · subst heq
            have htail := ih hwidth hrest hothers fun hlt => hle (Or.inr ⟨rfl, hlt⟩)
            omega
          · -- a greater first digit outweighs the rest
            have hlt : c.toNat < d.toNat := by
              rcases lt_trichotomy c d with hcd | hcd | hcd
              · exact hcd
              · exact absurd hcd heq
              · exact absurd hcd hfirst
            have hsmall := ofDigitChars_lt hrest
            rw [hwidth] at hsmall
            have hzero : '0'.toNat = 48 := rfl
            have hmul : 10 ^ others.length * (10 * 0 + (c.toNat - '0'.toNat)) + 10 ^ others.length ≤
                10 ^ others.length * (10 * 0 + (d.toNat - '0'.toNat)) := by
              rw [← Nat.mul_succ]
              exact Nat.mul_le_mul_left _ (by omega)
            omega

/-! ## All digits -/

/-- The text does not start with a digit. -/
def NoDigit (text : List Char) : Prop := ∀ c ∈ text.head?, c.isDigit = false

theorem NoDigit.nil : NoDigit [] := nofun

theorem NoDigit.cons {c : Char} (h : c.isDigit = false) (text : List Char) :
    NoDigit (c :: text) := by
  intro d hd
  cases hd
  exact h

theorem takeWhile_digits {digits text : List Char} (hdigits : ∀ c ∈ digits, c.isDigit = true)
    (htext : NoDigit text) : (digits ++ text).takeWhile Char.isDigit = digits := by
  rw [List.takeWhile_append_of_pos hdigits]
  cases text with
  | nil => rw [List.takeWhile_nil, List.append_nil]
  | cons c text =>
    rw [List.takeWhile_cons_of_neg (by simp [htext c rfl]), List.append_nil]

theorem dropWhile_digits {digits text : List Char} (hdigits : ∀ c ∈ digits, c.isDigit = true)
    (htext : NoDigit text) : (digits ++ text).dropWhile Char.isDigit = text := by
  rw [List.dropWhile_append_of_pos hdigits]
  cases text with
  | nil => rfl
  | cons c text => rw [List.dropWhile_cons_of_neg (by simp [htext c rfl])]

end ArbitrageEngine.Lib.DigitText
