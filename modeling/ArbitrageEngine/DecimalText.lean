/-
# ArbitrageEngine.DecimalText -- the spelling of a decimal and its canonical text

One number has many `Decimal` objects: `1`, `1.0` and `1E0` differ in coefficient and exponent.  This
module keeps that difference.  A `Spelled` is the triple of sign, coefficient and exponent, its
`value` the `Dec` of the other modules.  `normalize` rounds to the context and drops the trailing
zeros, `format(…, "f")` writes all digits out, and the canonical text of a positive number turns out
to say exactly which number of 28 digits it is.
-/
import ArbitrageEngine.ContextError
import Mathlib.Algebra.Order.Field.Power
import Mathlib.Data.List.DropRight

namespace ArbitrageEngine

open Lib.Rounding

/-- A finite `Decimal` with its spelling: `(-1)^negative * coefficient * 10^exponent`. -/
structure Spelled where
  negative : Bool
  coefficient : ℕ
  exponent : ℤ
deriving DecidableEq

/-- `len(str(coefficient))`. -/
def digitCount (coefficient : ℕ) : ℕ := (Nat.toDigits 10 coefficient).length

namespace Spelled

/-- The number that is spelled. -/
def value (d : Spelled) : Dec :=
  (if d.negative then -1 else 1) * d.coefficient * (10 : ℚ) ^ d.exponent

/-! ## Normalization -/

/-- The rounding of the context on a triple: digits past the 28th are rounded off, ties to even. -/
def fix (d : Spelled) : Spelled :=
  let excess := digitCount d.coefficient - 28
  if excess = 0 then d
  else
    { d with
      coefficient := (halfEven ((d.coefficient : ℚ) / 10 ^ excess)).natAbs
      exponent := d.exponent + excess }

/-- Drop at most `n` trailing zeros of the coefficient. -/
def stripZeros : ℕ → Spelled → Spelled
  | 0, d => d
  | n + 1, d =>
    if d.coefficient % 10 = 0 then
      stripZeros n { d with coefficient := d.coefficient / 10, exponent := d.exponent + 1 }
    else d

/-- `value.normalize()`. -/
def normalize (d : Spelled) : Spelled :=
  let fixed := d.fix
  if fixed.coefficient = 0 then { fixed with exponent := 0 }
  else stripZeros (digitCount fixed.coefficient) fixed

/-- What a `MONEY` column gives back for the number: 18 decimals, all spelled out. -/
def stored (d : Spelled) : Spelled :=
  let units := halfAway (d.value * 10 ^ 18)
  { negative := decide (units < 0), coefficient := units.natAbs, exponent := -18 }

/-! ## Text -/

/-- `format(value, "f")`. -/
def formatF (d : Spelled) : List Char :=
  let sign := if d.negative then ['-'] else []
  let digits := Nat.toDigits 10 d.coefficient
  let decimals := (-d.exponent).toNat
  sign ++
    (if 0 ≤ d.exponent then
      if d.coefficient = 0 then digits else digits ++ List.replicate d.exponent.toNat '0'
    else if digits.length ≤ decimals then
      '0' :: '.' :: (List.replicate (decimals - digits.length) '0' ++ digits)
    else
      digits.take (digits.length - decimals) ++ '.' :: digits.drop (digits.length - decimals))

/-- `_canonical_decimal`. -/
def canonicalDecimal (d : Spelled) : String :=
  let rendered := d.normalize.formatF
  String.ofList
    (if '.' ∈ rendered then (rendered.rdropWhile (· = '0')).rdropWhile (· = '.') else rendered)

example : canonicalDecimal ⟨false, 1500, -2⟩ = "15" := by decide +kernel
example : canonicalDecimal ⟨false, 120, -4⟩ = "0.012" := by decide +kernel

/-- The number a plain text spells: all its digits, and as many decimals as follow the point. -/
def readF (text : List Char) : Dec :=
  (Nat.ofDigitChars 10 (text.filter (· ≠ '.')) 0 : ℚ) / 10 ^ ((text.dropWhile (· ≠ '.')).length - 1)

/-! ## The value under normalization -/

theorem lt_pow_digitCount (c : ℕ) : c < 10 ^ digitCount c :=
  (Nat.length_toDigits_le_iff (by norm_num) Nat.length_toDigits_pos).mp le_rfl

theorem pow_digitCount_le {c : ℕ} (hc : c ≠ 0) : 10 ^ (digitCount c - 1) ≤ c := by
  by_contra hlt
  have hpos : 0 < digitCount c := Nat.length_toDigits_pos
  rcases Nat.eq_zero_or_pos (digitCount c - 1) with hone | hmore
  · rw [hone] at hlt
    omega
  · have hle : digitCount c ≤ digitCount c - 1 :=
      (Nat.length_toDigits_le_iff (by norm_num) hmore).mpr (not_le.mp hlt)
    omega

/-- The decimal exponent of the leading digit. -/
theorem log_value {c : ℕ} (hc : c ≠ 0) (e : ℤ) :
    Int.log 10 ((c : ℚ) * 10 ^ e) = (digitCount c : ℤ) - 1 + e := by
  have hpos : (0 : ℚ) < c * 10 ^ e := by positivity
  have hten : (1 : ℕ) < 10 := by norm_num
  have hcount : 0 < digitCount c := Nat.length_toDigits_pos
  have hlow : ((10 : ℕ) : ℚ) ^ ((digitCount c : ℤ) - 1 + e) ≤ c * 10 ^ e := by
    rw [zpow_add₀ (by norm_num)]
    have hle : ((10 : ℕ) : ℚ) ^ ((digitCount c : ℤ) - 1) ≤ c := by
      rw [show (digitCount c : ℤ) - 1 = ((digitCount c - 1 : ℕ) : ℤ) by omega, zpow_natCast]
      exact_mod_cast pow_digitCount_le hc
    push_cast at hle ⊢
    gcongr
  have hhigh : (c : ℚ) * 10 ^ e < ((10 : ℕ) : ℚ) ^ ((digitCount c : ℤ) - 1 + e + 1) := by
    rw [show (digitCount c : ℤ) - 1 + e + 1 = digitCount c + e by ring, zpow_add₀ (by norm_num),
      zpow_natCast]
    have hlt : (c : ℚ) < ((10 : ℕ) : ℚ) ^ digitCount c := by exact_mod_cast lt_pow_digitCount c
    push_cast at hlt ⊢
    gcongr
  have hle := (Int.zpow_le_iff_le_log hten hpos).mp hlow
  have hlt := (Int.lt_zpow_iff_log_lt hten hpos).mp hhigh
  omega

theorem value_of_nonneg {d : Spelled} (h : d.negative = false) :
    d.value = d.coefficient * (10 : ℚ) ^ d.exponent := by
  simp [value, h]

/-- A number is positive exactly if it has no sign and a digit other than zero. -/
theorem value_pos_iff {d : Spelled} :
    0 < d.value ↔ d.negative = false ∧ d.coefficient ≠ 0 := by
  have hpow : (0 : ℚ) < 10 ^ d.exponent := by positivity
  have hnat : (0 : ℚ) ≤ d.coefficient := by positivity
  constructor
  · intro hpos
    rw [value] at hpos
    constructor
    · by_contra hsign
      rw [if_pos (by simpa using hsign)] at hpos
      nlinarith
    · intro hzero
      rw [hzero] at hpos
      simp at hpos
  · rintro ⟨hsign, hne⟩
    rw [value_of_nonneg hsign]
    positivity

@[simp]
theorem negative_fix (d : Spelled) : d.fix.negative = d.negative := by
  simp only [fix]
  split <;> rfl

/-- Rounding the triple is rounding its value. -/
theorem value_fix {d : Spelled} (h : 0 < d.value) : d.fix.value = Dec.ctx d.value := by
  obtain ⟨hsign, hne⟩ := value_pos_iff.mp h
  rw [value_of_nonneg ((negative_fix d).trans hsign), value_of_nonneg hsign]
  simp only [fix]
  split
  · next hexcess =>
    -- the coefficient has at most 28 digits already
    have hfits : Fits 10 28 ((d.coefficient : ℚ) * 10 ^ d.exponent) := by
      refine ⟨d.coefficient, d.exponent, by push_cast; ring, ?_⟩
      rw [Nat.abs_cast]
      have hlt := (lt_pow_digitCount d.coefficient).trans_le
        (Nat.pow_le_pow_right (by norm_num : 0 < 10) (by omega : digitCount d.coefficient ≤ 28))
      exact_mod_cast hlt
    exact (Dec.exact_of_fits hfits).symm
  · next hexcess =>
    have hulp : Int.log 10 |(d.coefficient : ℚ) * 10 ^ d.exponent| + 1 - ((28 : ℕ) : ℤ) =
        d.exponent + ((digitCount d.coefficient - 28 : ℕ) : ℤ) := by
      rw [abs_of_pos (by positivity), log_value hne]
      omega
    have hquot : (d.coefficient : ℚ) * 10 ^ d.exponent /
        10 ^ (d.exponent + ((digitCount d.coefficient - 28 : ℕ) : ℤ)) =
          d.coefficient / 10 ^ (digitCount d.coefficient - 28) := by
      rw [zpow_add₀ (by norm_num), zpow_natCast]
      field_simp
    show (_ : ℚ) * _ = significant 10 28 _
    simp only [significant, hulp]
    push_cast
    rw [hquot, Nat.cast_natAbs, abs_of_nonneg (halfEven_nonneg (by positivity))]

@[simp]
theorem negative_stripZeros (n : ℕ) (d : Spelled) : (stripZeros n d).negative = d.negative := by
  induction n generalizing d with
  | zero => rfl
  | succ n ih =>
    unfold stripZeros
    split
    · rw [ih]
    · rfl

theorem value_stripZeros (n : ℕ) (d : Spelled) : (stripZeros n d).value = d.value := by
  induction n generalizing d with
  | zero => rfl
  | succ n ih =>
    unfold stripZeros
    split
    · next hzero =>
      rw [ih]
      have hsplit : d.coefficient = d.coefficient / 10 * 10 := by omega
      have hcast : (d.coefficient : ℚ) = (d.coefficient / 10 : ℕ) * 10 := by exact_mod_cast hsplit
      simp only [value]
      rw [hcast, zpow_add_one₀ (by norm_num)]
      ring
    · rfl

/-- With a step for every digit, the last digit is not a zero. -/
theorem stripZeros_last {n : ℕ} {d : Spelled} (hne : d.coefficient ≠ 0)
    (hlt : d.coefficient < 10 ^ n) : (stripZeros n d).coefficient % 10 ≠ 0 := by
  induction n generalizing d with
  | zero => omega
  | succ n ih =>
    unfold stripZeros
    split
    · next hzero =>
      rw [pow_succ] at hlt
      exact ih (by show d.coefficient / 10 ≠ 0; omega) (by show d.coefficient / 10 < _; omega)
    · next hlast => exact hlast

/-- **A positive number is normalized to the triple without trailing zeros of its rounding.** -/
theorem normalize_spec {d : Spelled} (h : 0 < d.value) :
    d.normalize.value = Dec.ctx d.value ∧ d.normalize.negative = false ∧
      d.normalize.coefficient % 10 ≠ 0 := by
  have hfix := value_fix h
  have hpos : 0 < d.fix.value := hfix ▸ Dec.ctx_pos h
  obtain ⟨hsign, hne⟩ := value_pos_iff.mp hpos
  unfold normalize
  rw [if_neg hne]
  exact ⟨(value_stripZeros _ _).trans hfix, (negative_stripZeros _ _).trans hsign,
    stripZeros_last hne (lt_pow_digitCount _)⟩

/-- A triple without sign and trailing zeros is determined by its value. -/
theorem eq_of_value_eq {d e : Spelled} (hd : d.negative = false) (he : e.negative = false)
    (hdlast : d.coefficient % 10 ≠ 0) (helast : e.coefficient % 10 ≠ 0)
    (h : d.value = e.value) : d = e := by
  -- the one with the larger exponent would end in a zero when written with the smaller one
  have key : ∀ {c c' : ℕ} {x x' : ℤ}, c % 10 ≠ 0 → x ≤ x' →
      (c : ℚ) * 10 ^ x = c' * 10 ^ x' → c = c' ∧ x = x' := by
    intro c c' x x' hlast hle heq
    obtain ⟨k, rfl⟩ := Int.le.dest hle
    rw [zpow_add₀ (by norm_num), zpow_natCast] at heq
    have hpow : (10 : ℚ) ^ x ≠ 0 := by positivity
    have hcast : (c : ℚ) = c' * 10 ^ k := by
      apply mul_right_cancel₀ hpow
      rw [heq]
      ring
    have hnat : c = c' * 10 ^ k := by exact_mod_cast hcast
    cases k with
    | zero => simpa using hnat
    | succ k =>
      rw [pow_succ, ← mul_assoc] at hnat
      omega
  rw [value_of_nonneg hd, value_of_nonneg he] at h
  obtain ⟨dn, dc, dx⟩ := d
  obtain ⟨en, ec, ex⟩ := e
  simp only at hd he hdlast helast h
  subst hd he
  rcases le_total dx ex with hle | hle
  · obtain ⟨rfl, rfl⟩ := key hdlast hle h
    rfl
  · obtain ⟨rfl, rfl⟩ := key helast hle h.symm
    rfl

/-! ## Reading the text back -/

theorem isDigit_toDigits {n : ℕ} {c : Char} (h : c ∈ Nat.toDigits 10 n) : c.isDigit :=
  Nat.isDigit_of_mem_toDigits (by norm_num) le_rfl h

theorem ne_point_of_isDigit {c : Char} (h : c.isDigit) : c ≠ '.' := by
  rintro rfl
  simp [Char.isDigit] at h

theorem toDigits_without_point (n : ℕ) : ∀ c ∈ Nat.toDigits 10 n, c ≠ '.' :=
  fun _ hc => ne_point_of_isDigit (isDigit_toDigits hc)

/-- A text without a point is read as its digits. -/
theorem readF_integer {text : List Char} (h : ∀ c ∈ text, c ≠ '.') :
    readF text = Nat.ofDigitChars 10 text 0 := by
  have hfilter : text.filter (· ≠ '.') = text := by simpa [List.filter_eq_self] using h
  have hdrop : text.dropWhile (· ≠ '.') = [] := by simpa [List.dropWhile_eq_nil_iff] using h
  rw [readF, hfilter, hdrop]
  simp

/-- A text with a point is read as all its digits, over a power of ten for each decimal. -/
theorem readF_point {whole decimals : List Char} (hwhole : ∀ c ∈ whole, c ≠ '.')
    (hdecimals : ∀ c ∈ decimals, c ≠ '.') :
    readF (whole ++ '.' :: decimals) =
      Nat.ofDigitChars 10 (whole ++ decimals) 0 / 10 ^ decimals.length := by
  have hfilter : (whole ++ '.' :: decimals).filter (· ≠ '.') = whole ++ decimals := by
    rw [List.filter_append, List.filter_cons_of_neg (by simp)]
    congr 1
    · simpa [List.filter_eq_self] using hwhole
    · simpa [List.filter_eq_self] using hdecimals
  have hdrop : (whole ++ '.' :: decimals).dropWhile (· ≠ '.') = '.' :: decimals := by
    rw [List.dropWhile_append_of_pos (by simpa using hwhole)]
    simp
  rw [readF, hfilter, hdrop]
  simp

/-- A negative exponent divides by a power of ten for each decimal. -/
theorem value_decimals {d : Spelled} (hsign : d.negative = false) (hexp : ¬0 ≤ d.exponent) :
    d.value = d.coefficient / 10 ^ (-d.exponent).toNat := by
  have hneg : d.exponent = -((-d.exponent).toNat : ℤ) := by omega
  rw [value_of_nonneg hsign, div_eq_mul_inv]
  congr 1
  rw [← zpow_natCast, ← zpow_neg, ← hneg]

/-- **The plain text of a number without sign spells the number.** -/
theorem readF_formatF {d : Spelled} (hsign : d.negative = false) (hne : d.coefficient ≠ 0) :
    readF d.formatF = d.value := by
  have hdigits := toDigits_without_point d.coefficient
  have hpadded : ∀ n, ∀ c ∈ List.replicate n '0', c ≠ '.' := by
    intro n c hc
    rw [List.eq_of_mem_replicate hc]
    decide
  have hback := Nat.ofDigitChars_ten_toDigits (n := d.coefficient)
  simp only [formatF, hsign, hne, Bool.false_eq_true, if_false, List.nil_append]
  split_ifs with hexp hshort
  · -- an integer: the exponent is written as zeros
    obtain ⟨n, hn⟩ := Int.eq_ofNat_of_zero_le hexp
    have hwhole : ∀ c ∈ Nat.toDigits 10 d.coefficient ++ List.replicate d.exponent.toNat '0',
        c ≠ '.' := by
      intro c hc
      exact (List.mem_append.mp hc).elim (hdigits c) (hpadded _ c)
    rw [readF_integer hwhole, Nat.ofDigitChars_append, hback, Nat.ofDigitChars_replicate_zero,
      value_of_nonneg hsign, hn, Int.toNat_natCast, zpow_natCast]
    push_cast
    ring
  · -- a number below one: zeros between the point and the digits
    have hdecimals : ∀ c ∈ List.replicate
        ((-d.exponent).toNat - (Nat.toDigits 10 d.coefficient).length) '0' ++
          Nat.toDigits 10 d.coefficient, c ≠ '.' := by
      intro c hc
      exact (List.mem_append.mp hc).elim (hpadded _ c) (hdigits c)
    have hlength : (-d.exponent).toNat - (Nat.toDigits 10 d.coefficient).length +
        (Nat.toDigits 10 d.coefficient).length = (-d.exponent).toNat := by omega
    have hread := readF_point (by simp : ∀ c ∈ ['0'], c ≠ '.') hdecimals
    rw [List.singleton_append] at hread
    rw [hread, value_decimals hsign hexp]
    simp [Nat.ofDigitChars_append, Nat.ofDigitChars_cons, hback, hlength]
  · -- the point is set among the digits
    have hlength : (Nat.toDigits 10 d.coefficient).length -
        ((Nat.toDigits 10 d.coefficient).length - (-d.exponent).toNat) = (-d.exponent).toNat := by
      omega
    rw [readF_point (fun c hc => hdigits c (List.mem_of_mem_take hc))
        (fun c hc => hdigits c (List.mem_of_mem_drop hc)),
      List.take_append_drop, hback, List.length_drop, hlength, value_decimals hsign hexp]

/-! ## The canonical text -/

theorem toDigits_last (n : ℕ) : ∃ front, Nat.toDigits 10 n = front ++ [Nat.digitChar (n % 10)] := by
  rcases Nat.lt_or_ge n 10 with hlt | hge
  · refine ⟨[], ?_⟩
    rw [Nat.toDigits_of_lt_base hlt, Nat.mod_eq_of_lt hlt, List.nil_append]
  · exact ⟨_, Nat.toDigits_of_base_le (by norm_num) hge⟩

/-- A text with decimals ends in the last digit of the coefficient. -/
theorem formatF_last {d : Spelled} (hsign : d.negative = false) (hexp : ¬0 ≤ d.exponent) :
    ∃ front, d.formatF = front ++ [Nat.digitChar (d.coefficient % 10)] := by
  obtain ⟨front, hfront⟩ := toDigits_last d.coefficient
  simp only [formatF, hsign, hexp, Bool.false_eq_true, if_false, List.nil_append, hfront]
  split
  · next hshort =>
    refine ⟨'0' :: '.' :: (List.replicate ((-d.exponent).toNat -
      (front ++ [Nat.digitChar (d.coefficient % 10)]).length) '0' ++ front), ?_⟩
    simp only [List.cons_append, List.append_assoc]
  · next hlong =>
    -- there are decimals, so the last digit stands behind the point
    rw [List.length_append, List.length_singleton] at hlong ⊢
    have hpos : 0 < (-d.exponent).toNat := by omega
    have hcut : front.length + 1 - (-d.exponent).toNat ≤ front.length := by omega
    rw [List.drop_append_of_le_length hcut]
    exact ⟨_ ++ '.' :: front.drop _, by rw [List.append_assoc]; rfl⟩

theorem point_mem_formatF {d : Spelled} (hsign : d.negative = false) (h : '.' ∈ d.formatF) :
    ¬0 ≤ d.exponent := by
  intro hexp
  simp only [formatF, hsign, hexp, Bool.false_eq_true, if_false, if_true, List.nil_append] at h
  have hdigits : '.' ∉ Nat.toDigits 10 d.coefficient :=
    fun hmem => toDigits_without_point _ _ hmem rfl
  split_ifs at h
  · exact hdigits h
  · rcases List.mem_append.mp h with hmem | hmem
    · exact hdigits hmem
    · exact absurd (List.eq_of_mem_replicate hmem) (by decide)

/-- The trailing characters that `_canonical_decimal` strips are gone after `normalize`. -/
theorem canonicalDecimal_eq {d : Spelled} (h : 0 < d.value) :
    d.canonicalDecimal = String.ofList d.normalize.formatF := by
  obtain ⟨-, hsign, hlast⟩ := normalize_spec h
  simp only [canonicalDecimal]
  split
  · next hpoint =>
    obtain ⟨front, hfront⟩ := formatF_last hsign (point_mem_formatF hsign hpoint)
    have hzero : Nat.digitChar (d.normalize.coefficient % 10) ≠ '0' := by simpa using hlast
    rw [hfront, List.rdropWhile_concat_neg _ _ _ (by simpa using hzero),
      List.rdropWhile_concat_neg _ _ _ (by simp)]
  · rfl

/-- **Two positive quantities have one canonical text exactly if the context rounds them to one
number.** -/
theorem canonicalDecimal_eq_iff {d e : Spelled} (hd : 0 < d.value) (he : 0 < e.value) :
    d.canonicalDecimal = e.canonicalDecimal ↔ Dec.ctx d.value = Dec.ctx e.value := by
  obtain ⟨hdvalue, hdsign, hdlast⟩ := normalize_spec hd
  obtain ⟨hevalue, hesign, helast⟩ := normalize_spec he
  rw [canonicalDecimal_eq hd, canonicalDecimal_eq he, ← hdvalue, ← hevalue]
  constructor
  · intro htext
    have hchars : d.normalize.formatF = e.normalize.formatF := String.ofList_injective htext
    rw [← readF_formatF hdsign (by omega), ← readF_formatF hesign (by omega), hchars]
  · intro hvalue
    rw [eq_of_value_eq hdsign hesign hdlast helast hvalue]

theorem value_units (n : ℤ) :
    (⟨decide (n < 0), n.natAbs, -18⟩ : Spelled).value = n / 10 ^ 18 := by
  have hpow : (10 : ℚ) ^ (-18 : ℤ) = 1 / 10 ^ 18 := by norm_num
  simp only [value, hpow, Nat.cast_natAbs]
  rw [mul_one_div]
  congr 1
  by_cases hsign : n < 0
  · simp [hsign, abs_of_neg hsign]
  · simp [hsign, abs_of_nonneg (not_lt.mp hsign)]

/-- What the column gives back is the number with 18 decimals. -/
theorem value_stored (d : Spelled) : d.stored.value = Dec.money d.value := by
  have hfixed : Dec.money d.value = halfAway (d.value * 10 ^ 18) / 10 ^ 18 := by
    simp [Dec.money, fixedPoint]
  exact (value_units _).trans hfixed.symm

end Spelled

end ArbitrageEngine
