/-
# ArbitrageEngine.Positions.DecimalStr -- the text of a decimal, and the decimal of a text

Positions are stored with `str(value)` for every decimal and read back with `Decimal(text)`.  The
text keeps the spelling: sign, digits and exponent come back as they were (`ofStr_str`).
-/
import ArbitrageEngine.DecimalText
import ArbitrageEngine.Lib.DigitText

namespace ArbitrageEngine.Spelled

open Lib.DigitText

/-! ## Writing -/

/-- `"E%+d"`. -/
def exponentText (exponent : ℤ) : List Char :=
  'E' :: (if exponent < 0 then '-' else '+') :: Nat.toDigits 10 exponent.natAbs

/-- `str(value)`: plain where the exponent is small, scientific elsewhere. -/
def str (d : Spelled) : List Char :=
  let digits := Nat.toDigits 10 d.coefficient
  let leftDigits := d.exponent + digits.length
  let dotPlace := if d.exponent ≤ 0 ∧ -6 < leftDigits then leftDigits else 1
  let sign := if d.negative then ['-'] else []
  let mantissa :=
    if dotPlace ≤ 0 then '0' :: '.' :: (List.replicate (-dotPlace).toNat '0' ++ digits)
    else if (digits.length : ℤ) ≤ dotPlace then
      digits ++ List.replicate (dotPlace - digits.length).toNat '0'
    else digits.take dotPlace.toNat ++ '.' :: digits.drop dotPlace.toNat
  sign ++ mantissa ++
    if leftDigits = dotPlace then [] else exponentText (leftDigits - dotPlace)

/-! ## Reading -/

/-- A whole number with or without a sign. -/
def readInt : List Char → Option ℤ
  | '-' :: digits =>
      if digits ≠ [] ∧ digits.all Char.isDigit then some (-(Nat.ofDigitChars 10 digits 0 : ℤ))
      else none
  | '+' :: digits =>
      if digits ≠ [] ∧ digits.all Char.isDigit then some (Nat.ofDigitChars 10 digits 0) else none
  | digits =>
      if digits ≠ [] ∧ digits.all Char.isDigit then some (Nat.ofDigitChars 10 digits 0) else none

/-- The exponent at the end of a text. -/
def readExponent : List Char → Option ℤ
  | [] => some 0
  | c :: rest => if c = 'E' ∨ c = 'e' then readInt rest else none

/-- The decimals after a point, and the rest of the text. -/
def readDecimals : List Char → List Char × List Char
  | '.' :: rest => (rest.takeWhile Char.isDigit, rest.dropWhile Char.isDigit)
  | rest => ([], rest)

/-- A number without a sign. -/
def readUnsigned (negative : Bool) (text : List Char) : Option Spelled :=
  let whole := text.takeWhile Char.isDigit
  let decimals := readDecimals (text.dropWhile Char.isDigit)
  if whole ++ decimals.1 = [] then none
  else
    (readExponent decimals.2).map fun exponent =>
      { negative := negative
        coefficient := Nat.ofDigitChars 10 (whole ++ decimals.1) 0
        exponent := exponent - decimals.1.length }

/-- `Decimal(text)`, for the numerals among the texts it reads. -/
def ofStr : List Char → Option Spelled
  | '-' :: text => readUnsigned true text
  | '+' :: text => readUnsigned false text
  | text => readUnsigned false text

example : ofStr "12.50".toList = some ⟨false, 1250, -2⟩ := by decide +kernel
example : str ⟨true, 5, -7⟩ = "-5E-7".toList := by decide +kernel

/-! ## Reading back what was written -/

theorem readInt_signed (exponent : ℤ) :
    readInt ((if exponent < 0 then '-' else '+') :: Nat.toDigits 10 exponent.natAbs) =
      some exponent := by
  have hdigits : Nat.toDigits 10 exponent.natAbs ≠ [] ∧
      (Nat.toDigits 10 exponent.natAbs).all Char.isDigit = true :=
    ⟨List.ne_nil_of_length_pos Nat.length_toDigits_pos,
      List.all_eq_true.mpr fun c hc => isDigit_toDigits hc⟩
  by_cases hsign : exponent < 0
  · rw [if_pos hsign]
    show (if _ then some _ else none) = _
    rw [if_pos hdigits, Nat.ofDigitChars_ten_toDigits]
    congr 1
    omega
  · rw [if_neg hsign]
    show (if _ then some _ else none) = _
    rw [if_pos hdigits, Nat.ofDigitChars_ten_toDigits]
    congr 1
    omega

theorem readExponent_exponentText (exponent : ℤ) :
    readExponent (exponentText exponent) = some exponent := by
  show (if 'E' = 'E' ∨ 'E' = 'e' then _ else none) = _
  rw [if_pos (Or.inl rfl)]
  exact readInt_signed exponent

/-- What may follow the digits: nothing, or an exponent. -/
def ExponentPart (exponent : ℤ) (tail : List Char) : Prop :=
  tail = [] ∧ exponent = 0 ∨ tail = exponentText exponent

variable {exponent : ℤ} {tail whole decimals : List Char}

theorem ExponentPart.noDigit (h : ExponentPart exponent tail) : NoDigit tail := by
  obtain ⟨rfl, -⟩ | rfl := h
  · exact .nil
  · exact .cons rfl _

theorem ExponentPart.read (h : ExponentPart exponent tail) : readExponent tail = some exponent := by
  obtain ⟨rfl, rfl⟩ | rfl := h
  · rfl
  · exact readExponent_exponentText exponent

theorem ExponentPart.readDecimals (h : ExponentPart exponent tail) :
    readDecimals tail = ([], tail) := by
  obtain ⟨rfl, -⟩ | rfl := h
  · rfl
  · rfl

/-- Digits without a point. -/
theorem readUnsigned_whole (negative : Bool) (hwhole : ∀ c ∈ whole, c.isDigit = true)
    (hne : whole ≠ []) (htail : ExponentPart exponent tail) :
    readUnsigned negative (whole ++ tail) =
      some ⟨negative, Nat.ofDigitChars 10 whole 0, exponent⟩ := by
  unfold readUnsigned
  simp only [takeWhile_digits hwhole htail.noDigit, dropWhile_digits hwhole htail.noDigit,
    htail.readDecimals, htail.read, List.append_nil, if_neg hne]
  simp

/-- Digits before and after a point. -/
theorem readUnsigned_point (negative : Bool) (hwhole : ∀ c ∈ whole, c.isDigit = true)
    (hne : whole ≠ []) (hdecimals : ∀ c ∈ decimals, c.isDigit = true)
    (htail : ExponentPart exponent tail) :
    readUnsigned negative (whole ++ '.' :: decimals ++ tail) =
      some ⟨negative, Nat.ofDigitChars 10 (whole ++ decimals) 0, exponent - decimals.length⟩ := by
  have hpoint : NoDigit ('.' :: (decimals ++ tail)) := .cons rfl _
  have hread : readDecimals ('.' :: (decimals ++ tail)) = (decimals, tail) := by
    show ((decimals ++ tail).takeWhile Char.isDigit, (decimals ++ tail).dropWhile Char.isDigit) = _
    rw [takeWhile_digits hdecimals htail.noDigit, dropWhile_digits hdecimals htail.noDigit]
  have hsome : whole ++ decimals ≠ [] := by simp [hne]
  unfold readUnsigned
  simp only [List.append_assoc, List.cons_append, takeWhile_digits hwhole hpoint,
    dropWhile_digits hwhole hpoint, hread, htail.read, if_neg hsome]
  simp

variable (d : Spelled) (negative : Bool)

/-- The digits of the coefficient. -/
def digits : List Char := Nat.toDigits 10 d.coefficient

theorem length_digits_pos : 0 < d.digits.length := Nat.length_toDigits_pos

theorem isDigit_digits : ∀ c ∈ d.digits, c.isDigit = true := fun _ hc => isDigit_toDigits hc

theorem ofDigitChars_digits : Nat.ofDigitChars 10 d.digits 0 = d.coefficient :=
  Nat.ofDigitChars_ten_toDigits

/-- The digits alone. -/
theorem readUnsigned_digits (htail : ExponentPart exponent tail) :
    readUnsigned negative (d.digits ++ tail) = some ⟨negative, d.coefficient, exponent⟩ := by
  have hne : d.digits ≠ [] := List.ne_nil_of_length_pos d.length_digits_pos
  rw [readUnsigned_whole negative d.isDigit_digits hne htail, d.ofDigitChars_digits]

/-- A point among the digits. -/
theorem readUnsigned_split {place : ℕ} (hpos : 0 < place) (htail : ExponentPart exponent tail) :
    readUnsigned negative (d.digits.take place ++ '.' :: d.digits.drop place ++ tail) =
      some ⟨negative, d.coefficient, exponent - ((d.digits.length - place : ℕ) : ℤ)⟩ := by
  have hne : d.digits.take place ≠ [] := by
    apply List.ne_nil_of_length_pos
    rw [List.length_take]
    exact lt_min hpos d.length_digits_pos
  rw [readUnsigned_point negative (fun c hc => d.isDigit_digits c (List.mem_of_mem_take hc)) hne
      (fun c hc => d.isDigit_digits c (List.mem_of_mem_drop hc)) htail,
    List.take_append_drop, d.ofDigitChars_digits, List.length_drop]

/-- A point before the digits, with zeros between. -/
theorem readUnsigned_zeros (zeros : ℕ) (htail : ExponentPart exponent tail) :
    readUnsigned negative ('0' :: '.' :: (List.replicate zeros '0' ++ d.digits) ++ tail) =
      some ⟨negative, d.coefficient, exponent - ((zeros + d.digits.length : ℕ) : ℤ)⟩ := by
  have hzero : ∀ c ∈ ['0'], c.isDigit = true := by
    intro c hc
    rw [List.mem_singleton.mp hc]
    rfl
  have hdecimals : ∀ c ∈ List.replicate zeros '0' ++ d.digits, c.isDigit = true := by
    intro c hc
    rw [List.mem_append] at hc
    obtain hc | hc := hc
    · rw [List.eq_of_mem_replicate hc]
      rfl
    · exact d.isDigit_digits c hc
  have hread := readUnsigned_point negative hzero (by simp) hdecimals htail
  rw [List.singleton_append] at hread
  rw [hread, List.singleton_append, Nat.ofDigitChars_cons, Nat.ofDigitChars_append,
    Nat.ofDigitChars_replicate_zero, List.length_append, List.length_replicate]
  simp [d.ofDigitChars_digits]

/-- The text without the sign. -/
def unsignedStr : List Char := str { d with negative := false }

/-- The text without the sign is read back. -/
theorem readUnsigned_unsignedStr :
    readUnsigned negative d.unsignedStr = some { d with negative := negative } := by
  have hpos := d.length_digits_pos
  unfold unsignedStr str
  simp only [Bool.false_eq_true, if_false, List.nil_append]
  show readUnsigned negative ((if _ then '0' :: '.' :: (_ ++ d.digits) else
    if (d.digits.length : ℤ) ≤ _ then d.digits ++ _ else
      d.digits.take _ ++ '.' :: d.digits.drop _) ++ _) = _
  by_cases hplain : d.exponent ≤ 0 ∧ -6 < d.exponent + (d.digits.length : ℤ)
  · -- a plain text: the point stands where the exponent puts it
    have hnone : ExponentPart 0 [] := .inl ⟨rfl, rfl⟩
    rw [show Nat.toDigits 10 d.coefficient = d.digits from rfl, if_pos hplain, if_pos rfl]
    by_cases hbefore : d.exponent + (d.digits.length : ℤ) ≤ 0
    · rw [if_pos hbefore, d.readUnsigned_zeros negative _ hnone]
      congr 2
      omega
    · rw [if_neg hbefore]
      by_cases hwhole : (d.digits.length : ℤ) ≤ d.exponent + d.digits.length
      · have hzero : d.exponent = 0 := by omega
        rw [if_pos hwhole, hzero]
        simp only [zero_add, sub_self, Int.toNat_zero, List.replicate_zero]
        rw [List.append_nil, d.readUnsigned_digits negative hnone]
      · rw [if_neg hwhole, d.readUnsigned_split negative (by omega) hnone]
        congr 2
        omega
  · -- a scientific text: the point stands behind the first digit
    have htail : ExponentPart (d.exponent + d.digits.length - 1)
        (if d.exponent + (d.digits.length : ℤ) = 1 then []
          else exponentText (d.exponent + d.digits.length - 1)) := by
      by_cases hone : d.exponent + (d.digits.length : ℤ) = 1
      · rw [if_pos hone]
        exact .inl ⟨rfl, by omega⟩
      · rw [if_neg hone]
        exact .inr rfl
    rw [show Nat.toDigits 10 d.coefficient = d.digits from rfl, if_neg hplain,
      if_neg (by omega : ¬ (1 : ℤ) ≤ 0)]
    by_cases hone : (d.digits.length : ℤ) ≤ 1
    · have hlength : d.digits.length = 1 := by omega
      rw [if_pos hone, show (1 - (d.digits.length : ℤ)).toNat = 0 by omega, List.replicate_zero,
        List.append_nil, d.readUnsigned_digits negative htail]
      congr 2
      omega
    · rw [if_neg hone, show (1 : ℤ).toNat = 1 from rfl,
        d.readUnsigned_split negative (by omega) htail]
      congr 2
      omega

theorem str_eq : d.str = (if d.negative then ['-'] else []) ++ d.unsignedStr := by
  unfold unsignedStr str
  simp only [Bool.false_eq_true, if_false, List.nil_append, List.append_assoc]

/-- What is read as a number without a sign does not start with one. -/
theorem ofStr_of_readUnsigned {text : List Char} (h : readUnsigned false text = some d) :
    ofStr text = some d := by
  unfold ofStr
  split
  · exact absurd h (by simp [readUnsigned, readDecimals])
  · exact absurd h (by simp [readUnsigned, readDecimals])
  · exact h

/-- **The text of a decimal is read back as the decimal, in its spelling.** -/
theorem ofStr_str : ofStr d.str = some d := by
  have hread := d.readUnsigned_unsignedStr
  rw [str_eq]
  cases hsign : d.negative with
  | true =>
    show readUnsigned true d.unsignedStr = some d
    rw [hread, ← hsign]
  | false =>
    apply ofStr_of_readUnsigned
    rw [if_neg Bool.false_ne_true, List.nil_append, hread, ← hsign]

/-! ## The plain text -/

/-- The plain text of a number without sign is read as the number. -/
theorem ofStr_formatF {d : Spelled} (hsign : d.negative = false) (hne : d.coefficient ≠ 0) :
    ∃ e, ofStr d.formatF = some e ∧ e.value = d.value := by
  have htail : ExponentPart 0 [] := .inl ⟨rfl, rfl⟩
  have hsame : ∀ exponent : ℤ, exponent = d.exponent →
      (⟨false, d.coefficient, exponent⟩ : Spelled).value = d.value := by
    rintro exponent rfl
    rw [← hsign]
  have hread : ∃ e, readUnsigned false d.formatF = some e ∧ e.value = d.value := by
    simp only [formatF, hsign, hne, Bool.false_eq_true, if_false, List.nil_append]
    split_ifs with hexp hshort
    · -- an integer: the zeros belong to the coefficient
      obtain ⟨n, hn⟩ := Int.eq_ofNat_of_zero_le hexp
      have hwhole : ∀ c ∈ Nat.toDigits 10 d.coefficient ++ List.replicate d.exponent.toNat '0',
          c.isDigit = true := by
        intro c hc
        rcases List.mem_append.mp hc with hc | hc
        · exact isDigit_toDigits hc
        · rw [List.eq_of_mem_replicate hc]
          rfl
      have hsome : Nat.toDigits 10 d.coefficient ++ List.replicate d.exponent.toNat '0' ≠ [] := by
        simp [Nat.toDigits_ne_nil]
      have hplain := readUnsigned_whole false hwhole hsome htail
      rw [List.append_nil] at hplain
      refine ⟨_, hplain, ?_⟩
      rw [value_of_nonneg rfl, value_of_nonneg hsign, Nat.ofDigitChars_append,
        Nat.ofDigitChars_ten_toDigits, Nat.ofDigitChars_replicate_zero, hn, Int.toNat_natCast,
        zpow_natCast]
      push_cast
      ring
    · -- a number below one: zeros between the point and the digits
      have hplain := readUnsigned_zeros d false ((-d.exponent).toNat - d.digits.length) htail
      rw [List.append_nil] at hplain
      refine ⟨_, hplain, hsame _ ?_⟩
      have hlength : d.digits.length ≤ (-d.exponent).toNat := hshort
      omega
    · -- the point is set among the digits
      have hlength : ¬ d.digits.length ≤ (-d.exponent).toNat := hshort
      have hplain := readUnsigned_split d false
        (show 0 < d.digits.length - (-d.exponent).toNat by omega) htail
      rw [List.append_nil] at hplain
      refine ⟨_, hplain, hsame _ ?_⟩
      omega
  obtain ⟨e, hread, hvalue⟩ := hread
  exact ⟨e, ofStr_of_readUnsigned e hread, hvalue⟩

/-- The plain text is made of digits and a point. -/
theorem mem_formatF {d : Spelled} (hsign : d.negative = false) {c : Char} (hc : c ∈ d.formatF) :
    c.isDigit = true ∨ c = '.' := by
  have hdigit : ∀ {c : Char}, c ∈ Nat.toDigits 10 d.coefficient → c.isDigit = true ∨ c = '.' :=
    fun hc => .inl (isDigit_toDigits hc)
  have hzero : ∀ {c : Char} {n : ℕ}, c ∈ List.replicate n '0' → c.isDigit = true ∨ c = '.' := by
    intro c n hc
    rw [List.eq_of_mem_replicate hc]
    exact .inl rfl
  simp only [formatF, hsign, Bool.false_eq_true, if_false, List.nil_append] at hc
  split_ifs at hc
  · exact hdigit hc
  · exact (List.mem_append.mp hc).elim hdigit hzero
  · rcases List.mem_cons.mp hc with rfl | hc
    · exact .inl rfl
    · rcases List.mem_cons.mp hc with rfl | hc
      · exact .inr rfl
      · exact (List.mem_append.mp hc).elim hzero hdigit
  · rcases List.mem_append.mp hc with hc | hc
    · exact hdigit (List.mem_of_mem_take hc)
    · rcases List.mem_cons.mp hc with rfl | hc
      · exact .inr rfl
      · exact hdigit (List.mem_of_mem_drop hc)

end ArbitrageEngine.Spelled
