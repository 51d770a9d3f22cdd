/-
# ArbitrageEngine.Positions.IsoTime -- aware datetimes and their ISO texts

Positions are stored with `value.isoformat()` for every datetime and read back with
`datetime.fromisoformat(text)`.  An aware datetime is its wall clock and the offset of the clock
from UTC; the text has both, down to the microsecond (`fromIsoFormat_isoFormat`).
-/
import ArbitrageEngine.Lib.DigitText
import Mathlib.Data.Int.Notation

namespace ArbitrageEngine

open Lib.DigitText

/-! ## Datetimes -/

/-- `calendar.monthrange(year, month)[1]`. -/
def daysInMonth (year month : ℕ) : ℕ :=
  if month = 2 then
    if year % 4 = 0 ∧ (year % 100 ≠ 0 ∨ year % 400 = 0) then 29 else 28
  else if month ∈ [4, 6, 9, 11] then 30
  else 31

/-- A wall clock and its offset from UTC, in microseconds. -/
structure WallClock where
  year : ℕ
  month : ℕ
  day : ℕ
  hour : ℕ
  minute : ℕ
  second : ℕ
  microsecond : ℕ
  utcOffset : ℤ
deriving DecidableEq

/-- The parts are in their ranges, the offset is less than a day. -/
def WallClock.Valid (clock : WallClock) : Prop :=
  (1 ≤ clock.year ∧ clock.year ≤ 9999) ∧ (1 ≤ clock.month ∧ clock.month ≤ 12) ∧
    (1 ≤ clock.day ∧ clock.day ≤ daysInMonth clock.year clock.month) ∧ clock.hour < 24 ∧
    clock.minute < 60 ∧ clock.second < 60 ∧ clock.microsecond < 10 ^ 6 ∧
    clock.utcOffset.natAbs < 86400 * 10 ^ 6

instance (clock : WallClock) : Decidable clock.Valid := inferInstanceAs (Decidable (_ ∧ _))

/-- A timezone-aware `datetime`. -/
abbrev AwareTime : Type := { clock : WallClock // clock.Valid }

theorem daysInMonth_le (year month : ℕ) : daysInMonth year month ≤ 31 := by
  unfold daysInMonth
  split_ifs <;> omega

/-! ## Writing -/

/-- Microseconds, where there are any. -/
def fractionText (microsecond : ℕ) : List Char :=
  if microsecond = 0 then [] else '.' :: fixedDigits 6 microsecond

/-- The seconds of an offset, where there are any. -/
def offsetSeconds (rest : ℕ) : List Char :=
  if rest = 0 then [] else ':' :: fixedDigits 2 (rest / 10 ^ 6) ++ fractionText (rest % 10 ^ 6)

/-- `_format_offset`. -/
def offsetText (offset : ℤ) : List Char :=
  let minutes := offset.natAbs / (60 * 10 ^ 6)
  (if offset < 0 then '-' else '+') :: fixedDigits 2 (minutes / 60) ++
    ':' :: fixedDigits 2 (minutes % 60) ++ offsetSeconds (offset.natAbs % (60 * 10 ^ 6))

/-- `isoformat`. -/
def WallClock.isoFormat (clock : WallClock) : List Char :=
  fixedDigits 4 clock.year ++ '-' :: (fixedDigits 2 clock.month ++ '-' ::
    (fixedDigits 2 clock.day ++ 'T' :: (fixedDigits 2 clock.hour ++ ':' ::
      (fixedDigits 2 clock.minute ++ ':' :: (fixedDigits 2 clock.second ++
        (fractionText clock.microsecond ++ offsetText clock.utcOffset))))))

/-! ## Reading -/

/-- The microseconds after a point; none without one. -/
def readFraction : List Char → Option (ℕ × List Char)
  | '.' :: text => takeDigits 6 text
  | text => some (0, text)

/-- The seconds of an offset after a colon, in microseconds; none without one. -/
def readOffsetSeconds : List Char → Option (ℕ × List Char)
  | ':' :: text => do
      let (second, text) ← takeDigits 2 text
      let (microsecond, text) ← readFraction text
      pure (second * 10 ^ 6 + microsecond, text)
  | text => some (0, text)

/-- The sign of an offset. -/
def readSign : List Char → Option (ℤ × List Char)
  | '-' :: text => some (-1, text)
  | '+' :: text => some (1, text)
  | _ => none

/-- The offset at the end of a text. -/
def readOffset (text : List Char) : Option ℤ := do
  let (sign, text) ← readSign text
  let (hour, text) ← takeDigits 2 text
  let text ← expect ':' text
  let (minute, text) ← takeDigits 2 text
  let (rest, text) ← readOffsetSeconds text
  if text = [] then pure (sign * (((hour * 60 + minute) * (60 * 10 ^ 6) + rest : ℕ) : ℤ)) else none

/-- The wall clock of a text. -/
def readClock (text : List Char) : Option WallClock := do
  let (year, text) ← takeDigits 4 text
  let text ← expect '-' text
  let (month, text) ← takeDigits 2 text
  let text ← expect '-' text
  let (day, text) ← takeDigits 2 text
  let text ← expect 'T' text
  let (hour, text) ← takeDigits 2 text
  let text ← expect ':' text
  let (minute, text) ← takeDigits 2 text
  let text ← expect ':' text
  let (second, text) ← takeDigits 2 text
  let (microsecond, text) ← readFraction text
  let utcOffset ← readOffset text
  pure
    { year := year
      month := month
      day := day
      hour := hour
      minute := minute
      second := second
      microsecond := microsecond
      utcOffset := utcOffset }

/-- `datetime.fromisoformat`, for the texts that `isoformat` writes of aware datetimes. -/
def fromIsoFormat (text : List Char) : Option AwareTime :=
  (readClock text).bind fun clock => if h : clock.Valid then some ⟨clock, h⟩ else none

/-! ## Reading back what was written -/

theorem readFraction_text {microsecond : ℕ} {rest : List Char} (h : microsecond < 10 ^ 6)
    (hrest : rest.head? ≠ some '.') :
    readFraction (fractionText microsecond ++ rest) = some (microsecond, rest) := by
  unfold fractionText
  by_cases hzero : microsecond = 0
  · rw [if_pos hzero, List.nil_append, hzero]
    unfold readFraction
    split
    · exact absurd rfl hrest
    · rfl
  · rw [if_neg hzero]
    exact takeDigits_fixedDigits h rest

theorem readOffsetSeconds_text {rest : ℕ} (h : rest < 60 * 10 ^ 6) :
    readOffsetSeconds (offsetSeconds rest) = some (rest, []) := by
  unfold offsetSeconds
  by_cases hzero : rest = 0
  · rw [if_pos hzero, hzero]
    rfl
  · rw [if_neg hzero]
    have hsecond := takeDigits_fixedDigits (by omega : rest / 10 ^ 6 < 10 ^ 2)
      (fractionText (rest % 10 ^ 6))
    have hend : ([] : List Char).head? ≠ some '.' := by simp
    have hfraction := readFraction_text (by omega : rest % 10 ^ 6 < 10 ^ 6) hend
    rw [List.append_nil] at hfraction
    rw [List.cons_append]
    unfold readOffsetSeconds
    simp only [hsecond, hfraction, Option.bind_eq_bind, Option.bind_some, Option.pure_def]
    congr 2
    omega

theorem readOffset_text {offset : ℤ} (h : offset.natAbs < 86400 * 10 ^ 6) :
    readOffset (offsetText offset) = some offset := by
  have hsign : readSign ((if offset < 0 then '-' else '+') ::
      (fixedDigits 2 (offset.natAbs / (60 * 10 ^ 6) / 60) ++
        ':' :: (fixedDigits 2 (offset.natAbs / (60 * 10 ^ 6) % 60) ++
          offsetSeconds (offset.natAbs % (60 * 10 ^ 6))))) =
      some (if offset < 0 then -1 else 1, fixedDigits 2 (offset.natAbs / (60 * 10 ^ 6) / 60) ++
        ':' :: (fixedDigits 2 (offset.natAbs / (60 * 10 ^ 6) % 60) ++
          offsetSeconds (offset.natAbs % (60 * 10 ^ 6)))) := by
    by_cases hneg : offset < 0
    · rw [if_pos hneg, if_pos hneg]
      rfl
    · rw [if_neg hneg, if_neg hneg]
      rfl
  have hhour : offset.natAbs / (60 * 10 ^ 6) / 60 < 10 ^ 2 := by omega
  have hminute : offset.natAbs / (60 * 10 ^ 6) % 60 < 10 ^ 2 := by omega
  have hrest : offset.natAbs % (60 * 10 ^ 6) < 60 * 10 ^ 6 := by omega
  unfold readOffset offsetText
  simp only [List.cons_append, List.append_assoc, hsign, takeDigits_fixedDigits hhour,
    takeDigits_fixedDigits hminute, expect_cons, readOffsetSeconds_text hrest,
    Option.bind_eq_bind, Option.bind_some, Option.pure_def, if_true]
  congr 1
  have hsum : (offset.natAbs / (60 * 10 ^ 6) / 60 * 60 + offset.natAbs / (60 * 10 ^ 6) % 60) *
      (60 * 10 ^ 6) + offset.natAbs % (60 * 10 ^ 6) = offset.natAbs := by omega
  rw [hsum]
  split <;> omega

theorem readClock_isoFormat {clock : WallClock} (h : clock.Valid) :
    readClock clock.isoFormat = some clock := by
  obtain ⟨⟨-, hyear⟩, ⟨-, hmonth⟩, ⟨-, hday⟩, hhour, hminute, hsecond, hmicrosecond, hoffset⟩ := h
  have hday' := hday.trans (daysInMonth_le clock.year clock.month)
  have hpoint : (offsetText clock.utcOffset).head? ≠ some '.' := by
    unfold offsetText
    split <;> simp
  unfold readClock WallClock.isoFormat
  simp only [takeDigits_fixedDigits (by omega : clock.year < 10 ^ 4),
    takeDigits_fixedDigits (by omega : clock.month < 10 ^ 2),
    takeDigits_fixedDigits (by omega : clock.day < 10 ^ 2),
    takeDigits_fixedDigits (by omega : clock.hour < 10 ^ 2),
    takeDigits_fixedDigits (by omega : clock.minute < 10 ^ 2),
    takeDigits_fixedDigits (by omega : clock.second < 10 ^ 2), expect_cons,
    readFraction_text hmicrosecond hpoint, readOffset_text hoffset, Option.bind_eq_bind,
    Option.bind_some, Option.pure_def]

/-- **The ISO text of an aware datetime is read back as the datetime.** -/
theorem fromIsoFormat_isoFormat (time : AwareTime) :
    fromIsoFormat time.val.isoFormat = some time := by
  unfold fromIsoFormat
  rw [readClock_isoFormat time.property, Option.bind_some, dif_pos time.property]

end ArbitrageEngine
