/-
# ArbitrageEngine.Reconciliation.OrderReadings -- one order payload, read by execution and by
reconciliation

`wait_filled` polls an order while execution waits for it, and `get_order` reads the same endpoint
for reconciliation.  Each connector has written the two by hand.  Polymarket, Predict.fun and Myriad
read the same things in the same order and differ in the keys, the spellings that end the wait and
the units (`OrderReader`); Opinion has numeric status codes and decimal fields.

The two readings differ in what they make of something that is missing or zero.  Of a filled order
without a filled amount, `wait_filled` says that it is filled with the requested amount and
`get_order` that nothing is; of an average price of zero, `wait_filled` keeps the zero and
`get_order` falls back to the remembered price.  Beyond that, Predict.fun looks for the status under
different keys, `get_order` rescales a remembered price, and Opinion takes the size of the order for
its filled amount while it waits.

Payloads are JSON.  Numbers are finite floats, as rationals; what `float()` reads in a text and how
`str()` writes what is not a text are parameters.
-/
import ArbitrageEngine.Connectors.SxBetV3Fills
import ArbitrageEngine.Reconciliation.ExternalBaseline

namespace ArbitrageEngine.Reconciliation.OrderReadings

open Execution (ExecutionReport ExecutionStatus strip isSpace)
open SxBetV3 (fromAmounts)

/-! ## Payloads -/

/-- A JSON value, or its absence.  An object is what is found under its keys. -/
inductive Json
  | missing
  | null
  | bool (b : Bool)
  | num (q : ℚ)
  | text (s : String)
  | array (isEmpty : Bool)
  | object (isEmpty : Bool) (fields : String → Json)

namespace Json

/-- `value in (None, "")`. -/
def isBlank : Json → Bool
  | missing | null => true
  | text s => s = ""
  | _ => false

/-- `bool(value)`. -/
def truth : Json → Bool
  | missing | null => false
  | bool b => b
  | num q => q ≠ 0
  | text s => s ≠ ""
  | array isEmpty | object isEmpty _ => !isEmpty

/-- Is there a value under the key? -/
def isPresent : Json → Bool
  | missing => false
  | _ => true

/-- `_extract_first` of Polymarket: the value of the first key that is there, be it `null`. -/
def extractFirst (keys : List String) : Json → Json
  | object _ fields => ((keys.map fields).find? isPresent).getD missing
  | _ => missing

/-- `_extract_first_nested` of Predict.fun and Myriad. -/
def extractFirstNested (keys : List String) : Json → Json
  | object _ fields =>
      match (keys.map fields).find? fun value => !value.isBlank with
      | some value => value
      | none =>
          let data := extractFirstNested keys (fields "data")
          if !data.isBlank then data
          else
            let order := extractFirstNested keys (fields "order")
            if !order.isBlank then order
            else
              let result := extractFirstNested keys (fields "result")
              if !result.isBlank then result else missing
  | _ => missing

end Json

/-- How the language reads and writes numbers. -/
structure FloatReading extends FloatText where
  text_nonpos : ∀ x ≤ 0, text x ≤ 0
  /-- `float(s)`, `Decimal(s)` and `int(s)`, where they do not raise. -/
  parse : String → Option Dec
  parseDecimal : String → Option Dec
  parseInt : String → Option ℤ
  /-- `str(value)` of a value that is not a text. -/
  render : Json → String

variable (float : FloatReading)

/-- `float(str(value))`, or `None`. -/
def floatOf : Json → Option Dec
  | .num q => some q
  | .text s => if s = "" then none else float.parse s
  | _ => none

/-- `Decimal(str(value))`, or `None`. -/
def decimalOf : Json → Option Dec
  | .num q => some q
  | .text s => if s = "" then none else float.parseDecimal s
  | _ => none

/-- `str(value)`. -/
def str : Json → String
  | .text s => s
  | other => float.render other

/-- `str(value or default)`. -/
def textOr (default : String) (value : Json) : String :=
  if value.truth then str float value else default

/-- `_optional_int`. -/
def optionalInt (value : Json) : Option ℤ :=
  if value.isBlank then none else float.parseInt (strip (str float value))

/-! ## Lower case

`lower` commutes with `strip`, for no letter is white space. -/

theorem toNat_toLower (c : Char) :
    c.toLower.toNat = if 65 ≤ c.toNat ∧ c.toNat ≤ 90 then c.toNat + 32 else c.toNat := by
  unfold Char.toLower
  split
  · next h => 
    have h1 : 65 ≤ c.toNat ∧ c.toNat ≤ 90 := by
      simpa [UInt32.le_iff_toNat_le] using h
    rw [if_pos h1]
    show (c.val + _).toNat = _
    rw [UInt32.toNat_add]
    have : c.val.toNat = c.toNat := rfl
    simp
    omega
  · next h => 
    have h1 : ¬ (65 ≤ c.toNat ∧ c.toNat ≤ 90) := by
      simpa [UInt32.le_iff_toNat_le] using h
    rw [if_neg h1]

theorem isSpace_toLower (c : Char) : isSpace c.toLower = isSpace c := by
  unfold isSpace
  rw [toNat_toLower]
  split
  · next h =>
    simp only [List.mem_cons, List.not_mem_nil, or_false, decide_eq_decide]
    constructor
    · intro hspace
      omega
    · intro hspace
      omega
  · rfl

theorem toLower_toLower (c : Char) : c.toLower.toLower = c.toLower := by
  apply Char.toNat_inj.mp
  rw [toNat_toLower c.toLower, toNat_toLower]
  split_ifs <;> omega

theorem strip_lower (s : String) : strip (lower s) = lower (strip s) := by
  unfold strip lower
  simp only [String.toList_ofList]
  rw [List.dropWhile_map, ← List.map_reverse, List.dropWhile_map, List.map_reverse]
  simp [Function.comp_def, isSpace_toLower]

theorem lower_lower (s : String) : lower (lower s) = lower s := by
  unfold lower
  simp [Function.comp_def, toLower_toLower]

theorem lower_eq_empty {s : String} : lower s = "" ↔ s = "" := by
  unfold lower
  rw [← String.toList_inj, ← String.toList_inj, String.toList_ofList]
  simp

/-! ## Reports -/

/-- `value.strip().lower().replace("-", "_")`. -/
def normalizedStatus (value : String) : String :=
  String.ofList ((lower (strip value)).toList.map fun c => if c = '-' then '_' else c)

/-- `_execution_status`, for a text. -/
def executionStatus (value : String) (amountFilled amountRequested : Dec) : ExecutionStatus :=
  let normalized := normalizedStatus value
  if normalized ∈ ["filled", "matched", "executed", "complete", "completed"] then .filled
  else if normalized ∈ ["partial", "partially_filled"] ∨
      (0 < amountFilled ∧ amountFilled < amountRequested) then .partlyFilled
  else if normalized ∈ ["cancelled", "canceled", "rejected", "failed"] then .cancelled
  else if normalized = "expired" then .expired
  else .stillOpen

/-- `ExecutionReport.from_amounts`, with a text for the status. -/
def fromStatusText (orderId : String) (amountRequested amountFilled : Dec) (status : String)
    (avgPrice : Dec) : ExecutionReport :=
  let requested := max 0 amountRequested
  let filled := min (max 0 amountFilled) requested
  fromAmounts orderId amountRequested amountFilled (executionStatus status filled requested)
    avgPrice

/-- The filled amount of a report. -/
def booked (requested filled : Dec) : Dec := min (max 0 filled) (max 0 requested)

theorem fromStatusText_status (orderId : String) (requested filled : Dec) (status : String)
    (price : Dec) :
    (fromStatusText orderId requested filled status price).status =
      executionStatus status (booked requested filled) (max 0 requested) := by
  simp only [fromStatusText, fromAmounts, booked]

theorem fromStatusText_amountFilled (orderId : String) (requested filled : Dec) (status : String)
    (price : Dec) :
    (fromStatusText orderId requested filled status price).amountFilled =
      booked requested filled := by
  simp only [fromStatusText, fromAmounts, booked]

theorem fromStatusText_avgPrice (orderId : String) (requested filled : Dec) (status : String)
    (price : Dec) :
    (fromStatusText orderId requested filled status price).avgPrice = max 0 price := by
  simp only [fromStatusText, fromAmounts]

/-- `from_amounts` of floats. -/
def fromFloats (orderId : String) (requested filled : Dec) (status : String) (avgPrice : Dec) :
    ExecutionReport :=
  fromStatusText orderId (float.text requested) (float.text filled) status (float.text avgPrice)

/-- Two reports say the same of the status, the filled amount and the average price. -/
def SameReading (a b : ExecutionReport) : Prop :=
  a.status = b.status ∧ a.amountFilled = b.amountFilled ∧ a.avgPrice = b.avgPrice

instance (a b : ExecutionReport) : Decidable (SameReading a b) :=
  inferInstanceAs (Decidable (_ ∧ _))

/-- `a or b`, where `None` and zero give way. -/
def orElse (a : Option Dec) (b : Dec) : Dec := if a.getD 0 = 0 then b else a.getD 0

/-! ## Polymarket, Predict.fun and Myriad -/

/-- What one of the three connectors does with a payload. -/
structure OrderReader where
  /-- The status as `wait_filled` compares it, empty where there is none. -/
  waitStatus : Json → String
  /-- The status as `get_order` passes it on. -/
  orderStatus : Json → String
  /-- The spellings that end the wait, with and without a complete fill. -/
  filledStatuses : List String
  endedStatuses : List String
  nonempty_filled : "" ∉ filledStatuses
  nonempty_ended : "" ∉ endedStatuses
  filledAmount : Json → Option Dec
  avgPrice : Json → Option Dec
  /-- `_normalize_order_amount`, of a value and the requested amount. -/
  normalizeAmount : Dec → Dec → Dec
  normalizeAmount_zero : ∀ requested, normalizeAmount 0 requested = 0
  /-- `_normalize_price`. -/
  normalizePrice : Dec → Dec
  normalizePrice_zero : normalizePrice 0 = 0

namespace OrderReader

variable (reader : OrderReader) (orderId : String) (requested price : Dec)

/-- The filled amount of a payload, in shares. -/
def parsedFilled (payload : Json) : Option Dec :=
  (reader.filledAmount payload).map fun value => reader.normalizeAmount value requested

/-- What `wait_filled` remembers between the polls. -/
structure Last where
  filled : Dec := 0
  status : String := "pending"
  avgPrice : Dec

/-- The loop of `wait_filled` over the payloads it reads until the deadline. -/
def waitLoop (last : Last) : List Json → ExecutionReport
  | [] => fromFloats float orderId requested last.filled last.status last.avgPrice
  | payload :: rest =>
      let status := reader.waitStatus payload
      let parsedFilled := reader.parsedFilled requested payload
      let last : Last :=
        { filled := parsedFilled.elim last.filled (max last.filled)
          status := if status = "" then last.status else status
          avgPrice := (reader.avgPrice payload).elim last.avgPrice reader.normalizePrice }
      if status ∈ reader.filledStatuses then
        fromFloats float orderId requested (orElse parsedFilled requested) status last.avgPrice
      else if status ∈ reader.endedStatuses then
        fromFloats float orderId requested last.filled status last.avgPrice
      else waitLoop last rest

/-- `wait_filled`, for an order with a remembered amount and price. -/
def waitFilled (payloads : List Json) : ExecutionReport :=
  reader.waitLoop float orderId requested { avgPrice := price } payloads

/-- `get_order`, for such an order. -/
def getOrder (payload : Json) : ExecutionReport :=
  fromFloats float orderId requested
    (reader.normalizeAmount ((reader.filledAmount payload).getD 0) requested)
    (reader.orderStatus payload)
    (reader.normalizePrice (orElse (reader.avgPrice payload) price))

/-- The payload ends the wait. -/
def EndsWait (payload : Json) : Prop :=
  reader.waitStatus payload ∈ reader.filledStatuses ∨
    reader.waitStatus payload ∈ reader.endedStatuses

/-- What is remembered after a payload. -/
def Last.after (last : Last) (payload : Json) : Last :=
  { filled := (reader.parsedFilled requested payload).elim last.filled (max last.filled)
    status := if reader.waitStatus payload = "" then last.status else reader.waitStatus payload
    avgPrice := (reader.avgPrice payload).elim last.avgPrice reader.normalizePrice }

theorem waitLoop_cons (last : Last) (payload : Json) (rest : List Json) :
    reader.waitLoop float orderId requested last (payload :: rest) =
      if reader.waitStatus payload ∈ reader.filledStatuses then
        fromFloats float orderId requested
          (orElse (reader.parsedFilled requested payload) requested) (reader.waitStatus payload)
          (last.after reader requested payload).avgPrice
      else if reader.waitStatus payload ∈ reader.endedStatuses then
        fromFloats float orderId requested (last.after reader requested payload).filled
          (reader.waitStatus payload) (last.after reader requested payload).avgPrice
      else
        reader.waitLoop float orderId requested (last.after reader requested payload) rest := rfl

/-- Reading a payload again changes nothing. -/
theorem Last.after_after (last : Last) (payload : Json) :
    (last.after reader requested payload).after reader requested payload =
      last.after reader requested payload := by
  unfold Last.after
  congr 1
  · cases reader.parsedFilled requested payload with
    | none => rfl
    | some value => simp
  · split
    · rfl
    · rfl
  · cases reader.avgPrice payload with
    | none => rfl
    | some value => rfl

/-- Once a payload ends the wait, the others are not read. -/
theorem waitLoop_of_endsWait {payload : Json} (h : reader.EndsWait payload) (last : Last)
    (rest : List Json) :
    reader.waitLoop float orderId requested last (payload :: rest) =
      reader.waitLoop float orderId requested last [payload] := by
  rw [waitLoop_cons, waitLoop_cons]
  rcases h with hfilled | hended
  · rw [if_pos hfilled, if_pos hfilled]
  · rw [if_pos hended, if_pos hended]

/-- Reading the same order again, the wait reports what it reports after the first poll. -/
theorem waitLoop_same {payload : Json} {rest : List Json}
    (hrest : ∀ later ∈ rest, later = payload ∨ reader.EndsWait payload) (last : Last) :
    reader.waitLoop float orderId requested last (payload :: rest) =
      reader.waitLoop float orderId requested last [payload] := by
  by_cases hends : reader.EndsWait payload
  · exact reader.waitLoop_of_endsWait float orderId requested hends last rest
  induction rest generalizing last with
  | nil => rfl
  | cons later rest ih =>
    have hlater : later = payload := (hrest later (by simp)).resolve_right hends
    subst hlater
    have hfilled : reader.waitStatus later ∉ reader.filledStatuses := fun h => hends (.inl h)
    have hended : reader.waitStatus later ∉ reader.endedStatuses := fun h => hends (.inr h)
    have ih := ih (fun value hvalue => hrest value (by simp [hvalue]))
      (last.after reader requested later)
    rw [waitLoop_cons, if_neg hfilled, if_neg hended, ih]
    simp only [waitLoop_cons, if_neg hfilled, if_neg hended, Last.after_after]

/-! ## When the readings agree -/

/-- A status that means a complete fill comes with a filled amount. -/
def FilledAgrees (payload : Json) : Prop :=
  reader.waitStatus payload ∈ reader.filledStatuses →
    (reader.parsedFilled requested payload).getD 0 = 0 → float.text requested ≤ 0

/-- The price is there and not zero; or the remembered price does not matter. -/
def PriceAgrees (payload : Json) : Prop :=
  match reader.avgPrice payload with
  | none => max 0 (float.text price) = max 0 (float.text (reader.normalizePrice price))
  | some value => value = 0 → float.text (reader.normalizePrice price) ≤ 0

/-- The status `wait_filled` ends with. -/
def finalStatus (payload : Json) : String :=
  if reader.waitStatus payload = "" then "pending" else reader.waitStatus payload

end OrderReader

/-- What a status text stands for on its own. -/
def textStatus (status : String) : ExecutionStatus := executionStatus status 0 0

theorem executionStatus_eq (status : String) (filled requested : Dec) :
    executionStatus status filled requested =
      if textStatus status = .filled then .filled
      else if 0 < filled ∧ filled < requested then .partlyFilled
      else textStatus status := by
  unfold textStatus executionStatus
  simp only [lt_self_iff_false, false_and, or_false]
  split_ifs <;> simp_all

/-- Two texts give one status, with the amounts as they are. -/
theorem executionStatus_eq_iff (a b : String) (filled requested : Dec) :
    executionStatus a filled requested = executionStatus b filled requested ↔
      textStatus a = textStatus b ∨
        textStatus a ≠ .filled ∧ textStatus b ≠ .filled ∧ 0 < filled ∧ filled < requested := by
  rw [executionStatus_eq a, executionStatus_eq b]
  by_cases hpartly : 0 < filled ∧ filled < requested
  · rw [if_pos hpartly, if_pos hpartly]
    by_cases ha : textStatus a = .filled
    · by_cases hb : textStatus b = .filled
      · simp [ha, hb]
      · simpa [ha, hb] using fun h => hb h.symm
    · by_cases hb : textStatus b = .filled
      · simp [ha, hb]
      · simp [ha, hb, hpartly]
  · rw [if_neg hpartly, if_neg hpartly]
    by_cases ha : textStatus a = .filled <;> by_cases hb : textStatus b = .filled <;>
      simp_all [eq_comm]

namespace OrderReader

variable (reader : OrderReader) (orderId : String) (requested price : Dec)

/-- The statuses stand for the same, or the order is partly filled either way. -/
def StatusAgrees (payload : Json) : Prop :=
  textStatus (reader.finalStatus payload) = textStatus (reader.orderStatus payload) ∨
    (textStatus (reader.finalStatus payload) ≠ .filled ∧
      textStatus (reader.orderStatus payload) ≠ .filled ∧
      0 < float.text ((reader.parsedFilled requested payload).getD 0) ∧
      float.text ((reader.parsedFilled requested payload).getD 0) < float.text requested)

/-- What the wait reports of an order it reads the same again and again. -/
theorem waitFilled_singleton (payload : Json) :
    reader.waitFilled float orderId requested price [payload] =
      fromFloats float orderId requested
        (if reader.waitStatus payload ∈ reader.filledStatuses then
          orElse (reader.parsedFilled requested payload) requested
        else max 0 ((reader.parsedFilled requested payload).getD 0))
        (reader.finalStatus payload)
        ((reader.avgPrice payload).elim price reader.normalizePrice) := by
  have hlast : ((reader.parsedFilled requested payload).elim 0 (max 0) : Dec) =
      max 0 ((reader.parsedFilled requested payload).getD 0) := by
    cases reader.parsedFilled requested payload with
    | none => simp
    | some value => rfl
  show reader.waitLoop float orderId requested { avgPrice := price } [payload] = _
  rw [waitLoop_cons]
  by_cases hfilled : reader.waitStatus payload ∈ reader.filledStatuses
  · have hne : reader.waitStatus payload ≠ "" := fun h => reader.nonempty_filled (h ▸ hfilled)
    simp only [if_pos hfilled, finalStatus, if_neg hne, Last.after]
  rw [if_neg hfilled, if_neg hfilled]
  by_cases hended : reader.waitStatus payload ∈ reader.endedStatuses
  · have hne : reader.waitStatus payload ≠ "" := fun h => reader.nonempty_ended (h ▸ hended)
    simp only [if_pos hended, finalStatus, if_neg hne, Last.after, hlast]
  · simp only [if_neg hended, waitLoop, finalStatus, Last.after, hlast]

/-- `get_order` takes the filled amount the wait parses, and zero where there is none. -/
theorem getOrder_eq (payload : Json) :
    reader.getOrder float orderId requested price payload =
      fromFloats float orderId requested ((reader.parsedFilled requested payload).getD 0)
        (reader.orderStatus payload)
        (reader.normalizePrice (orElse (reader.avgPrice payload) price)) := by
  unfold getOrder parsedFilled
  cases reader.filledAmount payload with
  | none => simp [reader.normalizeAmount_zero]
  | some value => rfl

end OrderReader

theorem sameReading_fromFloats_iff (orderId : String) (requested fa fb : Dec) (sa sb : String)
    (pa pb : Dec) :
    SameReading (fromFloats float orderId requested fa sa pa)
        (fromFloats float orderId requested fb sb pb) ↔
      booked (float.text requested) (float.text fa) =
          booked (float.text requested) (float.text fb) ∧
        executionStatus sa (booked (float.text requested) (float.text fb))
            (max 0 (float.text requested)) =
          executionStatus sb (booked (float.text requested) (float.text fb))
            (max 0 (float.text requested)) ∧
        max 0 (float.text pa) = max 0 (float.text pb) := by
  unfold SameReading
  simp only [fromFloats, fromStatusText_status, fromStatusText_amountFilled,
    fromStatusText_avgPrice]
  constructor
  · rintro ⟨hstatus, hfilled, hprice⟩
    rw [hfilled] at hstatus
    exact ⟨hfilled, hstatus, hprice⟩
  · rintro ⟨hfilled, hstatus, hprice⟩
    rw [hfilled]
    exact ⟨hstatus, rfl, hprice⟩

theorem text_zero : float.text 0 = 0 :=
  float.text_of_fits 0 ⟨0, 0, by norm_num, by norm_num⟩

theorem booked_max (requested filled : Dec) :
    booked (float.text requested) (float.text (max 0 filled)) =
      booked (float.text requested) (float.text filled) := by
  rcases le_total filled 0 with hneg | hpos
  · have htext := float.text_nonpos filled hneg
    unfold booked
    rw [max_eq_left hneg, text_zero, max_self, max_eq_left htext]
  · rw [max_eq_right hpos]

/-- A booked fill is a partial one just when the amounts read are. -/
theorem booked_partial (requested filled : Dec) :
    (0 < booked (float.text requested) (float.text filled) ∧
        booked (float.text requested) (float.text filled) < max 0 (float.text requested)) ↔
      0 < float.text filled ∧ float.text filled < float.text requested := by
  unfold booked
  constructor
  · rintro ⟨hpos, hlt⟩
    have hrequested : 0 < float.text requested := by
      have h := hpos.trans_le (min_le_right _ _)
      exact (lt_max_iff.mp h).resolve_left (lt_irrefl 0)
    have hfilled : 0 < float.text filled := by
      have h := hpos.trans_le (min_le_left _ _)
      exact (lt_max_iff.mp h).resolve_left (lt_irrefl 0)
    rw [max_eq_right hrequested.le, max_eq_right hfilled.le] at hlt
    exact ⟨hfilled, (min_lt_iff.mp hlt).resolve_right (lt_irrefl _)⟩
  · rintro ⟨hpos, hlt⟩
    rw [max_eq_right hpos.le, max_eq_right (hpos.trans hlt).le, min_eq_left hlt.le]
    exact ⟨hpos, hlt⟩

namespace OrderReader

variable (reader : OrderReader) (orderId : String) (requested price : Dec)

theorem filledAgrees_iff (payload : Json) :
    reader.FilledAgrees float requested payload ↔
      booked (float.text requested) (float.text
          (if reader.waitStatus payload ∈ reader.filledStatuses then
            orElse (reader.parsedFilled requested payload) requested
          else max 0 ((reader.parsedFilled requested payload).getD 0))) =
        booked (float.text requested)
          (float.text ((reader.parsedFilled requested payload).getD 0)) := by
  unfold FilledAgrees
  by_cases hfilled : reader.waitStatus payload ∈ reader.filledStatuses
  · rw [if_pos hfilled]
    unfold orElse
    by_cases hzero : (reader.parsedFilled requested payload).getD 0 = 0
    · rw [if_pos hzero, hzero]
      simp only [hfilled, booked, text_zero, max_self, min_self, true_imp_iff]
      rw [min_eq_left (le_max_left _ _), max_eq_left_iff]
    · rw [if_neg hzero]
      exact ⟨fun _ => rfl, fun _ _ h => absurd h hzero⟩
  · rw [if_neg hfilled, booked_max]
    exact ⟨fun _ => rfl, fun _ h => absurd h hfilled⟩

theorem priceAgrees_iff (payload : Json) :
    reader.PriceAgrees float price payload ↔
      max 0 (float.text ((reader.avgPrice payload).elim price reader.normalizePrice)) =
        max 0 (float.text (reader.normalizePrice (orElse (reader.avgPrice payload) price))) := by
  unfold PriceAgrees orElse
  cases hprice : reader.avgPrice payload with
  | none => simp
  | some value =>
    simp only [Option.getD_some, Option.elim_some]
    by_cases hzero : value = 0
    · rw [if_pos hzero, hzero, reader.normalizePrice_zero, text_zero, max_self,
        eq_comm (a := (0 : Dec)) (b := max 0 _), max_eq_left_iff]
      simp
    · simp [hzero]

theorem statusAgrees_iff (payload : Json) :
    reader.StatusAgrees float requested payload ↔
      executionStatus (reader.finalStatus payload)
          (booked (float.text requested)
            (float.text ((reader.parsedFilled requested payload).getD 0)))
          (max 0 (float.text requested)) =
        executionStatus (reader.orderStatus payload)
          (booked (float.text requested)
            (float.text ((reader.parsedFilled requested payload).getD 0)))
          (max 0 (float.text requested)) := by
  unfold StatusAgrees
  rw [executionStatus_eq_iff, booked_partial]

/-- **The two readings of an order.**  However often the wait polls, its report and the one of
`get_order` are the same just when filled amount, price and status agree. -/
theorem sameReading_iff {payload : Json} {rest : List Json}
    (hrest : ∀ later ∈ rest, later = payload ∨ reader.EndsWait payload) :
    SameReading (reader.waitFilled float orderId requested price (payload :: rest))
        (reader.getOrder float orderId requested price payload) ↔
      reader.FilledAgrees float requested payload ∧ reader.PriceAgrees float price payload ∧
        reader.StatusAgrees float requested payload := by
  have hwait : reader.waitFilled float orderId requested price (payload :: rest) =
      reader.waitFilled float orderId requested price [payload] :=
    reader.waitLoop_same float orderId requested hrest _
  rw [hwait, waitFilled_singleton, getOrder_eq, sameReading_fromFloats_iff, filledAgrees_iff,
    priceAgrees_iff, statusAgrees_iff]
  exact and_congr_right' and_comm

end OrderReader

/-! ## The three connectors -/

/-- A status that both read under the same keys stands for the same. -/
theorem textStatus_defaults (value : Json) :
    textStatus (if textOr float "" value = "" then "pending" else textOr float "" value) =
      textStatus (textOr float "open" value) := by
  unfold textOr
  by_cases htruth : value.truth = true
  · simp only [if_pos htruth]
    split
    · next hempty =>
      rw [hempty]
      decide +kernel
    · rfl
  · simp only [if_neg htruth]
    decide +kernel

namespace Polymarket

def statusKeys : List String := ["status", "state", "orderStatus"]

/-- What `PolymarketClobClient` reads. -/
def reader : OrderReader where
  waitStatus payload := textOr float "" (payload.extractFirst statusKeys)
  orderStatus payload := textOr float "open" (payload.extractFirst statusKeys)
  filledStatuses := ["FILLED", "filled", "MATCHED", "matched"]
  endedStatuses := ["CANCELED", "cancelled", "CANCELLED", "EXPIRED", "expired"]
  nonempty_filled := by decide
  nonempty_ended := by decide
  filledAmount payload := floatOf float (payload.extractFirst
    ["size_matched", "sizeMatched", "filledAmount", "filled_amount", "amountFilled",
      "executedAmount"])
  avgPrice payload := floatOf float (payload.extractFirst
    ["avg_price", "average_price", "avgPrice", "averagePrice"])
  normalizeAmount value _ := value
  normalizeAmount_zero _ := rfl
  normalizePrice value := value
  normalizePrice_zero := rfl

/-- Both readings see one status. -/
theorem statusAgrees (requested : Dec) (payload : Json) :
    (reader float).StatusAgrees float requested payload :=
  .inl (textStatus_defaults float _)

end Polymarket

/-- The spellings of Predict.fun and Myriad. -/
def filledSpellings : List String := ["filled", "matched", "executed", "complete", "completed"]

def endedSpellings : List String := ["cancelled", "canceled", "expired", "rejected", "failed"]

def nestedFilledAmount (payload : Json) : Option Dec :=
  floatOf float (payload.extractFirstNested
    ["filledAmount", "filled_amount", "amountFilled", "executedAmount", "matchedAmount",
      "sizeMatched"])

/-- `_normalize_price`, at a number of decimals. -/
def normalizePriceAt (precision : ℕ) (value : Dec) : Dec :=
  if 1 < value then value / 10 ^ precision else value

theorem normalizePriceAt_zero (precision : ℕ) : normalizePriceAt precision 0 = 0 :=
  if_neg (by norm_num)

namespace PredictFun

def normalizeOrderAmount (precision : ℕ) (value requested : Dec) : Dec :=
  if (0 < requested ∧ requested * 1000 < value) ∨ (requested ≤ 0 ∧ 10 ^ 12 ≤ |value|) then
    value / 10 ^ precision
  else value

theorem normalizeOrderAmount_zero (precision : ℕ) (requested : Dec) :
    normalizeOrderAmount precision 0 requested = 0 := by
  unfold normalizeOrderAmount
  split
  · exact zero_div _
  · rfl

/-- What `PredictFunApiClient` reads. -/
def reader (precision : ℕ) : OrderReader where
  waitStatus payload :=
    lower (textOr float ""
      (payload.extractFirstNested ["status", "state", "orderStatus", "order_status"]))
  orderStatus payload :=
    textOr float "open" (payload.extractFirstNested ["status", "state", "orderStatus"])
  filledStatuses := filledSpellings
  endedStatuses := endedSpellings
  nonempty_filled := by decide
  nonempty_ended := by decide
  filledAmount := nestedFilledAmount float
  avgPrice payload := floatOf float (payload.extractFirstNested
    ["avgPrice", "averagePrice", "avg_price", "average_price"])
  normalizeAmount := normalizeOrderAmount precision
  normalizeAmount_zero := normalizeOrderAmount_zero precision
  normalizePrice := normalizePriceAt precision
  normalizePrice_zero := normalizePriceAt_zero precision

end PredictFun

namespace Myriad

def statusKeys : List String := ["status", "state", "orderStatus"]

/-- `SHARE_DECIMALS` and `PRICE_DECIMALS`. -/
def shareDecimals : ℕ := 18

def priceDecimals : ℕ := 18

def normalizeOrderAmount (value requested : Dec) : Dec :=
  if 0 < requested ∧ requested * 1000 < value then value / 10 ^ shareDecimals else value

theorem normalizeOrderAmount_zero (requested : Dec) : normalizeOrderAmount 0 requested = 0 := by
  unfold normalizeOrderAmount
  split
  · exact zero_div _
  · rfl

/-- `_extract_avg_price`: the price itself, or the value for each share. -/
def avgPrice (payload : Json) : Option Dec :=
  let value := payload.extractFirstNested
    ["avgPrice", "averagePrice", "avg_price", "average_price", "price"]
  if value.isBlank then do
    let shares ← decimalOf float (payload.extractFirstNested ["shares"])
    let totalValue ← decimalOf float (payload.extractFirstNested ["value"])
    if shares = 0 then none else some |Dec.div totalValue shares|
  else floatOf float value

/-- What `MyriadClient` reads. -/
def reader : OrderReader where
  waitStatus payload := lower (textOr float "" (payload.extractFirstNested statusKeys))
  orderStatus payload := textOr float "open" (payload.extractFirstNested statusKeys)
  filledStatuses := filledSpellings
  endedStatuses := endedSpellings
  nonempty_filled := by decide
  nonempty_ended := by decide
  filledAmount := nestedFilledAmount float
  avgPrice := avgPrice float
  normalizeAmount := normalizeOrderAmount
  normalizeAmount_zero := normalizeOrderAmount_zero
  normalizePrice := normalizePriceAt priceDecimals
  normalizePrice_zero := normalizePriceAt_zero priceDecimals

theorem textStatus_lower (status : String) : textStatus (lower status) = textStatus status := by
  have hnormal : normalizedStatus (lower status) = normalizedStatus status := by
    unfold normalizedStatus
    rw [strip_lower, lower_lower]
  unfold textStatus executionStatus
  rw [hnormal]

/-- Both readings see one status; only its case differs. -/
theorem statusAgrees (requested : Dec) (payload : Json) :
    (reader float).StatusAgrees float requested payload := by
  left
  have h := textStatus_defaults float (payload.extractFirstNested statusKeys)
  show textStatus (if lower _ = "" then "pending" else lower _) = _
  refine Eq.trans ?_ h
  simp only [lower_eq_empty]
  split
  · rfl
  · exact textStatus_lower _

end Myriad

/-! ## Opinion -/

namespace Opinion

/-- `payload.get(key)`. -/
def get (key : String) : Json → Json
  | .object _ fields => fields key
  | _ => .missing

/-- What `_order_payload` makes of the result of the request. -/
def orderPayload : Json → Json
  | .object isEmpty fields =>
      match fields "order" with
      | .object isEmpty' order => .object isEmpty' order
      | _ => .object isEmpty fields
  | _ => .object true fun _ => .missing

/-- `_decimal_field`: the first of the fields that is a number. -/
def decimalField (keys : List String) (payload : Json) : Option Dec :=
  keys.findSome? fun key => decimalOf float (get key payload)

/-- `_EXECUTION_STATUS_BY_CODE`. -/
def executionStatusByCode : ℤ → Option String
  | 1 => some "open"
  | 2 => some "filled"
  | 3 => some "cancelled"
  | 4 => some "expired"
  | 5 => some "cancelled"
  | _ => none

/-- `_ORDER_STATUS_FILLED`. -/
def statusFilled : ℤ := 2

/-- `_TERMINAL_ORDER_STATUSES`. -/
def terminalStatuses : List ℤ := [2, 3, 4, 5]

variable (orderId : String) (requested price : Dec)

def statusCode (payload : Json) : Option ℤ := optionalInt float (get "status" payload)

/-- The filled amounts the two read: the wait takes the size of the order for one. -/
def waitedFill (payload : Json) : Dec :=
  (decimalField float ["filledShares", "shares", "filledAmount"] payload).getD 0

def orderFill (payload : Json) : Dec :=
  (decimalField float ["filledShares", "filledAmount"] payload).getD 0

def avgPrice (payload : Json) : Option Dec := decimalField float ["avgPrice", "price"] payload

/-- What `wait_filled` remembers between the polls. -/
structure Last where
  filled : Dec := 0
  price : Dec
  status : String := "open"

def Last.after (last : Last) (payload : Json) : Last :=
  { filled := max last.filled (waitedFill float payload)
    price := (avgPrice float payload).getD last.price
    status := ((statusCode float payload).bind executionStatusByCode).getD last.status }

/-- The payload ends the wait. -/
def EndsWait (payload : Json) : Prop := ∃ code ∈ statusCode float payload, code ∈ terminalStatuses

instance (payload : Json) : Decidable (EndsWait float payload) :=
  inferInstanceAs (Decidable (∃ code ∈ statusCode float payload, code ∈ terminalStatuses))

/-- The loop of `wait_filled` over the results it reads until the deadline. -/
def waitLoop (last : Last) : List Json → ExecutionReport
  | [] => fromStatusText orderId requested last.filled last.status last.price
  | result :: rest =>
      let payload := orderPayload result
      let last := last.after float payload
      if EndsWait float payload then
        let resolved :=
          if statusCode float payload = some statusFilled ∧ last.filled = 0 then requested
          else last.filled
        fromStatusText orderId requested resolved last.status last.price
      else waitLoop last rest

/-- `wait_filled`, for an order with a remembered amount and price. -/
def waitFilled (results : List Json) : ExecutionReport :=
  waitLoop float orderId requested { price } results

/-- `get_order`, for such an order. -/
def getOrder (result : Json) : ExecutionReport :=
  let payload := orderPayload result
  let code := (statusCode float payload).getD 0
  fromStatusText orderId
    (orElse (some requested) ((decimalField float ["shares", "amount"] payload).getD 0))
    (orderFill float payload)
    ((executionStatusByCode (if code = 0 then 1 else code)).getD "open")
    (orElse (avgPrice float payload) price)

theorem waitLoop_cons (last : Last) (result : Json) (rest : List Json) :
    waitLoop float orderId requested last (result :: rest) =
      if EndsWait float (orderPayload result) then
        fromStatusText orderId requested
          (if statusCode float (orderPayload result) = some statusFilled ∧
              (last.after float (orderPayload result)).filled = 0 then requested
          else (last.after float (orderPayload result)).filled)
          (last.after float (orderPayload result)).status
          (last.after float (orderPayload result)).price
      else waitLoop float orderId requested (last.after float (orderPayload result)) rest := rfl

/-- Reading a payload again changes nothing. -/
theorem Last.after_after (last : Last) (payload : Json) :
    (last.after float payload).after float payload = last.after float payload := by
  unfold Last.after
  congr 1
  · simp
  · cases avgPrice float payload with
    | none => rfl
    | some value => rfl
  · cases (statusCode float payload).bind executionStatusByCode with
    | none => rfl
    | some status => rfl

/-- Reading the same order again, the wait reports what it reports after the first poll. -/
theorem waitLoop_same {result : Json} {rest : List Json}
    (hrest : ∀ later ∈ rest, later = result ∨ EndsWait float (orderPayload result)) (last : Last) :
    waitLoop float orderId requested last (result :: rest) =
      waitLoop float orderId requested last [result] := by
  by_cases hends : EndsWait float (orderPayload result)
  · rw [waitLoop_cons, waitLoop_cons, if_pos hends, if_pos hends]
  induction rest generalizing last with
  | nil => rfl
  | cons later rest ih =>
    have hlater : later = result := (hrest later (by simp)).resolve_right hends
    subst hlater
    have ih := ih (fun value hvalue => hrest value (by simp [hvalue]))
      (last.after float (orderPayload later))
    rw [waitLoop_cons, if_neg hends, ih]
    simp only [if_neg hends, Last.after_after, waitLoop]

/-- The filled amounts, where the remembered amount is positive: a filled order without a positive
amount is the requested one to the wait.  Where it is zero, `get_order` takes the size of the order
for it. -/
def FilledAgrees (payload : Json) : Prop :=
  (requested = 0 →
      orderFill float payload ≤ 0 ∨
        (decimalField float ["shares", "amount"] payload).getD 0 ≤ 0) ∧
    (0 < requested →
      if statusCode float payload = some statusFilled ∧ waitedFill float payload ≤ 0 then
        requested ≤ orderFill float payload
      else
        max 0 (waitedFill float payload) = max 0 (orderFill float payload) ∨
          (requested ≤ waitedFill float payload ∧ requested ≤ orderFill float payload))

/-- A price of zero is not replaced by a positive remembered one. -/
def PriceAgrees (payload : Json) : Prop := avgPrice float payload = some 0 → price ≤ 0

/-- The status text of both. -/
def statusText (payload : Json) : String :=
  ((statusCode float payload).bind executionStatusByCode).getD "open"

theorem orderStatusText (payload : Json) :
    ((executionStatusByCode
        (if (statusCode float payload).getD 0 = 0 then 1
        else (statusCode float payload).getD 0)).getD "open") =
      statusText float payload := by
  unfold statusText
  cases statusCode float payload with
  | none => rfl
  | some code =>
    by_cases hzero : code = 0
    · subst hzero
      rfl
    · simp [hzero]

/-- What the wait reports of an order it reads the same again and again. -/
theorem waitFilled_singleton (result : Json) :
    waitFilled float orderId requested price [result] =
      fromStatusText orderId requested
        (if statusCode float (orderPayload result) = some statusFilled ∧
            waitedFill float (orderPayload result) ≤ 0 then requested
        else max 0 (waitedFill float (orderPayload result)))
        (statusText float (orderPayload result))
        ((avgPrice float (orderPayload result)).getD price) := by
  have hzero : max 0 (waitedFill float (orderPayload result)) = 0 ↔
      waitedFill float (orderPayload result) ≤ 0 := max_eq_left_iff
  show waitLoop float orderId requested { price } [result] = _
  rw [waitLoop_cons]
  by_cases hends : EndsWait float (orderPayload result)
  · rw [if_pos hends]
    simp only [Last.after, hzero, statusText]
  · have hfilled : statusCode float (orderPayload result) ≠ some statusFilled := by
      intro hcode
      exact hends ⟨statusFilled, hcode, by decide⟩
    rw [if_neg hends]
    simp only [waitLoop, hfilled, false_and, if_false, Last.after, statusText]

theorem sameReading_fromStatusText_iff {ra rb : Dec} (hrequested : rb = ra ∨ ra = 0)
    (fa fb : Dec) (status : String) (pa pb : Dec) :
    SameReading (fromStatusText orderId ra fa status pa) (fromStatusText orderId rb fb status pb) ↔
      booked ra fa = booked rb fb ∧ max 0 pa = max 0 pb := by
  unfold SameReading
  simp only [fromStatusText_status, fromStatusText_amountFilled, fromStatusText_avgPrice]
  constructor
  · exact And.right
  · rintro ⟨hbooked, hprice⟩
    refine ⟨?_, hbooked, hprice⟩
    rcases hrequested with rfl | rfl
    · rw [hbooked]
    · have hnone : booked 0 fa = 0 := by simp [booked]
      rw [← hbooked, hnone, executionStatus_eq, executionStatus_eq status 0]
      simp

/-- The amount `get_order` takes for the requested one. -/
def orderRequested (payload : Json) : Dec :=
  orElse (some requested) ((decimalField float ["shares", "amount"] payload).getD 0)

theorem orderRequested_eq (payload : Json) :
    orderRequested float requested payload = requested ∨ requested = 0 := by
  unfold orderRequested orElse
  by_cases hzero : requested = 0
  · exact .inr hzero
  · exact .inl (if_neg hzero)

theorem booked_eq_zero_iff (requested filled : Dec) :
    booked requested filled = 0 ↔ filled ≤ 0 ∨ requested ≤ 0 := by
  unfold booked
  constructor
  · intro hzero
    rcases min_choice (max 0 filled) (max 0 requested) with h | h
    · exact .inl (max_eq_left_iff.mp (h ▸ hzero))
    · exact .inr (max_eq_left_iff.mp (h ▸ hzero))
  · rintro (h | h)
    · rw [max_eq_left h]
      exact min_eq_left (le_max_left _ _)
    · rw [max_eq_left h]
      exact min_eq_right (le_max_left _ _)

theorem booked_eq_requested_iff {requested filled : Dec} (hpos : 0 < requested) :
    requested = booked requested filled ↔ requested ≤ filled := by
  unfold booked
  rw [max_eq_right hpos.le, eq_comm, min_eq_right_iff, le_max_iff]
  exact ⟨fun h => h.resolve_left hpos.not_ge, .inr⟩

/-- Two fills are booked alike when they are the same, or both reach the requested amount. -/
theorem booked_eq_iff {requested a b : Dec} (hpos : 0 < requested) :
    booked requested a = booked requested b ↔
      max 0 a = max 0 b ∨ (requested ≤ a ∧ requested ≤ b) := by
  have hreach : ∀ x : Dec, requested ≤ max 0 x ↔ requested ≤ x := fun x => by
    rw [le_max_iff]
    exact ⟨fun h => h.resolve_left hpos.not_ge, .inr⟩
  rw [← hreach a, ← hreach b]
  unfold booked
  rw [max_eq_right hpos.le]
  constructor
  · intro heq
    rcases le_total requested (max 0 a) with ha | ha
    · rw [min_eq_right ha] at heq
      exact .inr ⟨ha, min_eq_right_iff.mp heq.symm⟩
    · rw [min_eq_left ha] at heq
      rcases le_total requested (max 0 b) with hb | hb
      · rw [min_eq_right hb] at heq
        exact .inr ⟨heq.ge, hb⟩
      · rw [min_eq_left hb] at heq
        exact .inl heq
  · rintro (heq | ⟨ha, hb⟩)
    · rw [heq]
    · rw [min_eq_right ha, min_eq_right hb]

theorem filledAgrees_iff (payload : Json) :
    FilledAgrees float requested payload ↔
      booked requested
          (if statusCode float payload = some statusFilled ∧ waitedFill float payload ≤ 0 then
            requested
          else max 0 (waitedFill float payload)) =
        booked (orderRequested float requested payload) (orderFill float payload) := by
  unfold FilledAgrees
  rcases lt_trichotomy requested 0 with hneg | hzero | hpos
  · have hsame : orderRequested float requested payload = requested :=
      (orderRequested_eq float requested payload).resolve_right hneg.ne
    have hleft := fun filled => (booked_eq_zero_iff requested filled).mpr (.inr hneg.le)
    rw [hsame, hleft, hleft]
    simp [hneg.ne, hneg.le.not_gt]
  · subst hzero
    have hleft := fun filled => (booked_eq_zero_iff 0 filled).mpr (.inr le_rfl)
    rw [hleft, eq_comm (a := (0 : Dec)) (b := booked _ _), booked_eq_zero_iff]
    simp [orderRequested, orElse]
  · have hsame : orderRequested float requested payload = requested :=
      (orderRequested_eq float requested payload).resolve_right hpos.ne'
    rw [hsame]
    simp only [hpos.ne', hpos, false_imp_iff, true_imp_iff, true_and]
    split
    · have hall : booked requested requested = requested := by simp [booked, hpos.le]
      rw [hall, booked_eq_requested_iff hpos]
    · have hmax : booked requested (max 0 (waitedFill float payload)) =
          booked requested (waitedFill float payload) := by simp [booked]
      rw [hmax, booked_eq_iff hpos]

theorem priceAgrees_iff (payload : Json) :
    PriceAgrees float price payload ↔
      max 0 ((avgPrice float payload).getD price) =
        max 0 (orElse (avgPrice float payload) price) := by
  unfold PriceAgrees orElse
  cases avgPrice float payload with
  | none => simp
  | some value =>
    by_cases hzero : value = 0
    · subst hzero
      simp [eq_comm (a := (0 : Dec)) (b := max 0 _)]
    · simp [hzero]

/-- The two readings of an order of Opinion. -/
theorem sameReading_iff {result : Json} {rest : List Json}
    (hrest : ∀ later ∈ rest, later = result ∨ EndsWait float (orderPayload result)) :
    SameReading (waitFilled float orderId requested price (result :: rest))
        (getOrder float orderId requested price result) ↔
      FilledAgrees float requested (orderPayload result) ∧
        PriceAgrees float price (orderPayload result) := by
  have hwait : waitFilled float orderId requested price (result :: rest) =
      waitFilled float orderId requested price [result] :=
    waitLoop_same float orderId requested hrest _
  have horder : getOrder float orderId requested price result =
      fromStatusText orderId (orderRequested float requested (orderPayload result))
        (orderFill float (orderPayload result)) (statusText float (orderPayload result))
        (orElse (avgPrice float (orderPayload result)) price) := by
    rw [← orderStatusText]
    rfl
  rw [hwait, horder, waitFilled_singleton,
    sameReading_fromStatusText_iff orderId (orderRequested_eq float requested _),
    filledAgrees_iff, priceAgrees_iff]

end Opinion

/-! ## The four connectors -/

/-- The connectors that read an order twice. -/
inductive Connector
  | polymarket
  | predictFun (precision : ℕ)
  | myriad
  | opinion

namespace Connector

variable (orderId : String) (requested price : Dec)

/-- The payload ends the wait. -/
def EndsWait (payload : Json) : Connector → Prop
  | polymarket => (Polymarket.reader float).EndsWait payload
  | predictFun precision => (PredictFun.reader float precision).EndsWait payload
  | myriad => (Myriad.reader float).EndsWait payload
  | opinion => Opinion.EndsWait float (Opinion.orderPayload payload)

/-- `wait_filled`, over the payloads it reads. -/
def waitFilled (payloads : List Json) : Connector → ExecutionReport
  | polymarket => (Polymarket.reader float).waitFilled float orderId requested price payloads
  | predictFun precision =>
      (PredictFun.reader float precision).waitFilled float orderId requested price payloads
  | myriad => (Myriad.reader float).waitFilled float orderId requested price payloads
  | opinion => Opinion.waitFilled float orderId requested price payloads

/-- `get_order`. -/
def getOrder (payload : Json) : Connector → ExecutionReport
  | polymarket => (Polymarket.reader float).getOrder float orderId requested price payload
  | predictFun precision =>
      (PredictFun.reader float precision).getOrder float orderId requested price payload
  | myriad => (Myriad.reader float).getOrder float orderId requested price payload
  | opinion => Opinion.getOrder float orderId requested price payload

/-- When filled amount, price and status are read alike.  Polymarket and Myriad read the status
under the same keys, and so does Opinion. -/
def Agrees (payload : Json) : Connector → Prop
  | polymarket =>
      (Polymarket.reader float).FilledAgrees float requested payload ∧
        (Polymarket.reader float).PriceAgrees float price payload
  | predictFun precision =>
      (PredictFun.reader float precision).FilledAgrees float requested payload ∧
        (PredictFun.reader float precision).PriceAgrees float price payload ∧
        (PredictFun.reader float precision).StatusAgrees float requested payload
  | myriad =>
      (Myriad.reader float).FilledAgrees float requested payload ∧
        (Myriad.reader float).PriceAgrees float price payload
  | opinion =>
      Opinion.FilledAgrees float requested (Opinion.orderPayload payload) ∧
        Opinion.PriceAgrees float price (Opinion.orderPayload payload)

end Connector

/-- **Execution and reconciliation.**  The report of `wait_filled`, whose later polls read the same
of the order if the first does not end the wait, is the one of `get_order` just when the payload is
read alike. -/
theorem connectors_read_alike_iff (connector : Connector) (orderId : String)
    (requested price : Dec) {payload : Json} {rest : List Json}
    (hrest : ∀ later ∈ rest, later = payload ∨ connector.EndsWait float payload) :
    SameReading (connector.waitFilled float orderId requested price (payload :: rest))
        (connector.getOrder float orderId requested price payload) ↔
      connector.Agrees float requested price payload := by
  cases connector with
  | polymarket =>
    have h := (Polymarket.reader float).sameReading_iff float orderId requested price hrest
    have hstatus := Polymarket.statusAgrees float requested payload
    exact h.trans (and_congr_right' (and_iff_left hstatus))
  | predictFun precision =>
    exact (PredictFun.reader float precision).sameReading_iff float orderId requested price hrest
  | myriad =>
    have h := (Myriad.reader float).sameReading_iff float orderId requested price hrest
    have hstatus := Myriad.statusAgrees float requested payload
    exact h.trans (and_congr_right' (and_iff_left hstatus))
  | opinion =>
    exact Opinion.sameReading_iff float orderId requested price hrest

namespace ReadingExamples

/-- Texts are not read as numbers here; the payloads below have none to read. -/
def reading : FloatReading where
  toFloatText := .digits17
  text_nonpos := by
    intro x hx
    have hround : ∀ p, Lib.Rounding.significant 10 p x ≤ 0 := fun p => by
      have h := Lib.Rounding.significant_nonneg 10 p (neg_nonneg.mpr hx)
      rw [Lib.Rounding.significant_neg] at h
      exact neg_nonneg.mp h
    show (if _ then x else _) ≤ 0
    split
    · exact hx
    · exact hround 17
  parse := fun _ => none
  parseDecimal := fun _ => none
  parseInt := fun _ => none
  render := fun _ => ""

/-- `{"status": "FILLED", ...}`. -/
def filledOrder (more : String → Json) : Json :=
  .object false fun key => if key = "status" then .text "FILLED" else more key

/-- With the filled amount and the price, both report four of ten shares at a half. -/
theorem connectors_read_alike_matched :
    SameReading
      (Connector.polymarket.waitFilled reading "order" 10 (2 / 5)
        [filledOrder fun key =>
          if key = "size_matched" then .num 4
          else if key = "avgPrice" then .num (1 / 2) else .missing])
      (Connector.polymarket.getOrder reading "order" 10 (2 / 5)
        (filledOrder fun key =>
          if key = "size_matched" then .num 4
          else if key = "avgPrice" then .num (1 / 2) else .missing)) := by
  refine (connectors_read_alike_iff reading .polymarket "order" 10 (2 / 5) (by simp)).mpr ⟨?_, ?_⟩
  · intro _ hzero
    exact absurd hzero (by decide +kernel)
  · show (1 / 2 : Dec) = 0 → _
    intro hzero
    exact absurd hzero (by norm_num)

/-- Without a filled amount, `wait_filled` reports ten shares and `get_order` none. -/
theorem filled_order_read_two_ways :
    ¬ ∀ (connector : Connector) (float : FloatReading) (orderId : String) (requested price : Dec)
        (payload : Json) (rest : List Json), connector.EndsWait float payload →
      SameReading (connector.waitFilled float orderId requested price (payload :: rest))
        (connector.getOrder float orderId requested price payload) := by
  intro h
  have hends : Connector.polymarket.EndsWait reading (filledOrder fun _ => .missing) :=
    .inl (by decide +kernel)
  have hread := h .polymarket reading "order" 10 (1 / 2) _ [] hends
  exact absurd hread (by decide +kernel)

end ReadingExamples

end ArbitrageEngine.Reconciliation.OrderReadings
