/-
# ArbitrageEngine.Connectors.UnitDecoding -- numbers in base units and in decimals

Myriad and Predict.fun may write a number in base units of 18 decimals or as it is, and the
connectors tell the two apart by the size of the number.  The thresholds differ with the place the
number is read: a share amount is in base units from 10^12 on, the filled amount of an order when it
exceeds a thousand times the requested one, a price when it exceeds one.

So a small amount in base units and a large one in decimals are taken for the other, each place at
limits of its own.  Two places do not look at the units at all: the levels of a Predict.fun book,
and the `shares` of a Myriad fill.

The numbers are exact; that a float rounds them is left out, on reading and on dividing by 10^18.
-/
import ArbitrageEngine.Connectors.BookMessages

namespace ArbitrageEngine

namespace UnitDecoding

open Reconciliation.OrderReadings (Json FloatReading floatOf decimalOf nestedFilledAmount
  normalizePriceAt)

/-! ## What the connectors read -/

/-- A number in base units. -/
def baseUnits (x : ℚ) : ℚ := x * 10 ^ 18

/-- The numbers of an open order, before they are written as decimals. -/
structure OrderNumbers where
  quantity : Dec
  filled : Dec
  averagePrice : Dec
deriving DecidableEq

/-- The numbers of a fill, before they are written as decimals. -/
structure FillNumbers where
  quantity : Dec
  price : Dec
deriving DecidableEq

/-- What `wait_filled` and `get_order` make of the filled amount and the average price of an order
with a remembered amount. -/
structure ReportNumbers where
  filled : Option Dec
  avgPrice : Option Dec
deriving DecidableEq

def reportNumbers (reader : Reconciliation.OrderReadings.OrderReader) (requested : Dec)
    (payload : Json) : ReportNumbers where
  filled := reader.parsedFilled requested payload
  avgPrice := (reader.avgPrice payload).map reader.normalizePrice

variable (float : FloatReading)

/-- The requested amount of an order as it is written. -/
def requestedText (payload : Json) : Json :=
  payload.extractFirstNested ["amount", "quantity", "originalAmount", "original_amount"]

namespace Myriad

open Reconciliation.OrderReadings.Myriad (avgPrice)

/-- `_extract_requested_amount`; `none` where it raises. -/
def extractRequestedAmount (payload : Json) : Option Dec :=
  if (requestedText payload).isBlank then some 0
  else (floatOf float (requestedText payload)).map ArbitrageEngine.Myriad.normalizeShareAmount

/-- The numbers of `_venue_order_from_payload`. -/
def venueOrderNumbers (payload : Json) : Option OrderNumbers := do
  let quantity ← extractRequestedAmount float payload
  some {
    quantity := quantity
    filled :=
      ArbitrageEngine.Myriad.normalizeShareAmount ((nestedFilledAmount float payload).getD 0)
    averagePrice := ArbitrageEngine.Myriad.normalizePrice ((avgPrice float payload).getD 0) }

/-- The numbers of `_fill_from_trade`. -/
def fillNumbers (payload : Json) : FillNumbers where
  quantity := (decimalOf float (payload.extractFirstNested ["shares"])).getD
    (ArbitrageEngine.Myriad.normalizeShareAmount ((nestedFilledAmount float payload).getD 0))
  price := ArbitrageEngine.Myriad.normalizePrice ((avgPrice float payload).getD 0)

end Myriad

namespace PredictFun

open Reconciliation.OrderReadings.PredictFun (normalizeOrderAmount reader)

/-- The configured `precision`, by default. -/
def precision : ℕ := 18

def avgPrice (payload : Json) : Option Dec := (reader float precision).avgPrice payload

/-- `_extract_requested_amount`; `none` where it raises. -/
def extractRequestedAmount (payload : Json) : Option Dec :=
  if (requestedText payload).isBlank then some 0
  else
    (floatOf float (requestedText payload)).map fun value => normalizeOrderAmount precision value 0

/-- The numbers of `_venue_order_from_payload`. -/
def venueOrderNumbers (payload : Json) : Option OrderNumbers := do
  let quantity ← extractRequestedAmount float payload
  some {
    quantity := quantity
    filled := normalizeOrderAmount precision ((nestedFilledAmount float payload).getD 0) quantity
    averagePrice := normalizePriceAt precision ((avgPrice float payload).getD 0) }

/-- The numbers of `_fill_from_trade`. -/
def fillNumbers (payload : Json) : FillNumbers where
  quantity := normalizeOrderAmount precision ((nestedFilledAmount float payload).getD 0) 0
  price := normalizePriceAt precision ((avgPrice float payload).getD 0)

/-- The price and the size of a level of a book; `none` where a number cannot be read. -/
def levelOf (read : BookMessages.Reading) (price size : Lib.Json) :
    Option (Option MarketData.Level) :=
  if price.isNone || size.isNone then some none
  else do
    let price ← read.float price
    let size ← read.float size
    some (some ⟨price, size⟩)

end PredictFun

/-! ## Where both encodings are told apart -/

/-- Share amounts that are told apart by the threshold of 10^12. -/
def ShareRange (q : ℚ) : Prop := q = 0 ∨ 1 / 10 ^ 6 ≤ q ∧ q < 10 ^ 12

/-- Filled amounts that are told apart by a thousand times the requested amount. -/
def ReportRange (requested q : ℚ) : Prop := q = 0 ∨ requested < 10 ^ 15 * q

/-- Prices that are told apart by one: all but a single base unit. -/
def PriceRange (p : ℚ) : Prop := 1 / 10 ^ 18 < p

instance (q : ℚ) : Decidable (ShareRange q) := inferInstanceAs (Decidable (_ ∨ _))

instance (requested q : ℚ) : Decidable (ReportRange requested q) :=
  inferInstanceAs (Decidable (_ ∨ _))

instance (p : ℚ) : Decidable (PriceRange p) := inferInstanceAs (Decidable (_ < _))

theorem baseUnits_eq_iff {x : ℚ} : baseUnits x = x ↔ x = 0 := by
  unfold baseUnits
  constructor
  · intro h
    linarith
  · rintro rfl
    exact zero_mul _

theorem baseUnits_div (x : ℚ) : baseUnits x / 10 ^ 18 = x :=
  mul_div_cancel_right₀ x (by norm_num)

theorem share_agrees_iff {q : ℚ} (hq : 0 ≤ q) :
    ArbitrageEngine.Myriad.normalizeShareAmount (baseUnits q) =
        ArbitrageEngine.Myriad.normalizeShareAmount q ↔ ShareRange q := by
  have hbase : 0 ≤ baseUnits q := mul_nonneg hq (by norm_num)
  unfold ArbitrageEngine.Myriad.normalizeShareAmount ShareRange
  rw [abs_of_nonneg hbase, abs_of_nonneg hq, show Reconciliation.OrderReadings.Myriad.shareDecimals
    = 18 from rfl, baseUnits_div]
  by_cases hlarge : 10 ^ 12 ≤ baseUnits q
  · have hq6 : 1 / 10 ^ 6 ≤ q := by
      unfold baseUnits at hlarge
      linarith
    rw [if_pos hlarge]
    by_cases hplain : 10 ^ 12 ≤ q
    · -- A large decimal is divided too.
      rw [if_pos hplain]
      constructor
      · intro h
        have hzero : q = 0 := by linarith
        linarith
      · rintro (rfl | ⟨-, hlt⟩)
        · norm_num
        · linarith
    · rw [if_neg hplain]
      exact iff_of_true rfl (.inr ⟨hq6, not_le.mp hplain⟩)
  · have hq6 : q < 1 / 10 ^ 6 := by
      unfold baseUnits at hlarge
      linarith
    have hplain : ¬ 10 ^ 12 ≤ q := by
      intro h
      norm_num at hq6 h
      linarith
    rw [if_neg hlarge, if_neg hplain, baseUnits_eq_iff]
    constructor
    · exact fun h => .inl h
    · rintro (h | ⟨hge, -⟩)
      · exact h
      · linarith

theorem price_agrees_iff {p : ℚ} (hp : 0 < p) (hp1 : p ≤ 1) :
    normalizePriceAt 18 (baseUnits p) = normalizePriceAt 18 p ↔ PriceRange p := by
  unfold normalizePriceAt PriceRange
  rw [if_neg (not_lt.mpr hp1), baseUnits_div]
  by_cases hunits : 1 < baseUnits p
  · rw [if_pos hunits]
    refine iff_of_true rfl ?_
    unfold baseUnits at hunits
    linarith
  · rw [if_neg hunits, baseUnits_eq_iff]
    refine iff_of_false hp.ne' ?_
    unfold baseUnits at hunits
    linarith

/-- The filled amount of an order whose requested amount is positive. -/
theorem filled_agrees_iff {q requested : ℚ} (hq : 0 ≤ q) (hle : q ≤ requested) :
    ArbitrageEngine.Reconciliation.OrderReadings.Myriad.normalizeOrderAmount (baseUnits q) requested
        = Reconciliation.OrderReadings.Myriad.normalizeOrderAmount q requested ↔
      ReportRange requested q := by
  unfold Reconciliation.OrderReadings.Myriad.normalizeOrderAmount ReportRange
  rw [show Reconciliation.OrderReadings.Myriad.shareDecimals = 18 from rfl, baseUnits_div]
  have hplain : ¬ (0 < requested ∧ requested * 1000 < q) := by
    rintro ⟨hpos, hlt⟩
    linarith
  rw [if_neg hplain]
  by_cases hunits : 0 < requested ∧ requested * 1000 < baseUnits q
  · rw [if_pos hunits]
    refine iff_of_true rfl (.inr ?_)
    have hlt := hunits.2
    unfold baseUnits at hlt
    linarith
  · rw [if_neg hunits, baseUnits_eq_iff]
    constructor
    · exact fun h => .inl h
    · rintro (h | hlt)
      · exact h
      · by_contra hne
        have hpos : 0 < q := lt_of_le_of_ne hq fun h => hne h.symm
        refine hunits ⟨lt_of_lt_of_le hpos hle, ?_⟩
        unfold baseUnits
        linarith

/-- Both payloads hold the number, one in base units and one as it is. -/
def Encodes (read : Json → Option Dec) (base plain : Json) (x : ℚ) : Prop :=
  read base = some (baseUnits x) ∧ read plain = some x

instance (read : Json → Option Dec) (base plain : Json) (x : ℚ) :
    Decidable (Encodes read base plain x) := inferInstanceAs (Decidable (_ ∧ _))

/-- The requested amount of an order, as it is read. -/
def requestedOf (payload : Json) : Option Dec := floatOf float (requestedText payload)

def sharesOf (payload : Json) : Option Dec :=
  decimalOf float (payload.extractFirstNested ["shares"])

theorem not_blank_of_floatOf {value : Json} {x : Dec} (h : floatOf float value = some x) :
    value.isBlank = false := by
  cases value with
  | text s =>
      by_cases hempty : s = ""
      · simp [floatOf, hempty] at h
      · simp [Json.isBlank, hempty]
  | num q => rfl
  | missing => cases h
  | null => cases h
  | bool b => cases h
  | array isEmpty => cases h
  | object isEmpty fields => cases h

section Places

variable {float : FloatReading} {q r p : ℚ} {base plain : Json}

namespace Myriad

open Reconciliation.OrderReadings.Myriad (reader avgPrice)

theorem reportNumbers_agree_iff (hq : 0 ≤ q) (hr : q ≤ r) (hp : 0 < p) (hp1 : p ≤ 1)
    (hfilled : Encodes (nestedFilledAmount float) base plain q)
    (hprice : Encodes (avgPrice float) base plain p) :
    reportNumbers (reader float) r base = reportNumbers (reader float) r plain ↔
      ReportRange r q ∧ PriceRange p := by
  have hread : ∀ payload x y, nestedFilledAmount float payload = some x →
      avgPrice float payload = some y → reportNumbers (reader float) r payload =
        ⟨some (Reconciliation.OrderReadings.Myriad.normalizeOrderAmount x r),
          some (normalizePriceAt 18 y)⟩ := by
    intro payload x y hx hy
    simp [reportNumbers, Reconciliation.OrderReadings.OrderReader.parsedFilled, reader, hx, hy,
      Reconciliation.OrderReadings.Myriad.priceDecimals]
  rw [hread _ _ _ hfilled.1 hprice.1, hread _ _ _ hfilled.2 hprice.2, ReportNumbers.mk.injEq,
    Option.some.injEq, Option.some.injEq, filled_agrees_iff hq hr, price_agrees_iff hp hp1]

theorem venueOrderNumbers_agree_iff (hq : 0 ≤ q) (hr : q ≤ r) (hp : 0 < p) (hp1 : p ≤ 1)
    (hfilled : Encodes (nestedFilledAmount float) base plain q)
    (hprice : Encodes (avgPrice float) base plain p)
    (hrequested : Encodes (requestedOf float) base plain r) :
    venueOrderNumbers float base = venueOrderNumbers float plain ↔
      ShareRange r ∧ ShareRange q ∧ PriceRange p := by
  have hread : ∀ payload x y z, nestedFilledAmount float payload = some x →
      avgPrice float payload = some y → requestedOf float payload = some z →
      venueOrderNumbers float payload = some
        ⟨ArbitrageEngine.Myriad.normalizeShareAmount z,
          ArbitrageEngine.Myriad.normalizeShareAmount x, normalizePriceAt 18 y⟩ := by
    intro payload x y z hx hy hz
    have hblank := not_blank_of_floatOf float hz
    unfold requestedOf at hz
    simp [venueOrderNumbers, extractRequestedAmount, hblank, hz, hx, hy,
      ArbitrageEngine.Myriad.normalizePrice, Reconciliation.OrderReadings.Myriad.priceDecimals]
  rw [hread _ _ _ _ hfilled.1 hprice.1 hrequested.1, hread _ _ _ _ hfilled.2 hprice.2 hrequested.2,
    Option.some.injEq, OrderNumbers.mk.injEq, share_agrees_iff hq, share_agrees_iff (hq.trans hr),
    price_agrees_iff hp hp1]

/-- A fill without `shares`. -/
theorem fillNumbers_agree_iff (hq : 0 ≤ q) (hp : 0 < p) (hp1 : p ≤ 1)
    (hfilled : Encodes (nestedFilledAmount float) base plain q)
    (hprice : Encodes (avgPrice float) base plain p) (hbase : sharesOf float base = none)
    (hplain : sharesOf float plain = none) :
    fillNumbers float base = fillNumbers float plain ↔ ShareRange q ∧ PriceRange p := by
  have hread : ∀ payload x y, sharesOf float payload = none →
      nestedFilledAmount float payload = some x → avgPrice float payload = some y →
      fillNumbers float payload =
        ⟨ArbitrageEngine.Myriad.normalizeShareAmount x, normalizePriceAt 18 y⟩ := by
    intro payload x y hnone hx hy
    unfold sharesOf at hnone
    simp [fillNumbers, hnone, hx, hy, ArbitrageEngine.Myriad.normalizePrice,
      Reconciliation.OrderReadings.Myriad.priceDecimals]
  rw [hread _ _ _ hbase hfilled.1 hprice.1, hread _ _ _ hplain hfilled.2 hprice.2,
    FillNumbers.mk.injEq, share_agrees_iff hq, price_agrees_iff hp hp1]

/-- The `shares` of a fill are taken as they are. -/
theorem fillNumbers_shares_agree_iff (hp : 0 < p) (hp1 : p ≤ 1)
    (hshares : Encodes (sharesOf float) base plain q)
    (hprice : Encodes (avgPrice float) base plain p) :
    fillNumbers float base = fillNumbers float plain ↔ q = 0 ∧ PriceRange p := by
  have hread : ∀ payload x y, sharesOf float payload = some x → avgPrice float payload = some y →
      fillNumbers float payload = ⟨x, normalizePriceAt 18 y⟩ := by
    intro payload x y hx hy
    unfold sharesOf at hx
    simp [fillNumbers, hx, hy, ArbitrageEngine.Myriad.normalizePrice,
      Reconciliation.OrderReadings.Myriad.priceDecimals]
  rw [hread _ _ _ hshares.1 hprice.1, hread _ _ _ hshares.2 hprice.2, FillNumbers.mk.injEq,
    baseUnits_eq_iff, price_agrees_iff hp hp1]

/-- The level of a book: price and size are the values given, as the language reads their texts. -/
theorem levelOf_agree_iff {read : BookMessages.Reading} (hq : 0 ≤ q) (hp : 0 < p) (hp1 : p ≤ 1)
    {priceBase sizeBase price size : Lib.Json}
    (hsome : ∀ value ∈ [priceBase, sizeBase, price, size], value.isNone = false)
    (hpriceBase : read.parseFloat (read.str priceBase) = some (baseUnits p))
    (hsizeBase : read.parseFloat (read.str sizeBase) = some (baseUnits q))
    (hprice : read.parseFloat (read.str price) = some p)
    (hsize : read.parseFloat (read.str size) = some q) :
    ArbitrageEngine.Myriad.levelOf read priceBase sizeBase =
        ArbitrageEngine.Myriad.levelOf read price size ↔ ShareRange q ∧ PriceRange p := by
  have hread : ∀ (first second : Lib.Json) x y, first.isNone = false → second.isNone = false →
      read.parseFloat (read.str first) = some x → read.parseFloat (read.str second) = some y →
      ArbitrageEngine.Myriad.levelOf read first second = some (some
        ⟨normalizePriceAt 18 x, ArbitrageEngine.Myriad.normalizeShareAmount y⟩) := by
    intro first second x y hfirst hsecond hx hy
    simp [ArbitrageEngine.Myriad.levelOf, hfirst, hsecond, hx, hy,
      ArbitrageEngine.Myriad.normalizePrice, Reconciliation.OrderReadings.Myriad.priceDecimals]
  rw [hread _ _ _ _ (hsome _ (by simp)) (hsome _ (by simp)) hpriceBase hsizeBase,
    hread _ _ _ _ (hsome _ (by simp)) (hsome _ (by simp)) hprice hsize, Option.some.injEq,
    Option.some.injEq, MarketData.Level.mk.injEq, share_agrees_iff hq, price_agrees_iff hp hp1]
  exact and_comm

end Myriad

namespace PredictFun

open Reconciliation.OrderReadings.PredictFun (normalizeOrderAmount reader)

/-- Without a requested amount, an amount is read as Myriad reads shares. -/
theorem normalizeOrderAmount_zero_requested (value : Dec) :
    normalizeOrderAmount precision value 0 = ArbitrageEngine.Myriad.normalizeShareAmount value := by
  simp [normalizeOrderAmount, ArbitrageEngine.Myriad.normalizeShareAmount, precision,
    Reconciliation.OrderReadings.Myriad.shareDecimals]

theorem filled_agrees_iff (hq : 0 ≤ q) (hr : q ≤ r) :
    normalizeOrderAmount precision (baseUnits q) r = normalizeOrderAmount precision q r ↔
      ReportRange r q := by
  rcases (hq.trans hr).eq_or_lt with hzero | hpos
  · -- Nothing is requested, so nothing is filled.
    have hnone : q = 0 := by linarith
    subst hnone
    simp [ReportRange, baseUnits]
  · have hsame : ∀ value, normalizeOrderAmount precision value r =
        Reconciliation.OrderReadings.Myriad.normalizeOrderAmount value r := by
      intro value
      simp [normalizeOrderAmount, Reconciliation.OrderReadings.Myriad.normalizeOrderAmount, hpos,
        not_le.mpr hpos, precision, Reconciliation.OrderReadings.Myriad.shareDecimals]
    rw [hsame, hsame]
    exact UnitDecoding.filled_agrees_iff hq hr

theorem reportNumbers_agree_iff (hq : 0 ≤ q) (hr : q ≤ r) (hp : 0 < p) (hp1 : p ≤ 1)
    (hfilled : Encodes (nestedFilledAmount float) base plain q)
    (hprice : Encodes (avgPrice float) base plain p) :
    reportNumbers (reader float precision) r base = reportNumbers (reader float precision) r plain ↔
      ReportRange r q ∧ PriceRange p := by
  have hread : ∀ payload x y, nestedFilledAmount float payload = some x →
      avgPrice float payload = some y → reportNumbers (reader float precision) r payload =
        ⟨some (normalizeOrderAmount precision x r), some (normalizePriceAt 18 y)⟩ := by
    intro payload x y hx hy
    unfold avgPrice at hy
    simp only [reportNumbers, Reconciliation.OrderReadings.OrderReader.parsedFilled, hy]
    simp [reader, hx, precision]
  rw [hread _ _ _ hfilled.1 hprice.1, hread _ _ _ hfilled.2 hprice.2, ReportNumbers.mk.injEq,
    Option.some.injEq, Option.some.injEq, filled_agrees_iff hq hr, price_agrees_iff hp hp1]

/-- The filled amount of an open order is read by the requested amount that was read. -/
theorem venueOrderNumbers_agree_iff (hq : 0 ≤ q) (hr : q ≤ r) (hp : 0 < p) (hp1 : p ≤ 1)
    (hfilled : Encodes (nestedFilledAmount float) base plain q)
    (hprice : Encodes (avgPrice float) base plain p)
    (hrequested : Encodes (requestedOf float) base plain r) :
    venueOrderNumbers float base = venueOrderNumbers float plain ↔
      ShareRange r ∧ ReportRange r q ∧ PriceRange p := by
  have hread : ∀ payload x y z, nestedFilledAmount float payload = some x →
      avgPrice float payload = some y → requestedOf float payload = some z →
      venueOrderNumbers float payload = some
        ⟨ArbitrageEngine.Myriad.normalizeShareAmount z,
          normalizeOrderAmount precision x (ArbitrageEngine.Myriad.normalizeShareAmount z),
          normalizePriceAt 18 y⟩ := by
    intro payload x y z hx hy hz
    have hblank := not_blank_of_floatOf float hz
    unfold requestedOf at hz
    rw [← normalizeOrderAmount_zero_requested z]
    simp [venueOrderNumbers, extractRequestedAmount, hblank, hz, hx, hy, precision]
  rw [hread _ _ _ _ hfilled.1 hprice.1 hrequested.1, hread _ _ _ _ hfilled.2 hprice.2 hrequested.2,
    Option.some.injEq, OrderNumbers.mk.injEq, share_agrees_iff (hq.trans hr),
    price_agrees_iff hp hp1]
  apply and_congr_right
  intro hrange
  have hbase : ArbitrageEngine.Myriad.normalizeShareAmount (baseUnits r) =
      ArbitrageEngine.Myriad.normalizeShareAmount r := (share_agrees_iff (hq.trans hr)).mpr hrange
  -- Both give the requested amount itself, which is in range.
  have hplain : ArbitrageEngine.Myriad.normalizeShareAmount r = r := by
    unfold ArbitrageEngine.Myriad.normalizeShareAmount
    rw [abs_of_nonneg (hq.trans hr), if_neg]
    rcases hrange with hzero | ⟨-, hlt⟩
    · rw [hzero]
      norm_num
    · exact not_le.mpr hlt
  rw [hbase, hplain, filled_agrees_iff hq hr]

theorem fillNumbers_agree_iff (hq : 0 ≤ q) (hp : 0 < p) (hp1 : p ≤ 1)
    (hfilled : Encodes (nestedFilledAmount float) base plain q)
    (hprice : Encodes (avgPrice float) base plain p) :
    fillNumbers float base = fillNumbers float plain ↔ ShareRange q ∧ PriceRange p := by
  have hread : ∀ payload x y, nestedFilledAmount float payload = some x →
      avgPrice float payload = some y → fillNumbers float payload =
        ⟨ArbitrageEngine.Myriad.normalizeShareAmount x, normalizePriceAt 18 y⟩ := by
    intro payload x y hx hy
    rw [← normalizeOrderAmount_zero_requested x]
    simp [fillNumbers, hx, hy, precision]
  rw [hread _ _ _ hfilled.1 hprice.1, hread _ _ _ hfilled.2 hprice.2, FillNumbers.mk.injEq,
    share_agrees_iff hq, price_agrees_iff hp hp1]

/-- The levels of a book are taken as they are, so its prices never agree. -/
theorem levelOf_ne {read : BookMessages.Reading} (hp : 0 < p)
    {priceBase sizeBase price size : Lib.Json}
    (hsome : ∀ value ∈ [priceBase, sizeBase, price, size], value.isNone = false)
    (hpriceBase : read.float priceBase = some (baseUnits p))
    (hsizeBase : read.float sizeBase = some (baseUnits q))
    (hprice : read.float price = some p) (hsize : read.float size = some q) :
    levelOf read priceBase sizeBase ≠ levelOf read price size := by
  have hread : ∀ (first second : Lib.Json) x y, first.isNone = false → second.isNone = false →
      read.float first = some x → read.float second = some y →
      levelOf read first second = some (some ⟨x, y⟩) := by
    intro first second x y hfirst hsecond hx hy
    simp [levelOf, hfirst, hsecond, hx, hy]
  rw [hread _ _ _ _ (hsome _ (by simp)) (hsome _ (by simp)) hpriceBase hsizeBase,
    hread _ _ _ _ (hsome _ (by simp)) (hsome _ (by simp)) hprice hsize]
  intro h
  simp only [Option.some.injEq, MarketData.Level.mk.injEq] at h
  exact hp.ne' (baseUnits_eq_iff.mp h.1)

end PredictFun

end Places

/-! ## All places -/

/-- The numbers of an order in both encodings: filled amount, requested amount and average price. -/
structure EncodesOrder (filled requested price : Json → Option Dec) (base plain : Json)
    (q r p : ℚ) : Prop where
  filled : Encodes filled base plain q
  requested : Encodes requested base plain r
  price : Encodes price base plain p

/-- The values of a level in both encodings, as `number` reads them. -/
structure EncodesLevel (number : Lib.Json → Option ℚ) (priceBase sizeBase price size : Lib.Json)
    (q p : ℚ) : Prop where
  given : ∀ value ∈ [priceBase, sizeBase, price, size], value.isNone = false
  priceBase : number priceBase = some (baseUnits p)
  sizeBase : number sizeBase = some (baseUnits q)
  price : number price = some p
  size : number size = some q

namespace UnitExamples

open Reconciliation.OrderReadings.ReadingExamples (reading)

/-- The texts of the levels below. -/
def bookReading : BookMessages.Reading where
  render _ := ""
  parseInt _ := none
  parseFloat text :=
    if text = "3000000000000000000" then some (3 * 10 ^ 18) else if text = "3" then some 3
    else if text = "500000000000000000" then some (10 ^ 18 / 2)
    else if text = "0.5" then some (1 / 2)
    else if text = "100000000000" then some (10 ^ 11)
    else if text = "0.0000001" then some (1 / 10 ^ 7)
    else none
  upper text := text

/-- An order with these numbers. -/
def order (filled requested price : ℚ) : Json :=
  .object false fun key =>
    if key = "filledAmount" then .num filled
    else if key = "amount" then .num requested
    else if key = "avgPrice" then .num price
    else .missing

end UnitExamples

end UnitDecoding

end ArbitrageEngine
