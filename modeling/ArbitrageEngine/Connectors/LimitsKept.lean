/-
# ArbitrageEngine.Connectors.LimitsKept -- which orders keep the limit of the caller

An order keeps the limit if no price it names is worse and it trades no more contracts than were
asked for.  Myriad's orders do.  Polymarket moves a price up to the first tick and down to the last
one, which is worse for a purchase below the first and for a sale above the last.  Opinion rounds
the price and the quote tokens to the nearest, up or down.  Predict.fun checks the price of the
signed amounts to 28 digits, and neither their contracts nor the price it sends beside them.
-/
import ArbitrageEngine.Connectors.LimitOrders
import ArbitrageEngine.ContextError
import ArbitrageEngine.Lib.Effect

namespace ArbitrageEngine.Connectors.LimitOrders

open Lib.Rounding
open Lib.Effect (exists_of_bind_ok)

/-! ## Keeping a limit -/

/-- A price is no worse than a limit. -/
def SideName.NoWorse (side : SideName) (limit price : Dec) : Prop :=
  match side with
  | .buy => price ≤ limit
  | .sell => limit ≤ price

/-- The order keeps the limit and the contracts of the request. -/
def SentOrder.Keeps {floats : OrderedText} (order : SentOrder) (request : OrderRequest floats) :
    Prop :=
  (∀ price ∈ order.prices, request.side.NoWorse request.limit price) ∧
    order.contracts ≤ request.contracts

/-- Rounding to the nearest goes the way that is no worse. -/
def SideName.RoundsWell (side : SideName) (x : Dec) : Prop :=
  match side with
  | .buy => RoundsDown x
  | .sell => RoundsUp x

/-- When the orders of a venue keep the limit.

* Polymarket: a purchase has a limit of at least one tick, a sale of at most one tick less than
  one, if the market has a tick at all.
* Predict.fun: the amounts that pass the checks are priced, exactly and also in the price per share,
  within the limit, and are for no more than the contracts.
* Opinion: the limit rounds to the price precision in the direction that is no worse, and the quote
  tokens for the rounded price do not round up, if the numbers have the digits. -/
def Venue.KeepsLimit {floats : OrderedText} (venue : Venue) (request : OrderRequest floats) :
    Prop :=
  match venue with
  | .polymarket tickSize =>
      ∀ tick, Polymarket.sdkCompatibleTickSize tickSize = .ok tick → tick ≤ 1 / 2 →
        match request.side with
        | .buy => tick ≤ request.limit
        | .sell => request.limit ≤ 1 - tick
  | .predictFun market =>
      ∀ normalizedPrice amounts,
        PredictFun.normalizedLimitPrice market.pricePrecision request.limit request.side =
          .ok normalizedPrice →
        PredictFun.acceptedAmounts market request.side request.contracts
          (floats.text normalizedPrice) = .ok amounts →
        request.side.NoWorse request.limit (amounts.pricePerShare / 10 ^ market.precision) ∧
          match request.side with
          | .buy =>
              amounts.makerAmount ≤ request.limit * amounts.takerAmount ∧
                amounts.takerAmount ≤ request.contracts * 10 ^ market.precision
          | .sell =>
              request.limit * amounts.makerAmount ≤ amounts.takerAmount ∧
                amounts.makerAmount ≤ request.contracts * 10 ^ market.precision
  | .myriad => True
  | .opinion pricePrecision =>
      let places := max 1 pricePrecision
      let price : Dec := halfEven (request.limit * 10 ^ places) / 10 ^ places
      let micros := halfEven (Dec.mul request.contracts price * 10 ^ 6)
      |halfEven (request.limit * 10 ^ places)| < 10 ^ 28 → |micros| < 10 ^ 28 →
        |halfEven (request.contracts * 10 ^ 6)| < 10 ^ 28 →
        request.side.RoundsWell (request.limit * 10 ^ places) ∧
          micros ≤ request.contracts * price * 10 ^ 6

variable {floats : OrderedText} (request : OrderRequest floats)

/-! ## Floats -/

theorem OrderRequest.limit_fits : Fits 10 17 request.limit := by
  have h := floats.fits_text request.limit
  rwa [request.limit_float] at h

theorem OrderRequest.contracts_fits : Fits 10 17 request.contracts := by
  have h := floats.fits_text request.contracts
  rwa [request.contracts_float] at h

/-! ## Four decimals -/

/-- A number of at most four decimals, as ticks are. -/
def Grid4 (x : Dec) : Prop := ∃ n : ℤ, x = n / 10 ^ 4

theorem Grid4.mul_int {x : Dec} (h : Grid4 x) (n : ℤ) : Grid4 (n * x) := by
  obtain ⟨t, rfl⟩ := h
  exact ⟨n * t, by push_cast; ring⟩

theorem Grid4.one_sub {x : Dec} (h : Grid4 x) : Grid4 (1 - x) := by
  obtain ⟨t, rfl⟩ := h
  exact ⟨10 ^ 4 - t, by push_cast; ring⟩

theorem grid4_iff_den {x : Dec} : Grid4 x ↔ (x * 10 ^ 4).den = 1 := by
  constructor
  · rintro ⟨n, rfl⟩
    rw [div_mul_cancel₀ _ (by norm_num)]
    exact Rat.den_intCast n
  · intro h
    exact ⟨(x * 10 ^ 4).num, by rw [Rat.coe_int_num_of_den_eq_one h]; field_simp⟩

theorem Grid4.fits {p : ℕ} {x : Dec} (h : Grid4 x) (hx : |x| * 10 ^ 4 < 10 ^ p) : Fits 10 p x := by
  obtain ⟨t, rfl⟩ := h
  refine ⟨t, -4, by rw [zpow_neg, ← div_eq_mul_inv]; norm_num, ?_⟩
  rw [abs_div, abs_of_pos (by norm_num : (0 : ℚ) < 10 ^ 4), div_mul_cancel₀ _ (by norm_num)] at hx
  exact_mod_cast hx

theorem Grid4.ctx_eq {x : Dec} (h : Grid4 x) (hx : 0 ≤ x) (hx' : x ≤ 3) : Dec.ctx x = x := by
  refine Dec.exact_of_fits (h.fits ?_)
  rw [abs_of_nonneg hx]
  linarith [(by norm_num : (3 : ℚ) * 10 ^ 4 < 10 ^ 28)]

/-- The least such number above zero. -/
theorem Grid4.le_of_pos {x : Dec} (h : Grid4 x) (hx : 0 < x) : 1 / 10 ^ 4 ≤ x := by
  obtain ⟨t, rfl⟩ := h
  have ht : 0 < t := by
    have h := (div_pos_iff_of_pos_right (by norm_num : (0 : ℚ) < 10 ^ 4)).mp hx
    exact_mod_cast h
  have ht' : (1 : ℚ) ≤ t := by exact_mod_cast ht
  exact div_le_div_of_nonneg_right ht' (by norm_num)

/-- The text of a float of that size is exact. -/
theorem Grid4.text_eq {x : Dec} (h : Grid4 x) (hx : 0 ≤ x) (hx' : x ≤ 3) : floats.text x = x := by
  refine floats.text_of_fits x (h.fits ?_)
  rw [abs_of_nonneg hx]
  linarith [(by norm_num : (10 : ℚ) ^ 4 < 10 ^ 15)]

/-- Numbers of 17 digits and of four decimals are equal or apart. -/
theorem Grid4.apart {value x : Dec} (h : Grid4 x) (hvalue : Fits 10 17 value)
    (hlow : 1 / 10 ^ 4 ≤ 2 * value) (hne : value ≠ x) : 1 / 10 ^ 21 ≤ |value - x| := by
  obtain ⟨t, rfl⟩ := h
  obtain ⟨m, hm⟩ := hvalue.grid (k := 21) (by norm_num) (by norm_num; linarith)
  push_cast at hm
  have hdiff : (value - t / 10 ^ 4) * 10 ^ 21 = ((m - t * 10 ^ 17 : ℤ) : ℚ) := by
    push_cast
    rw [← hm]
    ring
  have hzero : m - t * 10 ^ 17 ≠ 0 := by
    intro hzero
    rw [hzero, Int.cast_zero] at hdiff
    exact hne (sub_eq_zero.mp ((mul_eq_zero.mp hdiff).resolve_right (by norm_num)))
  have hone : (1 : ℚ) ≤ |((m - t * 10 ^ 17 : ℤ) : ℚ)| := by exact_mod_cast Int.one_le_abs hzero
  rw [← hdiff, abs_mul, abs_of_pos (by norm_num : (0 : ℚ) < 10 ^ 21)] at hone
  rwa [div_le_iff₀ (by norm_num)]

/-! ## Steps of a tick -/

section Tick

variable {value tick : Dec} (hvalue : Fits 10 17 value) (hpos : 0 < value) (hone : value < 1)
variable (hgrid : Grid4 tick) (htick : 0 < tick)
include hvalue hpos hone hgrid htick

/-- The context does not lift a quotient over the next integer. -/
theorem floor_div_mul_le : ⌊Dec.div value tick⌋ * tick ≤ value := by
  by_contra hlt
  rw [not_le] at hlt
  set n : ℤ := ⌊Dec.div value tick⌋
  have hquotient : (n : ℚ) ≤ Dec.slack * (value / tick) := by
    have h := (Dec.ctx_within (div_pos hpos htick).le).1
    rw [pow_one] at h
    exact (Int.floor_le _).trans h
  have hslack : n * tick ≤ Dec.slack * value := by
    have h := mul_le_mul_of_nonneg_right hquotient htick.le
    rwa [mul_assoc, div_mul_cancel₀ _ htick.ne'] at h
  have hleast := (hgrid.mul_int n).le_of_pos (hpos.trans hlt)
  rw [Dec.slack] at hslack
  have hapart := (hgrid.mul_int n).apart hvalue (by linarith) hlt.ne
  rw [abs_of_neg (by linarith)] at hapart
  linarith

/-- Nor does it push one under the integer below. -/
theorem le_ceil_div_mul : value ≤ ⌈Dec.div value tick⌉ * tick := by
  by_contra hlt
  rw [not_le] at hlt
  set n : ℤ := ⌈Dec.div value tick⌉ with hn
  have hquotient : value / tick ≤ Dec.slack * n := by
    have h := (Dec.ctx_within (div_pos hpos htick).le).2
    rw [pow_one] at h
    exact h.trans (mul_le_mul_of_nonneg_left (Int.le_ceil _)
      (zero_le_one.trans Dec.one_le_slack))
  have hslack : value ≤ Dec.slack * (n * tick) := by
    have h := mul_le_mul_of_nonneg_right hquotient htick.le
    rwa [div_mul_cancel₀ _ htick.ne', mul_assoc] at h
  have hn_pos : 0 < n := Int.ceil_pos.mpr (Dec.ctx_pos (div_pos hpos htick))
  have hmul_pos : 0 < n * tick := mul_pos (by exact_mod_cast hn_pos) htick
  have hleast := (hgrid.mul_int n).le_of_pos hmul_pos
  rw [Dec.slack] at hslack
  have hapart := (hgrid.mul_int n).apart hvalue (by linarith) hlt.ne'
  rw [abs_of_pos (by linarith)] at hapart
  linarith

omit hvalue hgrid in
/-- The steps up end within the next one. -/
theorem ceil_div_mul_lt : ⌈Dec.div value tick⌉ * tick < tick + 2 := by
  have hquotient : (⌈Dec.div value tick⌉ : ℚ) < Dec.slack * (value / tick) + 1 := by
    have h := (Dec.ctx_within (div_pos hpos htick).le).1
    rw [pow_one] at h
    have hceil : (⌈Dec.div value tick⌉ : ℚ) < Dec.div value tick + 1 := Int.ceil_lt_add_one _
    exact hceil.trans_le (add_le_add h le_rfl)
  have hmul := mul_lt_mul_of_pos_right hquotient htick
  rw [add_mul, mul_assoc, div_mul_cancel₀ _ htick.ne', Dec.slack] at hmul
  linarith

theorem quantizeDown_spec {quantized : Dec} (h : quantizeDown value tick = .ok quantized) :
    0 ≤ quantized ∧ quantized ≤ value ∧ Grid4 quantized := by
  have hquotient : 0 ≤ Dec.div value tick := Dec.ctx_nonneg (div_pos hpos htick).le
  have hsteps : (0 : ℚ) ≤ ⌊Dec.div value tick⌋ * tick :=
    mul_nonneg (by exact_mod_cast Int.floor_nonneg.mpr hquotient) htick.le
  have hle := floor_div_mul_le hvalue hpos hone hgrid htick
  rw [quantizeDown, if_neg htick.not_ge, truncate, if_pos hquotient, Except.ok.injEq, Dec.mul,
    (hgrid.mul_int _).ctx_eq hsteps (by linarith)] at h
  rw [← h]
  exact ⟨hsteps, hle, hgrid.mul_int _⟩

theorem quantizeUp_spec (htick' : tick ≤ 1) {quantized : Dec}
    (h : quantizeUp value tick = .ok quantized) :
    value ≤ quantized ∧ quantized ≤ 3 ∧ Grid4 quantized := by
  have hle := le_ceil_div_mul hvalue hpos hone hgrid htick
  have hlt := ceil_div_mul_lt hpos hone htick
  rw [quantizeUp, if_neg (not_or.mpr ⟨hpos.le.not_gt, htick.not_ge⟩), Except.ok.injEq, Dec.mul,
    (hgrid.mul_int _).ctx_eq (hpos.le.trans hle) (by linarith)] at h
  rw [← h]
  exact ⟨hle, by linarith, hgrid.mul_int _⟩

end Tick

/-! ## Polymarket -/

namespace Polymarket

theorem tick_of_sdkCompatibleTickSize {tickSize tick : Dec}
    (h : sdkCompatibleTickSize tickSize = .ok tick) : 0 < tick ∧ Grid4 tick := by
  unfold sdkCompatibleTickSize at h
  dsimp only at h
  split_ifs at h with hrange hplaces
  obtain rfl := Except.ok.inj h
  rw [not_or, not_le] at hrange
  exact ⟨Dec.ctx_pos hrange.1, grid4_iff_den.mpr hplaces⟩

/-- The price is moved to the steps and then between the first tick and the last one. -/
theorem normalizeBinaryOrderPrice_eq {price tick : Dec} (hgrid : Grid4 tick) (htick : 0 < tick)
    (hprice : 0 < price) (roundUp : Bool) :
    (1 / 2 < tick → ∃ refusal, normalizeBinaryOrderPrice price tick roundUp = .error refusal) ∧
      (tick ≤ 1 / 2 → ∃ quantized,
        (if roundUp then quantizeUp price tick else quantizeDown price tick) = .ok quantized ∧
        normalizeBinaryOrderPrice price tick roundUp =
          .ok (min (max quantized tick) (1 - tick))) := by
  constructor
  · intro hhalf
    unfold normalizeBinaryOrderPrice
    by_cases hone : 1 ≤ tick
    · exact ⟨.binaryTick, by rw [if_pos (.inr hone)]⟩
    have hupper : Dec.sub 1 tick = 1 - tick :=
      hgrid.one_sub.ctx_eq (by linarith) (by linarith)
    refine ⟨.noPriceRange, ?_⟩
    rw [if_neg (not_or.mpr ⟨htick.not_ge, hone⟩), hupper, if_pos (by linarith)]
  · intro hhalf
    have hupper : Dec.sub 1 tick = 1 - tick :=
      hgrid.one_sub.ctx_eq (by linarith) (by linarith)
    obtain ⟨quantized, hquantized⟩ : ∃ quantized,
        (if roundUp then quantizeUp price tick else quantizeDown price tick) = .ok quantized := by
      rw [quantizeUp, quantizeDown, if_neg (not_or.mpr ⟨hprice.le.not_gt, htick.not_ge⟩),
        if_neg htick.not_ge]
      cases roundUp
      · exact ⟨_, rfl⟩
      · exact ⟨_, rfl⟩
    refine ⟨quantized, hquantized, ?_⟩
    unfold normalizeBinaryOrderPrice
    rw [if_neg (not_or.mpr ⟨htick.not_ge, by linarith⟩), hupper]
    dsimp only
    rw [if_neg (by linarith)]
    cases roundUp
    · have hdown : quantizeDown price tick = .ok quantized := hquantized
      rw [if_neg Bool.false_ne_true, hdown]
      rfl
    · have hup : quantizeUp price tick = .ok quantized := hquantized
      rw [if_pos rfl, hup]
      rfl

/-- What is sent, if the tick leaves a price at all. -/
theorem postLimitOrder_eq {tickSize tick : Dec} (h : sdkCompatibleTickSize tickSize = .ok tick)
    (hhalf : tick ≤ 1 / 2) :
    ∃ quantized, request.side.NoWorse request.limit quantized ∧
      (Venue.polymarket tickSize).submit request =
        .ok ⟨[min (max quantized tick) (1 - tick)], request.contracts⟩ := by
  obtain ⟨htick, hgrid⟩ := tick_of_sdkCompatibleTickSize h
  have hspec := (normalizeBinaryOrderPrice_eq hgrid htick request.limit_pos
    (decide (request.side ≠ .buy))).2 hhalf
  obtain ⟨quantized, hquantized, hnormalized⟩ := hspec
  have hsteps : request.side.NoWorse request.limit quantized ∧ 0 ≤ quantized ∧
      Grid4 quantized := by
    cases hside : request.side with
    | buy =>
      simp only [hside, ne_eq, not_true, decide_false, Bool.false_eq_true, if_false] at hquantized
      obtain ⟨hlow, hle, hgrid'⟩ := quantizeDown_spec request.limit_fits request.limit_pos
        request.limit_lt_one hgrid htick hquantized
      exact ⟨hle, hlow, hgrid'⟩
    | sell =>
      simp only [hside, ne_eq, reduceCtorEq, not_false_iff, decide_true, if_true] at hquantized
      obtain ⟨hle, -, hgrid'⟩ := quantizeUp_spec request.limit_fits request.limit_pos
        request.limit_lt_one hgrid htick (by linarith) hquantized
      exact ⟨hle, request.limit_pos.le.trans hle, hgrid'⟩
  obtain ⟨hnoWorse, hnonneg, hgrid'⟩ := hsteps
  have hprice : Grid4 (min (max quantized tick) (1 - tick)) := by
    rcases min_choice (max quantized tick) (1 - tick) with hmin | hmin
    · rw [hmin]
      rcases max_choice quantized tick with hmax | hmax
      · rwa [hmax]
      · rwa [hmax]
    · rw [hmin]
      exact hgrid.one_sub
  have htext : floats.text (min (max quantized tick) (1 - tick)) =
      min (max quantized tick) (1 - tick) := by
    refine hprice.text_eq (le_min (hnonneg.trans (le_max_left _ _)) (by linarith)) ?_
    exact (min_le_right _ _).trans (by linarith)
  refine ⟨quantized, hnoWorse, ?_⟩
  show Polymarket.postLimitOrder floats request.side request.contracts request.limit tickSize = _
  rw [postLimitOrder, h]
  show (normalizeBinaryOrderPrice request.limit tick _ >>= _) = _
  rw [hnormalized]
  show (Except.ok (SentOrder.mk [floats.text _] _) : Except Refusal SentOrder) = _
  rw [htext]

theorem keeps_iff (tickSize : Dec) :
    (∀ order, (Venue.polymarket tickSize).submit request = .ok order → order.Keeps request) ↔
      (Venue.polymarket tickSize).KeepsLimit request := by
  constructor
  · intro h tick htick hhalf
    obtain ⟨quantized, -, horder⟩ := postLimitOrder_eq request htick hhalf
    have hprice := (h _ horder).1 _ (List.mem_singleton_self _)
    cases hside : request.side with
    | buy =>
      simp only [hside, SideName.NoWorse] at hprice ⊢
      exact (le_min (le_max_right _ _) (by linarith)).trans hprice
    | sell =>
      simp only [hside, SideName.NoWorse] at hprice ⊢
      exact hprice.trans (min_le_right _ _)
  · intro hlimit order horder
    obtain ⟨tick, htick, hrest⟩ := exists_of_bind_ok horder
    obtain ⟨htick_pos, hgrid⟩ := tick_of_sdkCompatibleTickSize htick
    -- a tick above one half is refused
    have hhalf : tick ≤ 1 / 2 := by
      by_contra hlarge
      obtain ⟨refusal, hrefused⟩ := (normalizeBinaryOrderPrice_eq hgrid htick_pos
        request.limit_pos (decide (request.side ≠ .buy))).1 (not_le.mp hlarge)
      obtain ⟨normalized, hnormalized, -⟩ := exists_of_bind_ok hrest
      rw [hrefused] at hnormalized
      cases hnormalized
    have hwithin := hlimit tick htick hhalf
    obtain ⟨quantized, hnoWorse, hsent⟩ := postLimitOrder_eq request htick hhalf
    rw [hsent] at horder
    cases horder
    refine ⟨fun price hmem => ?_, le_rfl⟩
    rw [List.mem_singleton.mp hmem]
    cases hside : request.side with
    | buy =>
      simp only [hside, SideName.NoWorse] at hnoWorse hwithin ⊢
      exact (min_le_left _ _).trans (max_le hnoWorse hwithin)
    | sell =>
      simp only [hside, SideName.NoWorse] at hnoWorse hwithin ⊢
      exact le_min (hnoWorse.trans (le_max_left _ _)) hwithin

end Polymarket

/-! ## Myriad -/

theorem fits_mul_pow {p : ℕ} {x : Dec} (h : Fits 10 p x) (k : ℕ) : Fits 10 p (x * 10 ^ k) := by
  obtain ⟨m, e, rfl, hm⟩ := h
  refine ⟨m, e + k, ?_, hm⟩
  rw [zpow_add₀ (by norm_num), zpow_natCast, mul_assoc]
  norm_cast

/-- The units of a float are cut off. -/
theorem toUnits_eq {x : Dec} (h : Fits 10 17 x) (hx : 0 ≤ x) (decimals : ℕ) :
    toUnits x decimals = ⌊x * 10 ^ decimals⌋ := by
  have hexact : Dec.mul x (10 ^ decimals) = x * 10 ^ decimals :=
    Dec.exact_of_fits ((fits_mul_pow h decimals).mono (by norm_num) (by norm_num))
  rw [toUnits, hexact, truncate, if_pos (mul_nonneg hx (by positivity))]

theorem toUnits_le {x : Dec} (h : Fits 10 17 x) (hx : 0 ≤ x) (decimals : ℕ) :
    (toUnits x decimals : Dec) / 10 ^ decimals ≤ x := by
  rw [toUnits_eq h hx, div_le_iff₀ (by positivity)]
  exact Int.floor_le _

/-- Those of a price are whole. -/
theorem Grid4.toUnits_eq {x : Dec} (h : Grid4 x) (hx : 0 ≤ x) (hx' : x ≤ 3) :
    (toUnits x 18 : Dec) / 10 ^ 18 = x := by
  have hfits : Fits 10 17 x := by
    refine h.fits ?_
    rw [abs_of_nonneg hx]
    linarith [(by norm_num : (3 : ℚ) * 10 ^ 4 < 10 ^ 17)]
  rw [LimitOrders.toUnits_eq hfits hx]
  obtain ⟨t, rfl⟩ := h
  have hwhole : (t : ℚ) / 10 ^ 4 * 10 ^ 18 = ((t * 10 ^ 14 : ℤ) : ℚ) := by
    push_cast
    ring
  rw [hwhole, Int.floor_intCast, ← hwhole, mul_div_cancel_right₀ _ (by norm_num)]

namespace Myriad

theorem quantized_of_signOrder {side : SideName} {contracts price : Dec} {order : SentOrder}
    (h : signOrder floats side contracts price = .ok order) :
    ∃ quantized,
      (if side = .buy then quantizeDown price (1 / 100) else quantizeUp price (1 / 100)) =
        .ok quantized ∧
      order = ⟨[(toUnits (floats.text quantized) 18 : Dec) / 10 ^ 18],
        (toUnits contracts 18 : Dec) / 10 ^ 18⟩ := by
  have hrest {quantized : Dec} (h : (if ¬ (1 ≤ toUnits (floats.text quantized) 18 ∧
        toUnits (floats.text quantized) 18 ≤ 10 ^ 18) then .error .myriadPrice
      else if toUnits (floats.text quantized) 18 % 10 ^ 16 ≠ 0 then .error .myriadTick
      else .ok ⟨[(toUnits (floats.text quantized) 18 : Dec) / 10 ^ 18],
        (toUnits contracts 18 : Dec) / 10 ^ 18⟩ : Except Refusal SentOrder) = .ok order) :
      order = ⟨[(toUnits (floats.text quantized) 18 : Dec) / 10 ^ 18],
        (toUnits contracts 18 : Dec) / 10 ^ 18⟩ := by
    split_ifs at h
    exact (Except.ok.inj h).symm
  unfold signOrder at h
  split_ifs at h ⊢
  · obtain ⟨quantized, hquantized, h⟩ := exists_of_bind_ok h
    exact ⟨quantized, hquantized, hrest h⟩
  · obtain ⟨quantized, hquantized, h⟩ := exists_of_bind_ok h
    exact ⟨quantized, hquantized, hrest h⟩

/-- Every order of Myriad keeps the limit. -/
theorem signOrder_keeps {order : SentOrder}
    (h : Venue.myriad.submit request = .ok order) : order.Keeps request := by
  have hgrid : Grid4 (1 / 100) := ⟨100, by norm_num⟩
  obtain ⟨quantized, hquantized, h⟩ := quantized_of_signOrder h
  have hsteps : request.side.NoWorse request.limit quantized ∧ 0 ≤ quantized ∧ quantized ≤ 3 ∧
      Grid4 quantized := by
    cases hside : request.side with
    | buy =>
      rw [hside, if_pos rfl] at hquantized
      obtain ⟨hlow, hle, hgrid'⟩ := quantizeDown_spec request.limit_fits request.limit_pos
        request.limit_lt_one hgrid (by norm_num) hquantized
      exact ⟨hle, hlow, by linarith [request.limit_lt_one], hgrid'⟩
    | sell =>
      rw [hside, if_neg (by decide)] at hquantized
      obtain ⟨hle, hhigh, hgrid'⟩ := quantizeUp_spec request.limit_fits request.limit_pos
        request.limit_lt_one hgrid (by norm_num) (by norm_num) hquantized
      exact ⟨hle, request.limit_pos.le.trans hle, hhigh, hgrid'⟩
  obtain ⟨hnoWorse, hnonneg, hhigh, hgrid'⟩ := hsteps
  rw [h]
  refine ⟨fun price hmem => ?_, toUnits_le request.contracts_fits request.contracts_pos.le 18⟩
  rw [List.mem_singleton.mp hmem, hgrid'.text_eq hnonneg hhigh, hgrid'.toUnits_eq hnonneg hhigh]
  exact hnoWorse

end Myriad

/-! ## Opinion -/

namespace Opinion

theorem quantize_eq_ok {value quantized : Dec} {places : ℕ} :
    quantize value places = .ok quantized ↔
      |halfEven (value * 10 ^ places)| < 10 ^ 28 ∧
        (halfEven (value * 10 ^ places) : Dec) / 10 ^ places = quantized := by
  unfold quantize
  dsimp only
  split_ifs with h
  · refine iff_of_false (by simp) ?_
    rintro ⟨hfits, -⟩
    exact absurd hfits h.not_gt
  · rw [Except.ok.injEq]
    exact (and_iff_right (not_le.mp h)).symm

/-- The price of the request rounded to the nearest. -/
def nearestPrice (pricePrecision : ℕ) : Dec :=
  halfEven (request.limit * 10 ^ max 1 pricePrecision) / 10 ^ max 1 pricePrecision

theorem submit_eq_ok (pricePrecision : ℕ) {order : SentOrder} :
    (Venue.opinion pricePrecision).submit request = .ok order ↔
      |halfEven (request.limit * 10 ^ max 1 pricePrecision)| < 10 ^ 28 ∧
      |halfEven (Dec.mul request.contracts (nearestPrice request pricePrecision) * 10 ^ 6)| <
        10 ^ 28 ∧
      |halfEven (request.contracts * 10 ^ 6)| < 10 ^ 28 ∧
      order = ⟨[nearestPrice request pricePrecision],
        halfEven (Dec.mul request.contracts (nearestPrice request pricePrecision) * 10 ^ 6) /
          10 ^ 6 / nearestPrice request pricePrecision⟩ := by
  have hrange : 0 < request.limit ∧ request.limit ≤ 1 :=
    ⟨request.limit_pos, request.limit_lt_one.le⟩
  constructor
  · intro h
    obtain ⟨payload, hpayload, hsent⟩ := exists_of_bind_ok h
    rw [buildOrderPayload, if_neg request.contracts_pos.not_ge, if_neg (not_not.mpr hrange)]
      at hpayload
    obtain ⟨price, hprice, hpayload⟩ := exists_of_bind_ok hpayload
    obtain ⟨maker, hmaker, hpayload⟩ := exists_of_bind_ok hpayload
    obtain ⟨shares, hshares, hpayload⟩ := exists_of_bind_ok hpayload
    cases hpayload
    cases hsent
    obtain ⟨hprice_fits, rfl⟩ := quantize_eq_ok.mp hprice
    obtain ⟨hmaker_fits, rfl⟩ := quantize_eq_ok.mp hmaker
    obtain ⟨hshares_fits, -⟩ := quantize_eq_ok.mp hshares
    exact ⟨hprice_fits, hmaker_fits, hshares_fits, rfl⟩
  · rintro ⟨hprice_fits, hmaker_fits, hshares_fits, rfl⟩
    show (buildOrderPayload request.contracts request.limit pricePrecision >>= _) = _
    rw [buildOrderPayload, if_neg request.contracts_pos.not_ge, if_neg (not_not.mpr hrange),
      quantize_eq_ok.mpr ⟨hprice_fits, rfl⟩]
    show (quantize (Dec.mul request.contracts (nearestPrice request pricePrecision)) 6 >>= _)
      >>= _ = _
    rw [quantize_eq_ok.mpr ⟨hmaker_fits, rfl⟩]
    show (quantize request.contracts 6 >>= _) >>= _ = _
    rw [quantize_eq_ok.mpr ⟨hshares_fits, rfl⟩]
    rfl

theorem noWorse_nearestPrice_iff (pricePrecision : ℕ) :
    request.side.NoWorse request.limit (nearestPrice request pricePrecision) ↔
      request.side.RoundsWell (request.limit * 10 ^ max 1 pricePrecision) := by
  have hpow : (0 : Dec) < 10 ^ max 1 pricePrecision := by positivity
  unfold nearestPrice
  cases request.side with
  | buy =>
    show _ / _ ≤ request.limit ↔ RoundsDown _
    rw [div_le_iff₀ hpow]
    exact halfEven_le_iff
  | sell =>
    show request.limit ≤ _ / _ ↔ RoundsUp _
    rw [le_div_iff₀ hpow]
    exact le_halfEven_iff

/-- The quote tokens buy no more than the contracts if they are not rounded up; for a price of zero
there are none. -/
theorem acquired_le_iff {contracts price : Dec} (hc : 0 < contracts) (hprice : 0 ≤ price) :
    (halfEven (Dec.mul contracts price * 10 ^ 6) : Dec) / 10 ^ 6 / price ≤ contracts ↔
      (halfEven (Dec.mul contracts price * 10 ^ 6) : Dec) ≤ contracts * price * 10 ^ 6 := by
  rcases hprice.eq_or_lt with hzero | hpos
  · have hnone : halfEven (Dec.mul contracts 0 * 10 ^ 6) = 0 := by
      rw [Dec.mul, mul_zero, Dec.ctx_zero, zero_mul]
      exact halfEven_intCast 0
    rw [← hzero, hnone]
    simp [hc.le]
  · rw [div_le_iff₀ hpos, div_le_iff₀ (by norm_num)]

theorem keeps_iff (pricePrecision : ℕ) :
    (∀ order, (Venue.opinion pricePrecision).submit request = .ok order → order.Keeps request) ↔
      (Venue.opinion pricePrecision).KeepsLimit request := by
  have hprice : 0 ≤ nearestPrice request pricePrecision := by
    have h : 0 ≤ halfEven (request.limit * 10 ^ max 1 pricePrecision) :=
      halfEven_nonneg (mul_nonneg request.limit_pos.le (by positivity))
    exact div_nonneg (by exact_mod_cast h) (by positivity)
  have hkeeps := and_congr (noWorse_nearestPrice_iff request pricePrecision)
    (acquired_le_iff request.contracts_pos hprice)
  constructor
  · intro h hprice_fits hmaker_fits hshares_fits
    obtain ⟨hnoWorse, hcontracts⟩ := h _ ((submit_eq_ok request pricePrecision).mpr
      ⟨hprice_fits, hmaker_fits, hshares_fits, rfl⟩)
    exact hkeeps.mp ⟨hnoWorse _ (List.mem_singleton_self _), hcontracts⟩
  · intro hlimit order horder
    obtain ⟨hprice_fits, hmaker_fits, hshares_fits, rfl⟩ :=
      (submit_eq_ok request pricePrecision).mp horder
    obtain ⟨hnoWorse, hcontracts⟩ :=
      hkeeps.mpr (hlimit hprice_fits hmaker_fits hshares_fits)
    refine ⟨fun price hmem => ?_, hcontracts⟩
    rw [List.mem_singleton.mp hmem]
    exact hnoWorse

end Opinion

/-! ## Predict.fun -/

namespace PredictFun

theorem normalizedLimitPrice_noWorse {pricePrecision : ℕ} (hprecision : pricePrecision ≤ 18)
    {normalized : Dec}
    (h : normalizedLimitPrice pricePrecision request.limit request.side = .ok normalized) :
    request.side.NoWorse request.limit normalized := by
  have hpow : (0 : Dec) < 10 ^ pricePrecision := by positivity
  have hsteps : Dec.div request.limit (1 / 10 ^ pricePrecision) =
      request.limit * 10 ^ pricePrecision := by
    rw [Dec.div, div_div_eq_mul_div, div_one]
    exact Dec.exact_of_fits ((fits_mul_pow request.limit_fits _).mono (by norm_num) (by norm_num))
  -- at most one step more than there are up to one, so the context holds them
  have hexact {n : ℤ} (hlow : 0 ≤ n) (hhigh : n ≤ 10 ^ pricePrecision) :
      Dec.mul n (1 / 10 ^ pricePrecision) = n / 10 ^ pricePrecision := by
    rw [Dec.mul, mul_one_div]
    refine Dec.exact_of_fits ⟨n, -pricePrecision, ?_, ?_⟩
    · rw [zpow_neg, zpow_natCast, div_eq_mul_inv]
      rfl
    · rw [abs_of_nonneg hlow]
      have hle : (10 : ℤ) ^ pricePrecision ≤ 10 ^ 18 :=
        pow_le_pow_right₀ (by norm_num) hprecision
      exact (hhigh.trans hle).trans_lt (by norm_num)
  have hscaled : 0 ≤ request.limit * 10 ^ pricePrecision :=
    mul_nonneg request.limit_pos.le hpow.le
  have hbelow : request.limit * 10 ^ pricePrecision ≤ ((10 ^ pricePrecision : ℤ) : ℚ) := by
    push_cast
    exact mul_le_of_le_one_left hpow.le request.limit_lt_one.le
  unfold normalizedLimitPrice at h
  simp only [hsteps] at h
  cases hside : request.side with
  | buy =>
    simp only [hside, if_true] at h
    rw [hexact (Int.floor_nonneg.mpr hscaled)
      (by exact_mod_cast (Int.floor_le _).trans hbelow)] at h
    split_ifs at h
    obtain rfl := Except.ok.inj h
    show _ / _ ≤ request.limit
    rw [div_le_iff₀ hpow]
    exact Int.floor_le _
  | sell =>
    simp only [hside, reduceCtorEq, if_false] at h
    rw [hexact (Int.ceil_nonneg hscaled) (Int.ceil_le.mpr hbelow)] at h
    split_ifs at h
    obtain rfl := Except.ok.inj h
    show request.limit ≤ _ / _
    rw [le_div_iff₀ hpow]
    exact Int.le_ceil _

theorem respects_of_acceptedAmounts {market : Market} {side : SideName} {contracts limit : Dec}
    {amounts : SdkAmounts} (h : acceptedAmounts market side contracts limit = .ok amounts) :
    marketOrderRespectsLimit amounts limit side = true := by
  have hchecked {first : SdkAmounts}
      (h : (if ¬ marketOrderRespectsLimit first limit side then .error .hardLimit
        else if first.amount ≤ 0 ∨ first.pricePerShare ≤ 0 then .error .noAmount
        else .ok first : Except Refusal SdkAmounts) = .ok amounts) :
      marketOrderRespectsLimit amounts limit side = true := by
    split_ifs at h with hrespects hamount
    obtain rfl := Except.ok.inj h
    exact hrespects
  unfold acceptedAmounts at h
  obtain ⟨-, -, h⟩ := exists_of_bind_ok h
  obtain ⟨first, -, h⟩ := exists_of_bind_ok h
  split_ifs at h
  · exact hchecked h
  · obtain ⟨second, -, h⟩ := exists_of_bind_ok h
    exact hchecked h

theorem pos_of_respects {amounts : SdkAmounts} {limit : Dec} {side : SideName}
    (h : marketOrderRespectsLimit amounts limit side = true) :
    0 < amounts.makerAmount ∧ 0 < amounts.takerAmount := by
  unfold marketOrderRespectsLimit at h
  split_ifs at h with hpos
  rwa [not_or, not_le, not_le] at hpos

theorem submit_eq_ok (market : Market) {order : SentOrder} :
    (Venue.predictFun market).submit request = .ok order ↔
      ∃ normalizedPrice amounts,
        normalizedLimitPrice market.pricePrecision request.limit request.side =
          .ok normalizedPrice ∧
        acceptedAmounts market request.side request.contracts (floats.text normalizedPrice) =
          .ok amounts ∧
        order = sentOrder market.precision request.side amounts := by
  constructor
  · intro h
    obtain ⟨normalizedPrice, hnormalized, h⟩ := exists_of_bind_ok h
    obtain ⟨amounts, hamounts, h⟩ := exists_of_bind_ok h
    exact ⟨normalizedPrice, amounts, hnormalized, hamounts, (Except.ok.inj h).symm⟩
  · rintro ⟨normalizedPrice, amounts, hnormalized, hamounts, rfl⟩
    show (normalizedLimitPrice _ _ _ >>= fun _ => _) = _
    rw [hnormalized]
    show (acceptedAmounts _ _ _ _ >>= fun _ => _) = _
    rw [hamounts]
    rfl

/-- The signed price of an order may miss the limit by what the context rounds away, and by no
more. -/
theorem signedPrice_near (market : Market) {order : SentOrder}
    (h : (Venue.predictFun market).submit request = .ok order) :
    ∃ signed, order.prices.head? = some signed ∧
      match request.side with
      | .buy => signed ≤ Dec.slack * request.limit
      | .sell => request.limit ≤ Dec.slack * signed := by
  obtain ⟨normalizedPrice, amounts, hnormalized, hamounts, rfl⟩ :=
    (submit_eq_ok request market).mp h
  have hrespects := respects_of_acceptedAmounts hamounts
  obtain ⟨hmaker, htaker⟩ := pos_of_respects hrespects
  have hmaker' : (0 : Dec) < amounts.makerAmount := by exact_mod_cast hmaker
  have htaker' : (0 : Dec) < amounts.takerAmount := by exact_mod_cast htaker
  -- the limit is a float, and so no worse than the price it is normalized to after `str`
  have htext : request.side.NoWorse request.limit (floats.text normalizedPrice) := by
    have hnoWorse := normalizedLimitPrice_noWorse request market.pricePrecision_le hnormalized
    cases hside : request.side with
    | buy =>
        rw [hside] at hnoWorse
        exact (floats.mono hnoWorse).trans_eq request.limit_float
    | sell =>
        rw [hside] at hnoWorse
        exact request.limit_float.symm.trans_le (floats.mono hnoWorse)
  unfold marketOrderRespectsLimit at hrespects
  rw [if_neg (not_or.mpr ⟨hmaker.not_ge, htaker.not_ge⟩)] at hrespects
  cases hside : request.side with
  | buy =>
    simp only [hside, decide_eq_true_eq] at hrespects
    rw [hside] at htext
    have hwithin := (Dec.ctx_within (div_pos hmaker' htaker').le).2
    rw [pow_one] at hwithin
    exact ⟨_, rfl, hwithin.trans (mul_le_mul_of_nonneg_left (hrespects.trans htext)
      (zero_le_one.trans Dec.one_le_slack))⟩
  | sell =>
    simp only [hside, decide_eq_true_eq] at hrespects
    rw [hside] at htext
    have hwithin := (Dec.ctx_within (div_pos htaker' hmaker').le).1
    rw [pow_one] at hwithin
    exact ⟨_, rfl, (htext.trans hrespects).trans hwithin⟩

theorem keeps_iff (market : Market) :
    (∀ order, (Venue.predictFun market).submit request = .ok order → order.Keeps request) ↔
      (Venue.predictFun market).KeepsLimit request := by
  have hpow : (0 : Dec) < 10 ^ market.precision := by positivity
  -- the order of accepted amounts keeps the limit if the amounts do
  have hkeeps {amounts : SdkAmounts} (hpos : 0 < amounts.makerAmount ∧ 0 < amounts.takerAmount) :
      (sentOrder market.precision request.side amounts).Keeps request ↔
        request.side.NoWorse request.limit (amounts.pricePerShare / 10 ^ market.precision) ∧
          match request.side with
          | .buy =>
              amounts.makerAmount ≤ request.limit * amounts.takerAmount ∧
                amounts.takerAmount ≤ request.contracts * 10 ^ market.precision
          | .sell =>
              request.limit * amounts.makerAmount ≤ amounts.takerAmount ∧
                amounts.makerAmount ≤ request.contracts * 10 ^ market.precision := by
    have hmaker : (0 : Dec) < amounts.makerAmount := by exact_mod_cast hpos.1
    have htaker : (0 : Dec) < amounts.takerAmount := by exact_mod_cast hpos.2
    unfold SentOrder.Keeps sentOrder
    cases hside : request.side with
    | buy =>
      simp only [List.mem_cons, List.not_mem_nil, or_false, forall_eq_or_imp, forall_eq,
        SideName.NoWorse]
      rw [div_le_iff₀ htaker, div_le_iff₀ hpow, div_le_iff₀ hpow]
      tauto
    | sell =>
      simp only [List.mem_cons, List.not_mem_nil, or_false, forall_eq_or_imp, forall_eq,
        SideName.NoWorse]
      rw [le_div_iff₀ hmaker, le_div_iff₀ hpow, div_le_iff₀ hpow]
      tauto
  constructor
  · intro h normalizedPrice amounts hnormalized hamounts
    have hsent := h _ ((submit_eq_ok request market).mpr
      ⟨normalizedPrice, amounts, hnormalized, hamounts, rfl⟩)
    exact (hkeeps (pos_of_respects (respects_of_acceptedAmounts hamounts))).mp hsent
  · intro hlimit order horder
    obtain ⟨normalizedPrice, amounts, hnormalized, hamounts, rfl⟩ :=
      (submit_eq_ok request market).mp horder
    exact (hkeeps (pos_of_respects (respects_of_acceptedAmounts hamounts))).mpr
      (hlimit normalizedPrice amounts hnormalized hamounts)

end PredictFun

/-! ## All venues -/

/-- **When the limit of the caller is kept**: whatever the request, every order that is not refused
has no worse price and no more contracts exactly under the condition of its venue. -/
theorem limit_kept_iff (venue : Venue) :
    (∀ order, venue.submit request = .ok order → order.Keeps request) ↔
      venue.KeepsLimit request := by
  cases venue with
  | polymarket tickSize => exact Polymarket.keeps_iff request tickSize
  | predictFun market => exact PredictFun.keeps_iff request market
  | myriad => exact iff_of_true (fun _ h => Myriad.signOrder_keeps request h) trivial
  | opinion pricePrecision => exact Opinion.keeps_iff request pricePrecision

namespace LimitExamples

theorem digits17_text (x : Dec) : FloatText.digits17.text x = significant 10 17 x := by
  show (if significant 10 15 x = x then x else significant 10 17 x) = _
  split_ifs with h
  · have hfits : Fits 10 15 (significant 10 15 x) :=
      fits_significant (by norm_num) (by norm_num) x
    rw [h] at hfits
    exact (significant_eq_self (by norm_num) (hfits.mono (by norm_num) (by norm_num))).symm
  · rfl

def digits : OrderedText where
  toFloatText := .digits17
  mono := by
    intro x y h
    rw [digits17_text, digits17_text]
    exact significant_mono (by norm_num) (by norm_num) h

/-- Ten contracts for at most 55.6 cents each. -/
def purchase : OrderRequest digits where
  side := .buy
  contracts := 10
  limit := 556 / 1000
  contracts_pos := by norm_num
  limit_pos := by norm_num
  limit_lt_one := by norm_num
  contracts_float := by decide +kernel
  limit_float := by decide +kernel

/-- Ten contracts for at most half a cent each. -/
def cheapPurchase : OrderRequest digits where
  side := .buy
  contracts := 10
  limit := 5 / 1000
  contracts_pos := by norm_num
  limit_pos := by norm_num
  limit_lt_one := by norm_num
  contracts_float := by decide +kernel
  limit_float := by decide +kernel

/-- Opinion sends 56 cents for the first, and Polymarket one cent for the second. -/
theorem limit_not_kept :
    (∃ order, (Venue.opinion 2).submit purchase = .ok order ∧ ¬ order.Keeps purchase) ∧
    ∃ order, (Venue.polymarket (1 / 100)).submit cheapPurchase = .ok order ∧
      ¬ order.Keeps cheapPurchase := by
  constructor
  · refine ⟨⟨[56 / 100], 10⟩, by decide +kernel, fun h => ?_⟩
    have hprice : (56 / 100 : Dec) ≤ 556 / 1000 := h.1 _ (List.mem_singleton_self _)
    norm_num at hprice
  · refine ⟨⟨[1 / 100], 10⟩, by decide +kernel, fun h => ?_⟩
    have hprice : (1 / 100 : Dec) ≤ 5 / 1000 := h.1 _ (List.mem_singleton_self _)
    norm_num at hprice

/-- A market of Predict.fun with ten contracts on offer, whose SDK buys them for 5.55. -/
def offeredMarket : PredictFun.Market where
  pricePrecision := 3
  precision := 6
  maxSlippagePct := 0
  book := { bids := [], asks := [⟨11 / 20, 10⟩] }
  getMarketOrderAmounts _ := .ok ⟨5550000, 10000000, 5550000, 555000⟩
  pricePrecision_le := by norm_num

theorem signedPrice_near_offered :
    ∃ signed : Dec, [(111 / 200 : Dec), 111 / 200].head? = some signed ∧
      signed ≤ Dec.slack * (556 / 1000) := by
  have h : (Venue.predictFun offeredMarket).submit purchase =
      .ok ⟨[111 / 200, 111 / 200], 10⟩ := by decide +kernel
  exact PredictFun.signedPrice_near purchase offeredMarket h

end LimitExamples

end ArbitrageEngine.Connectors.LimitOrders
