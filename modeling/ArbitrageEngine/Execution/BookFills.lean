/-
# ArbitrageEngine.Execution.BookFills -- what a buy of a notional gets from the asks

`weighted_average_fill` spends a target on the asks in their order and stops once what remains is no
more than a tolerance of 1e-12.  The loop is written here for any arithmetic.  In the decimal
context it is the loop of the preflight; over exact rationals it is the greedy buyer, who spends the
target, up to the tolerance, and gets the most that can be had for what is spent.
-/
import ArbitrageEngine.Execution.Preflight
import ArbitrageEngine.Lib.GreedyFill

namespace ArbitrageEngine.Execution

open Lib.GreedyFill

/-! ## The loop in any arithmetic -/

/-- How the operators of a computation round, and what `float` makes of a result. -/
structure Arithmetic where
  add : Dec → Dec → Dec
  sub : Dec → Dec → Dec
  mul : Dec → Dec → Dec
  div : Dec → Dec → Dec
  float : Dec → Dec
  /-- `(a - b) / b` of floats. -/
  relativeExcess : Dec → Dec → Dec

/-- `FillQuote`. -/
structure FillQuote where
  avgPrice : Dec
  contracts : Dec
  spentUsd : Dec
  slippagePct : Dec
deriving DecidableEq

/-- The tolerance of the loop, `Decimal("1e-12")`. -/
def fillTolerance : Dec := 1 / 10 ^ 12

namespace Arithmetic

variable (ops : Arithmetic)

/-- The loop of `weighted_average_fill`: what is spent and what is bought. -/
def weightedFill : List OrderBookLevel → (remaining spent size : Dec) → Dec × Dec
  | [], _, spent, size => (spent, size)
  | level :: rest, remaining, spent, size =>
      if level.price ≤ 0 ∨ level.size ≤ 0 then weightedFill rest remaining spent size
      else
        let takeNotional := min remaining (ops.mul level.price level.size)
        let takeSize := ops.div takeNotional level.price
        let left := ops.sub remaining takeNotional
        if left ≤ fillTolerance then (ops.add spent takeNotional, ops.add size takeSize)
        else weightedFill rest left (ops.add spent takeNotional) (ops.add size takeSize)

/-- `weighted_average_fill`: average price, contracts and notional. -/
def weightedAverageFill (levels : List OrderBookLevel) (target : Dec) :
    Option (Dec × Dec × Dec) :=
  if target ≤ 0 then none
  else
    let (spent, size) := ops.weightedFill levels target 0 0
    if spent ≤ 0 ∨ size ≤ 0 then none
    else if ops.add spent fillTolerance < target then none
    else some (ops.float (ops.div spent size), ops.float size, ops.float spent)

/-- `orderbook_buy_quote`; a book without asks has no best ask. -/
def orderbookBuyQuote (book : OrderBook) (target : Dec) : Option FillQuote := do
  let best ← book.asks.head?
  let (avgPrice, contracts, spent) ← ops.weightedAverageFill book.asks target
  some
    { avgPrice := avgPrice
      contracts := contracts
      spentUsd := spent
      slippagePct := max 0 (ops.relativeExcess avgPrice best.price) }

/-- The arithmetic of the code. -/
def context (floatText : FloatText) (relativeExcess : Dec → Dec → Dec) : Arithmetic where
  add := Dec.add
  sub := Dec.sub
  mul := Dec.mul
  div := Dec.div
  float := floatText.text
  relativeExcess := relativeExcess

/-- Exact rationals. -/
def exact : Arithmetic where
  add := (· + ·)
  sub := (· - ·)
  mul := (· * ·)
  div := (· / ·)
  float := id
  relativeExcess := fun a b => (a - b) / b

theorem weightedFill_context (floatText : FloatText) (relativeExcess : Dec → Dec → Dec)
    (levels : List OrderBookLevel) (remaining spent size : Dec) :
    (context floatText relativeExcess).weightedFill levels remaining spent size =
      Execution.weightedFill levels remaining spent size := by
  induction levels generalizing remaining spent size with
  | nil => rfl
  | cons level rest ih =>
    unfold weightedFill Execution.weightedFill
    split
    · exact ih remaining spent size
    · dsimp only
      rw [ih]
      rfl

/-- The code of the preflight is the loop in the decimal context. -/
theorem weightedAverageFill_context (floatText : FloatText) (relativeExcess : Dec → Dec → Dec)
    (levels : List OrderBookLevel) (target : Dec) :
    (context floatText relativeExcess).weightedAverageFill levels target =
      Execution.weightedAverageFill floatText levels target := by
  unfold weightedAverageFill Execution.weightedAverageFill
  rw [weightedFill_context]
  rfl

end Arithmetic

/-! ## The loop over exact rationals -/

/-- What the asks cost altogether. -/
def askDepth (asks : List OrderBookLevel) : Dec :=
  depth OrderBookLevel.price OrderBookLevel.size asks

/-- All levels have a price and a size. -/
def ProperAsks (asks : List OrderBookLevel) : Prop :=
  Proper OrderBookLevel.price OrderBookLevel.size asks

/-- The asks are sorted by price. -/
def SortedAsks (asks : List OrderBookLevel) : Prop := Sorted OrderBookLevel.price asks

/-- The levels that the loop takes from. -/
def consumed : List OrderBookLevel → (remaining : Dec) → List OrderBookLevel
  | [], _ => []
  | level :: rest, remaining =>
      let left := remaining - min remaining (level.price * level.size)
      level :: if left ≤ fillTolerance then [] else consumed rest left

/-- What the loop spends. -/
def loopSpent : List OrderBookLevel → (remaining : Dec) → Dec
  | [], _ => 0
  | level :: rest, remaining =>
      let takeNotional := min remaining (level.price * level.size)
      let left := remaining - takeNotional
      takeNotional + if left ≤ fillTolerance then 0 else loopSpent rest left

variable {asks : List OrderBookLevel} {target : Dec}

theorem fillTolerance_pos : 0 < fillTolerance := by norm_num [fillTolerance]

/-- What the greedy buyer gets for what the loop spends. -/
def loopBought (asks : List OrderBookLevel) (target : Dec) : Dec :=
  greedyBought OrderBookLevel.price OrderBookLevel.size asks (loopSpent asks target)

theorem loopSpent_cons_of_le {level : OrderBookLevel} {rest : List OrderBookLevel} {remaining : Dec}
    (h : remaining - min remaining (level.price * level.size) ≤ fillTolerance) :
    loopSpent (level :: rest) remaining = min remaining (level.price * level.size) := by
  rw [loopSpent, if_pos h, add_zero]

/-- Where the loop goes on, the level is used up. -/
theorem min_eq_of_lt {level : OrderBookLevel} {remaining : Dec}
    (h : fillTolerance < remaining - min remaining (level.price * level.size)) :
    min remaining (level.price * level.size) = level.price * level.size := by
  refine min_eq_right (le_of_not_gt fun hlt => ?_)
  rw [min_eq_left hlt.le, sub_self] at h
  exact absurd (fillTolerance_pos.trans h) (lt_irrefl 0)

theorem loopSpent_cons_of_lt {level : OrderBookLevel} {rest : List OrderBookLevel} {remaining : Dec}
    (h : fillTolerance < remaining - min remaining (level.price * level.size)) :
    loopSpent (level :: rest) remaining =
      level.price * level.size + loopSpent rest (remaining - level.price * level.size) := by
  rw [loopSpent, if_neg h.not_ge, min_eq_of_lt h]

/-- Either nothing but the tolerance is left, or all levels are used up. -/
theorem loopSpent_spec (hproper : ProperAsks asks) (htarget : 0 ≤ target) :
    0 ≤ loopSpent asks target ∧ loopSpent asks target ≤ target ∧
      loopSpent asks target ≤ askDepth asks ∧
      (loopSpent asks target + fillTolerance < target → loopSpent asks target = askDepth asks) := by
  induction asks generalizing target with
  | nil => exact ⟨le_rfl, htarget, by simp [loopSpent, askDepth, depth], fun _ => rfl⟩
  | cons level rest ih =>
    have hdepth : askDepth (level :: rest) = level.price * level.size + askDepth rest :=
      depth_cons level rest
    have hrest : 0 ≤ askDepth rest := depth_nonneg hproper.tail
    by_cases hlast : target - min target (level.price * level.size) ≤ fillTolerance
    · rw [loopSpent_cons_of_le hlast, hdepth]
      have hle := min_le_right target (level.price * level.size)
      refine ⟨le_min htarget hproper.head.2.le, min_le_left _ _, by linarith, fun h => ?_⟩
      linarith
    · have hlt := not_le.mp hlast
      rw [loopSpent_cons_of_lt hlt, hdepth]
      rw [min_eq_of_lt hlt] at hlt
      obtain ⟨hnonneg, hle, hle', hall⟩ :=
        ih hproper.tail (fillTolerance_pos.le.trans hlt.le)
      refine ⟨add_nonneg hproper.head.2.le hnonneg, by linarith, by linarith, fun h => ?_⟩
      rw [hall (by linarith)]

/-- A larger target spends no less. -/
theorem loopSpent_mono (hproper : ProperAsks asks) {larger : Dec} (htarget : 0 ≤ target)
    (hle : target ≤ larger) : loopSpent asks target ≤ loopSpent asks larger := by
  induction asks generalizing target larger with
  | nil => exact le_rfl
  | cons level rest ih =>
    have hnotional := hproper.head.2.le
    by_cases hlast : target - min target (level.price * level.size) ≤ fillTolerance
    · rw [loopSpent_cons_of_le hlast]
      have hmin : min target (level.price * level.size) ≤ min larger (level.price * level.size) :=
        min_le_min_right _ hle
      by_cases hlast' : larger - min larger (level.price * level.size) ≤ fillTolerance
      · rw [loopSpent_cons_of_le hlast']
        exact hmin
      · have hlt := not_le.mp hlast'
        rw [min_eq_of_lt hlt] at hmin hlt
        rw [loopSpent_cons_of_lt (not_le.mp hlast')]
        have hrest := (loopSpent_spec hproper.tail (fillTolerance_pos.le.trans hlt.le)).1
        linarith
    · have hlt := not_le.mp hlast
      have hused := min_eq_of_lt hlt
      have hlt' : fillTolerance < larger - min larger (level.price * level.size) := by
        rw [hused] at hlt
        have hmin := min_le_right larger (level.price * level.size)
        linarith
      rw [loopSpent_cons_of_lt hlt, loopSpent_cons_of_lt hlt']
      rw [hused] at hlt
      have hrest := ih hproper.tail (fillTolerance_pos.le.trans hlt.le)
        (sub_le_sub_right hle (level.price * level.size))
      linarith

theorem weightedFill_exact_cons {level : OrderBookLevel} {rest : List OrderBookLevel}
    (hlevel : 0 < level.price ∧ 0 < level.size) (remaining spent size : Dec) :
    Arithmetic.exact.weightedFill (level :: rest) remaining spent size =
      if remaining - min remaining (level.price * level.size) ≤ fillTolerance then
        (spent + min remaining (level.price * level.size),
          size + min remaining (level.price * level.size) / level.price)
      else
        Arithmetic.exact.weightedFill rest (remaining - min remaining (level.price * level.size))
          (spent + min remaining (level.price * level.size))
          (size + min remaining (level.price * level.size) / level.price) := by
  have hskip : ¬ (level.price ≤ 0 ∨ level.size ≤ 0) := fun h =>
    h.elim hlevel.1.not_ge hlevel.2.not_ge
  rw [Arithmetic.weightedFill, if_neg hskip]
  rfl

/-- The loop buys what the greedy buyer gets for what is spent. -/
theorem weightedFill_exact (hproper : ProperAsks asks) (htarget : 0 ≤ target) (spent size : Dec) :
    Arithmetic.exact.weightedFill asks target spent size =
      (spent + loopSpent asks target, size + loopBought asks target) := by
  unfold loopBought
  induction asks generalizing target spent size with
  | nil => simp [Arithmetic.weightedFill, loopSpent, greedyBought, greedy, bought]
  | cons level rest ih =>
    rw [weightedFill_exact_cons (hproper level (by simp))]
    by_cases hlast : target - min target (level.price * level.size) ≤ fillTolerance
    · rw [if_pos hlast, loopSpent_cons_of_le hlast, greedyBought_cons, min_assoc, min_self,
        sub_self, greedyBought_zero hproper.tail, add_zero]
    · have hlt := not_le.mp hlast
      have hused := min_eq_of_lt hlt
      rw [if_neg hlast, loopSpent_cons_of_lt hlt, hused]
      rw [hused] at hlt
      have hleft := fillTolerance_pos.le.trans hlt.le
      have hspent := (loopSpent_spec hproper.tail hleft).1
      have hgreedy : greedyBought OrderBookLevel.price OrderBookLevel.size (level :: rest)
          (level.price * level.size + loopSpent rest (target - level.price * level.size)) = _ :=
        greedyBought_cons level rest _
      rw [min_eq_right (by linarith), add_sub_cancel_left] at hgreedy
      rw [ih hproper.tail hleft, hgreedy, Prod.mk.injEq]
      constructor <;> ring

/-! ## The quote -/

/-- What is bought is worth what is spent at prices between those of the levels. -/
theorem loopSpent_pos (hproper : ProperAsks asks) (hne : asks ≠ []) (htarget : 0 < target) :
    0 < loopSpent asks target := by
  cases asks with
  | nil => exact absurd rfl hne
  | cons level rest =>
    have hmin : 0 < min target (level.price * level.size) := lt_min htarget hproper.head.2
    by_cases hlast : target - min target (level.price * level.size) ≤ fillTolerance
    · rw [loopSpent_cons_of_le hlast]
      exact hmin
    · have hlt := not_le.mp hlast
      rw [loopSpent_cons_of_lt hlt]
      rw [min_eq_of_lt hlt] at hlt
      have hrest := (loopSpent_spec hproper.tail (fillTolerance_pos.le.trans hlt.le)).1
      linarith [hproper.head.2]

/-- What the loop buys costs at most the price of the worst level it takes from. -/
theorem loopSpent_le_worst (hproper : ProperAsks asks) (htarget : 0 ≤ target) {worst : Dec}
    (hworst : ∀ level ∈ consumed asks target, level.price ≤ worst) :
    loopSpent asks target ≤ worst * loopBought asks target := by
  unfold loopBought
  induction asks generalizing target with
  | nil => simp [loopSpent, greedyBought, greedy, bought]
  | cons level rest ih =>
    have hprice := hproper.head.1
    have hfirst : level.price ≤ worst := hworst level (by simp [consumed])
    have hbuys : ∀ take : Dec, 0 ≤ take → take ≤ worst * (take / level.price) := by
      intro take htake
      have hmul := mul_le_mul_of_nonneg_right hfirst (div_nonneg htake hprice.le)
      rwa [mul_div_cancel₀ _ hprice.ne'] at hmul
    by_cases hlast : target - min target (level.price * level.size) ≤ fillTolerance
    · rw [loopSpent_cons_of_le hlast, greedyBought_cons, min_assoc, min_self, sub_self,
        greedyBought_zero hproper.tail, add_zero]
      exact hbuys _ (le_min htarget hproper.head.2.le)
    · have hlt := not_le.mp hlast
      have hused := min_eq_of_lt hlt
      have hrest : ∀ other ∈ consumed rest (target - level.price * level.size),
          other.price ≤ worst := by
        intro other hmem
        refine hworst other ?_
        rw [consumed, if_neg hlast, hused]
        exact List.mem_cons_of_mem _ hmem
      rw [loopSpent_cons_of_lt hlt]
      rw [hused] at hlt
      have hleft := fillTolerance_pos.le.trans hlt.le
      have hspent := (loopSpent_spec hproper.tail hleft).1
      rw [greedyBought_cons, min_eq_right (by linarith), add_sub_cancel_left, mul_add]
      exact add_le_add (hbuys _ hproper.head.2.le) (ih hproper.tail hleft hrest)

theorem loopBought_pos (hproper : ProperAsks asks) (hne : asks ≠ []) (htarget : 0 < target) :
    0 < loopBought asks target := by
  obtain ⟨worst, hworst⟩ : ∃ worst : Dec, 0 < worst ∧
      ∀ level ∈ consumed asks target, level.price ≤ worst := by
    generalize consumed asks target = levels
    induction levels with
    | nil => exact ⟨1, one_pos, by simp⟩
    | cons level rest ih =>
      obtain ⟨worst, hpos, hworst⟩ := ih
      refine ⟨max level.price worst, hpos.trans_le (le_max_right _ _), ?_⟩
      intro other hmem
      rcases List.mem_cons.mp hmem with rfl | hmem
      · exact le_max_left _ _
      · exact (hworst other hmem).trans (le_max_right _ _)
  have hspent := loopSpent_pos hproper hne htarget
  have hle := loopSpent_le_worst hproper htarget.le hworst.2
  exact (mul_pos_iff_of_pos_left hworst.1).mp (hspent.trans_le hle)

theorem weightedAverageFill_exact (hproper : ProperAsks asks) (htarget : 0 < target) :
    Arithmetic.exact.weightedAverageFill asks target =
      if asks = [] ∨ askDepth asks + fillTolerance < target then none
      else some (loopSpent asks target / loopBought asks target, loopBought asks target,
        loopSpent asks target) := by
  obtain ⟨-, -, hdepth, hall⟩ := loopSpent_spec hproper htarget.le
  rw [Arithmetic.weightedAverageFill, if_neg htarget.not_ge, weightedFill_exact hproper htarget.le,
    zero_add, zero_add]
  dsimp only
  by_cases hne : asks = []
  · subst hne
    have hnone : loopSpent [] target ≤ 0 := le_rfl
    rw [if_pos (Or.inl hnone), if_pos (Or.inl rfl)]
  · have hspent := loopSpent_pos hproper hne htarget
    have hbought := loopBought_pos hproper hne htarget
    have hshort : Arithmetic.exact.add (loopSpent asks target) fillTolerance < target ↔
        askDepth asks + fillTolerance < target := by
      show loopSpent asks target + fillTolerance < target ↔ _
      constructor
      · intro h
        rwa [hall h] at h
      · intro h
        linarith
    rw [if_neg (not_or.mpr ⟨hspent.not_ge, hbought.not_ge⟩)]
    simp only [hne, false_or, hshort]
    rfl

theorem orderbookBuyQuote_exact {book : OrderBook} (hproper : ProperAsks book.asks)
    (htarget : 0 < target) :
    (Arithmetic.exact.orderbookBuyQuote book target = none ↔
      book.asks = [] ∨ askDepth book.asks + fillTolerance < target) ∧
    ∀ quote ∈ Arithmetic.exact.orderbookBuyQuote book target,
      book.asks ≠ [] ∧ target ≤ askDepth book.asks + fillTolerance ∧
        quote.contracts = loopBought book.asks target ∧
        quote.spentUsd = loopSpent book.asks target ∧
        quote.avgPrice = loopSpent book.asks target / loopBought book.asks target := by
  unfold Arithmetic.orderbookBuyQuote
  rw [weightedAverageFill_exact hproper htarget]
  by_cases hshort : book.asks = [] ∨ askDepth book.asks + fillTolerance < target
  · rw [if_pos hshort]
    cases book.asks.head? with
    | none => simp [hshort]
    | some best => simp [hshort]
  · rw [if_neg hshort]
    obtain ⟨hne, hdepth⟩ := not_or.mp hshort
    rw [List.head?_eq_some_head hne]
    refine ⟨by simp [hshort], fun quote hquote => ?_⟩
    obtain rfl := Option.some.inj hquote
    exact ⟨hne, not_lt.mp hdepth, rfl, rfl, rfl⟩

/-- The average price lies between those of the first level and of the worst one taken from. -/
theorem average_bounds (hproper : ProperAsks asks) (hsorted : SortedAsks asks) (hne : asks ≠ [])
    (htarget : 0 < target) :
    (asks.head hne).price ≤ loopSpent asks target / loopBought asks target ∧
      ∃ worst ∈ consumed asks target, (∀ level ∈ consumed asks target, level.price ≤ worst.price) ∧
        loopSpent asks target / loopBought asks target ≤ worst.price := by
  have hbought := loopBought_pos hproper hne htarget
  have hspent := (loopSpent_spec hproper htarget.le).1
  constructor
  · have hbest : ∀ level ∈ asks, (asks.head hne).price ≤ level.price := by
      cases asks with
      | nil => exact absurd rfl hne
      | cons best rest =>
        intro level hmem
        rcases List.mem_cons.mp hmem with rfl | hmem
        · exact le_rfl
        · exact (List.pairwise_cons.mp hsorted).1 level hmem
    have hpos := (hproper _ (List.head_mem hne)).1
    have hdepth : loopSpent asks target ≤ depth OrderBookLevel.price OrderBookLevel.size asks :=
      (loopSpent_spec hproper htarget.le).2.2.1
    have hle := bought_le_of_price_le hpos hbest (greedy_allots hproper hspent)
    rw [greedy_sum hproper hspent, min_eq_left hdepth, le_div_iff₀ hpos, mul_comm] at hle
    rw [le_div_iff₀ hbought]
    exact hle
  · have hconsumed : consumed asks target ≠ [] := by
      cases asks with
      | nil => exact absurd rfl hne
      | cons level rest => simp [consumed]
    obtain ⟨worst, hmem, hworst⟩ : ∃ worst ∈ consumed asks target,
        ∀ level ∈ consumed asks target, level.price ≤ worst.price := by
      generalize consumed asks target = levels at hconsumed
      induction levels with
      | nil => exact absurd rfl hconsumed
      | cons level rest ih =>
        by_cases hrest : rest = []
        · exact ⟨level, by simp, by simp [hrest]⟩
        · obtain ⟨worst, hmem, hworst⟩ := ih hrest
          rcases le_total level.price worst.price with hle | hle
          · refine ⟨worst, by simp [hmem], fun other hother => ?_⟩
            rcases List.mem_cons.mp hother with rfl | hother
            · exact hle
            · exact hworst other hother
          · refine ⟨level, by simp, fun other hother => ?_⟩
            rcases List.mem_cons.mp hother with rfl | hother
            · exact le_rfl
            · exact (hworst other hother).trans hle
    refine ⟨worst, hmem, hworst, ?_⟩
    rw [div_le_iff₀ hbought]
    exact loopSpent_le_worst hproper htarget.le hworst

/-- A larger target has no lower average price. -/
theorem average_mono (hproper : ProperAsks asks) (hsorted : SortedAsks asks) (hne : asks ≠ [])
    (htarget : 0 < target) {larger : Dec} (hle : target ≤ larger) :
    loopSpent asks target / loopBought asks target ≤
      loopSpent asks larger / loopBought asks larger := by
  have hlarger := htarget.trans_le hle
  have hspent := (loopSpent_spec hproper htarget.le).1
  have hdepth := (loopSpent_spec hproper hlarger.le).2.2.1
  have haverage := greedyBought_average hproper hsorted hspent
    (loopSpent_mono hproper htarget.le hle) hdepth
  rw [div_le_div_iff₀ (loopBought_pos hproper hne htarget) (loopBought_pos hproper hne hlarger)]
  exact haverage

/-- **A buy of a notional over exact rationals.**  It raises for an empty book and where the asks
are short of the target by more than the tolerance.  Otherwise it spends the target up to the
tolerance; on sorted asks the average price lies between those of the best ask and of the worst
level taken from, it does not fall with the target, and what is spent cannot buy more. -/
theorem orderbookBuyQuote_greedy (book : OrderBook) (target : Dec)
    (hproper : ∀ level ∈ book.asks, 0 < level.price ∧ 0 < level.size) (htarget : 0 < target) :
    (Arithmetic.exact.weightedAverageFill book.asks target = none ↔
      book.asks = [] ∨ askDepth book.asks + fillTolerance < target) ∧
    (Arithmetic.exact.orderbookBuyQuote book target = none ↔
      book.asks = [] ∨ askDepth book.asks + fillTolerance < target) ∧
    ∀ quote ∈ Arithmetic.exact.orderbookBuyQuote book target,
      Arithmetic.exact.weightedAverageFill book.asks target =
          some (quote.avgPrice, quote.contracts, quote.spentUsd) ∧
        quote.spentUsd ≤ target ∧ target ≤ quote.spentUsd + fillTolerance ∧
        (SortedAsks book.asks →
          (∀ best ∈ book.asks.head?, best.price ≤ quote.avgPrice) ∧
          (∃ worst ∈ consumed book.asks target,
            (∀ level ∈ consumed book.asks target, level.price ≤ worst.price) ∧
              quote.avgPrice ≤ worst.price) ∧
          (∀ larger, target ≤ larger → ∀ dearer ∈ Arithmetic.exact.orderbookBuyQuote book larger,
            quote.avgPrice ≤ dearer.avgPrice) ∧
          ∀ amounts, Allots OrderBookLevel.price OrderBookLevel.size book.asks amounts →
            amounts.sum ≤ quote.spentUsd →
              bought OrderBookLevel.price book.asks amounts ≤ quote.contracts) := by
  have hfill := weightedAverageFill_exact hproper htarget
  refine ⟨?_, (orderbookBuyQuote_exact hproper htarget).1, fun quote hquote => ?_⟩
  · rw [hfill]
    split <;> simp_all
  obtain ⟨hne, hdepth, hcontracts, hspent, haverage⟩ :=
    (orderbookBuyQuote_exact hproper htarget).2 quote hquote
  obtain ⟨-, hle, -, hall⟩ := loopSpent_spec hproper htarget.le
  refine ⟨?_, ?_, ?_, fun hsorted => ⟨?_, ?_, ?_, ?_⟩⟩
  · rw [hfill, if_neg (not_or.mpr ⟨hne, hdepth.not_gt⟩), hcontracts, hspent, haverage]
  · rw [hspent]
    exact hle
  · rw [hspent]
    by_contra hnot
    have hlt := not_le.mp hnot
    rw [hall hlt] at hlt
    exact absurd hdepth hlt.not_ge
  · intro best hbest
    rw [List.head?_eq_some_head hne] at hbest
    obtain rfl := Option.some.inj hbest
    rw [haverage]
    exact (average_bounds hproper hsorted hne htarget).1
  · rw [haverage]
    exact (average_bounds hproper hsorted hne htarget).2
  · intro larger hlarger dearer hdearer
    obtain ⟨-, -, -, -, haverage'⟩ :=
      (orderbookBuyQuote_exact hproper (htarget.trans_le hlarger)).2 dearer hdearer
    rw [haverage, haverage']
    exact average_mono hproper hsorted hne htarget hlarger
  · intro amounts hallots hsum
    rw [hcontracts]
    rw [hspent] at hsum
    exact bought_le_greedyBought hproper hsorted hallots hsum

namespace BookFillExamples

/-- Two levels, of which the target takes the first and the half of the second. -/
def book : OrderBook where
  asks := [⟨1 / 2, 1⟩, ⟨3 / 5, 2⟩]
  status := "VALID"

theorem orderbookBuyQuote_greedy_two_levels :
    (∀ quote ∈ Arithmetic.exact.orderbookBuyQuote book (11 / 10),
      quote.contracts = 2 ∧ 1 / 2 ≤ quote.avgPrice) ∧
    ∃ quote, Arithmetic.exact.orderbookBuyQuote book (11 / 10) = some quote := by
  have hproper : ∀ level ∈ book.asks, 0 < level.price ∧ 0 < level.size := by decide +kernel
  have hasks : SortedAsks book.asks := by
    show List.Pairwise (fun a b : OrderBookLevel => a.price ≤ b.price) book.asks
    decide +kernel
  obtain ⟨-, hraises, hquote⟩ := orderbookBuyQuote_greedy book (11 / 10) hproper (by norm_num)
  refine ⟨fun quote hmem => ?_, Option.ne_none_iff_exists'.mp fun hnone => ?_⟩
  · obtain ⟨-, -, -, hsorted⟩ := hquote quote hmem
    have hbest := (hsorted hasks).1 ⟨1 / 2, 1⟩ rfl
    refine ⟨?_, hbest⟩
    have hvalue : Arithmetic.exact.orderbookBuyQuote book (11 / 10) =
        some ⟨11 / 20, 2, 11 / 10, 1 / 10⟩ := by decide +kernel
    rw [hvalue] at hmem
    rw [← Option.some.inj hmem]
  · exact absurd (hraises.mp hnone) (by decide +kernel)

/-- An empty book raises for a target within the tolerance too, and a target that ends within the
tolerance behind a level buys less than it could. -/
theorem weightedAverageFill_tolerance :
    (Arithmetic.exact.weightedAverageFill [] (1 / 10 ^ 13) = none ∧
      ¬ askDepth [] + fillTolerance < 1 / 10 ^ 13) ∧
    (Arithmetic.exact.orderbookBuyQuote book (1 / 2 + 1 / 10 ^ 13)).map FillQuote.contracts =
      some 1 ∧
    Allots OrderBookLevel.price OrderBookLevel.size book.asks [1 / 2, 1 / 10 ^ 13] ∧
    ([1 / 2, 1 / 10 ^ 13] : List Dec).sum = 1 / 2 + 1 / 10 ^ 13 ∧
    1 < bought OrderBookLevel.price book.asks [1 / 2, 1 / 10 ^ 13] := by
  refine ⟨⟨by decide +kernel, by decide +kernel⟩, by decide +kernel, ?_, by decide +kernel,
    by decide +kernel⟩
  exact .cons (by decide +kernel) (.cons (by decide +kernel) .nil)

end BookFillExamples

end ArbitrageEngine.Execution
