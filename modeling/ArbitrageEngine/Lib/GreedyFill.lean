/-
# ArbitrageEngine.Lib.GreedyFill -- spending a budget on offers, the cheapest first

An offer sells up to some size at a price.  The greedy buyer spends the budget on the offers in
their order, each to its end.  Where the offers are sorted by price, no other way of spending the
budget buys more, and so the average price the greedy buyer pays does not fall with the budget.

The buyer of a quantity walks the same offers; a quantity and what it costs determine each other.
-/
import Mathlib.Algebra.Order.BigOperators.Group.List
import Mathlib.Algebra.Order.Field.Basic
import Mathlib.Tactic.Linarith
import Mathlib.Tactic.Ring

namespace ArbitrageEngine.Lib.GreedyFill

variable {ι K : Type*} [Field K] [LinearOrder K]
variable (price size : ι → K)

/-! ## Definitions -/

/-- What all the offers cost. -/
def depth (offers : List ι) : K := (offers.map fun offer => price offer * size offer).sum

/-- What the greedy buyer spends on each of the offers. -/
def greedy : List ι → (budget : K) → List K
  | [], _ => []
  | offer :: rest, budget =>
      let take := min budget (price offer * size offer)
      take :: greedy rest (budget - take)

/-- Amounts that the offers can be bought for. -/
def Allots (offers : List ι) (amounts : List K) : Prop :=
  List.Forall₂ (fun offer amount => 0 ≤ amount ∧ amount ≤ price offer * size offer) offers amounts

/-- What amounts spent on the offers buy. -/
def bought (offers : List ι) (amounts : List K) : K :=
  (List.zipWith (fun offer amount => amount / price offer) offers amounts).sum

/-- What the greedy buyer gets. -/
def greedyBought (offers : List ι) (budget : K) : K :=
  bought price offers (greedy price size offers budget)

/-- How much is on offer. -/
def supply (offers : List ι) : K := (offers.map size).sum

/-- What a quantity costs that is taken from the offers in their order, each to its end. -/
def walkCost : List ι → (quantity : K) → K
  | [], _ => 0
  | offer :: rest, quantity =>
      let take := min quantity (size offer)
      price offer * take + walkCost rest (quantity - take)

/-- All offers have a price and a size. -/
def Proper (offers : List ι) : Prop := ∀ offer ∈ offers, 0 < price offer ∧ 0 < size offer

/-- The offers are sorted by price. -/
def Sorted (offers : List ι) : Prop := offers.Pairwise fun a b => price a ≤ price b

variable {price size}

omit [LinearOrder K] in
@[simp]
theorem bought_cons (offer : ι) (rest : List ι) (amount : K) (amounts : List K) :
    bought price (offer :: rest) (amount :: amounts) =
      amount / price offer + bought price rest amounts := by
  simp [bought]

omit [LinearOrder K] in
@[simp]
theorem depth_cons (offer : ι) (rest : List ι) :
    depth price size (offer :: rest) = price offer * size offer + depth price size rest := by
  simp [depth]

theorem greedyBought_cons (offer : ι) (rest : List ι) (budget : K) :
    greedyBought price size (offer :: rest) budget =
      min budget (price offer * size offer) / price offer +
        greedyBought price size rest (budget - min budget (price offer * size offer)) :=
  bought_cons ..

theorem Proper.tail {offer : ι} {rest : List ι} (h : Proper price size (offer :: rest)) :
    Proper price size rest :=
  fun other hmem => h other (by simp [hmem])

variable [IsStrictOrderedRing K]

theorem Proper.head {offer : ι} {rest : List ι} (h : Proper price size (offer :: rest)) :
    0 < price offer ∧ 0 < price offer * size offer :=
  have hoffer := h offer (by simp)
  ⟨hoffer.1, mul_pos hoffer.1 hoffer.2⟩

theorem depth_nonneg {offers : List ι} (h : Proper price size offers) :
    0 ≤ depth price size offers := by
  induction offers with
  | nil => simp [depth]
  | cons offer rest ih =>
    rw [depth_cons]
    linarith [h.head.2, ih h.tail]

/-! ## Prices of an allotment -/

theorem Allots.sum_nonneg {offers : List ι} {amounts : List K}
    (h : Allots price size offers amounts) : 0 ≤ amounts.sum := by
  induction h with
  | nil => exact le_rfl
  | cons hamount _ ih =>
    rw [List.sum_cons]
    exact add_nonneg hamount.1 ih

/-- Offers that cost at least a price buy at most what the amounts buy at it. -/
theorem bought_le_of_price_le {offers : List ι} {amounts : List K} {p : K} (hp : 0 < p)
    (hprice : ∀ offer ∈ offers, p ≤ price offer) (h : Allots price size offers amounts) :
    bought price offers amounts ≤ amounts.sum / p := by
  induction h with
  | nil => simp [bought]
  | @cons offer amount rest amounts hamount _ ih =>
    have hfirst : amount / price offer ≤ amount / p :=
      div_le_div_of_nonneg_left hamount.1 hp (hprice offer (by simp))
    have hrest := ih fun other hmem => hprice other (by simp [hmem])
    rw [bought_cons, List.sum_cons, add_div]
    exact add_le_add hfirst hrest

/-! ## The greedy buyer -/

theorem greedy_allots {offers : List ι} (h : Proper price size offers) {budget : K}
    (hbudget : 0 ≤ budget) : Allots price size offers (greedy price size offers budget) := by
  induction offers generalizing budget with
  | nil => exact .nil
  | cons offer rest ih =>
    refine .cons ⟨le_min hbudget h.head.2.le, min_le_right _ _⟩ (ih h.tail ?_)
    exact sub_nonneg.mpr (min_le_left _ _)

theorem greedy_sum {offers : List ι} (h : Proper price size offers) {budget : K}
    (hbudget : 0 ≤ budget) :
    (greedy price size offers budget).sum = min budget (depth price size offers) := by
  induction offers generalizing budget with
  | nil => simp [greedy, depth, hbudget]
  | cons offer rest ih =>
    have htail := depth_nonneg h.tail
    have hrest : 0 ≤ budget - min budget (price offer * size offer) :=
      sub_nonneg.mpr (min_le_left _ _)
    show min budget (price offer * size offer) + (greedy price size rest _).sum = _
    rw [ih h.tail hrest, depth_cons]
    rcases le_total budget (price offer * size offer) with hle | hle
    · rw [min_eq_left hle, sub_self, min_eq_left htail, add_zero,
        min_eq_left (by linarith)]
    · rw [min_eq_right hle, add_min, add_sub_cancel]

theorem greedyBought_zero {offers : List ι} (h : Proper price size offers) :
    greedyBought price size offers 0 = 0 := by
  induction offers with
  | nil => simp [greedyBought, greedy, bought]
  | cons offer rest ih =>
    rw [greedyBought_cons, min_eq_left h.head.2.le, zero_div, sub_zero, zero_add]
    exact ih h.tail

/-- A larger budget buys at most what the difference buys at a price that all offers cost. -/
theorem greedyBought_add_le {offers : List ι} (h : Proper price size offers) {p : K} (hp : 0 < p)
    (hprice : ∀ offer ∈ offers, p ≤ price offer) {budget more : K} (hbudget : 0 ≤ budget)
    (hmore : 0 ≤ more) :
    greedyBought price size offers (budget + more) ≤
      greedyBought price size offers budget + more / p := by
  induction offers generalizing budget more with
  | nil =>
    have hdiv : 0 ≤ more / p := div_nonneg hmore hp.le
    simpa [greedyBought, greedy, bought] using hdiv
  | cons offer rest ih =>
    set n : K := price offer * size offer with hn
    -- of the difference some goes to this offer and the rest to the others
    obtain ⟨here, hhere, htake⟩ : ∃ here, 0 ≤ here ∧ min (budget + more) n = min budget n + here :=
      ⟨min (budget + more) n - min budget n,
        sub_nonneg.mpr (min_le_min_right n (by linarith)), by ring⟩
    have hle : here ≤ more := by
      have hmin : min (budget + more) n ≤ min budget n + more := by
        rcases le_total budget n with hcase | hcase
        · rw [min_eq_left hcase]
          exact min_le_left _ _
        · rw [min_eq_right hcase]
          exact (min_le_right _ _).trans (by linarith)
      linarith
    have hleft : budget + more - (min budget n + here) = budget - min budget n + (more - here) := by
      ring
    have hrest := ih h.tail (fun other hmem => hprice other (by simp [hmem]))
      (sub_nonneg.mpr (min_le_left budget n)) (sub_nonneg.mpr hle)
    have hfirst : here / price offer ≤ here / p :=
      div_le_div_of_nonneg_left hhere hp (hprice offer (by simp))
    rw [greedyBought_cons, greedyBought_cons, ← hn, htake, hleft, add_div]
    calc min budget n / price offer + here / price offer +
          greedyBought price size rest (budget - min budget n + (more - here))
        ≤ min budget n / price offer + here / p +
          (greedyBought price size rest (budget - min budget n) + (more - here) / p) :=
          add_le_add (add_le_add le_rfl hfirst) hrest
      _ = min budget n / price offer + greedyBought price size rest (budget - min budget n) +
          more / p := by ring

/-- **No other way of spending the budget buys more.** -/
theorem bought_le_greedyBought {offers : List ι} (h : Proper price size offers)
    (hsorted : Sorted price offers) {amounts : List K} (hallots : Allots price size offers amounts)
    {budget : K} (hsum : amounts.sum ≤ budget) :
    bought price offers amounts ≤ greedyBought price size offers budget := by
  induction offers generalizing amounts budget with
  | nil =>
    cases hallots
    simp [greedyBought, greedy, bought]
  | cons offer rest ih =>
    obtain ⟨amount, others, hamount, hothers, rfl⟩ := List.forall₂_cons_left_iff.mp hallots
    have hothers : Allots price size rest others := hothers
    obtain ⟨hmin, hsorted⟩ := List.pairwise_cons.mp hsorted
    have hsum_others := hothers.sum_nonneg
    rw [List.sum_cons] at hsum
    set take : K := min budget (price offer * size offer) with htake
    have hle : amount ≤ take := le_min (by linarith) hamount.2
    have hbudget : 0 ≤ budget - take := sub_nonneg.mpr (min_le_left _ _)
    have hrest : bought price rest others ≤
        greedyBought price size rest (budget - take + (take - amount)) :=
      ih h.tail hsorted hothers (by linarith)
    have hshift := greedyBought_add_le h.tail h.head.1 hmin hbudget (sub_nonneg.mpr hle)
    rw [bought_cons, greedyBought_cons, ← htake]
    calc amount / price offer + bought price rest others
        ≤ amount / price offer +
          (greedyBought price size rest (budget - take) + (take - amount) / price offer) :=
          add_le_add le_rfl (hrest.trans hshift)
      _ = take / price offer + greedyBought price size rest (budget - take) := by ring

/-- A fraction of an allotment is one. -/
theorem Allots.scale {offers : List ι} {amounts : List K} (h : Allots price size offers amounts)
    {c : K} (hc : 0 ≤ c) (hc' : c ≤ 1) :
    Allots price size offers (amounts.map (c * ·)) ∧
      (amounts.map (c * ·)).sum = c * amounts.sum ∧
      bought price offers (amounts.map (c * ·)) = c * bought price offers amounts := by
  induction h with
  | nil => exact ⟨.nil, by simp, by simp [bought]⟩
  | @cons offer amount rest amounts hamount _ ih =>
    obtain ⟨hallots, hsum, hbought⟩ := ih
    refine ⟨.cons ⟨mul_nonneg hc hamount.1, ?_⟩ hallots, ?_, ?_⟩
    · exact (mul_le_of_le_one_left hamount.1 hc').trans hamount.2
    · rw [List.map_cons, List.sum_cons, List.sum_cons, hsum]
      ring
    · rw [List.map_cons, bought_cons, bought_cons, hbought]
      ring

/-- The average price does not fall with the budget: what a smaller budget buys, times the larger
one, is at least what the larger buys, times the smaller. -/
theorem greedyBought_average {offers : List ι} (h : Proper price size offers)
    (hsorted : Sorted price offers) {budget larger : K} (hbudget : 0 ≤ budget)
    (hle : budget ≤ larger) (hdepth : larger ≤ depth price size offers) :
    budget * greedyBought price size offers larger ≤
      larger * greedyBought price size offers budget := by
  have hlarger : 0 ≤ larger := hbudget.trans hle
  rcases hlarger.eq_or_lt with hzero | hpos
  · have hbudget : budget = 0 := le_antisymm (hle.trans_eq hzero.symm) hbudget
    rw [hbudget, ← hzero]
  · have hallots := greedy_allots h hlarger
    obtain ⟨hscaled, hsum, hbought⟩ := hallots.scale (div_nonneg hbudget hpos.le)
      ((div_le_one hpos).mpr hle)
    rw [greedy_sum h hlarger, min_eq_left hdepth, div_mul_cancel₀ _ hpos.ne'] at hsum
    have hbest := bought_le_greedyBought h hsorted hscaled hsum.le
    rw [hbought, div_mul_eq_mul_div, div_le_iff₀ hpos, mul_comm _ larger] at hbest
    exact hbest

/-! ## The buyer of a quantity -/

theorem greedyBought_nonneg {offers : List ι} (h : Proper price size offers) {budget : K}
    (hbudget : 0 ≤ budget) : 0 ≤ greedyBought price size offers budget := by
  induction offers generalizing budget with
  | nil => simp [greedyBought, greedy, bought]
  | cons offer rest ih =>
    rw [greedyBought_cons]
    have htake := div_nonneg (le_min hbudget h.head.2.le) h.head.1.le
    exact add_nonneg htake (ih h.tail (sub_nonneg.mpr (min_le_left _ _)))

theorem greedyBought_le_supply {offers : List ι} (h : Proper price size offers) (budget : K) :
    greedyBought price size offers budget ≤ supply size offers := by
  induction offers generalizing budget with
  | nil => simp [greedyBought, greedy, bought, supply]
  | cons offer rest ih =>
    have htake : min budget (price offer * size offer) / price offer ≤ size offer := by
      rw [div_le_iff₀ h.head.1, mul_comm (size offer)]
      exact min_le_right _ _
    have hrest := ih h.tail (budget - min budget (price offer * size offer))
    rw [greedyBought_cons, supply, List.map_cons, List.sum_cons]
    exact add_le_add htake hrest

omit [IsStrictOrderedRing K] in
theorem walkCost_zero {offers : List ι} (h : Proper price size offers) :
    walkCost price size offers 0 = 0 := by
  induction offers with
  | nil => rfl
  | cons offer rest ih =>
    rw [walkCost, min_eq_left (h offer (by simp)).2.le, sub_zero, mul_zero, zero_add]
    exact ih h.tail

theorem walkCost_nonneg {offers : List ι} (h : Proper price size offers) {quantity : K}
    (hquantity : 0 ≤ quantity) : 0 ≤ walkCost price size offers quantity := by
  induction offers generalizing quantity with
  | nil => exact le_rfl
  | cons offer rest ih =>
    have htake : 0 ≤ min quantity (size offer) := le_min hquantity (h offer (by simp)).2.le
    exact add_nonneg (mul_nonneg h.head.1.le htake) (ih h.tail (sub_nonneg.mpr (min_le_left _ _)))

theorem walkCost_mono {offers : List ι} (h : Proper price size offers) {quantity larger : K}
    (hle : quantity ≤ larger) :
    walkCost price size offers quantity ≤ walkCost price size offers larger := by
  induction offers generalizing quantity larger with
  | nil => exact le_rfl
  | cons offer rest ih =>
    have htake : min quantity (size offer) ≤ min larger (size offer) := min_le_min_right _ hle
    have hleft : quantity - min quantity (size offer) ≤ larger - min larger (size offer) := by
      rcases le_total quantity (size offer) with hcase | hcase
      · rw [min_eq_left hcase, sub_self]
        exact sub_nonneg.mpr (min_le_left _ _)
      · rw [min_eq_right hcase, min_eq_right (hcase.trans hle)]
        exact sub_le_sub_right hle _
    exact add_le_add (mul_le_mul_of_nonneg_left htake h.head.1.le) (ih h.tail hleft)

/-- What a budget buys costs the budget. -/
theorem walkCost_greedyBought {offers : List ι} (h : Proper price size offers) {budget : K}
    (hbudget : 0 ≤ budget) (hdepth : budget ≤ depth price size offers) :
    walkCost price size offers (greedyBought price size offers budget) = budget := by
  induction offers generalizing budget with
  | nil =>
    have hzero : budget = 0 := le_antisymm (by simpa [depth] using hdepth) hbudget
    rw [hzero]
    rfl
  | cons offer rest ih =>
    have hprice := h.head.1
    rw [greedyBought_cons, walkCost]
    rcases le_total budget (price offer * size offer) with hcase | hcase
    · -- the budget ends within the offer
      have hfits : budget / price offer ≤ size offer := by
        rwa [div_le_iff₀ hprice, mul_comm (size offer)]
      rw [min_eq_left hcase, sub_self, greedyBought_zero h.tail, add_zero, min_eq_left hfits,
        sub_self, walkCost_zero h.tail, add_zero, mul_div_cancel₀ _ hprice.ne']
    · have hleft := sub_nonneg.mpr hcase
      rw [depth_cons] at hdepth
      have hrest := greedyBought_nonneg h.tail hleft
      rw [min_eq_right hcase, mul_div_cancel_left₀ _ hprice.ne',
        min_eq_right (le_add_of_nonneg_right hrest), add_sub_cancel_left,
        ih h.tail hleft (by linarith), add_sub_cancel]

/-- What a quantity costs buys the quantity. -/
theorem greedyBought_walkCost {offers : List ι} (h : Proper price size offers) {quantity : K}
    (hquantity : 0 ≤ quantity) (hsupply : quantity ≤ supply size offers) :
    greedyBought price size offers (walkCost price size offers quantity) = quantity := by
  induction offers generalizing quantity with
  | nil =>
    have hzero : quantity = 0 := le_antisymm (by simpa [supply] using hsupply) hquantity
    rw [hzero]
    simp [greedyBought, greedy, bought]
  | cons offer rest ih =>
    have hprice := h.head.1
    rw [walkCost, greedyBought_cons]
    rcases le_total quantity (size offer) with hcase | hcase
    · have hfits : price offer * quantity ≤ price offer * size offer :=
        mul_le_mul_of_nonneg_left hcase hprice.le
      rw [min_eq_left hcase, sub_self, walkCost_zero h.tail, add_zero, min_eq_left hfits, sub_self,
        greedyBought_zero h.tail, add_zero, mul_div_cancel_left₀ _ hprice.ne']
    · have hleft := sub_nonneg.mpr hcase
      rw [supply, List.map_cons, List.sum_cons] at hsupply
      have hrest := walkCost_nonneg h.tail hleft
      rw [min_eq_right hcase, min_eq_right (le_add_of_nonneg_right hrest), add_sub_cancel_left,
        ih h.tail hleft (by rw [supply]; linarith), mul_div_cancel_left₀ _ hprice.ne',
        add_sub_cancel]

/-- **A part of what a budget buys costs at most its share of the budget**, if the offers are
sorted by price. -/
theorem walkCost_average {offers : List ι} (h : Proper price size offers)
    (hsorted : Sorted price offers) {budget quantity : K} (hbudget : 0 ≤ budget)
    (hdepth : budget ≤ depth price size offers) (hquantity : 0 ≤ quantity)
    (hle : quantity ≤ greedyBought price size offers budget) :
    walkCost price size offers quantity * greedyBought price size offers budget ≤
      budget * quantity := by
  have hcost : walkCost price size offers quantity ≤ budget :=
    (walkCost_mono h hle).trans_eq (walkCost_greedyBought h hbudget hdepth)
  have haverage := greedyBought_average h hsorted (walkCost_nonneg h hquantity) hcost hdepth
  rwa [greedyBought_walkCost h hquantity (hle.trans (greedyBought_le_supply h budget))] at haverage

end ArbitrageEngine.Lib.GreedyFill
