/-
# ArbitrageEngine.Lib.ConstantProduct -- pools that keep a product

A pool holds a reserve of what is paid in and one of what is bought, and sells so that their product
stays.  A fee is taken from the payment first.  What a payment buys costs the payment
(`cost_swapOut`), it is never the whole reserve, and the average price does not fall with the
quantity (`cost_average`).
-/
import Mathlib.Algebra.Order.Field.Basic
import Mathlib.Tactic.FieldSimp
import Mathlib.Tactic.Linarith
import Mathlib.Tactic.Positivity
import Mathlib.Tactic.Ring

namespace ArbitrageEngine.Lib.ConstantProduct

universe u

variable {K : Type u} [Field K]

/-- What a payment buys after the fee. -/
def swapOut (reserveIn reserveOut fee payment : K) : K :=
  reserveOut * (payment * (1 - fee)) / (reserveIn + payment * (1 - fee))

/-- What a quantity costs with the fee. -/
def cost (reserveIn reserveOut fee quantity : K) : K :=
  reserveIn * quantity / ((reserveOut - quantity) * (1 - fee))

/-- The average price of a quantity. -/
theorem cost_div {reserveIn reserveOut fee quantity : K} (hquantity : quantity ≠ 0) :
    cost reserveIn reserveOut fee quantity / quantity =
      reserveIn / ((reserveOut - quantity) * (1 - fee)) := by
  rw [cost]
  field_simp

variable [LinearOrder K] [IsStrictOrderedRing K]
  {reserveIn reserveOut fee payment quantity more : K}

/-- No payment empties the pool. -/
theorem swapOut_lt (hin : 0 < reserveIn) (hout : 0 < reserveOut) (hfee : fee < 1)
    (hpayment : 0 < payment) : swapOut reserveIn reserveOut fee payment < reserveOut := by
  have hleft : 0 < payment * (1 - fee) := mul_pos hpayment (sub_pos.mpr hfee)
  rw [swapOut, div_lt_iff₀ (add_pos hin hleft)]
  linarith [mul_pos hout hin]

/-- What a payment buys costs the payment. -/
theorem cost_swapOut (hin : 0 < reserveIn) (hout : 0 < reserveOut) (hfee : fee < 1)
    (hpayment : 0 < payment) :
    cost reserveIn reserveOut fee (swapOut reserveIn reserveOut fee payment) = payment := by
  have hpart : 0 < 1 - fee := sub_pos.mpr hfee
  have hsum : 0 < reserveIn + payment * (1 - fee) := add_pos hin (mul_pos hpayment hpart)
  have hrest : reserveOut - swapOut reserveIn reserveOut fee payment =
      reserveOut * reserveIn / (reserveIn + payment * (1 - fee)) := by
    rw [swapOut]
    field_simp
    ring
  rw [cost, hrest, swapOut]
  field_simp

theorem cost_nonneg (hin : 0 < reserveIn) (hfee : fee < 1) (hquantity : 0 ≤ quantity)
    (hlt : quantity < reserveOut) : 0 ≤ cost reserveIn reserveOut fee quantity :=
  div_nonneg (mul_nonneg hin.le hquantity)
    (mul_nonneg (sub_nonneg.mpr hlt.le) (sub_nonneg.mpr hfee.le))

/-- The average price does not fall with the quantity. -/
theorem cost_average (hin : 0 < reserveIn) (hfee : fee < 1) (hquantity : 0 < quantity)
    (hle : quantity ≤ more) (hlt : more < reserveOut) :
    cost reserveIn reserveOut fee quantity / quantity ≤
      cost reserveIn reserveOut fee more / more := by
  have hpart : 0 < 1 - fee := sub_pos.mpr hfee
  rw [cost_div hquantity.ne', cost_div (hquantity.trans_le hle).ne']
  refine div_le_div_of_nonneg_left hin.le (mul_pos (sub_pos.mpr hlt) hpart) ?_
  exact mul_le_mul_of_nonneg_right (sub_le_sub_left hle _) hpart.le

end ArbitrageEngine.Lib.ConstantProduct
