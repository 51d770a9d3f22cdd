/-
# ArbitrageEngine.Execution.Balances -- cached balances, optimistic debits, reservations

All routers share three dictionaries, keyed by the label of a venue: the balance the venue last
reported, what was spent there since, and what is set aside for entries that are being made.  An
amount that is not above the tolerance is dropped from its dictionary.
-/
import ArbitrageEngine.Execution.EntryLeg

namespace ArbitrageEngine.Execution

/-- The shared dictionaries. -/
structure Balances where
  balanceCache : Lib.Dict String Dec := .empty
  optimisticDebits : Lib.Dict String Dec := .empty
  capitalReservations : Lib.Dict String Dec := .empty
deriving DecidableEq

/-- What a signal needs on the venue of one leg: `capital_usd + fee_usd` of its plan. -/
structure LegCapital where
  venueLabel : String
  capitalUsd : Dec
  feeUsd : Dec
deriving DecidableEq

/-- `required_first`, `required_second`. -/
def LegCapital.required (leg : LegCapital) : Dec := Dec.add leg.capitalUsd leg.feeUsd

/-! ## One amount -/

/-- `d.get(label, ZERO)`. -/
def amountOf (amounts : Lib.Dict String Dec) (label : String) : Dec := (amounts.get? label).getD 0

/-- `d[label] = amount`, or `d.pop(label, None)` of an amount within the tolerance of zero. -/
def putAmount (amounts : Lib.Dict String Dec) (label : String) (amount : Dec) :
    Lib.Dict String Dec :=
  if amount ≤ Dec.epsilon then amounts.erase label else amounts.set label amount

@[simp]
theorem amountOf_empty (label : String) : amountOf .empty label = 0 := rfl

@[simp]
theorem amountOf_set_self (amounts : Lib.Dict String Dec) (label : String) (amount : Dec) :
    amountOf (amounts.set label amount) label = amount := by
  simp [amountOf]

@[simp]
theorem amountOf_set_of_ne (amounts : Lib.Dict String Dec) {label other : String}
    (h : other ≠ label) (amount : Dec) :
    amountOf (amounts.set label amount) other = amountOf amounts other := by
  simp [amountOf, h]

theorem amountOf_putAmount_self (amounts : Lib.Dict String Dec) (label : String) (amount : Dec) :
    amountOf (putAmount amounts label amount) label =
      if amount ≤ Dec.epsilon then 0 else amount := by
  unfold putAmount
  split <;> simp [amountOf]

@[simp]
theorem amountOf_putAmount_of_ne (amounts : Lib.Dict String Dec) {label other : String}
    (h : other ≠ label) (amount : Dec) :
    amountOf (putAmount amounts label amount) other = amountOf amounts other := by
  unfold putAmount
  split <;> simp [amountOf, h]

/-- What is put loses no more than the tolerance. -/
theorem le_amountOf_putAmount (amounts : Lib.Dict String Dec) (label : String) (amount : Dec) :
    amount - Dec.epsilon ≤ amountOf (putAmount amounts label amount) label := by
  have heps := Dec.epsilon_pos
  rw [amountOf_putAmount_self]
  split <;> linarith

namespace Balances

variable (balances : Balances) (venueLabel : String)

/-- The cached balance of a venue, zero where there is none. -/
def cached : Dec := amountOf balances.balanceCache venueLabel

/-- The optimistic debits of a venue. -/
def debits : Dec := amountOf balances.optimisticDebits venueLabel

/-- The capital reserved on a venue. -/
def reserved : Dec := amountOf balances.capitalReservations venueLabel

/-! ## Debits and refreshes -/

/-- `_debit_cached_balance`. -/
def debitCachedBalance (amountUsd : Dec) : Balances :=
  { balances with
    optimisticDebits := balances.optimisticDebits.set venueLabel
      (Dec.add (balances.debits venueLabel) amountUsd) }

/-- `_effective_balance`. -/
def effectiveBalance : Dec := max 0 (Dec.sub (balances.cached venueLabel) (balances.debits venueLabel))

/-- Does `_apply_balance_refresh` see a decrease? -/
def decreased (fetched : Dec) : Bool :=
  (balances.balanceCache.get? venueLabel).any fun previous =>
    fetched < Dec.sub previous Dec.epsilon

/-- A decrease pays for the debits that were recorded. -/
def netDecrease (fetched : Dec) : Balances :=
  let observedDebit := Dec.sub (balances.cached venueLabel) fetched
  let remaining := max 0 (Dec.sub (balances.debits venueLabel) observedDebit)
  { balances with
    optimisticDebits := putAmount balances.optimisticDebits venueLabel remaining }

/-- `_apply_balance_refresh`. -/
def applyBalanceRefresh (fetchedBalance : Dec) : Balances :=
  let netted :=
    if balances.decreased venueLabel fetchedBalance then
      balances.netDecrease venueLabel fetchedBalance
    else balances
  { netted with balanceCache := netted.balanceCache.set venueLabel fetchedBalance }

/-! ## Reservations -/

/-- `first_available`, `second_available`. -/
def available : Dec :=
  Dec.sub (balances.effectiveBalance venueLabel) (balances.reserved venueLabel)

/-- The reservation of one venue is raised. -/
def addReservation (amount : Dec) : Balances :=
  { balances with
    capitalReservations := balances.capitalReservations.set venueLabel
      (Dec.add (balances.reserved venueLabel) amount) }

/-- The part of `_reserve_signal_capital` before the state is saved; `none` is a refusal. -/
def reserveSignalCapital (first second : LegCapital) : Option Balances :=
  if balances.available first.venueLabel < first.required ∨
      balances.available second.venueLabel < second.required then none
  else
    some ((balances.addReservation first.venueLabel first.required).addReservation
      second.venueLabel second.required)

/-- One round of the loop of `_release_signal_capital`. -/
def releaseReservation (amount : Dec) : Balances :=
  let remaining := max 0 (Dec.sub (balances.reserved venueLabel) amount)
  { balances with
    capitalReservations := putAmount balances.capitalReservations venueLabel remaining }

/-- `_release_signal_capital`, for a signal with two different venues. -/
def releaseSignalCapital (first second : LegCapital) : Balances :=
  (balances.releaseReservation first.venueLabel first.required).releaseReservation
    second.venueLabel second.required

/-! ## What the operations leave alone -/

@[simp]
theorem debits_debitCachedBalance (amount : Dec) :
    (balances.debitCachedBalance venueLabel amount).debits venueLabel =
      Dec.add (balances.debits venueLabel) amount := by
  simp [debits, debitCachedBalance]

@[simp]
theorem reserved_addReservation_self (amount : Dec) :
    (balances.addReservation venueLabel amount).reserved venueLabel =
      Dec.add (balances.reserved venueLabel) amount := by
  simp [reserved, addReservation]

@[simp]
theorem reserved_addReservation_of_ne (amount : Dec) {label : String} (h : label ≠ venueLabel) :
    (balances.addReservation venueLabel amount).reserved label = balances.reserved label := by
  simp [reserved, addReservation, h]

theorem reserved_releaseReservation_self (amount : Dec) :
    (balances.releaseReservation venueLabel amount).reserved venueLabel =
      if max 0 (Dec.sub (balances.reserved venueLabel) amount) ≤ Dec.epsilon then 0
      else max 0 (Dec.sub (balances.reserved venueLabel) amount) :=
  amountOf_putAmount_self _ _ _

@[simp]
theorem reserved_releaseReservation_of_ne (amount : Dec) {label : String} (h : label ≠ venueLabel) :
    (balances.releaseReservation venueLabel amount).reserved label = balances.reserved label := by
  simp [reserved, releaseReservation, h]

@[simp]
theorem cached_applyBalanceRefresh (fetched : Dec) :
    (balances.applyBalanceRefresh venueLabel fetched).cached venueLabel = fetched := by
  simp [cached, applyBalanceRefresh]

@[simp]
theorem reserved_applyBalanceRefresh (fetched : Dec) (label : String) :
    (balances.applyBalanceRefresh venueLabel fetched).reserved label = balances.reserved label := by
  unfold applyBalanceRefresh
  split <;> rfl

theorem debits_applyBalanceRefresh (fetched : Dec) :
    (balances.applyBalanceRefresh venueLabel fetched).debits venueLabel =
      if balances.decreased venueLabel fetched then
        (balances.netDecrease venueLabel fetched).debits venueLabel
      else balances.debits venueLabel := by
  unfold applyBalanceRefresh
  split <;> rfl

end Balances

end ArbitrageEngine.Execution
