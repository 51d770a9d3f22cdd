/-
# ArbitrageEngine.Execution.SpendableCapital -- reserved money is there

One venue under its entries and its refreshes, in any order.  An entry reserves capital if the
effective balance leaves room for it, its order spends up to that capital at the venue, the cost is
debited once the order is final, and the reservation is released.  A refresh reads the cash of the
venue and writes it to the cache later: every router that trades the venue runs its own updater on
the shared dictionaries, so between the read and the write other refreshes may come and go.

A refresh takes a decrease of the cached balance for debits it need not keep.  The machine says of
each read that is under way whether such a netting happened since (`overtaken`): an overtaken read is
from before the decrease, and writing it back brings the money back without the debit.
-/
import ArbitrageEngine.Execution.Balances
import ArbitrageEngine.Lib.ListSums
import ArbitrageEngine.Lib.Runs

namespace ArbitrageEngine.Execution.SpendableCapital

open Lib Lib.Runs

/-! ## The machine -/

/-- An entry that holds a reservation. -/
structure HeldEntry where
  capital : Dec
  /-- What the venue took for the fills of its order. -/
  spent : Dec := 0
  /-- Was the cost debited?  The order is final then. -/
  debited : Bool := false
deriving DecidableEq

/-- What the order of an entry can still spend. -/
def HeldEntry.canSpend (entry : HeldEntry) : Dec :=
  if entry.debited then 0 else entry.capital - entry.spent

/-- What was spent and not debited. -/
def HeldEntry.undebited (entry : HeldEntry) : Dec := if entry.debited then 0 else entry.spent

/-- A refresh between its read and its write. -/
structure BalanceRead where
  value : Dec
  /-- Did another refresh net debits since? -/
  overtaken : Bool := false
deriving DecidableEq

/-- A venue with the dictionaries of the routers. -/
structure Venue where
  /-- The true cash. -/
  cash : Dec
  balances : Balances := {}
  entries : List HeldEntry := []
  reads : List BalanceRead := []
  /-- How many refreshes were written. -/
  refreshes : ℕ := 0
deriving DecidableEq

/-- What happens.  Entries and reads are named by their place. -/
inductive Event
  | reserve (capital : Dec)
  | fill (entry : ℕ) (cost : Dec)
  | debit (entry : ℕ)
  | release (entry : ℕ)
  | proceeds (amount : Dec)
  | read
  | apply (read : ℕ)
deriving DecidableEq

namespace Venue

variable (label : String) (venue : Venue)

/-- What all orders in flight can still spend. -/
def openCapital : Dec := (venue.entries.map HeldEntry.canSpend).sum

/-- What was spent and not debited. -/
def undebitedCost : Dec := (venue.entries.map HeldEntry.undebited).sum

/-- What the entries have reserved. -/
def heldCapital : Dec := (venue.entries.map HeldEntry.capital).sum

/-- The entry holds its reservation. -/
def grant (capital : Dec) : Venue :=
  { venue with
    balances := venue.balances.addReservation label capital
    entries := { capital } :: venue.entries }

/-- A reservation, refused where the effective balance leaves no room for it. -/
def reserve (capital : Dec) : Option Venue :=
  if venue.balances.available label < capital then none else some (venue.grant label capital)

/-- The venue takes the cost of a fill. -/
def take (i : ℕ) (entry : HeldEntry) (cost : Dec) : Venue :=
  { venue with
    cash := venue.cash - cost
    entries := venue.entries.set i { entry with spent := entry.spent + cost } }

/-- A fill within the reservation. -/
def fill (i : ℕ) (cost : Dec) : Option Venue :=
  (venue.entries[i]?).bind fun entry =>
    if entry.debited = false ∧ 0 ≤ cost ∧ entry.spent + cost ≤ entry.capital then
      some (venue.take i entry cost)
    else none

/-- The cost of an entry is debited. -/
def charge (i : ℕ) (entry : HeldEntry) : Venue :=
  { venue with
    balances := venue.balances.debitCachedBalance label entry.spent
    entries := venue.entries.set i { entry with debited := true } }

/-- The order is final, and what it cost is debited. -/
def debit (i : ℕ) : Option Venue :=
  (venue.entries[i]?).bind fun entry =>
    if entry.debited = false ∧ 0 < entry.spent then some (venue.charge label i entry) else none

/-- The reservation of an entry is released. -/
def finish (i : ℕ) (entry : HeldEntry) : Venue :=
  { venue with
    balances := venue.balances.releaseReservation label entry.capital
    entries := venue.entries.eraseIdx i }

/-- An entry ends: its order filled nothing, or the cost was debited. -/
def release (i : ℕ) : Option Venue :=
  (venue.entries[i]?).bind fun entry =>
    if entry.debited = true ∨ entry.spent = 0 then some (venue.finish label i entry) else none

/-- A read is written to the cache. -/
def write (i : ℕ) (read : BalanceRead) : Venue :=
  { venue with
    balances := venue.balances.applyBalanceRefresh label read.value
    reads := (venue.reads.eraseIdx i).map fun other =>
      { other with overtaken := other.overtaken || venue.balances.decreased label read.value }
    refreshes := venue.refreshes + 1 }

/-- What an event does. -/
def step : Venue → Event → Option Venue
  | venue, .reserve capital => venue.reserve label capital
  | venue, .fill i cost => venue.fill i cost
  | venue, .debit i => venue.debit label i
  | venue, .release i => venue.release label i
  | venue, .proceeds amount =>
      if 0 ≤ amount then some { venue with cash := venue.cash + amount } else none
  | venue, .read => some { venue with reads := { value := venue.cash } :: venue.reads }
  | venue, .apply i => (venue.reads[i]?).map (venue.write label i)

/-- A venue before the first refresh. -/
def start (cash : Dec) : Venue := { cash }

/-- The tolerance so far. -/
def slack : Dec := venue.refreshes * Dec.epsilon

/-- **Spendable capital**: what is free for another reservation is there once the orders in flight
have spent what they can, and so is what they can spend. -/
structure Spendable : Prop where
  free : venue.balances.effectiveBalance label - venue.balances.reserved label ≤
    venue.cash - venue.openCapital + venue.slack
  held : venue.openCapital ≤ venue.cash + venue.slack

instance (venue : Venue) : Decidable (venue.Spendable label) :=
  decidable_of_iff
    (venue.balances.effectiveBalance label - venue.balances.reserved label ≤
        venue.cash - venue.openCapital + venue.slack ∧
      venue.openCapital ≤ venue.cash + venue.slack)
    ⟨fun h => ⟨h.1, h.2⟩, fun h => ⟨h.1, h.2⟩⟩

/-! ## The condition -/

/-- The condition on an event: the context rounds no sum or difference the event forms, a
reservation is above the tolerance, and a refresh that was overtaken does not raise the balance. -/
def InOrder : Venue → Event → Prop
  | venue, .reserve capital =>
      (capital = 0 ∨ Dec.epsilon < capital) ∧
      Dec.Exact (venue.balances.effectiveBalance label - venue.balances.reserved label) ∧
      Dec.Exact (venue.balances.reserved label + capital)
  | venue, .debit i => ∀ entry ∈ venue.entries[i]?,
      Dec.Exact (venue.balances.debits label + entry.spent) ∧
      Dec.Exact (venue.balances.cached label - (venue.balances.debits label + entry.spent))
  | venue, .release i => ∀ entry ∈ venue.entries[i]?,
      Dec.Exact (venue.balances.reserved label - entry.capital)
  | venue, .apply i => ∀ read ∈ venue.reads[i]?,
      (read.overtaken = true → read.value ≤ venue.balances.cached label) ∧
      Dec.Exact read.value ∧
      Dec.Exact (venue.balances.cached label - read.value) ∧
      Dec.Exact (venue.balances.debits label - (venue.balances.cached label - read.value)) ∧
      Dec.Exact (read.value - venue.balances.debits label)
  | _, _ => True

/-! ## Sums over the entries -/

/-- An entry within its reservation, and a reservation the tolerance does not swallow. -/
structure Held (entry : HeldEntry) : Prop where
  spent_nonneg : 0 ≤ entry.spent
  spent_le : entry.spent ≤ entry.capital
  above : entry.capital = 0 ∨ Dec.epsilon < entry.capital

theorem Held.capital_nonneg {entry : HeldEntry} (h : Held entry) : 0 ≤ entry.capital :=
  h.spent_nonneg.trans h.spent_le

theorem Held.canSpend_nonneg {entry : HeldEntry} (h : Held entry) : 0 ≤ entry.canSpend := by
  have hle := h.spent_le
  unfold HeldEntry.canSpend
  split
  · exact le_rfl
  · linarith

/-- The capital of an entry covers what it can spend and what it spent. -/
theorem Held.canSpend_add_undebited_le {entry : HeldEntry} (h : Held entry) :
    entry.canSpend + entry.undebited ≤ entry.capital := by
  have hcapital := h.capital_nonneg
  unfold HeldEntry.canSpend HeldEntry.undebited
  split <;> linarith

section Entries

variable {venue : Venue}

theorem heldCapital_nonneg (h : ∀ entry ∈ venue.entries, Held entry) : 0 ≤ venue.heldCapital :=
  List.sum_nonneg (by simpa using fun entry hentry => (h entry hentry).capital_nonneg)

theorem undebitedCost_nonneg (h : ∀ entry ∈ venue.entries, Held entry) :
    0 ≤ venue.undebitedCost := by
  refine List.sum_nonneg ?_
  simp only [List.mem_map, forall_exists_index, and_imp, forall_apply_eq_imp_iff₂]
  intro entry hentry
  unfold HeldEntry.undebited
  split
  · exact le_rfl
  · exact (h entry hentry).spent_nonneg

theorem openCapital_add_undebitedCost_le (h : ∀ entry ∈ venue.entries, Held entry) :
    venue.openCapital + venue.undebitedCost ≤ venue.heldCapital := by
  unfold openCapital undebitedCost heldCapital
  rw [← List.sum_map_add]
  exact List.sum_le_sum fun entry hentry => (h entry hentry).canSpend_add_undebited_le

/-- Reservations within the tolerance are no reservations. -/
theorem heldCapital_eq_zero (h : ∀ entry ∈ venue.entries, Held entry)
    (hle : venue.heldCapital ≤ Dec.epsilon) : venue.heldCapital = 0 := by
  have hzero : ∀ entry ∈ venue.entries, entry.capital = 0 := by
    intro entry hentry
    have hone : entry.capital ≤ venue.heldCapital :=
      List.single_le_sum (by simpa using fun e he => (h e he).capital_nonneg) _
        (List.mem_map_of_mem hentry)
    rcases (h entry hentry).above with hcapital | habove
    · exact hcapital
    · linarith
  exact List.sum_eq_zero (by simpa using hzero)

end Entries

/-! ## What the events change -/

@[simp]
theorem canSpend_of_live {entry : HeldEntry} (h : entry.debited = false) :
    entry.canSpend = entry.capital - entry.spent := by
  simp [HeldEntry.canSpend, h]

@[simp]
theorem undebited_of_live {entry : HeldEntry} (h : entry.debited = false) :
    entry.undebited = entry.spent := by
  simp [HeldEntry.undebited, h]

section Changes

variable {label} {venue : Venue} {i : ℕ} {entry : HeldEntry}

theorem openCapital_grant (capital : Dec) :
    (venue.grant label capital).openCapital = capital + venue.openCapital := by
  simp [openCapital, grant]

theorem undebitedCost_grant (capital : Dec) :
    (venue.grant label capital).undebitedCost = venue.undebitedCost := by
  simp [undebitedCost, grant]

theorem heldCapital_grant (capital : Dec) :
    (venue.grant label capital).heldCapital = capital + venue.heldCapital := by
  simp [heldCapital, grant]

theorem openCapital_take (h : venue.entries[i]? = some entry) (hlive : entry.debited = false)
    (cost : Dec) : (venue.take i entry cost).openCapital = venue.openCapital - cost := by
  unfold openCapital
  have hlive' : ({ entry with spent := entry.spent + cost } : HeldEntry).debited = false := hlive
  rw [take, sum_map_set _ h, canSpend_of_live hlive, canSpend_of_live hlive']
  ring

theorem undebitedCost_take (h : venue.entries[i]? = some entry) (hlive : entry.debited = false)
    (cost : Dec) : (venue.take i entry cost).undebitedCost = venue.undebitedCost + cost := by
  unfold undebitedCost
  have hlive' : ({ entry with spent := entry.spent + cost } : HeldEntry).debited = false := hlive
  rw [take, sum_map_set _ h, undebited_of_live hlive, undebited_of_live hlive']
  ring

theorem heldCapital_take (h : venue.entries[i]? = some entry) (cost : Dec) :
    (venue.take i entry cost).heldCapital = venue.heldCapital := by
  unfold heldCapital
  rw [take, sum_map_set _ h]
  ring

theorem openCapital_charge (h : venue.entries[i]? = some entry) (hlive : entry.debited = false) :
    (venue.charge label i entry).openCapital =
      venue.openCapital - (entry.capital - entry.spent) := by
  unfold openCapital
  rw [charge, sum_map_set _ h, canSpend_of_live hlive]
  simp [HeldEntry.canSpend]

theorem undebitedCost_charge (h : venue.entries[i]? = some entry) (hlive : entry.debited = false) :
    (venue.charge label i entry).undebitedCost = venue.undebitedCost - entry.spent := by
  unfold undebitedCost
  rw [charge, sum_map_set _ h, undebited_of_live hlive]
  simp [HeldEntry.undebited]

theorem heldCapital_charge (h : venue.entries[i]? = some entry) :
    (venue.charge label i entry).heldCapital = venue.heldCapital := by
  unfold heldCapital
  rw [charge, sum_map_set _ h]
  ring

theorem openCapital_finish (h : venue.entries[i]? = some entry) :
    (venue.finish label i entry).openCapital = venue.openCapital - entry.canSpend :=
  sum_map_eraseIdx _ h

theorem undebitedCost_finish (h : venue.entries[i]? = some entry) :
    (venue.finish label i entry).undebitedCost = venue.undebitedCost - entry.undebited :=
  sum_map_eraseIdx _ h

theorem heldCapital_finish (h : venue.entries[i]? = some entry) :
    (venue.finish label i entry).heldCapital = venue.heldCapital - entry.capital :=
  sum_map_eraseIdx _ h

theorem slack_nonneg (venue : Venue) : 0 ≤ venue.slack :=
  mul_nonneg (Nat.cast_nonneg _) Dec.epsilon_pos.le

theorem slack_write (read : BalanceRead) :
    (venue.write label i read).slack = venue.slack + Dec.epsilon := by
  simp only [slack, write, Nat.cast_add, Nat.cast_one]
  ring

end Changes

/-! ## The invariant -/

/-- What holds along a run: the cached balance is covered by the cash, the debits and what was not
debited yet, and so is every read that no other refresh overtook. -/
structure Sound (venue : Venue) : Prop where
  cached_le : venue.balances.cached label - venue.balances.debits label ≤
    venue.cash + venue.undebitedCost + venue.slack
  read_le : ∀ read ∈ venue.reads, read.overtaken = false →
    read.value ≤ venue.cash + venue.undebitedCost + venue.balances.debits label + venue.slack
  reserved_eq : venue.balances.reserved label = venue.heldCapital
  debits_nonneg : 0 ≤ venue.balances.debits label
  held : ∀ entry ∈ venue.entries, Held entry
  exact : Dec.Exact (venue.balances.cached label - venue.balances.debits label)
  open_le : venue.openCapital ≤ venue.cash + venue.slack

variable {label} {venue venue' : Venue}

/-- The effective balance is zero, or the cached balance without the debits. -/
theorem effectiveBalance_eq (h : venue.Sound label) :
    venue.balances.effectiveBalance label =
      max 0 (venue.balances.cached label - venue.balances.debits label) := by
  have hexact : Dec.sub (venue.balances.cached label) (venue.balances.debits label) =
      venue.balances.cached label - venue.balances.debits label := h.exact
  rw [Balances.effectiveBalance, hexact]

theorem Sound.spendable (h : venue.Sound label) : venue.Spendable label where
  free := by
    have hsum := openCapital_add_undebitedCost_le h.held
    have hnonneg := heldCapital_nonneg h.held
    have hcached := h.cached_le
    have hopen := h.open_le
    rw [effectiveBalance_eq h, h.reserved_eq]
    rcases max_choice 0 (venue.balances.cached label - venue.balances.debits label) with
      hzero | hdiff
    · rw [hzero]
      linarith
    · rw [hdiff]
      linarith
  held := h.open_le

theorem sound_start {cash : Dec} (hcash : 0 ≤ cash) : (start cash).Sound label where
  cached_le := by simpa [start, Balances.cached, Balances.debits, undebitedCost, slack] using hcash
  read_le := by simp [start]
  reserved_eq := rfl
  debits_nonneg := le_rfl
  held := by simp [start]
  exact := by simp [start, Balances.cached, Balances.debits, Dec.Exact]
  open_le := by simpa [start, openCapital, slack] using hcash

/-! ## One event -/

theorem Sound.grant {capital : Dec} (h : venue.Sound label)
    (habove : capital = 0 ∨ Dec.epsilon < capital)
    (hreserved : Dec.Exact (venue.balances.reserved label + capital))
    (hroom : capital ≤
      venue.balances.effectiveBalance label - venue.balances.reserved label) :
    (venue.grant label capital).Sound label := by
  have hadd : Dec.add (venue.balances.reserved label) capital =
      venue.balances.reserved label + capital := hreserved
  have hnonneg : 0 ≤ capital := by
    rcases habove with hzero | hlt
    · exact hzero.ge
    · exact Dec.epsilon_pos.le.trans hlt.le
  refine ⟨?_, ?_, ?_, h.debits_nonneg, ?_, h.exact, ?_⟩
  · rw [undebitedCost_grant]
    exact h.cached_le
  · rw [undebitedCost_grant]
    exact h.read_le
  · rw [heldCapital_grant, ← h.reserved_eq, add_comm, ← hadd]
    exact Balances.reserved_addReservation_self _ _ _
  · intro entry hentry
    rcases List.mem_cons.mp hentry with rfl | hentry
    · exact ⟨le_rfl, hnonneg, habove⟩
    · exact h.held entry hentry
  · -- What is free is there, so it may be promised.
    have hfree := h.spendable.free
    rw [openCapital_grant]
    show _ ≤ venue.cash + venue.slack
    linarith

theorem Sound.take {i : ℕ} {entry : HeldEntry} {cost : Dec} (h : venue.Sound label)
    (hentry : venue.entries[i]? = some entry) (hlive : entry.debited = false) (hcost : 0 ≤ cost)
    (hle : entry.spent + cost ≤ entry.capital) : (venue.take i entry cost).Sound label := by
  have hheld := h.held entry (List.mem_of_getElem? hentry)
  refine ⟨?_, ?_, ?_, h.debits_nonneg, ?_, h.exact, ?_⟩
  · -- The cash falls by as much as the cost that is not debited grows.
    have hcached := h.cached_le
    rw [undebitedCost_take hentry hlive]
    show venue.balances.cached label - venue.balances.debits label ≤
      venue.cash - cost + (venue.undebitedCost + cost) + venue.slack
    linarith
  · intro read hread hcurrent
    have hvalue := h.read_le read hread hcurrent
    rw [undebitedCost_take hentry hlive]
    show _ ≤ venue.cash - cost + (venue.undebitedCost + cost) + venue.balances.debits label +
      venue.slack
    linarith
  · rw [heldCapital_take hentry]
    exact h.reserved_eq
  · intro other hother
    rcases List.mem_or_eq_of_mem_set hother with hother | rfl
    · exact h.held other hother
    · exact ⟨add_nonneg hheld.spent_nonneg hcost, hle, hheld.above⟩
  · have hopen := h.open_le
    rw [openCapital_take hentry hlive]
    show _ ≤ venue.cash - cost + venue.slack
    linarith

theorem Sound.charge {i : ℕ} {entry : HeldEntry} (h : venue.Sound label)
    (hentry : venue.entries[i]? = some entry) (hlive : entry.debited = false)
    (hdebits : Dec.Exact (venue.balances.debits label + entry.spent))
    (hexact : Dec.Exact
      (venue.balances.cached label - (venue.balances.debits label + entry.spent))) :
    (venue.charge label i entry).Sound label := by
  have hheld := h.held entry (List.mem_of_getElem? hentry)
  have hspent := hheld.spent_nonneg
  have hadd : (venue.charge label i entry).balances.debits label =
      venue.balances.debits label + entry.spent :=
    (Balances.debits_debitCachedBalance _ _ _).trans hdebits
  have hundebited : (venue.charge label i entry).undebitedCost = _ :=
    undebitedCost_charge hentry hlive
  refine ⟨?_, ?_, ?_, ?_, ?_, ?_, ?_⟩
  · have hcached := h.cached_le
    rw [hadd, hundebited]
    show venue.balances.cached label - _ ≤ venue.cash + _ + venue.slack
    linarith
  · intro read hread hcurrent
    have hvalue := h.read_le read hread hcurrent
    rw [hadd, hundebited]
    show _ ≤ venue.cash + _ + _ + venue.slack
    linarith
  · rw [heldCapital_charge hentry]
    exact h.reserved_eq
  · rw [hadd]
    exact add_nonneg h.debits_nonneg hspent
  · intro other hother
    rcases List.mem_or_eq_of_mem_set hother with hother | rfl
    · exact h.held other hother
    · exact ⟨hspent, hheld.spent_le, hheld.above⟩
  · rw [hadd]
    exact hexact
  · have hopen := h.open_le
    have hle := hheld.spent_le
    rw [openCapital_charge hentry hlive]
    show _ ≤ venue.cash + venue.slack
    linarith

theorem Sound.finish {i : ℕ} {entry : HeldEntry} (h : venue.Sound label)
    (hentry : venue.entries[i]? = some entry) (hdone : entry.debited = true ∨ entry.spent = 0)
    (hexact : Dec.Exact (venue.balances.reserved label - entry.capital)) :
    (venue.finish label i entry).Sound label := by
  have hsub : ∀ other ∈ (venue.finish label i entry).entries, Held other := fun other hother =>
    h.held other (List.mem_of_mem_eraseIdx hother)
  have hheld := h.held entry (List.mem_of_getElem? hentry)
  have hundebited : entry.undebited = 0 := by
    rcases hdone with hdebited | hzero
    · simp [HeldEntry.undebited, hdebited]
    · simp [HeldEntry.undebited, hzero]
  have hcost : (venue.finish label i entry).undebitedCost = venue.undebitedCost := by
    rw [undebitedCost_finish hentry, hundebited, sub_zero]
  refine ⟨?_, ?_, ?_, h.debits_nonneg, hsub, h.exact, ?_⟩
  · rw [hcost]
    exact h.cached_le
  · rw [hcost]
    exact h.read_le
  · -- What is left is what the others hold, also where it is dropped.
    have hleft : Dec.sub (venue.balances.reserved label) entry.capital =
        (venue.finish label i entry).heldCapital := by
      rw [heldCapital_finish hentry, ← h.reserved_eq]
      exact hexact
    have hnonneg := heldCapital_nonneg hsub
    show (venue.balances.releaseReservation label entry.capital).reserved label = _
    rw [Balances.reserved_releaseReservation_self, hleft, max_eq_right hnonneg]
    split
    · next hdust => exact (heldCapital_eq_zero hsub hdust).symm
    · rfl
  · have hopen := h.open_le
    have hcan := hheld.canSpend_nonneg
    rw [openCapital_finish hentry]
    show _ ≤ venue.cash + venue.slack
    linarith

/-- What a netting leaves of the debits, where the context does not round. -/
theorem debits_netDecrease {balances : Balances} {fetched : Dec}
    (hobserved : Dec.Exact (balances.cached label - fetched))
    (hleft : Dec.Exact (balances.debits label - (balances.cached label - fetched))) :
    (balances.netDecrease label fetched).debits label =
      amountOf (putAmount balances.optimisticDebits label
        (max 0 (balances.debits label - (balances.cached label - fetched)))) label := by
  have hobserved' : Dec.sub (balances.cached label) fetched = balances.cached label - fetched :=
    hobserved
  have hleft' : Dec.sub (balances.debits label) (balances.cached label - fetched) =
      balances.debits label - (balances.cached label - fetched) := hleft
  simp only [Balances.netDecrease, hobserved', hleft']
  rfl

/-- It is not negative, and not less than the decrease leaves. -/
theorem debits_netDecrease_bounds {balances : Balances} {fetched : Dec}
    (hobserved : Dec.Exact (balances.cached label - fetched))
    (hleft : Dec.Exact (balances.debits label - (balances.cached label - fetched))) :
    0 ≤ (balances.netDecrease label fetched).debits label ∧
      balances.debits label - (balances.cached label - fetched) - Dec.epsilon ≤
        (balances.netDecrease label fetched).debits label := by
  rw [debits_netDecrease hobserved hleft]
  constructor
  · rw [amountOf_putAmount_self]
    split
    · exact le_rfl
    · exact le_max_left _ _
  · exact (sub_le_sub_right (le_max_right _ _) _).trans (le_amountOf_putAmount _ _ _)

/-- The debits are gone, or what the exact difference says. -/
theorem debits_netDecrease_eq {balances : Balances} {fetched : Dec}
    (hobserved : Dec.Exact (balances.cached label - fetched))
    (hleft : Dec.Exact (balances.debits label - (balances.cached label - fetched))) :
    (balances.netDecrease label fetched).debits label = 0 ∨
      (balances.netDecrease label fetched).debits label =
        balances.debits label - (balances.cached label - fetched) := by
  rw [debits_netDecrease hobserved hleft, amountOf_putAmount_self]
  split
  · exact .inl rfl
  · exact max_choice _ _

theorem Sound.write {i : ℕ} {read : BalanceRead} (h : venue.Sound label)
    (hread : venue.reads[i]? = some read) (hok : InOrder label venue (.apply i)) :
    (venue.write label i read).Sound label := by
  obtain ⟨hovertaken, hvalue, hobserved, hleft, hplain⟩ := hok read hread
  have heps := Dec.epsilon_pos
  have hmem : read ∈ venue.reads := List.mem_of_getElem? hread
  have hcached : (venue.write label i read).balances.cached label = read.value :=
    Balances.cached_applyBalanceRefresh _ _ _
  have hdebits : (venue.write label i read).balances.debits label =
      if venue.balances.decreased label read.value then
        (venue.balances.netDecrease label read.value).debits label
      else venue.balances.debits label := Balances.debits_applyBalanceRefresh _ _ _
  have hcost : (venue.write label i read).undebitedCost = venue.undebitedCost := rfl
  have hcash : (venue.write label i read).cash = venue.cash := rfl
  obtain ⟨hnonneg, hbound⟩ := debits_netDecrease_bounds hobserved hleft
  refine ⟨?_, ?_, ?_, ?_, h.held, ?_, ?_⟩
  · rw [hcached, hdebits, slack_write, hcost, hcash]
    have hold := h.cached_le
    split
    · -- The decrease is at most what the debits lose.
      linarith
    · cases hpast : read.overtaken with
      | true =>
          have hle := hovertaken hpast
          linarith
      | false =>
          have hle := h.read_le read hmem hpast
          linarith
  · intro other hother hcurrent
    obtain ⟨before, hbefore, rfl⟩ := List.mem_map.mp hother
    obtain ⟨hpast, hkept⟩ := Bool.or_eq_false_iff.mp hcurrent
    have hle := h.read_le before (List.mem_of_mem_eraseIdx hbefore) hpast
    rw [hdebits, hkept, slack_write, hcost, hcash]
    show before.value ≤ venue.cash + venue.undebitedCost + venue.balances.debits label + _
    linarith
  · exact (Balances.reserved_applyBalanceRefresh _ _ _ _).trans h.reserved_eq
  · rw [hdebits]
    split
    · exact hnonneg
    · exact h.debits_nonneg
  · rw [hcached, hdebits]
    split
    · rcases debits_netDecrease_eq hobserved hleft with hzero | heq
      · rw [hzero, sub_zero]
        exact hvalue
      · have hsame : read.value -
            (venue.balances.debits label - (venue.balances.cached label - read.value)) =
            venue.balances.cached label - venue.balances.debits label := by ring
        rw [heq, hsame]
        exact h.exact
    · exact hplain
  · have hopen := h.open_le
    rw [slack_write, hcash]
    show venue.openCapital ≤ _
    linarith

/-- Every event in order keeps the invariant. -/
theorem Sound.step {event : Event} (h : venue.Sound label) (hok : InOrder label venue event)
    (hs : step label venue event = some venue') : venue'.Sound label := by
  cases event with
  | reserve capital =>
      obtain ⟨habove, havailable, hreserved⟩ := hok
      obtain ⟨hroom, hs⟩ := Option.ite_none_left_eq_some.mp hs
      cases hs
      refine h.grant habove hreserved ?_
      have hexact : venue.balances.available label =
          venue.balances.effectiveBalance label - venue.balances.reserved label := havailable
      rw [← hexact]
      exact not_lt.mp hroom
  | fill i cost =>
      obtain ⟨entry, hentry, hs⟩ := Option.bind_eq_some_iff.mp hs
      obtain ⟨⟨hlive, hcost, hle⟩, hs⟩ := Option.ite_none_right_eq_some.mp hs
      cases hs
      exact h.take hentry hlive hcost hle
  | debit i =>
      obtain ⟨entry, hentry, hs⟩ := Option.bind_eq_some_iff.mp hs
      obtain ⟨⟨hlive, _⟩, hs⟩ := Option.ite_none_right_eq_some.mp hs
      cases hs
      obtain ⟨hdebits, hexact⟩ := hok entry hentry
      exact h.charge hentry hlive hdebits hexact
  | release i =>
      obtain ⟨entry, hentry, hs⟩ := Option.bind_eq_some_iff.mp hs
      obtain ⟨hdone, hs⟩ := Option.ite_none_right_eq_some.mp hs
      cases hs
      exact h.finish hentry hdone (hok entry hentry)
  | proceeds amount =>
      obtain ⟨hamount, hs⟩ := Option.ite_none_right_eq_some.mp hs
      cases hs
      have hcached := h.cached_le
      have hopen := h.open_le
      refine ⟨?_, ?_, h.reserved_eq, h.debits_nonneg, h.held, h.exact, ?_⟩
      · show _ ≤ venue.cash + amount + venue.undebitedCost + venue.slack
        linarith
      · intro read hread hcurrent
        have hvalue := h.read_le read hread hcurrent
        show _ ≤ venue.cash + amount + venue.undebitedCost + venue.balances.debits label +
          venue.slack
        linarith
      · show venue.openCapital ≤ venue.cash + amount + venue.slack
        linarith
  | read =>
      cases hs
      have hcash : venue.cash ≤
          venue.cash + venue.undebitedCost + venue.balances.debits label + venue.slack := by
        have hcost : 0 ≤ venue.undebitedCost := undebitedCost_nonneg h.held
        have hdebits := h.debits_nonneg
        have hslack := slack_nonneg venue
        linarith
      refine ⟨h.cached_le, ?_, h.reserved_eq, h.debits_nonneg, h.held, h.exact, h.open_le⟩
      intro other hother hcurrent
      rcases List.mem_cons.mp hother with rfl | hother
      · exact hcash
      · exact h.read_le other hother hcurrent
  | apply i =>
      obtain ⟨read, hread, rfl⟩ := Option.map_eq_some_iff.mp hs
      exact h.write hread hok

/-- **Reserved money is there**, in every state of a run in order. -/
theorem spendable_in_order {cash : Dec} (hcash : 0 ≤ cash) {hist : List Venue}
    (h : Run (Venue.step label) (InOrder label) (start cash) hist venue) :
    venue.Spendable label :=
  (h.state_invariant (Venue.Sound label) (sound_start hcash)
    fun _ _ _ hsound hok hstep => hsound.step hok hstep).spendable

instance : ∀ (venue : Venue) (event : Event), Decidable (InOrder label venue event)
  | _, .reserve _ => inferInstanceAs (Decidable ((_ ∨ _) ∧ _ ∧ _))
  | _, .debit _ => inferInstanceAs (Decidable (∀ entry ∈ _, _ ∧ _))
  | _, .release _ => inferInstanceAs (Decidable (∀ entry ∈ _, _))
  | _, .apply _ => inferInstanceAs (Decidable (∀ read ∈ _, (_ → _) ∧ _ ∧ _ ∧ _ ∧ _))
  | _, .fill _ _ | _, .proceeds _ | _, .read => inferInstanceAs (Decidable True)

/-- A refresh observes a fill before the fill is debited. -/
def observedFill : List Event :=
  [.read, .apply 0, .reserve 10, .fill 0 8, .read, .apply 0, .debit 0, .release 0]

theorem spendable_in_order_observed_fill : ∃ hist venue,
    Run (Venue.step "Polymarket") (InOrder "Polymarket") (start 100) hist venue ∧
      venue.refreshes = 2 ∧ venue.Spendable "Polymarket" := by
  have hsome : (exec (Venue.step "Polymarket") (InOrder "Polymarket") (start 100)
      observedFill).any (fun venue => venue.refreshes = 2) = true := by decide +kernel
  obtain ⟨venue, hexec, hcount⟩ := (Option.any_eq_true _ _).mp hsome
  obtain ⟨hist, hrun⟩ := Run.of_exec hexec
  exact ⟨hist, venue, hrun, by simpa using hcount, spendable_in_order (by norm_num) hrun⟩

/-- Two routers refresh the venue.  The first reads 100; an entry spends 8, which is debited and
released; the second reads 92, and writes it before the first writes its 100. -/
def overlappingRefreshes : List Event :=
  [.read, .apply 0, .read, .reserve 10, .fill 0 8, .debit 0, .release 0, .read, .apply 0, .apply 0]

/-- **The spent money comes back**, and the next entry reserves more than there is. -/
theorem overlapping_refreshes_free_spent_money : ∃ hist venue,
    Run (Venue.step "Polymarket") anyAction (start 100) hist venue ∧
      ¬ venue.Spendable "Polymarket" ∧
      ∃ reserved, venue.step "Polymarket" (.reserve 95) = some reserved ∧
        reserved.cash + reserved.slack < reserved.openCapital := by
  have hsome : (exec (Venue.step "Polymarket") anyAction (start 100) overlappingRefreshes).any
      (fun venue => ¬ venue.Spendable "Polymarket" ∧
        (venue.step "Polymarket" (.reserve 95)).any fun reserved =>
          reserved.cash + reserved.slack < reserved.openCapital) = true := by decide +kernel
  obtain ⟨venue, hexec, hvenue⟩ := (Option.any_eq_true _ _).mp hsome
  obtain ⟨hist, hrun⟩ := Run.of_exec hexec
  obtain ⟨hspent, hreserve⟩ := of_decide_eq_true hvenue
  obtain ⟨reserved, hstep, hlt⟩ := (Option.any_eq_true _ _).mp hreserve
  exact ⟨hist, venue, hrun, hspent, reserved, hstep, of_decide_eq_true hlt⟩

end Venue

/-! ## Where the events come from

A signal reserves and releases on the venues of both its legs.  On each of them that is the event of
the machine. -/

section Signal

variable {first second leg : LegCapital}

end Signal

end ArbitrageEngine.Execution.SpendableCapital
