/-
# ArbitrageEngine.Execution.ResidualMerge -- residual snapshots in any order

A snapshot carries the cumulative totals of one exit order, and booking it adds what it has more than
the last one booked for the order.  Venues report in any order and more than once, so what counts is
that the snapshots of an order form a chain: then the booked record of an order is the largest one
delivered, and the totals of a leg are those it had before plus the records of its orders.

The context rounds to 28 digits, so this holds of numbers it does not round.
-/
import ArbitrageEngine.Execution.Residual
import ArbitrageEngine.Lib.Keyed
import Mathlib.Algebra.Order.BigOperators.Group.List

namespace ArbitrageEngine.Execution

open Lib

/-! ## Totals -/

/-- The cumulative totals of a snapshot and of a leg. -/
inductive Total
  | closed
  | proceeds
  | residual
deriving DecidableEq

/-- A total of a snapshot. -/
def snapshotTotal (snapshot : ResidualExitSnapshot) : Total → Dec
  | .closed => snapshot.closedContracts
  | .proceeds => snapshot.exitProceedsUsd
  | .residual => snapshot.residualContracts

/-- A total of a leg. -/
def LegAccount.total (account : LegAccount) : Total → Dec
  | .closed => account.closedContracts
  | .proceeds => account.exitProceedsUsd
  | .residual => account.residual.exposureContracts

/-! ## Accounts of a leg -/

/-- The account of a leg of a position. -/
def legAccount (position : OpenPosition) : Leg → LegAccount
  | .first =>
      { totalContracts := position.polymarketContracts
        closedContracts := position.polymarketClosedContracts
        exitProceedsUsd := position.polymarketExitProceedsUsd
        residual := position.polymarketResidual }
  | .second =>
      { totalContracts := position.predictFunContracts
        closedContracts := position.predictFunClosedContracts
        exitProceedsUsd := position.predictFunExitProceedsUsd
        residual := position.predictFunResidual }

/-- The position with a booked leg. -/
def bookLeg (position : OpenPosition) (leg : Leg) (booked : BookedLeg) : OpenPosition :=
  match leg with
  | .first =>
      { position with
        status := "manual_review"
        polymarketClosed := booked.isClosed
        polymarketClosedContracts := booked.closedContracts
        polymarketExitProceedsUsd := booked.exitProceedsUsd
        polymarketExitPrice := booked.exitPrice
        polymarketResidual := booked.residual }
  | .second =>
      { position with
        status := "manual_review"
        predictFunClosed := booked.isClosed
        predictFunClosedContracts := booked.closedContracts
        predictFunExitProceedsUsd := booked.exitProceedsUsd
        predictFunExitPrice := booked.exitPrice
        predictFunResidual := booked.residual }

/-- The leg whose venue this is; the first one if it is both. -/
def legOf (market : MarketSpec) (venue : String) : Option Leg :=
  if market.venueALabel = venue then some .first
  else if market.venueBLabel = venue then some .second
  else none

/-- A snapshot is booked into the leg of its venue. -/
theorem applyResidualExitSnapshot_eq {position : OpenPosition} {venue : String} {leg : Leg}
    (h : legOf position.market venue = some leg) (snapshot : ResidualExitSnapshot) :
    applyResidualExitSnapshot position venue snapshot =
      (applyToLeg (legAccount position leg) snapshot).map (bookLeg position leg) := by
  unfold legOf at h
  unfold applyResidualExitSnapshot
  split at h
  · next hfirst =>
      cases h
      rw [if_pos hfirst]
      rfl
  · next hfirst =>
      rw [if_neg hfirst]
      split at h
      · next hsecond =>
          cases h
          rw [if_pos hsecond]
          rfl
      · cases h

/-- What a booked snapshot was booked into. -/
theorem applyResidualExitSnapshot_ok {position updated : OpenPosition} {venue : String}
    {snapshot : ResidualExitSnapshot}
    (h : applyResidualExitSnapshot position venue snapshot = .ok updated) :
    ∃ leg booked, legOf position.market venue = some leg ∧
      applyToLeg (legAccount position leg) snapshot = .ok booked ∧
      updated = bookLeg position leg booked := by
  cases hleg : legOf position.market venue with
  | none =>
      unfold legOf at hleg
      unfold applyResidualExitSnapshot at h
      split at hleg
      · cases hleg
      · split at hleg
        · cases hleg
        · next hfirst hsecond =>
            rw [if_neg hfirst, if_neg hsecond] at h
            cases h
  | some leg =>
      rw [applyResidualExitSnapshot_eq hleg] at h
      cases happly : applyToLeg (legAccount position leg) snapshot with
      | error exc =>
          rw [happly] at h
          cases h
      | ok booked =>
          rw [happly] at h
          cases h
          exact ⟨leg, booked, rfl, happly, rfl⟩

/-- The account of a booked leg. -/
def BookedLeg.account (booked : BookedLeg) (totalContracts : Dec) : LegAccount where
  totalContracts := totalContracts
  closedContracts := booked.closedContracts
  exitProceedsUsd := booked.exitProceedsUsd
  residual := booked.residual

@[simp]
theorem bookLeg_market (position : OpenPosition) (leg : Leg) (booked : BookedLeg) :
    (bookLeg position leg booked).market = position.market := by
  cases leg <;> rfl

theorem legAccount_bookLeg_self (position : OpenPosition) (leg : Leg) (booked : BookedLeg) :
    legAccount (bookLeg position leg booked) leg =
      booked.account (legAccount position leg).totalContracts := by
  cases leg <;> rfl

theorem legAccount_bookLeg_of_ne {position : OpenPosition} {leg other : Leg} (h : other ≠ leg)
    (booked : BookedLeg) :
    legAccount (bookLeg position leg booked) other = legAccount position other := by
  cases leg <;> cases other <;> first | rfl | exact absurd rfl h

namespace LegAccount

/-- The snapshot an account has of an order. -/
def record (account : LegAccount) (venueOrderId : String) : Option ResidualExitSnapshot :=
  Keyed.lookup ResidualExitSnapshot.venueOrderId venueOrderId account.residual.snapshots

/-- The account booked once more as it is. -/
def rebooked (account : LegAccount) : BookedLeg where
  closedContracts := account.closedContracts
  exitProceedsUsd := account.exitProceedsUsd
  isClosed := Dec.sub account.totalContracts Dec.epsilon ≤ account.closedContracts
  exitPrice := exitPrice account.exitProceedsUsd account.closedContracts
  residual := account.residual

/-- The account with what an order adds to it. -/
def grown (account : LegAccount) (venueOrderId : String) (delta : Total → Dec)
    (snapshots : List ResidualExitSnapshot) : LegAccount where
  totalContracts := account.totalContracts
  closedContracts := account.closedContracts + delta .closed
  exitProceedsUsd := account.exitProceedsUsd + delta .proceeds
  residual :=
    { exposureContracts := account.residual.exposureContracts + delta .residual
      orderIds :=
        if venueOrderId ∈ account.residual.orderIds then account.residual.orderIds
        else account.residual.orderIds ++ [venueOrderId]
      snapshots := snapshots }

@[simp]
theorem grown_total (account : LegAccount) (venueOrderId : String) (delta : Total → Dec)
    (snapshots : List ResidualExitSnapshot) (which : Total) :
    (account.grown venueOrderId delta snapshots).total which = account.total which + delta which := by
  cases which <;> rfl

@[simp]
theorem account_rebooked (account : LegAccount) :
    account.rebooked.account account.totalContracts = account := rfl

end LegAccount

/-! ## Orders -/

/-- `old` may be reported before `new`: no total shrinks, and more closed contracts bring more
proceeds. -/
structure Precedes (old new : ResidualExitSnapshot) : Prop where
  le : ∀ which, snapshotTotal old which ≤ snapshotTotal new which
  paid : old.closedContracts < new.closedContracts → old.exitProceedsUsd < new.exitProceedsUsd

theorem Precedes.refl (snapshot : ResidualExitSnapshot) : Precedes snapshot snapshot :=
  ⟨fun _ => le_rfl, fun h => absurd h (lt_irrefl _)⟩

theorem Precedes.trans {a b c : ResidualExitSnapshot} (hab : Precedes a b) (hbc : Precedes b c) :
    Precedes a c := by
  refine ⟨fun which => (hab.le which).trans (hbc.le which), fun h => ?_⟩
  rcases lt_or_ge a.closedContracts b.closedContracts with hlt | hge
  · exact (hab.paid hlt).trans_le (hbc.le .proceeds)
  · exact (hab.le .proceeds).trans_lt (hbc.paid (hge.trans_lt h))

/-- An exit order of a venue with its cumulative snapshots, oldest first.  Their totals have at most
17 decimals, and the context holds them. -/
structure ExitOrder where
  venue : String
  venueOrderId : String
  requestedContracts : Dec
  snapshots : List ResidualExitSnapshot
  nonempty : snapshots ≠ []
  own : ∀ snapshot ∈ snapshots, snapshot.venueOrderId = venueOrderId ∧
    snapshot.requestedContracts = requestedContracts
  valid : ∀ snapshot ∈ snapshots, validSnapshot snapshot = true
  held : ∀ snapshot ∈ snapshots, ∀ which, Dec.Fits17 (snapshotTotal snapshot which)
  chain : snapshots.Pairwise Precedes

namespace ExitOrder

variable (order : ExitOrder)

/-- The last and largest snapshot of an order. -/
def largest : ResidualExitSnapshot := order.snapshots.getLast order.nonempty

theorem largest_mem : order.largest ∈ order.snapshots := List.getLast_mem order.nonempty

variable {order} {s t : ResidualExitSnapshot}

theorem precedes_largest (hs : s ∈ order.snapshots) : Precedes s order.largest := by
  have hsplit := List.dropLast_append_getLast order.nonempty
  have hchain := order.chain
  rw [← hsplit] at hs hchain
  rcases List.mem_append.mp hs with hinit | hlast
  · exact (List.pairwise_append.mp hchain).2.2 s hinit _ (List.mem_singleton_self _)
  · rw [List.mem_singleton.mp hlast]
    exact Precedes.refl _

/-- Of two snapshots of an order one precedes the other. -/
theorem comparable (hs : s ∈ order.snapshots) (ht : t ∈ order.snapshots) :
    Precedes s t ∨ Precedes t s := by
  have hchain : order.snapshots.Pairwise fun x y => Precedes x y ∨ Precedes y x :=
    order.chain.imp fun h => .inl h
  have hflip : order.snapshots.Pairwise (flip fun x y => Precedes x y ∨ Precedes y x) :=
    order.chain.imp fun h => .inr h
  exact hchain.forall_of_forall_of_flip (fun x _ => .inl (Precedes.refl x)) hflip hs ht

/-- Snapshots of one order that precede each other are equal. -/
theorem eq_of_precedes (hs : s ∈ order.snapshots) (ht : t ∈ order.snapshots) (hst : Precedes s t)
    (hts : Precedes t s) : s = t := by
  obtain ⟨hsid, hsrequested⟩ := order.own s hs
  obtain ⟨htid, htrequested⟩ := order.own t ht
  cases s
  cases t
  simp only [ResidualExitSnapshot.mk.injEq]
  exact ⟨hsid.trans htid.symm, hsrequested.trans htrequested.symm,
    le_antisymm (hst.le .closed) (hts.le .closed), le_antisymm (hst.le .proceeds) (hts.le .proceeds),
    le_antisymm (hst.le .residual) (hts.le .residual)⟩

/-- The totals of a snapshot are not negative. -/
theorem nonneg (hs : s ∈ order.snapshots) (which : Total) : 0 ≤ snapshotTotal s which := by
  have hvalid := order.valid s hs
  simp only [validSnapshot, decide_eq_true_eq] at hvalid
  obtain ⟨_, hclosed, hproceeds, _, hresidual, _⟩ := hvalid
  cases which with
  | closed => exact hclosed
  | proceeds => exact hproceeds
  | residual => exact hresidual.le

end ExitOrder

/-! ## One leg -/

/-- What an account has of an order. -/
def ExitOrder.recorded (account : LegAccount) (which : Total) (order : ExitOrder) : Dec :=
  ((account.record order.venueOrderId).map fun snapshot => snapshotTotal snapshot which).getD 0

/-- What an order still adds to an account. -/
def ExitOrder.rest (account : LegAccount) (which : Total) (order : ExitOrder) : Dec :=
  snapshotTotal order.largest which - order.recorded account which

/-- The account has one of the snapshots of an order, or does not know the order. -/
def LegAccount.Knows (account : LegAccount) (order : ExitOrder) : Prop :=
  match account.record order.venueOrderId with
  | none => order.venueOrderId ∉ account.residual.orderIds
  | some snapshot => snapshot ∈ order.snapshots

instance (account : LegAccount) (order : ExitOrder) : Decidable (account.Knows order) :=
  match h : account.record order.venueOrderId with
  | none => decidable_of_iff (order.venueOrderId ∉ account.residual.orderIds)
      (by simp [LegAccount.Knows, h])
  | some snapshot => decidable_of_iff (snapshot ∈ order.snapshots) (by simp [LegAccount.Knows, h])

/-- The totals of a leg after all of these orders. -/
def mergedTotal (base : LegAccount) (orders : List ExitOrder) (which : Total) : Dec :=
  base.total which + (orders.map (ExitOrder.rest base which)).sum

/-- Different orders that an account knows at most by their snapshots, whose totals have at most 17
decimals and fit the leg and the context. -/
structure Fitting (base : LegAccount) (orders : List ExitOrder) : Prop where
  distinct : (orders.map ExitOrder.venueOrderId).Nodup
  knows : ∀ order ∈ orders, base.Knows order
  held : ∀ which, Dec.Fits17 (base.total which)
  heldAfter : ∀ which, Dec.Fits17 (mergedTotal base orders which)
  room : mergedTotal base orders .closed ≤ base.totalContracts

/-- `account` is `base` with some of the snapshots of these orders. -/
structure Merging (base : LegAccount) (orders : List ExitOrder) (account : LegAccount) : Prop where
  totalContracts : account.totalContracts = base.totalContracts
  total : ∀ which, account.total which = base.total which +
    (orders.map fun order => order.recorded account which - order.recorded base which).sum
  knows : ∀ order ∈ orders, account.Knows order
  grew : ∀ order ∈ orders, ∀ which, order.recorded base which ≤ order.recorded account which
  others : ∀ venueOrderId ∉ orders.map ExitOrder.venueOrderId,
    account.record venueOrderId = base.record venueOrderId

variable {base account : LegAccount} {orders : List ExitOrder} {order : ExitOrder}
  {s t : ResidualExitSnapshot} {which : Total}

theorem recorded_of_none (h : account.record order.venueOrderId = none) :
    order.recorded account which = 0 := by
  simp [ExitOrder.recorded, h]

theorem recorded_of_some (h : account.record order.venueOrderId = some s) :
    order.recorded account which = snapshotTotal s which := by
  simp [ExitOrder.recorded, h]

theorem LegAccount.Knows.mem (h : account.Knows order)
    (hrecord : account.record order.venueOrderId = some s) : s ∈ order.snapshots := by
  unfold LegAccount.Knows at h
  rw [hrecord] at h
  exact h

theorem LegAccount.Knows.notMem (h : account.Knows order)
    (hrecord : account.record order.venueOrderId = none) :
    order.venueOrderId ∉ account.residual.orderIds := by
  unfold LegAccount.Knows at h
  rw [hrecord] at h
  exact h

theorem LegAccount.Knows.recorded_le (h : account.Knows order) :
    order.recorded account which ≤ snapshotTotal order.largest which := by
  cases hrecord : account.record order.venueOrderId with
  | none =>
      rw [recorded_of_none hrecord]
      exact ExitOrder.nonneg order.largest_mem which
  | some s =>
      rw [recorded_of_some hrecord]
      exact (ExitOrder.precedes_largest (h.mem hrecord)).le which

theorem LegAccount.Knows.recorded_grid (h : account.Knows order) :
    Dec.Grid17 (order.recorded account which) := by
  cases hrecord : account.record order.venueOrderId with
  | none =>
      rw [recorded_of_none hrecord]
      exact Dec.Grid17.zero
  | some s =>
      rw [recorded_of_some hrecord]
      exact (order.held s (h.mem hrecord) which).1

theorem grid17_sum {α : Type} {f : α → Dec} {l : List α} (h : ∀ a ∈ l, Dec.Grid17 (f a)) :
    Dec.Grid17 (l.map f).sum := by
  induction l with
  | nil => exact Dec.Grid17.zero
  | cons a rest ih =>
      rw [List.map_cons, List.sum_cons]
      exact (h a List.mem_cons_self).add (ih fun b hb => h b (List.mem_cons_of_mem _ hb))

namespace Merging

theorem start (hfit : Fitting base orders) : Merging base orders base where
  totalContracts := rfl
  total := fun which => by simp
  knows := hfit.knows
  grew := fun _ _ _ => le_rfl
  others := fun _ _ => rfl

/-- The totals on the way lie between those at the start and those at the end. -/
theorem le_merged (h : Merging base orders account) (which : Total) :
    account.total which ≤ mergedTotal base orders which := by
  rw [h.total, mergedTotal]
  apply add_le_add le_rfl
  apply List.sum_le_sum
  intro order horder
  exact sub_le_sub_right (h.knows order horder).recorded_le _

theorem le_total (h : Merging base orders account) (which : Total) :
    base.total which ≤ account.total which := by
  rw [h.total]
  apply le_add_of_nonneg_right
  apply List.sum_nonneg
  intro x hx
  obtain ⟨order, horder, rfl⟩ := List.mem_map.mp hx
  exact sub_nonneg.mpr (h.grew order horder which)

/-- So the context holds them. -/
theorem fits (hfit : Fitting base orders) (h : Merging base orders account) (which : Total) :
    Dec.Fits17 (account.total which) := by
  refine (hfit.held which).between (hfit.heldAfter which) ?_ (h.le_total which) (h.le_merged which)
  rw [h.total]
  refine (hfit.held which).1.add (grid17_sum fun order horder => ?_)
  exact (h.knows order horder).recorded_grid.sub (hfit.knows order horder).recorded_grid

theorem closed_le (hfit : Fitting base orders) (h : Merging base orders account) :
    account.closedContracts ≤ account.totalContracts := by
  rw [h.totalContracts]
  exact (h.le_merged .closed).trans hfit.room

/-- Where every order is known by its largest snapshot, the totals are the merged ones. -/
theorem total_eq (h : Merging base orders account)
    (hlargest : ∀ order ∈ orders, account.record order.venueOrderId = some order.largest)
    (which : Total) : account.total which = mergedTotal base orders which := by
  rw [h.total, mergedTotal]
  congr 2
  apply List.map_congr_left
  intro order horder
  rw [recorded_of_some (hlargest order horder)]
  rfl

end Merging

/-- Two orders with one id are the same. -/
theorem Fitting.eq_of_id {other : ExitOrder} (hfit : Fitting base orders) (horder : order ∈ orders)
    (hother : other ∈ orders) (h : other.venueOrderId = order.venueOrderId) : other = order :=
  List.inj_on_of_nodup_map hfit.distinct hother horder h

/-- The account after a snapshot that adds to it. -/
def LegAccount.after (account : LegAccount) (order : ExitOrder) (snapshot : ResidualExitSnapshot)
    (snapshots : List ResidualExitSnapshot) : LegAccount :=
  account.grown order.venueOrderId
    (fun which => snapshotTotal snapshot which - order.recorded account which) snapshots

/-- A snapshot that adds to the account is merged. -/
theorem Merging.after (hfit : Fitting base orders) (h : Merging base orders account)
    (horder : order ∈ orders) (hs : s ∈ order.snapshots)
    (hgrows : ∀ which, order.recorded account which ≤ snapshotTotal s which)
    {snapshots : List ResidualExitSnapshot}
    (hself : (account.after order s snapshots).record order.venueOrderId = some s)
    (hother : ∀ id, id ≠ order.venueOrderId →
      (account.after order s snapshots).record id = account.record id) :
    Merging base orders (account.after order s snapshots) where
  totalContracts := h.totalContracts
  total := by
    intro which
    have hchange := Lib.Keyed.sum_map_change ExitOrder.venueOrderId hfit.distinct horder
      (f := fun other => other.recorded account which - other.recorded base which)
      (g := fun other => other.recorded (account.after order s snapshots) which -
        other.recorded base which) fun other _ hne => by
          simp only [ExitOrder.recorded, hother _ hne]
    rw [hchange, recorded_of_some hself, LegAccount.after, LegAccount.grown_total, h.total]
    ring
  knows := by
    intro other hmem
    by_cases hid : other.venueOrderId = order.venueOrderId
    · rw [hfit.eq_of_id horder hmem hid, LegAccount.Knows, hself]
      exact hs
    · have hknows := h.knows other hmem
      unfold LegAccount.Knows at hknows ⊢
      rw [hother _ hid]
      cases hrecord : account.record other.venueOrderId with
      | some _ =>
          rw [hrecord] at hknows
          exact hknows
      | none =>
          rw [hrecord] at hknows
          simp only [LegAccount.after, LegAccount.grown]
          split
          · exact hknows
          · intro hin
            rcases List.mem_append.mp hin with hold | hnew
            · exact hknows hold
            · exact hid (List.mem_singleton.mp hnew)
  grew := by
    intro other hmem which
    refine (h.grew other hmem which).trans ?_
    by_cases hid : other.venueOrderId = order.venueOrderId
    · rw [hfit.eq_of_id horder hmem hid, recorded_of_some hself]
      exact hgrows which
    · simp only [ExitOrder.recorded, hother _ hid, le_refl]
  others := by
    intro id hid
    have hne : id ≠ order.venueOrderId := fun heq =>
      hid (heq ▸ List.mem_map_of_mem horder)
    rw [hother id hne, h.others id hid]

/-! ## One snapshot -/

/-- Booking totals that the context holds and that fit the leg. -/
theorem bookDelta_grown (delta : Total → Dec) (snapshots : List ResidualExitSnapshot)
    (hexact : ∀ which, Dec.Exact (account.total which + delta which))
    (hroom : account.closedContracts + delta .closed ≤ account.totalContracts) :
    bookDelta account s (delta .closed) (delta .proceeds) (delta .residual) snapshots =
      .ok (account.grown s.venueOrderId delta snapshots).rebooked := by
  have hclosed : Dec.add account.closedContracts (delta .closed) =
      account.closedContracts + delta .closed := hexact .closed
  have hproceeds : Dec.add account.exitProceedsUsd (delta .proceeds) =
      account.exitProceedsUsd + delta .proceeds := hexact .proceeds
  have hresidual : Dec.add account.residual.exposureContracts (delta .residual) =
      account.residual.exposureContracts + delta .residual := hexact .residual
  have hguard : ¬ Dec.add account.totalContracts Dec.epsilon <
      account.closedContracts + delta .closed := by
    rw [not_lt]
    have hle : Dec.ctx (account.closedContracts + delta .closed) ≤
        Dec.ctx (account.totalContracts + Dec.epsilon) :=
      Dec.ctx_mono (hroom.trans (le_add_of_nonneg_right Dec.epsilon_pos.le))
    rwa [show Dec.ctx (account.closedContracts + delta .closed) = _ from hexact .closed] at hle
  unfold bookDelta
  simp only [hclosed, hproceeds, hresidual, if_neg hguard, min_eq_right hroom]
  rfl

/-- A snapshot that is not larger than the one recorded changes nothing. -/
theorem applyToLeg_stale (hs : s ∈ order.snapshots) (ht : t ∈ order.snapshots)
    (hrecord : account.record order.venueOrderId = some t) (hst : Precedes s t) :
    applyToLeg account s = .ok account.rebooked := by
  obtain ⟨hid, hrequested⟩ := order.own s hs
  have hfind : account.residual.snapshots.find? (fun item => item.venueOrderId = s.venueOrderId) =
      some t := by
    rw [hid]
    exact hrecord
  have hsame : Dec.sub t.requestedContracts s.requestedContracts = 0 := by
    rw [(order.own t ht).2, hrequested, Dec.sub, sub_self, Dec.ctx_zero]
  have hguard : ¬ Dec.epsilon < Dec.absolute 0 := by
    rw [Dec.absolute, abs_zero, Dec.ctx_zero, not_lt]
    exact Dec.epsilon_pos.le
  have hle : ∀ which, snapshotTotal s which ≤ Dec.add (snapshotTotal t which) Dec.epsilon :=
    fun which => (order.held s hs which).le_add_epsilon (hst.le which)
  have hnone : noneGrew t s = true := by
    simp only [noneGrew, decide_eq_true_eq]
    exact ⟨hle .closed, hle .proceeds, hle .residual⟩
  unfold applyToLeg
  simp only [hfind, hsame, if_neg hguard, hnone, if_true]
  rfl

/-- The first snapshot of an order is booked whole. -/
theorem applyToLeg_first (hs : s ∈ order.snapshots)
    (hrecord : account.record order.venueOrderId = none) (hknows : account.Knows order) :
    applyToLeg account s =
      bookDelta account s s.closedContracts s.exitProceedsUsd s.residualContracts
        (account.residual.snapshots ++ [s]) := by
  have hid := (order.own s hs).1
  have hfind : account.residual.snapshots.find? (fun item => item.venueOrderId = s.venueOrderId) =
      none := by
    rw [hid]
    exact hrecord
  have hunknown : s.venueOrderId ∉ account.residual.orderIds := hid ▸ hknows.notMem hrecord
  unfold applyToLeg
  simp only [hfind, if_neg hunknown]

/-- A larger snapshot is booked with what it adds to the one recorded. -/
theorem applyToLeg_grows (hs : s ∈ order.snapshots) (ht : t ∈ order.snapshots)
    (hrecord : account.record order.venueOrderId = some t) (hts : Precedes t s)
    (hst : ¬ Precedes s t) :
    applyToLeg account s =
      bookDelta account s (s.closedContracts - t.closedContracts)
        (s.exitProceedsUsd - t.exitProceedsUsd) (s.residualContracts - t.residualContracts)
        (Lib.Keyed.replace ResidualExitSnapshot.venueOrderId s account.residual.snapshots) := by
  obtain ⟨hid, hrequested⟩ := order.own s hs
  have hfind : account.residual.snapshots.find? (fun item => item.venueOrderId = s.venueOrderId) =
      some t := by
    rw [hid]
    exact hrecord
  have hsame : Dec.sub t.requestedContracts s.requestedContracts = 0 := by
    rw [(order.own t ht).2, hrequested, Dec.sub, sub_self, Dec.ctx_zero]
  have hguard : ¬ Dec.epsilon < Dec.absolute 0 := by
    rw [Dec.absolute, abs_zero, Dec.ctx_zero, not_lt]
    exact Dec.epsilon_pos.le
  -- some total is larger by a step of the grid, which the tolerance does not bridge
  have hnone : noneGrew t s = false := by
    by_contra hgrew
    rw [Bool.not_eq_false] at hgrew
    simp only [noneGrew, decide_eq_true_eq] at hgrew
    obtain ⟨hclosed, hproceeds, hresidual⟩ := hgrew
    have hle : ∀ which, snapshotTotal s which ≤ Dec.add (snapshotTotal t which) Dec.epsilon := by
      intro which
      cases which
      · exact hclosed
      · exact hproceeds
      · exact hresidual
    have hback : ∀ which, snapshotTotal s which ≤ snapshotTotal t which := fun which =>
      le_of_not_gt fun hlt =>
        ((order.held t ht which).add_epsilon_lt (order.held s hs which) hlt).not_ge (hle which)
    exact hst ⟨hback, fun hlt => absurd hlt (hts.le .closed).not_gt⟩
  have hle : ∀ which, Dec.sub (snapshotTotal t which) Dec.epsilon ≤ snapshotTotal s which :=
    fun which => (order.held s hs which).sub_epsilon_le (hts.le which)
  have hshrank : someShrank t s = false := by
    simp only [someShrank, decide_eq_false_iff_not, not_or, not_lt]
    exact ⟨hle .closed, hle .proceeds, hle .residual⟩
  have hsub : ∀ which, Dec.Fits17 (snapshotTotal s which - snapshotTotal t which) := by
    intro which
    have hheld := order.held s hs which
    refine ⟨hheld.1.sub (order.held t ht which).1, ?_⟩
    rw [abs_of_nonneg (sub_nonneg.mpr (hts.le which))]
    refine lt_of_le_of_lt ?_ hheld.2
    rw [abs_of_nonneg (ExitOrder.nonneg hs which)]
    exact sub_le_self _ (ExitOrder.nonneg ht which)
  have hclosed : Dec.sub s.closedContracts t.closedContracts =
      s.closedContracts - t.closedContracts := (hsub .closed).exact
  have hproceeds : Dec.sub s.exitProceedsUsd t.exitProceedsUsd =
      s.exitProceedsUsd - t.exitProceedsUsd := (hsub .proceeds).exact
  have hresidual : Dec.sub s.residualContracts t.residualContracts =
      s.residualContracts - t.residualContracts := (hsub .residual).exact
  have hpaid : ¬ (Dec.epsilon < s.closedContracts - t.closedContracts ∧
      s.exitProceedsUsd - t.exitProceedsUsd ≤ Dec.epsilon) := by
    rintro ⟨hlt, hle⟩
    have hmore : t.closedContracts < s.closedContracts := by
      linarith [Dec.epsilon_pos]
    have hpos := sub_pos.mpr (hts.paid hmore)
    exact hle.not_gt ((hsub .proceeds).epsilon_lt hpos)
  unfold applyToLeg
  simp only [hfind, hsame, if_neg hguard, hnone, hshrank, hclosed, hproceeds, hresidual,
    if_neg hpaid, Bool.false_eq_true, if_false]
  rfl

/-- The account has a snapshot of the order that this one precedes. -/
def LegAccount.Seen (account : LegAccount) (order : ExitOrder) (snapshot : ResidualExitSnapshot) :
    Prop :=
  ∃ latest ∈ order.snapshots,
    account.record order.venueOrderId = some latest ∧ Precedes snapshot latest

/-- What one snapshot does to an account on the way: it is merged and seen, and what was seen
before still is. -/
structure Delivered (base : LegAccount) (orders : List ExitOrder) (account : LegAccount)
    (order : ExitOrder) (snapshot : ResidualExitSnapshot) (after : LegAccount) : Prop where
  merging : Merging base orders after
  seen : after.Seen order snapshot
  keeps : ∀ other ∈ orders, ∀ old, account.Seen other old → after.Seen other old

theorem Delivered.of_grown (hfit : Fitting base orders) (h : Merging base orders account)
    (horder : order ∈ orders) (hs : s ∈ order.snapshots)
    (hlater : ∀ old, account.Seen order old → Precedes old s)
    (hgrows : ∀ which, order.recorded account which ≤ snapshotTotal s which)
    {snapshots : List ResidualExitSnapshot}
    (hself : (account.after order s snapshots).record order.venueOrderId = some s)
    (hother : ∀ id, id ≠ order.venueOrderId →
      (account.after order s snapshots).record id = account.record id) :
    Delivered base orders account order s (account.after order s snapshots) where
  merging := h.after hfit horder hs hgrows hself hother
  seen := ⟨s, hs, hself, Precedes.refl s⟩
  keeps := by
    intro other hmem old hold
    by_cases hid : other.venueOrderId = order.venueOrderId
    · rw [hfit.eq_of_id horder hmem hid] at hold ⊢
      exact ⟨s, hs, hself, hlater old hold⟩
    · obtain ⟨latest, hlatest, hrecord, hle⟩ := hold
      exact ⟨latest, hlatest, (hother _ hid).trans hrecord, hle⟩

/-- Booking a snapshot that adds to the account. -/
theorem bookDelta_after (hfit : Fitting base orders) (hs : s ∈ order.snapshots)
    {snapshots : List ResidualExitSnapshot}
    (h : Merging base orders (account.after order s snapshots)) :
    bookDelta account s (s.closedContracts - order.recorded account .closed)
        (s.exitProceedsUsd - order.recorded account .proceeds)
        (s.residualContracts - order.recorded account .residual) snapshots =
      .ok (account.after order s snapshots).rebooked := by
  have hexact : ∀ which, Dec.Exact
      (account.total which + (snapshotTotal s which - order.recorded account which)) := by
    intro which
    have hfits := (h.fits hfit which).exact
    rwa [LegAccount.after, LegAccount.grown_total] at hfits
  have hbooked := bookDelta_grown (s := s) _ snapshots hexact (h.closed_le hfit)
  rw [(order.own s hs).1] at hbooked
  exact hbooked

/-- **One snapshot.**  A snapshot of one of the orders is booked, and the account stays one on the
way. -/
theorem applyToLeg_delivers (hfit : Fitting base orders) (h : Merging base orders account)
    (horder : order ∈ orders) (hs : s ∈ order.snapshots) :
    ∃ after, applyToLeg account s = .ok after.rebooked ∧
      Delivered base orders account order s after := by
  have hknows := h.knows order horder
  have hid := (order.own s hs).1
  cases hrecord : account.record order.venueOrderId with
  | none =>
      have hlookup : ∀ id, (account.after order s (account.residual.snapshots ++ [s])).record id =
          (account.record id).or (if s.venueOrderId = id then some s else none) :=
        fun id => Lib.Keyed.lookup_append_singleton _ id _ s
      have hdelivered : Delivered base orders account order s
          (account.after order s (account.residual.snapshots ++ [s])) := by
        apply Delivered.of_grown hfit h horder hs
        · rintro old ⟨latest, _, hlatest, _⟩
          rw [hrecord] at hlatest
          cases hlatest
        · intro which
          rw [recorded_of_none hrecord]
          exact ExitOrder.nonneg hs which
        · rw [hlookup, hrecord, if_pos hid]
          rfl
        · intro id hne
          rw [hlookup, if_neg fun heq => hne (heq.symm.trans hid), Option.or_none]
      refine ⟨_, ?_, hdelivered⟩
      rw [applyToLeg_first hs hrecord hknows, ← bookDelta_after hfit hs hdelivered.merging]
      simp only [recorded_of_none hrecord, sub_zero]
  | some t =>
      have ht := hknows.mem hrecord
      by_cases hst : Precedes s t
      · exact ⟨account, applyToLeg_stale hs ht hrecord hst, h, ⟨t, ht, hrecord, hst⟩,
          fun _ _ _ hold => hold⟩
      have hts := (ExitOrder.comparable hs ht).resolve_left hst
      set snapshots := Lib.Keyed.replace ResidualExitSnapshot.venueOrderId s
        account.residual.snapshots
      have hlookup : ∀ id, (account.after order s snapshots).record id =
          if id = s.venueOrderId then (account.record id).map fun _ => s
          else account.record id := fun id => Lib.Keyed.lookup_replace _ id _ s
      have hdelivered : Delivered base orders account order s (account.after order s snapshots) := by
        apply Delivered.of_grown hfit h horder hs
        · rintro old ⟨latest, _, hlatest, hle⟩
          rw [hrecord, Option.some.injEq] at hlatest
          exact hle.trans (hlatest ▸ hts)
        · intro which
          rw [recorded_of_some hrecord]
          exact hts.le which
        · rw [hlookup, if_pos hid.symm, hrecord]
          rfl
        · intro id hne
          rw [hlookup, if_neg fun heq => hne (heq.trans hid)]
      refine ⟨_, ?_, hdelivered⟩
      rw [applyToLeg_grows hs ht hrecord hts hst, ← bookDelta_after hfit hs hdelivered.merging]
      simp only [recorded_of_some hrecord]
      rfl

/-! ## Positions -/

/-- A snapshot with the venue that reports it. -/
abbrev Delivery : Type := String × ResidualExitSnapshot

/-- Booking snapshots one after the other. -/
def applyAll (position : OpenPosition) (deliveries : List Delivery) : Except Exc OpenPosition :=
  deliveries.foldlM (fun position delivery =>
    applyResidualExitSnapshot position delivery.1 delivery.2) position

/-- The orders of a leg. -/
def legOrders (market : MarketSpec) (orders : List ExitOrder) (leg : Leg) : List ExitOrder :=
  orders.filter fun order => legOf market order.venue = some leg

/-- Every order is one of the venues of the position, and those of each leg fit it. -/
structure FittingPosition (position : OpenPosition) (orders : List ExitOrder) : Prop where
  venues : ∀ order ∈ orders, (legOf position.market order.venue).isSome
  legs : ∀ leg, Fitting (legAccount position leg) (legOrders position.market orders leg)

/-- These are snapshots of the orders. -/
def SnapshotsOf (orders : List ExitOrder) (deliveries : List Delivery) : Prop :=
  ∀ delivery ∈ deliveries, ∃ order ∈ orders,
    delivery.1 = order.venue ∧ delivery.2 ∈ order.snapshots

/-- These are all of them. -/
def DeliversAll (orders : List ExitOrder) (deliveries : List Delivery) : Prop :=
  ∀ order ∈ orders, ∀ snapshot ∈ order.snapshots, (order.venue, snapshot) ∈ deliveries

/-- Booking the account of a leg once more changes nothing. -/
def SettledLeg (position : OpenPosition) (leg : Leg) : Prop :=
  bookLeg position leg (legAccount position leg).rebooked = position

theorem settledLeg_bookLeg (position : OpenPosition) (leg : Leg) (account : LegAccount)
    (h : account.totalContracts = (legAccount position leg).totalContracts) :
    SettledLeg (bookLeg position leg account.rebooked) leg := by
  unfold SettledLeg
  rw [legAccount_bookLeg_self, ← h, LegAccount.account_rebooked]
  cases leg <;> rfl

theorem bookLeg_comm {position : OpenPosition} {leg other : Leg} (h : other ≠ leg)
    (booked rebooked : BookedLeg) :
    bookLeg (bookLeg position leg booked) other rebooked =
      bookLeg (bookLeg position other rebooked) leg booked := by
  cases leg <;> cases other <;> first | rfl | exact absurd rfl h

theorem SettledLeg.of_other {position : OpenPosition} {leg other : Leg}
    (h : SettledLeg position other) (hne : other ≠ leg) (booked : BookedLeg) :
    SettledLeg (bookLeg position leg booked) other := by
  unfold SettledLeg at h ⊢
  rw [legAccount_bookLeg_of_ne hne, bookLeg_comm hne, h]

/-- What holds after some snapshots: every leg is on the way, every snapshot is seen, and the legs
that were booked are settled. -/
structure Reached (position : OpenPosition) (orders : List ExitOrder) (done : List Delivery)
    (now : OpenPosition) : Prop where
  market : now.market = position.market
  merging : ∀ leg,
    Merging (legAccount position leg) (legOrders position.market orders leg) (legAccount now leg)
  seen : ∀ leg, ∀ order ∈ legOrders position.market orders leg, ∀ snapshot ∈ order.snapshots,
    (order.venue, snapshot) ∈ done → (legAccount now leg).Seen order snapshot
  settled : ∀ delivery ∈ done, ∀ leg, legOf position.market delivery.1 = some leg →
    SettledLeg now leg

variable {position now : OpenPosition} {done deliveries : List Delivery} {delivery : Delivery}

theorem Reached.start (hfit : FittingPosition position orders) :
    Reached position orders [] position where
  market := rfl
  merging := fun leg => Merging.start (hfit.legs leg)
  seen := fun _ _ _ _ _ h => absurd h List.not_mem_nil
  settled := fun _ h => absurd h List.not_mem_nil

/-- The order of a delivery, among those of its leg. -/
theorem FittingPosition.leg_of (hfit : FittingPosition position orders)
    (hof : SnapshotsOf orders [delivery]) :
    ∃ leg, legOf position.market delivery.1 = some leg ∧
      ∃ order ∈ legOrders position.market orders leg,
        order.venue = delivery.1 ∧ delivery.2 ∈ order.snapshots := by
  obtain ⟨order, horder, hvenue, hsnapshot⟩ := hof delivery (List.mem_singleton_self _)
  obtain ⟨leg, hleg⟩ := Option.isSome_iff_exists.mp (hfit.venues order horder)
  refine ⟨leg, hvenue ▸ hleg, order, ?_, hvenue.symm, hsnapshot⟩
  exact List.mem_filter.mpr ⟨horder, by simpa using hleg⟩

theorem legOf_of_mem_legOrders {market : MarketSpec} {leg : Leg}
    (h : order ∈ legOrders market orders leg) : legOf market order.venue = some leg := by
  simpa using (List.mem_filter.mp h).2

/-- One more snapshot. -/
theorem Reached.deliver (hfit : FittingPosition position orders)
    (h : Reached position orders done now) (hof : SnapshotsOf orders [delivery]) :
    ∃ next, applyResidualExitSnapshot now delivery.1 delivery.2 = .ok next ∧
      Reached position orders (done ++ [delivery]) next := by
  obtain ⟨leg, hleg, order, horder, hvenue, hsnapshot⟩ := hfit.leg_of hof
  obtain ⟨after, happly, hdelivered⟩ :=
    applyToLeg_delivers (hfit.legs leg) (h.merging leg) horder hsnapshot
  have hsame : after.totalContracts = (legAccount now leg).totalContracts :=
    hdelivered.merging.totalContracts.trans (h.merging leg).totalContracts.symm
  have hself : legAccount (bookLeg now leg after.rebooked) leg = after := by
    rw [legAccount_bookLeg_self, ← hsame, LegAccount.account_rebooked]
  refine ⟨bookLeg now leg after.rebooked, ?_, ?_⟩
  · rw [applyResidualExitSnapshot_eq (h.market ▸ hleg), happly]
    rfl
  refine ⟨by rw [bookLeg_market, h.market], fun other => ?_, ?_, ?_⟩
  · by_cases hother : other = leg
    · rw [hother, hself]
      exact hdelivered.merging
    · rw [legAccount_bookLeg_of_ne hother]
      exact h.merging other
  · intro other old hold snapshot hmem hdone
    by_cases hother : other = leg
    · rw [hother, hself]
      rw [hother] at hold
      rcases List.mem_append.mp hdone with hbefore | hnew
      · exact hdelivered.keeps old hold snapshot (h.seen leg old hold snapshot hmem hbefore)
      · -- it is the snapshot delivered now, so `old` is its order
        have heq : snapshot = delivery.2 := congrArg Prod.snd (List.mem_singleton.mp hnew)
        have hid : old.venueOrderId = order.venueOrderId := by
          rw [← (old.own snapshot hmem).1, heq, (order.own _ hsnapshot).1]
        rw [(hfit.legs leg).eq_of_id horder hold hid, heq]
        exact hdelivered.seen
    · rw [legAccount_bookLeg_of_ne hother]
      rcases List.mem_append.mp hdone with hbefore | hnew
      · exact h.seen other old hold snapshot hmem hbefore
      · have heq : old.venue = delivery.1 := congrArg Prod.fst (List.mem_singleton.mp hnew)
        have hlegs := legOf_of_mem_legOrders hold
        rw [heq, hleg, Option.some.injEq] at hlegs
        exact absurd hlegs.symm hother
  · intro old hdone other hlegs
    by_cases hother : other = leg
    · rw [hother]
      exact settledLeg_bookLeg now leg after hsame
    · rcases List.mem_append.mp hdone with hbefore | hnew
      · exact (h.settled old hbefore other hlegs).of_other hother _
      · rw [List.mem_singleton.mp hnew, hleg, Option.some.injEq] at hlegs
        exact absurd hlegs.symm hother

theorem SnapshotsOf.of_cons {rest : List Delivery} (h : SnapshotsOf orders (delivery :: rest)) :
    SnapshotsOf orders [delivery] ∧ SnapshotsOf orders rest := by
  refine ⟨fun d hd => h d ?_, fun d hd => h d (List.mem_cons_of_mem _ hd)⟩
  rw [List.mem_singleton.mp hd]
  exact List.mem_cons_self

/-- Any number of them. -/
theorem Reached.deliverAll (hfit : FittingPosition position orders)
    (hof : SnapshotsOf orders deliveries) (h : Reached position orders done now) :
    ∃ last, applyAll now deliveries = .ok last ∧
      Reached position orders (done ++ deliveries) last := by
  induction deliveries generalizing done now with
  | nil => exact ⟨now, rfl, by rwa [List.append_nil]⟩
  | cons delivery rest ih =>
      obtain ⟨hhead, htail⟩ := hof.of_cons
      obtain ⟨next, happly, hnext⟩ := h.deliver hfit hhead
      obtain ⟨last, hrest, hlast⟩ := ih htail hnext
      refine ⟨last, ?_, by rwa [List.append_assoc] at hlast⟩
      rw [applyAll, List.foldlM_cons, happly]
      exact hrest

/-- A snapshot that was booked is stale. -/
theorem Reached.again (hfit : FittingPosition position orders) (hof : SnapshotsOf orders done)
    (h : Reached position orders done now) (hdone : delivery ∈ done) :
    applyResidualExitSnapshot now delivery.1 delivery.2 = .ok now := by
  have hone : SnapshotsOf orders [delivery] := fun d hd => hof d (List.mem_singleton.mp hd ▸ hdone)
  obtain ⟨leg, hleg, order, horder, hvenue, hsnapshot⟩ := hfit.leg_of hone
  obtain ⟨latest, hlatest, hrecord, hle⟩ :=
    h.seen leg order horder _ hsnapshot (by rw [hvenue]; exact hdone)
  rw [applyResidualExitSnapshot_eq (h.market ▸ hleg),
    applyToLeg_stale hsnapshot hlatest hrecord hle]
  exact congrArg Except.ok (h.settled delivery hdone leg hleg)

/-! ## Convergence -/

/-- The position has the orders merged: the totals of each leg are those before with, for each of
its orders, what its largest snapshot adds; that snapshot is its record, and other records stay. -/
structure Merged (position : OpenPosition) (orders : List ExitOrder) (now : OpenPosition) :
    Prop where
  totals : ∀ leg which, (legAccount now leg).total which =
    mergedTotal (legAccount position leg) (legOrders position.market orders leg) which
  records : ∀ leg, ∀ order ∈ legOrders position.market orders leg,
    (legAccount now leg).record order.venueOrderId = some order.largest
  others : ∀ leg, ∀ venueOrderId ∉
      (legOrders position.market orders leg).map ExitOrder.venueOrderId,
    (legAccount now leg).record venueOrderId = (legAccount position leg).record venueOrderId

/-- Closed contracts are contracts of the leg, and what was booked can be booked again. -/
structure Sound (position : OpenPosition) (done : List Delivery) (now : OpenPosition) : Prop where
  contracts : ∀ leg, (legAccount now leg).totalContracts = (legAccount position leg).totalContracts
  closed_le : ∀ leg, (legAccount now leg).closedContracts ≤ (legAccount now leg).totalContracts
  again : ∀ delivery ∈ done, applyResidualExitSnapshot now delivery.1 delivery.2 = .ok now

theorem Reached.merged (h : Reached position orders done now) (hall : DeliversAll orders done) :
    Merged position orders now := by
  have hrecords : ∀ leg, ∀ order ∈ legOrders position.market orders leg,
      (legAccount now leg).record order.venueOrderId = some order.largest := by
    intro leg order horder
    have hlargest := order.largest_mem
    obtain ⟨latest, hlatest, hrecord, hle⟩ := h.seen leg order horder _ hlargest
      (hall order (List.mem_filter.mp horder).1 _ hlargest)
    rw [hrecord, ExitOrder.eq_of_precedes hlatest hlargest (ExitOrder.precedes_largest hlatest) hle]
  exact ⟨fun leg which => (h.merging leg).total_eq (hrecords leg) which, hrecords,
    fun leg => (h.merging leg).others⟩

theorem Reached.sound (hfit : FittingPosition position orders) (hof : SnapshotsOf orders done)
    (h : Reached position orders done now) : Sound position done now where
  contracts := fun leg => (h.merging leg).totalContracts
  closed_le := fun leg => (h.merging leg).closed_le (hfit.legs leg)
  again := fun _ hdone => h.again hfit hof hdone

/-- **The merge is independent of the order.**  Whatever the order and the repeats in which the
snapshots of the orders are booked, none is refused, every state on the way is sound, and the last
one has the orders merged. -/
theorem residual_merge_converges (position : OpenPosition) (orders : List ExitOrder)
    (hfit : FittingPosition position orders) (deliveries : List Delivery)
    (hof : SnapshotsOf orders deliveries) (hall : DeliversAll orders deliveries) :
    (∃ last, applyAll position deliveries = .ok last ∧ Merged position orders last) ∧
      ∀ done, done <+: deliveries →
        ∃ now, applyAll position done = .ok now ∧ Sound position done now := by
  constructor
  · obtain ⟨last, happly, hlast⟩ := (Reached.start hfit).deliverAll hfit hof
    exact ⟨last, happly, hlast.merged hall⟩
  · intro done hprefix
    have hdone : SnapshotsOf orders done := fun d hd => hof d (List.IsPrefix.subset hprefix hd)
    obtain ⟨now, happly, hnow⟩ := (Reached.start hfit).deliverAll hfit hdone
    exact ⟨now, happly, hnow.sound hfit hdone⟩

/-! ## A merge of two snapshots, and three that are refused or rounded -/

/-- A snapshot of an order for four contracts. -/
def fourRequested (closed proceeds residual : Dec) : ResidualExitSnapshot :=
  ⟨"order", 4, closed, proceeds, residual⟩

/-- A position on Polymarket and Myriad with these contracts closed and these order ids. -/
def exitedPosition (closed : Dec) (orderIds : List String) : OpenPosition where
  market :=
    { symbol := "BTC"
      targetLabel := "up"
      polymarketTokenId := "first-token"
      polymarketSide := .yes
      predictFunTokenId := "second-token"
      predictFunSide := .no
      venueBLabel := "Myriad" }
  polymarketContracts := 200000000000
  polymarketEntryPrice := 1 / 2
  predictFunContracts := 200000000000
  predictFunEntryPrice := 1 / 2
  polymarketOrderId := "entry-a"
  predictFunOrderId := "entry-b"
  polymarketClosedContracts := closed
  polymarketResidual := { orderIds := orderIds }

/-- An order that reports twice. -/
def twoReports : ExitOrder where
  venue := "Polymarket"
  venueOrderId := "order"
  requestedContracts := 4
  snapshots := [fourRequested 1 (1 / 2) 1, fourRequested 2 1 1]
  nonempty := by simp
  own := by decide +kernel
  valid := by decide +kernel
  held := by
    intro snapshot hmem which
    revert snapshot
    cases which <;> decide +kernel
  chain := by
    rw [List.pairwise_pair]
    refine ⟨fun which => ?_, by decide +kernel⟩
    cases which <;> decide +kernel

theorem twoReports_fits : FittingPosition (exitedPosition 0 []) [twoReports] where
  venues := by decide +kernel
  legs := by
    intro leg
    refine ⟨?_, ?_, fun which => ?_, fun which => ?_, ?_⟩
    · cases leg <;> decide +kernel
    · cases leg <;> decide +kernel
    · cases leg <;> cases which <;> decide +kernel
    · cases leg <;> cases which <;> decide +kernel
    · cases leg <;> decide +kernel

/-- The larger report, the smaller one and the larger one again. -/
theorem residual_merge_converges_two_reports :
    let deliveries := [("Polymarket", fourRequested 2 1 1),
      ("Polymarket", fourRequested 1 (1 / 2) 1), ("Polymarket", fourRequested 2 1 1)]
    (∃ last, applyAll (exitedPosition 0 []) deliveries = .ok last ∧
        Merged (exitedPosition 0 []) [twoReports] last) ∧
      ∀ done, done <+: deliveries →
        ∃ now, applyAll (exitedPosition 0 []) done = .ok now ∧
          Sound (exitedPosition 0 []) done now :=
  residual_merge_converges _ _ twoReports_fits _ (by simp [SnapshotsOf, twoReports])
    (by simp [DeliversAll, twoReports])

/-- Three merges that do not converge.  Of two growing reports the larger one closes more without
proceeds, and is refused after the other one but not before it.  The last decimal of a report is
lost in a large total.  An order that is known without a record is refused. -/
theorem residual_merge_diverges :
    (∀ which, snapshotTotal (fourRequested 1 (1 / 2) 1) which ≤
        snapshotTotal (fourRequested 2 (1 / 2) 1) which) ∧
      applyAll (exitedPosition 0 []) [("Polymarket", fourRequested 1 (1 / 2) 1),
        ("Polymarket", fourRequested 2 (1 / 2) 1)] = .error (.failed none) ∧
      (applyAll (exitedPosition 0 []) [("Polymarket", fourRequested 2 (1 / 2) 1),
        ("Polymarket", fourRequested 1 (1 / 2) 1)]).map
          OpenPosition.polymarketClosedContracts = .ok 2 ∧
      (applyAll (exitedPosition 123456789012 [])
          [("Polymarket", fourRequested (1 / 10 ^ 17) 1 1)]).map
        OpenPosition.polymarketClosedContracts = .ok 123456789012 ∧
      applyAll (exitedPosition 0 ["order"]) [("Polymarket", fourRequested 1 (1 / 2) 1)] =
        .error (.failed none) := by
  refine ⟨fun which => ?_, by decide +kernel, by decide +kernel, by decide +kernel,
    by decide +kernel⟩
  cases which <;> decide +kernel

end ArbitrageEngine.Execution
