/-
# ArbitrageEngine.Reconciliation.ResidualAgreement -- one residual order on two paths

Execution books the residual exposure of a sell from the report of the order, whose requested
contracts went through a float.  Reconciliation finds the same fills in the list of the account and
books them with the quantity of the intent, which a column rounded.  Both snapshots have the same
totals, so the second one should change nothing; but it is refused where the two quantities differ.
-/
import ArbitrageEngine.Connectors.SxBetV3Fills
import ArbitrageEngine.Reconciliation.StoredResiduals

namespace ArbitrageEngine.Reconciliation

open Execution SxBetV3

/-! ## The sums of a sell -/

/-- The sums over the fills of a sell. -/
structure SaleSums where
  closed : Dec
  proceeds : Dec
  residual : Dec
deriving DecidableEq

/-- The sums with one more sale. -/
def SaleSums.add (sums : SaleSums) (sale : SaleAccounting) : SaleSums where
  closed := Dec.add sums.closed sale.closedContracts
  proceeds := Dec.add sums.proceeds sale.netProceeds
  residual := Dec.add sums.residual sale.residualOpposite

/-- The sums in the totals of a report. -/
def reportSums (totals : FillTotals) : SaleSums where
  closed := totals.confirmedContracts
  proceeds := totals.confirmedSellProceeds
  residual := totals.confirmedResidualOpposite

/-- The sums in the accounting of an order. -/
def accountingSums (accounting : Option ResidualAccounting) : SaleSums where
  closed := (accounting.map (·.closed)).getD 0
  proceeds := (accounting.map (·.proceeds)).getD 0
  residual := (accounting.map (·.residual)).getD 0

/-- Nothing is negative but the proceeds, and the context has rounded it. -/
structure SaleSums.Held (sums : SaleSums) : Prop where
  closed_nonneg : 0 ≤ sums.closed
  residual_nonneg : 0 ≤ sums.residual
  closed_exact : Dec.Exact sums.closed
  residual_exact : Dec.Exact sums.residual

/-- The fill is counted by both paths: a fill that is locked at some odds has a stake. -/
def CountsStake (decimals : ℕ) (fill : RawFill) : Prop :=
  ∀ status, v3FillStatus fill = .ok status → status.irreversible = true → 0 < fill.odds →
    0 < fill.stake decimals

variable {submitted : SubmittedOrder} {decimals : ℕ} {fill row : RawFill} {sale : SaleAccounting}
  {totals totals' : FillTotals} {listing listing' : FillListing}
  {contexts : String → Option SubmittedOrder} {orderId : String}

theorem sellFillAccounting_nonneg {stake odds : Dec}
    (h : sellFillAccounting fill stake odds decimals = .ok sale) :
    0 ≤ sale.closedContracts ∧ 0 ≤ sale.residualOpposite := by
  obtain ⟨refund, fee, -, -, hrefund, hfee, hclosed, -, hresidual, -⟩ := sellFillAccounting_spec h
  rw [hresidual]
  refine ⟨?_, le_max_left _ _⟩
  rw [hclosed]
  exact Dec.add_nonneg (fromBaseUnits_nonneg hrefund _) (fromBaseUnits_nonneg hfee _)

theorem SaleSums.Held.add {sums : SaleSums} (h : sums.Held) {stake odds : Dec}
    (hsale : sellFillAccounting fill stake odds decimals = .ok sale) : (sums.add sale).Held where
  closed_nonneg := Dec.add_nonneg h.closed_nonneg (sellFillAccounting_nonneg hsale).1
  residual_nonneg := Dec.add_nonneg h.residual_nonneg (sellFillAccounting_nonneg hsale).2
  closed_exact := Dec.exact_ctx _
  residual_exact := Dec.exact_ctx _

/-- The sums before and after a fill: with its sale, where it is locked with odds and a stake. -/
def SumsStep (decimals : ℕ) (fill : RawFill) (before after : SaleSums) : Prop :=
  ∃ status, v3FillStatus fill = .ok status ∧
    if status.irreversible = true ∧ 0 < fill.odds then
      ∃ sale, sellFillAccounting fill (fill.stake decimals) fill.odds decimals = .ok sale ∧
        after = before.add sale
    else after = before

theorem SumsStep.unique {before after after' : SaleSums} (h : SumsStep decimals fill before after)
    (h' : SumsStep decimals fill before after') : after = after' := by
  obtain ⟨status, hstatus, h⟩ := h
  obtain ⟨status', hstatus', h'⟩ := h'
  cases hstatus.symm.trans hstatus'
  split at h
  · next hcounts =>
      rw [if_pos hcounts] at h'
      obtain ⟨sale, hsale, rfl⟩ := h
      obtain ⟨sale', hsale', rfl⟩ := h'
      cases hsale.symm.trans hsale'
      rfl
  · next hcounts =>
      rw [if_neg hcounts] at h'
      rw [h, h']

theorem SumsStep.held {before after : SaleSums} (h : SumsStep decimals fill before after)
    (hbefore : before.Held) : after.Held := by
  obtain ⟨status, _, h⟩ := h
  split at h
  · obtain ⟨sale, hsale, rfl⟩ := h
    exact hbefore.add hsale
  · rw [h]
    exact hbefore

/-- What a fill does to the totals of the report of a sell. -/
theorem addFill_sums (hsell : submitted.terms.action = "SELL") (hcounts : CountsStake decimals fill)
    (h : addFill submitted decimals totals fill = .ok totals') :
    SumsStep decimals fill (reportSums totals) (reportSums totals') := by
  unfold addFill at h
  cases hstatus : v3FillStatus fill with
  | error fault =>
      rw [hstatus] at h
      cases h
  | ok status =>
      refine ⟨status, hstatus, ?_⟩
      simp only [hstatus, bind, Except.bind] at h
      split at h
      · next hskipped =>
          cases h
          rw [if_neg]
          · rfl
          · rintro ⟨hirreversible, hodds⟩
            rcases hskipped with hle | hle
            · exact absurd hodds (not_lt.mpr hle)
            · exact absurd (hcounts status hstatus hirreversible hodds) (not_lt.mpr hle)
      · next hkept =>
          rw [not_or, not_le, not_le] at hkept
          split at h
          · next hirreversible =>
              rw [if_pos ⟨hirreversible, hkept.1⟩]
              cases hsale : sellFillAccounting fill (fill.stake decimals) fill.odds decimals with
              | error fault =>
                  rw [hsale] at h
                  cases h
              | ok sale =>
                  rw [hsale] at h
                  cases h
                  exact ⟨sale, rfl, rfl⟩
          · next hirreversible =>
              rw [if_neg fun hboth => hirreversible hboth.1]
              split at h <;> cases h <;> rfl

/-- The sums in the accounting of an order the connector knows as a sell. -/
theorem listFill_sums (hown : row.orderId.toLower = orderId)
    (hcontext : (contexts orderId).any fun known => known.terms.action = "SELL")
    (h : listFill contexts decimals listing row = .ok listing') :
    SumsStep decimals row (accountingSums (listing.residualAccounting.get? orderId))
      (accountingSums (listing'.residualAccounting.get? orderId)) := by
  obtain ⟨known, hknown, hsell⟩ := (Option.any_eq_true _ _).mp hcontext
  unfold listFill at h
  cases hstatus : v3FillStatus row with
  | error fault =>
      rw [hstatus] at h
      cases h
  | ok status =>
      refine ⟨status, hstatus, ?_⟩
      simp only [hstatus, hown, hknown, Option.any_some, hsell, or_true, if_true, bind,
        Except.bind, pure, Except.pure] at h
      split at h
      · next hskipped =>
          cases h
          rw [if_neg]
          rintro ⟨hirreversible, hodds⟩
          rcases hskipped with hfalse | hle
          · rw [hfalse] at hirreversible
            cases hirreversible
          · exact absurd hodds (not_lt.mpr hle)
      · next hkept =>
          rw [not_or, Bool.not_eq_false, not_le] at hkept
          rw [if_pos hkept]
          split at h
          · cases h
          · split at h
            · cases h
            · cases hsale : sellFillAccounting row (row.stake decimals) row.odds decimals with
              | error fault =>
                  simp only [hsale] at h
                  cases h
              | ok sale =>
                  simp only [hsale] at h
                  refine ⟨sale, rfl, ?_⟩
                  split at h
                  · cases h
                  · split at h
                    · cases h
                    · cases h
                      dsimp only
                      rw [Lib.Dict.get?_set_self]
                      rfl

/-- A fill of another order leaves the accounting alone. -/
theorem listFill_other (hother : row.orderId.toLower ≠ orderId)
    (h : listFill contexts decimals listing row = .ok listing') :
    listing'.residualAccounting.get? orderId = listing.residualAccounting.get? orderId := by
  unfold listFill at h
  simp only [bind, Except.bind] at h
  repeat' split at h
  all_goals first
    | cases h; done
    | cases h
      first
        | rfl
        | exact Lib.Dict.get?_set_of_ne _ (Ne.symm hother) _

/-- The fills of an order among the rows of the account. -/
def ownFills (orderId : String) (rows : List RawFill) : List RawFill :=
  rows.filter fun row => row.orderId.toLower = orderId

/-- Both loops come to the same sums. -/
theorem listFills_sums {rows : List RawFill} (hsell : submitted.terms.action = "SELL")
    (hcounts : ∀ fill ∈ ownFills orderId rows, CountsStake decimals fill)
    (hcontext : (contexts orderId).any fun known => known.terms.action = "SELL")
    (hlisted : rows.foldlM (listFill contexts decimals) listing = .ok listing')
    (hreported : (ownFills orderId rows).foldlM (addFill submitted decimals) totals = .ok totals')
    (hsame : accountingSums (listing.residualAccounting.get? orderId) = reportSums totals)
    (hheld : (reportSums totals).Held) :
    accountingSums (listing'.residualAccounting.get? orderId) = reportSums totals' ∧
      (reportSums totals').Held := by
  induction rows generalizing listing totals with
  | nil =>
      cases hlisted
      cases hreported
      exact ⟨hsame, hheld⟩
  | cons row rest ih =>
      rw [List.foldlM_cons] at hlisted
      cases hrow : listFill contexts decimals listing row with
      | error fault =>
          rw [hrow] at hlisted
          cases hlisted
      | ok next =>
          rw [hrow] at hlisted
          by_cases hown : row.orderId.toLower = orderId
          · have hfilter : ownFills orderId (row :: rest) = row :: ownFills orderId rest := by
              simp [ownFills, hown]
            rw [hfilter] at hreported hcounts
            rw [List.foldlM_cons] at hreported
            have hlist := listFill_sums hown hcontext hrow
            cases hadd : addFill submitted decimals totals row with
            | error fault =>
                rw [hadd] at hreported
                cases hreported
            | ok totals₁ =>
                rw [hadd] at hreported
                have hreport := addFill_sums hsell (hcounts row List.mem_cons_self) hadd
                rw [hsame] at hlist
                exact ih (fun fill hfill => hcounts fill (List.mem_cons_of_mem _ hfill)) hlisted
                  hreported (hlist.unique hreport) (hreport.held hheld)
          · have hfilter : ownFills orderId (row :: rest) = ownFills orderId rest := by
              simp [ownFills, hown]
            rw [hfilter] at hreported hcounts
            exact ih hcounts hlisted hreported ((listFill_other hown hrow).symm ▸ hsame) hheld

/-! ## The two snapshots -/

theorem ceRefundFee_runtime {fault : FillFault} (h : ceRefundFee fill decimals = .error fault) :
    ∃ message, fault = .runtime message := by
  unfold ceRefundFee at h
  dsimp only at h
  split at h <;> cases h
  exact ⟨_, rfl⟩

theorem sellFillAccounting_runtime {stake odds : Dec} {fault : FillFault}
    (h : sellFillAccounting fill stake odds decimals = .error fault) :
    ∃ message, fault = .runtime message := by
  unfold sellFillAccounting at h
  split at h
  · cases h
    exact ⟨_, rfl⟩
  · simp only [bind, Except.bind] at h
    split at h
    · next hfee =>
        cases h
        exact ceRefundFee_runtime hfee
    · split at h
      · cases h
        exact ⟨_, rfl⟩
      · split at h
        · cases h
          exact ⟨_, rfl⟩
        · cases h

/-- No round of the loop raises a residual exposure. -/
theorem addFill_runtime (hsell : submitted.terms.action = "SELL") {fault : FillFault}
    (h : addFill submitted decimals totals fill = .error fault) :
    ∃ message, fault = .runtime message := by
  unfold addFill at h
  cases hstatus : v3FillStatus fill with
  | error fault' =>
      rw [hstatus] at h
      cases h
      unfold v3FillStatus at hstatus
      simp only at hstatus
      repeat' split at hstatus
      all_goals cases hstatus
      all_goals exact ⟨_, rfl⟩
  | ok status =>
      simp only [hstatus, bind, Except.bind] at h
      split at h
      · cases h
      · split at h
        · split at h
          · next hsale =>
              cases h
              exact sellFillAccounting_runtime hsale
          · cases h
        · split at h <;> cases h

theorem foldlM_runtime {fills : List RawFill} (hsell : submitted.terms.action = "SELL")
    {fault : FillFault} (h : fills.foldlM (addFill submitted decimals) totals = .error fault) :
    ∃ message, fault = .runtime message := by
  induction fills generalizing totals with
  | nil => cases h
  | cons fill rest ih =>
      rw [List.foldlM_cons] at h
      cases hadd : addFill submitted decimals totals fill with
      | error fault' =>
          rw [hadd] at h
          cases h
          exact addFill_runtime hsell hadd
      | ok next =>
          rw [hadd] at h
          exact ih h

theorem reportFromTotals_runtime {fills : List RawFill} {reason : String} {fault : FillFault}
    (h : reportFromTotals submitted fills reason totals = .error fault) :
    ∃ message, fault = .runtime message := by
  unfold reportFromTotals at h
  simp only at h
  repeat' split at h
  all_goals cases h
  all_goals exact ⟨_, rfl⟩

/-- When the report of a sell raises a residual exposure, and which. -/
theorem reportFromV3Fills_residual {fills : List RawFill} {reason : String}
    {report : ExecutionReport} {residual : Dec} {side : BinarySide}
    (hsell : submitted.terms.action = "SELL")
    (h : reportFromV3Fills submitted decimals fills reason =
      .error (.residual report residual side)) :
    ∃ totals, fills.foldlM (addFill submitted decimals) {} = .ok totals ∧
      stakeIndexTolerance < totals.confirmedResidualOpposite ∧
      report = fromAmounts submitted.orderId
        (max submitted.terms.contracts totals.confirmedContracts) totals.confirmedContracts
        .partlyFilled (averagePrice submitted.terms.action totals) ∧
      residual = totals.confirmedResidualOpposite := by
  unfold reportFromV3Fills at h
  split at h
  · cases h
  · cases hfold : fills.foldlM (addFill submitted decimals) {} with
    | error fault =>
        simp only [hfold, bind, Except.bind] at h
        cases h
        obtain ⟨message, hmessage⟩ := foldlM_runtime hsell hfold
        cases hmessage
    | ok totals =>
        simp only [hfold, bind, Except.bind] at h
        split at h
        · next hresidual =>
            cases h
            exact ⟨totals, rfl, hresidual.2, rfl, rfl⟩
        · obtain ⟨message, hmessage⟩ := reportFromTotals_runtime h
          cases hmessage

/-! ## The booked record -/

/-- After `after` was booked from `before`, the leg has this record of the order of the snapshot:
the snapshot itself if the order was not known, and one that it does not outgrow in any case. -/
structure BookedResidual (before after : OpenPosition) (leg : Leg)
    (snapshot record : ResidualExitSnapshot) : Prop where
  found : residualRecord after leg snapshot.venueOrderId = some record
  fresh : residualRecord before leg snapshot.venueOrderId = none → record = snapshot
  stale : noneGrew record snapshot = true
  settled : SettledLeg after leg

/-- The context has rounded the totals of a snapshot. -/
def RoundedTotals (snapshot : ResidualExitSnapshot) : Prop :=
  ∀ which, Dec.Exact (snapshotTotal snapshot which)

theorem noneGrew_refl {snapshot : ResidualExitSnapshot} (h : RoundedTotals snapshot) :
    noneGrew snapshot snapshot = true := by
  have hle : ∀ which, snapshotTotal snapshot which ≤
      Dec.add (snapshotTotal snapshot which) Dec.epsilon := by
    intro which
    have hmono : Dec.ctx (snapshotTotal snapshot which) ≤
        Dec.ctx (snapshotTotal snapshot which + Dec.epsilon) :=
      Dec.ctx_mono (le_add_of_nonneg_right Dec.epsilon_pos.le)
    rwa [show Dec.ctx (snapshotTotal snapshot which) = _ from h which] at hmono
  simp only [noneGrew, decide_eq_true_eq]
  exact ⟨hle .closed, hle .proceeds, hle .residual⟩

/-- A booked leg is what booking its account again makes of it. -/
theorem applyToLeg_settled {account : LegAccount} {snapshot : ResidualExitSnapshot}
    {booked : BookedLeg} (h : applyToLeg account snapshot = .ok booked) :
    booked = (booked.account account.totalContracts).rebooked := by
  have hbook : ∀ {a b c : Dec} {snapshots : List ResidualExitSnapshot},
      bookDelta account snapshot a b c snapshots = .ok booked →
        booked = (booked.account account.totalContracts).rebooked := by
    intro a b c snapshots hok
    unfold bookDelta at hok
    split at hok
    · cases hok
    · cases hok
      rfl
  unfold applyToLeg at h
  dsimp only at h
  split at h
  · split at h
    · cases h
    · exact hbook h
  · split at h
    · cases h
    · split at h
      · cases h
        rfl
      · split at h
        · cases h
        · split at h
          · cases h
          · exact hbook h

/-- What a booking of a snapshot leaves in its leg. -/
theorem booked_of_apply {position updated : OpenPosition} {venue : String}
    {snapshot : ResidualExitSnapshot} (hrounded : RoundedTotals snapshot)
    (h : applyResidualExitSnapshot position venue snapshot = .ok updated) :
    ∃ leg record, legOf position.market venue = some leg ∧
      BookedResidual position updated leg snapshot record := by
  obtain ⟨leg, booked, hleg, happly, rfl⟩ := applyResidualExitSnapshot_ok h
  have hsettled : SettledLeg (bookLeg position leg booked) leg := by
    rw [applyToLeg_settled happly]
    exact settledLeg_bookLeg position leg _ rfl
  have hrecords : ∀ id, residualRecord (bookLeg position leg booked) leg id =
      Lib.Keyed.lookup ResidualExitSnapshot.venueOrderId id booked.residual.snapshots := by
    intro id
    unfold residualRecord LegAccount.record
    rw [legAccount_bookLeg_self]
    rfl
  rcases applyToLeg_records happly with
    ⟨old, hold, hnone, hsame⟩ | ⟨hnone, hnew⟩ | ⟨old, hold, hgrew, hreplaced⟩
  · refine ⟨leg, old, hleg, ?_, fun hfresh => ?_, hnone, hsettled⟩
    · rw [hrecords, hsame]
      exact hold
    · unfold residualRecord at hfresh
      rw [hold] at hfresh
      cases hfresh
  · refine ⟨leg, snapshot, hleg, ?_, fun _ => rfl, noneGrew_refl hrounded, hsettled⟩
    unfold LegAccount.record at hnone
    rw [hrecords, hnew, Lib.Keyed.lookup_append_singleton, hnone, if_pos rfl]
    rfl
  · refine ⟨leg, snapshot, hleg, ?_, fun _ => rfl, noneGrew_refl hrounded, hsettled⟩
    unfold LegAccount.record at hold
    rw [hrecords, hreplaced, Lib.Keyed.lookup_replace, if_pos rfl, hold]
    rfl

theorem bookedResidual_congr {before before' after after' : OpenPosition} {leg : Leg}
    {snapshot record : ResidualExitSnapshot}
    (h : BookedResidual before after leg snapshot record)
    (hbefore : (legAccount before leg).residual = (legAccount before' leg).residual)
    (hafter : legAccount after' leg = legAccount after leg) (hsettled : SettledLeg after' leg) :
    BookedResidual before' after' leg snapshot record where
  found := by
    unfold residualRecord
    rw [hafter]
    exact h.found
  fresh := by
    intro hnone
    refine h.fresh ?_
    unfold residualRecord LegAccount.record at hnone ⊢
    rw [hbefore]
    exact hnone
  stale := h.stale
  settled := hsettled

/-- The result of a leg. -/
def resultOf (first second : ExitLegResult) : Leg → ExitLegResult
  | .first => first
  | .second => second

/-- `_close_position_legs` books the residual exposure of a result in the leg of its venue. -/
theorem booked_of_close {router : Router} {config : Config} {copy updated : OpenPosition}
    {first second : ExitLegResult} {firstPrice secondPrice : Dec} {side : Leg}
    {report : ExecutionReport} {residual : Dec}
    (h : router.bookClose config copy first second firstPrice secondPrice = .ok updated)
    (hresult : (resultOf first second side).error = some (.residual report residual))
    (hrounded : ∀ snapshot, residualSnapshot report residual = .ok snapshot →
      RoundedTotals snapshot) :
    ∃ snapshot leg record, residualSnapshot report residual = .ok snapshot ∧
      legOf updated.market (router.label side) = some leg ∧
      BookedResidual copy updated leg snapshot record := by
  obtain ⟨closed, booked, hclosed, hfirst, hsecond⟩ := bookClose_ok h
  obtain ⟨hmarket, hresidual⟩ := afterClose_residual hclosed
  obtain ⟨hmarket₁, hothers₁⟩ := bookResidual_other hfirst
  obtain ⟨hmarket₂, hothers₂⟩ := bookResidual_other hsecond
  cases side with
  | first =>
      rcases bookResidual_ok hfirst with ⟨hno, _⟩ | ⟨_, _, snapshot, herror, hsnapshot, happly⟩
      · exact absurd hresult (hno _ _)
      · cases hresult.symm.trans herror
        obtain ⟨leg, record, hleg, hbooked⟩ := booked_of_apply (hrounded snapshot hsnapshot) happly
        rw [← hmarket₁] at hleg
        obtain ⟨hsame, hsettled⟩ := hothers₂ leg (legOf_ne (by decide) hleg)
        exact ⟨snapshot, leg, record, hsnapshot, hmarket₂ ▸ hleg,
          bookedResidual_congr hbooked (hresidual leg) hsame (hsettled hbooked.settled)⟩
  | second =>
      rcases bookResidual_ok hsecond with ⟨hno, _⟩ | ⟨_, _, snapshot, herror, hsnapshot, happly⟩
      · exact absurd hresult (hno _ _)
      · cases hresult.symm.trans herror
        obtain ⟨leg, record, hleg, hbooked⟩ := booked_of_apply (hrounded snapshot hsnapshot) happly
        have hsame := (hothers₁ leg (legOf_ne (by decide) (hmarket₁ ▸ hleg))).1
        refine ⟨snapshot, leg, record, hsnapshot, hmarket₂ ▸ hleg,
          bookedResidual_congr hbooked ?_ rfl hbooked.settled⟩
        rw [hsame]
        exact hresidual leg

/-! ## Agreement -/

/-- The snapshot of an exposure with these amounts. -/
def exposureSnapshot (orderId : String) (requested closed avgPrice residual : Dec) :
    ResidualExitSnapshot where
  venueOrderId := normalizedOrderId orderId
  requestedContracts := requested
  closedContracts := closed
  exitProceedsUsd := Dec.mul closed (max 0 avgPrice)
  residualContracts := residual

theorem roundedTotals_exposureSnapshot {requested closed avgPrice residual : Dec}
    (hclosed : Dec.Exact closed) (hresidual : Dec.Exact residual) :
    RoundedTotals (exposureSnapshot orderId requested closed avgPrice residual) := by
  intro which
  cases which with
  | closed => exact hclosed
  | proceeds => exact Dec.exact_ctx _
  | residual => exact hresidual

/-- The report of an exposure holds its amounts as they are. -/
theorem fromAmounts_amounts (orderId : String) (requested avgPrice : Dec)
    (status : ExecutionStatus) {closed : Dec} (hclosed : 0 ≤ closed) :
    (fromAmounts orderId (max requested closed) closed status avgPrice).amountFilled = closed ∧
      (fromAmounts orderId (max requested closed) closed status avgPrice).amountRequested =
        max requested closed ∧
      (fromAmounts orderId (max requested closed) closed status avgPrice).avgPrice =
        max 0 avgPrice := by
  have hrequested : max 0 (max requested closed) = max requested closed :=
    max_eq_right (hclosed.trans (le_max_right _ _))
  refine ⟨?_, hrequested, rfl⟩
  show min (max 0 closed) (max 0 (max requested closed)) = closed
  rw [hrequested, max_eq_right hclosed, min_eq_left (le_max_right _ _)]

/-- The amounts under which the snapshot of reconciliation is the one on record: `quantity` is that
of the intent, which its column rounds, and `record` is what the position has of the order. -/
structure Agrees (quantity : Dec) (report : ExecutionReport) (residual : Dec)
    (record : ResidualExitSnapshot) : Prop where
  requested : Dec.absolute (Dec.sub record.requestedContracts (Dec.money quantity)) ≤ Dec.epsilon
  room : Dec.add report.amountFilled residual ≤ Dec.add (Dec.money quantity) Dec.epsilon
  priced : report.amountFilled = 0 ∨ stakeIndexTolerance < report.amountFilled

/-- A snapshot with the totals that are on record is refused for its requested contracts, or changes
nothing. -/
theorem apply_again_iff {before after : OpenPosition} {venue : String} {leg : Leg}
    {snapshot record : ResidualExitSnapshot} (again : ResidualExitSnapshot)
    (hleg : legOf after.market venue = some leg)
    (hbooked : BookedResidual before after leg snapshot record)
    (hid : again.venueOrderId = snapshot.venueOrderId)
    (htotals : ∀ which, snapshotTotal again which = snapshotTotal snapshot which) :
    applyResidualExitSnapshot after venue again = .ok after ↔
      Dec.absolute (Dec.sub record.requestedContracts again.requestedContracts) ≤
        Dec.epsilon := by
  have hfound : (legAccount after leg).residual.snapshots.find?
      (fun item => item.venueOrderId = again.venueOrderId) = some record := by
    rw [hid]
    exact hbooked.found
  have hclosed : again.closedContracts = snapshot.closedContracts := htotals .closed
  have hproceeds : again.exitProceedsUsd = snapshot.exitProceedsUsd := htotals .proceeds
  have hresidual : again.residualContracts = snapshot.residualContracts := htotals .residual
  have hstale : noneGrew record again = true := by
    have h := hbooked.stale
    unfold noneGrew at h ⊢
    rwa [hclosed, hproceeds, hresidual]
  rw [applyResidualExitSnapshot_eq hleg]
  unfold applyToLeg
  simp only [hfound, hstale, if_true]
  constructor
  · intro h
    by_contra hlt
    rw [if_pos (not_le.mp hlt)] at h
    cases h
  · intro hle
    rw [if_neg (not_lt.mpr hle)]
    exact congrArg Except.ok hbooked.settled

/-- Where one exposure of these amounts is valid, another one is if its requested contracts leave
room, and its price is positive. -/
theorem validSnapshot_again (quantity : Dec) {requested closed avgPrice residual : Dec}
    (h : validSnapshot (exposureSnapshot orderId requested closed avgPrice residual) = true)
    (hclosed : 0 ≤ closed) (hresidual : stakeIndexTolerance < residual) :
    validSnapshot (exposureSnapshot orderId quantity closed avgPrice residual) = true ↔
      Dec.add closed residual ≤ Dec.add quantity Dec.epsilon := by
  unfold validSnapshot exposureSnapshot at h ⊢
  simp only [decide_eq_true_eq] at h ⊢
  obtain ⟨hid, hle, hproceeds, _, hpos, hpaid, _⟩ := h
  constructor
  · exact fun hvalid => hvalid.2.2.2.2.2.2
  · intro hroom
    refine ⟨hid, hle, hproceeds, ?_, hpos, hpaid, hroom⟩
    by_contra hquantity
    rw [not_lt] at hquantity
    -- otherwise the room is the tolerance alone, which the residual exceeds
    have hlow : Dec.ctx stakeIndexTolerance ≤ Dec.ctx (closed + residual) :=
      Dec.ctx_mono (by linarith)
    have hhigh : Dec.ctx (quantity + Dec.epsilon) ≤ Dec.ctx Dec.epsilon :=
      Dec.ctx_mono (by linarith)
    have hcross := (hlow.trans hroom).trans hhigh
    have hgap : Dec.ctx Dec.epsilon < Dec.ctx stakeIndexTolerance := by decide +kernel
    exact absurd hcross (not_le.mpr hgap)

/-- The price of an exposure in the list. -/
def listedPrice (proceeds closed : Dec) : Dec :=
  if stakeIndexTolerance < closed then Dec.div proceeds closed else 0

/-- It is the average price of the report, unless next to nothing was closed. -/
theorem listedPrice_eq {totals : FillTotals} (h : totals.confirmedContracts = 0 ∨
    stakeIndexTolerance < totals.confirmedContracts) :
    listedPrice totals.confirmedSellProceeds totals.confirmedContracts =
      averagePrice "SELL" totals := by
  have htolerance : 0 < stakeIndexTolerance := by norm_num [stakeIndexTolerance]
  have hbuy : ¬ ("SELL" = "BUY" ∧ 0 < totals.confirmedContracts) := fun hbuy =>
    absurd hbuy.1 (by decide)
  unfold listedPrice averagePrice
  rw [if_neg hbuy]
  rcases h with hzero | hmore
  · rw [if_neg (hzero ▸ not_lt.mpr htolerance.le), if_neg (hzero ▸ lt_irrefl _)]
  · rw [if_pos hmore, if_pos (htolerance.trans hmore)]

/-- An exposure that closed next to nothing has no price in the list, and is refused. -/
theorem validSnapshot_unpriced (orderId : String) (quantity residual : Dec) {closed : Dec}
    (h : ¬ (closed = 0 ∨ stakeIndexTolerance < closed)) (hclosed : 0 ≤ closed) (proceeds : Dec) :
    ¬ validSnapshot (exposureSnapshot orderId quantity closed (listedPrice proceeds closed)
      residual) = true := by
  rw [not_or] at h
  have hpos : 0 < closed := lt_of_le_of_ne hclosed (Ne.symm h.1)
  unfold listedPrice validSnapshot exposureSnapshot
  rw [if_neg h.2]
  simp only [max_self, Dec.mul, mul_zero, Dec.ctx_zero, decide_eq_true_eq]
  exact fun hvalid => hvalid.2.2.2.2.2.1 ⟨hpos, le_rfl⟩

/-- The list has one exposure of an order whose sums leave a residual. -/
theorem exposure_of_sums {accounting : Lib.Dict String ResidualAccounting} {sums : SaleSums}
    (hsums : accountingSums (accounting.get? orderId) = sums)
    (hresidual : stakeIndexTolerance < sums.residual) (hclosed : 0 ≤ sums.closed) :
    ∃ exposure ∈ accounting.entries.filterMap (fun entry => exposureOf entry.1 entry.2),
      exposure.report.orderId = orderId ∧ exposure.report.amountFilled = sums.closed ∧
        exposure.report.avgPrice = max 0 (listedPrice sums.proceeds sums.closed) ∧
        exposure.residualContracts = sums.residual ∧
        ∀ other ∈ accounting.entries.filterMap (fun entry => exposureOf entry.1 entry.2),
          other.report.orderId = orderId → other = exposure := by
  cases hrow : accounting.get? orderId with
  | none =>
      rw [hrow] at hsums
      have hzero : sums.residual = 0 := by
        rw [← hsums]
        rfl
      rw [hzero] at hresidual
      exact absurd hresidual (by norm_num [stakeIndexTolerance])
  | some row =>
      rw [hrow] at hsums
      have hrowClosed : row.closed = sums.closed := congrArg SaleSums.closed hsums
      have hrowProceeds : row.proceeds = sums.proceeds := congrArg SaleSums.proceeds hsums
      have hrowResidual : row.residual = sums.residual := congrArg SaleSums.residual hsums
      have hexceeds : ¬ row.residual ≤ stakeIndexTolerance := by
        rw [hrowResidual]
        exact not_le.mpr hresidual
      set exposure : ResidualExposure :=
        ⟨fromAmounts orderId (max row.requested row.closed) row.closed .partlyFilled
          (listedPrice row.proceeds row.closed), row.residual, row.side⟩
      have hfound : exposureOf orderId row = some exposure := by
        unfold exposureOf
        rw [if_neg hexceeds]
        rfl
      obtain ⟨hfilled, _, hprice⟩ := fromAmounts_amounts orderId row.requested
        (listedPrice row.proceeds row.closed) .partlyFilled (hrowClosed.symm ▸ hclosed)
      refine ⟨exposure, List.mem_filterMap.mpr
        ⟨(orderId, row), Lib.Dict.get?_eq_some_iff.mp hrow, hfound⟩, rfl,
        hfilled.trans hrowClosed, ?_, hrowResidual, ?_⟩
      · rw [← hrowClosed, ← hrowProceeds]
        exact hprice
      · intro other hmem hid
        obtain ⟨⟨key, otherRow⟩, hentry, hother⟩ := List.mem_filterMap.mp hmem
        have hkey : key = orderId := by
          rw [← hid]
          unfold exposureOf at hother
          dsimp only at hother
          split at hother
          · cases hother
          · cases hother
            rfl
        subst hkey
        have heq : otherRow = row :=
          Option.some.inj ((Lib.Dict.get?_eq_some_iff.mpr hentry).symm.trans hrow)
        rw [heq] at hother
        exact Option.some.inj (hother.symm.trans hfound)

/-- What reconciliation books of an exposure depends on its amounts. -/
theorem positionAfterResidualExit_eq {position : OpenPosition} {venue : String}
    {quantity closed avgPrice residual : Dec} {report : ExecutionReport}
    (hid : report.orderId = orderId) (hfilled : report.amountFilled = closed)
    (hprice : report.avgPrice = max 0 avgPrice) :
    positionAfterResidualExit position venue quantity report residual =
      if validSnapshot (exposureSnapshot orderId quantity closed avgPrice residual) then
        applyResidualExitSnapshot position venue
          (exposureSnapshot orderId quantity closed avgPrice residual)
      else .error (.failed none) := by
  subst hid hfilled
  unfold positionAfterResidualExit residualSnapshot
  dsimp only
  rw [hprice]
  unfold exposureSnapshot
  split
  · rfl
  · rfl

/-- The snapshot that execution books of an exposure. -/
theorem residualSnapshot_ok {requested closed avgPrice residual : Dec}
    {snapshot : ResidualExitSnapshot} (hclosed : 0 ≤ closed)
    (h : residualSnapshot
      (fromAmounts orderId (max requested closed) closed .partlyFilled avgPrice) residual =
        .ok snapshot) :
    snapshot = exposureSnapshot orderId (max requested closed) closed avgPrice residual ∧
      validSnapshot snapshot = true := by
  obtain ⟨hfilled, hrequested, hprice⟩ :=
    fromAmounts_amounts orderId requested avgPrice .partlyFilled hclosed
  unfold residualSnapshot at h
  dsimp only at h
  rw [hfilled, hrequested, hprice] at h
  split at h
  · next hvalid =>
      cases h
      exact ⟨rfl, hvalid⟩
  · cases h

/-- **Two paths, one order.**  A sell of `quantity` contracts raises a residual exposure, execution
books it, and the fills of the order are among the rows of a later list.  The list has an exposure of
the order, and booking what it has of the order leaves the stored position as it is exactly where the
amounts agree with the record.  Of an order the position did not know, that record has the larger of
the quantity as a float and what the order closed. -/
theorem residual_paths_agree_iff (float : FloatText) (tokenId : String) (outcome : BinarySide)
    (quantity minPrice stake : Dec) (orderId : String) (decimals : ℕ) (reason : String)
    (rows : List RawFill) (contexts : String → Option SubmittedOrder) (router : Router) (leg : Leg)
    (hcounts : ∀ fill ∈ ownFills orderId rows, CountsStake decimals fill)
    {report : ExecutionReport} {residual : Dec} {residualSide : BinarySide}
    (hraised : reportFromV3Fills
      ⟨orderId, sellTerms float tokenId outcome quantity minPrice, stake⟩ decimals
      (ownFills orderId rows) reason = .error (.residual report residual residualSide))
    {config : Config} {copy stored : OpenPosition} {first second : ExitLegResult}
    {firstPrice secondPrice : Dec}
    (hresult : (resultOf first second leg).error = some (.residual report residual))
    (hbooked : router.bookClose config copy first second firstPrice secondPrice = .ok stored)
    (hcontext : (contexts orderId).any fun known => known.terms.action = "SELL")
    {fills : List FillRecord} {exposures : List ResidualExposure}
    (hlisted : listFills contexts decimals rows = .ok (fills, exposures)) :
    (∃ exposure ∈ exposures, exposure.report.orderId = orderId) ∧
    ∃ side record, legOf stored.market (router.label leg) = some side ∧
      residualRecord stored side (normalizedOrderId orderId) = some record ∧
      (residualRecord copy side (normalizedOrderId orderId) = none →
        record.requestedContracts = max (float.text quantity) report.amountFilled) ∧
      ((∀ exposure ∈ exposures, exposure.report.orderId = orderId →
          positionAfterResidualExit stored (router.label leg) (Dec.money quantity) exposure.report
            exposure.residualContracts = .ok stored) ↔
        Agrees quantity report residual record) := by
  obtain ⟨totals, hfold, hresidual, rfl, rfl⟩ := reportFromV3Fills_residual rfl hraised
  unfold listFills at hlisted
  cases hlisting : rows.foldlM (listFill contexts decimals) {} with
  | error fault =>
      rw [hlisting] at hlisted
      cases hlisted
  | ok listing =>
      rw [hlisting] at hlisted
      cases hlisted
      have hstart : (reportSums {}).Held := ⟨le_rfl, le_rfl, Dec.ctx_zero, Dec.ctx_zero⟩
      obtain ⟨hsums, hheld⟩ := listFills_sums rfl hcounts hcontext hlisting hfold rfl hstart
      set closed := totals.confirmedContracts
      set exposed := totals.confirmedResidualOpposite
      have hclosed : 0 ≤ closed := hheld.closed_nonneg
      have hexact : Dec.Exact closed := hheld.closed_exact
      obtain ⟨exposure, hmem, hid, hfilled, hprice, hcontracts, hunique⟩ :=
        exposure_of_sums hsums hresidual hclosed
      obtain ⟨snapshot, side, record, hsnapshot, hside, hrecord⟩ :=
        booked_of_close hbooked hresult fun snapshot hok => by
          rw [(residualSnapshot_ok hclosed hok).1]
          exact roundedTotals_exposureSnapshot hexact hheld.residual_exact
      obtain ⟨rfl, hvalid⟩ := residualSnapshot_ok hclosed hsnapshot
      obtain ⟨hamount, _, _⟩ := fromAmounts_amounts orderId (float.text quantity)
        (averagePrice "SELL" totals) .partlyFilled hclosed
      refine ⟨⟨exposure, hmem, hid⟩, side, record, hside, hrecord.found, fun hfresh => ?_, ?_⟩
      · rw [hrecord.fresh hfresh]
        exact congrArg (max (float.text quantity)) hamount.symm
      have hone : (∀ other ∈ listing.residualAccounting.entries.filterMap
            (fun entry => exposureOf entry.1 entry.2), other.report.orderId = orderId →
            positionAfterResidualExit stored (router.label leg) (Dec.money quantity) other.report
              other.residualContracts = .ok stored) ↔
          positionAfterResidualExit stored (router.label leg) (Dec.money quantity) exposure.report
            exposure.residualContracts = .ok stored := by
        constructor
        · exact fun h => h exposure hmem hid
        · intro h other hother hotherId
          rw [hunique other hother hotherId]
          exact h
      have hsum := congrArg (fun filled => Dec.add filled exposed) hamount
      rw [hone, positionAfterResidualExit_eq hid hfilled hprice, hcontracts]
      by_cases hpriced : closed = 0 ∨ stakeIndexTolerance < closed
      · rw [show listedPrice (reportSums totals).proceeds (reportSums totals).closed =
          averagePrice "SELL" totals from listedPrice_eq hpriced]
        have hagain := validSnapshot_again (Dec.money quantity) hvalid hclosed hresidual
        have happly := apply_again_iff (exposureSnapshot orderId (Dec.money quantity) closed
          (averagePrice "SELL" totals) exposed) hside hrecord rfl fun which => by
            cases which <;> rfl
        constructor
        · intro h
          split at h
          · next hok => exact ⟨happly.mp h, hsum.trans_le (hagain.mp hok), hamount.symm ▸ hpriced⟩
          · cases h
        · rintro ⟨hrequested, hroom, _⟩
          have hok : validSnapshot (exposureSnapshot orderId (Dec.money quantity) closed
              (averagePrice "SELL" totals) exposed) = true :=
            hagain.mpr (hsum.symm.trans_le hroom)
          exact (if_pos hok).trans (happly.mpr hrequested)
      · have hinvalid := validSnapshot_unpriced orderId (Dec.money quantity) exposed hpriced hclosed
          (reportSums totals).proceeds
        constructor
        · intro h
          cases (if_neg hinvalid).symm.trans h
        · rintro ⟨_, _, hbad⟩
          exact absurd (hamount ▸ hbad) hpriced

/-! ## A sale of three tenths -/

/-- A fill of fifteen cents at even odds: twenty cents of collateral come back for it, and the other
ten of its thirty contracts stay exposed. -/
def partRefundedFill : RawFill where
  id := "fill-1"
  orderId := "exit-b"
  status := "LOCKED"
  fillOdds := 5 * 10 ^ 19
  fillAmount := 150000
  ceRefundAmount := some 200000
  ceRefundFeeAmount := some 0
  isBettingOutcomeOne := some true

/-- The order of a sale of `quantity` contracts. -/
def saleOrder (quantity : Dec) : SubmittedOrder :=
  ⟨"exit-b", sellTerms .digits17 "second-token" .no quantity (1 / 2), 3 / 20⟩

/-- The report of the exposure. -/
def exposureReport (quantity : Dec) : ExecutionReport :=
  fromAmounts "exit-b" (max (saleOrder quantity).terms.contracts (1 / 5)) (1 / 5) .partlyFilled
    (1 / 2)

/-- The connector raises this exposure, as its own class. -/
def raisesExposure (quantity : Dec) : Bool :=
  match reportFromV3Fills (saleOrder quantity) 6 (ownFills "exit-b" [partRefundedFill]) "FILLED" with
  | .error (.residual report residual _) => report = exposureReport quantity ∧ residual = 1 / 10
  | _ => false

theorem raised_of_raisesExposure {quantity : Dec} (h : raisesExposure quantity = true) :
    ∃ side, reportFromV3Fills (saleOrder quantity) 6 (ownFills "exit-b" [partRefundedFill])
      "FILLED" = .error (.residual (exposureReport quantity) (1 / 10) side) := by
  unfold raisesExposure at h
  split at h
  · next report residual side hraised =>
      obtain ⟨hreport, hresidual⟩ := of_decide_eq_true h
      rw [hreport, hresidual] at hraised
      exact ⟨side, hraised⟩
  · cases h

/-- The position after `_close_position_legs` booked the exposure. -/
def afterExposure (quantity : Dec) : Except Exc OpenPosition :=
  (⟨.polymarketSx, true⟩ : Router).bookClose
    { autoCloseEnabled := true
      exitSpreadPct := 1 / 100
      submitsOrders := true
      polymarketTradingFeePct := 0
      predictFunFeeRateBps := 0
      sxBetTakerFeeBps := 0
      myriadTradingFeePct := 0
      floatText := FloatText.digits17.text
      unwindPrice := id }
    { halfClosed with predictFunContracts := quantity } ⟨"already-closed", none, none⟩
    ⟨"exit-b", none, some (.residual (exposureReport quantity) (1 / 10))⟩ (1 / 2) (1 / 2)

/-- The connector knows the order. -/
def saleContexts (quantity : Dec) (orderId : String) : Option SubmittedOrder :=
  if orderId = "exit-b" then some (saleOrder quantity) else none

/-- The list of the fills after the sale. -/
def listedSale (quantity : Dec) : Except FillFault (List FillRecord × List ResidualExposure) :=
  listFills (saleContexts quantity) 6 [partRefundedFill]

/-- Of three tenths of a contract both paths have the same record. -/
theorem residual_paths_agree_iff_sale :
    ∃ stored fills exposures, afterExposure (3 / 10) = .ok stored ∧
      listedSale (3 / 10) = .ok (fills, exposures) ∧
      (∃ exposure ∈ exposures, exposure.report.orderId = "exit-b") ∧
      ∀ exposure ∈ exposures, exposure.report.orderId = "exit-b" →
        positionAfterResidualExit stored "SX Bet" (Dec.money (3 / 10)) exposure.report
          exposure.residualContracts = .ok stored := by
  have hbooked : (afterExposure (3 / 10)).toOption.isSome := by decide +kernel
  have hlisted : (listedSale (3 / 10)).toOption.isSome := by decide +kernel
  cases hstored : afterExposure (3 / 10) with
  | error exc =>
      rw [hstored] at hbooked
      cases hbooked
  | ok stored =>
      cases hsale : listedSale (3 / 10) with
      | error fault =>
          rw [hsale] at hlisted
          cases hlisted
      | ok listed =>
          obtain ⟨fills, exposures⟩ := listed
          have hraises : raisesExposure (3 / 10) = true := by decide +kernel
          obtain ⟨residualSide, hraised⟩ := raised_of_raisesExposure hraises
          have hcounts : ∀ fill ∈ ownFills "exit-b" [partRefundedFill], CountsStake 6 fill := by
            intro fill hfill _ _ _ _
            rw [List.mem_singleton.mp (List.mem_of_mem_filter hfill)]
            decide +kernel
          obtain ⟨hlist, side, record, _, hrecord, hfresh, hagree⟩ :=
            residual_paths_agree_iff .digits17 "second-token" .no (3 / 10) (1 / 2) (3 / 20) "exit-b"
              6 "FILLED" [partRefundedFill] (saleContexts (3 / 10)) ⟨.polymarketSx, true⟩ .second
              hcounts hraised rfl hstored (by decide +kernel) hsale
          refine ⟨stored, fills, exposures, rfl, rfl, hlist, hagree.mpr ?_⟩
          have hrequested := hfresh (by cases side <;> rfl)
          refine ⟨?_, by decide +kernel, by decide +kernel⟩
          rw [hrequested]
          decide +kernel

/-- A quantity with eighteen digits, which its float changes. -/
def longQuantity : Dec := 300000000000000043 / 10 ^ 18

/-- Execution books the sale of it with the float, and reconciliation is refused for the quantity of
the intent. -/
theorem residual_paths_disagree :
    raisesExposure longQuantity ∧
    ∃ stored fills exposures, afterExposure longQuantity = .ok stored ∧
      listedSale longQuantity = .ok (fills, exposures) ∧
      ∃ exposure ∈ exposures, exposure.report.orderId = "exit-b" ∧
        ∀ position, positionAfterResidualExit stored "SX Bet" (Dec.money longQuantity)
          exposure.report exposure.residualContracts ≠ .ok position := by
  refine ⟨by decide +kernel, ?_⟩
  have h : (afterExposure longQuantity).toOption.any (fun stored =>
      (listedSale longQuantity).toOption.any fun listed =>
        listed.2.any fun exposure => exposure.report.orderId = "exit-b" ∧
          (positionAfterResidualExit stored "SX Bet" (Dec.money longQuantity) exposure.report
            exposure.residualContracts).toOption = none) := by
    decide +kernel
  obtain ⟨stored, hstored, h⟩ := (Option.any_eq_true _ _).mp h
  obtain ⟨⟨fills, exposures⟩, hlisted, h⟩ := (Option.any_eq_true _ _).mp h
  obtain ⟨exposure, hmem, h⟩ := List.any_eq_true.mp h
  obtain ⟨hid, hrefused⟩ := of_decide_eq_true h
  have hok : ∀ {ε α : Type} {result : Except ε α} {value : α},
      result.toOption = some value → result = .ok value := by
    intro ε α result value hvalue
    cases result with
    | error exc => cases hvalue
    | ok other =>
        cases hvalue
        rfl
  refine ⟨stored, fills, exposures, hok hstored, hok hlisted, exposure, hmem, hid, ?_⟩
  intro position hposition
  rw [hposition] at hrefused
  cases hrefused

end ArbitrageEngine.Reconciliation
