/-
# ArbitrageEngine.Reconciliation.ListedSales -- one sale in the list of fills and in its report

The list of the account's fills sums up the fills of a sell one by one, in the order in which the
pages bring them; the report of the order sums up the fills of the order.  Both add the same amounts
of the same fills, each with the roundings of its own order.  So the sums are the same where the
order is the same, and otherwise they differ by roundings (`listed_sales_agree`).

What is by design different: the list knows a sell without a refund only by the order it belongs to,
and it gives a fill that closed no more than the tolerance the price zero.
-/
import ArbitrageEngine.ContextError
import ArbitrageEngine.Reconciliation.ResidualAgreement

namespace ArbitrageEngine.Reconciliation

open Execution Lib.RoundedSums SxBetV3

/-! ## Pages -/

/-- One answer of the venue: its records, and the cursor of the next page, empty on the last. -/
structure FillPage where
  records : List RawFill
  nextKey : String

/-- `_V3_MAX_RECORD_PAGES`. -/
def maxRecordPages : ℕ := 500

/-- The loop of `_list_v3_records`, from page `index` on, for at most `pagesLeft` pages. -/
def collectPages (page : ℕ → FillPage) : (pagesLeft index : ℕ) → (seenNextKeys : List String) →
    List RawFill → Except FillFault (List RawFill)
  | 0, _, _, _ => .error (.runtime s!"SX Bet V3 /fills-v3 exceeded {maxRecordPages} pages")
  | pagesLeft + 1, index, seenNextKeys, records =>
      let records := records ++ (page index).records
      let nextKey := (page index).nextKey
      if nextKey = "" then .ok records
      else if nextKey ∈ seenNextKeys then
        .error (.runtime "SX Bet V3 /fills-v3 pagination repeated a cursor")
      else collectPages page pagesLeft (index + 1) (nextKey :: seenNextKeys) records

/-- `_list_v3_records`; `page` is what the venue answers to one request after another. -/
def listV3Records (page : ℕ → FillPage) : Except FillFault (List RawFill) :=
  collectPages page maxRecordPages 0 [] []

/-! ## The sales of the fills -/

variable {submitted : SubmittedOrder} {decimals : ℕ} {fill row : RawFill} {sale : SaleAccounting}
  {totals totals' : FillTotals} {listing listing' : FillListing}
  {contexts : String → Option SubmittedOrder} {orderId : String}

/-- The sale of a fill that counts: one that is locked, at some odds. -/
def countedSale (decimals : ℕ) (fill : RawFill) : Option SaleAccounting :=
  match v3FillStatus fill with
  | .error _ => none
  | .ok status =>
      if status.irreversible = true ∧ 0 < fill.odds then
        (sellFillAccounting fill (fill.stake decimals) fill.odds decimals).toOption
      else none

/-- The sums over some sales, in their order. -/
def saleSums (sales : List SaleAccounting) : SaleSums := sales.foldl SaleSums.add ⟨0, 0, 0⟩

/-- A fill adds its sale, if it has one. -/
theorem SumsStep.eq_elim {before after : SaleSums} (h : SumsStep decimals fill before after) :
    after = (countedSale decimals fill).elim before before.add := by
  obtain ⟨status, hstatus, h⟩ := h
  simp only [countedSale, hstatus]
  split at h
  · next hcounts =>
      obtain ⟨sale, hsale, rfl⟩ := h
      rw [if_pos hcounts, hsale]
      rfl
  · next hcounts =>
      rw [if_neg hcounts, h]
      rfl

theorem foldl_filterMap_cons (before : SaleSums) (fill : RawFill) (rest : List RawFill) :
    ((fill :: rest).filterMap (countedSale decimals)).foldl SaleSums.add before =
      (rest.filterMap (countedSale decimals)).foldl SaleSums.add
        ((countedSale decimals fill).elim before before.add) := by
  cases hsale : countedSale decimals fill with
  | none => simp [hsale]
  | some sale => simp [hsale]

/-- The report of a sell sums up the sales of its fills. -/
theorem reportSums_foldl (hsell : submitted.terms.action = "SELL") {fills : List RawFill}
    (hcounts : ∀ fill ∈ fills, CountsStake decimals fill)
    (h : fills.foldlM (addFill submitted decimals) totals = .ok totals') :
    reportSums totals' =
      (fills.filterMap (countedSale decimals)).foldl SaleSums.add (reportSums totals) := by
  induction fills generalizing totals with
  | nil =>
      cases h
      rfl
  | cons fill rest ih =>
      rw [List.foldlM_cons] at h
      cases hadd : addFill submitted decimals totals fill with
      | error fault =>
          rw [hadd] at h
          cases h
      | ok next =>
          rw [hadd] at h
          have hstep := addFill_sums hsell (hcounts fill List.mem_cons_self) hadd
          rw [foldl_filterMap_cons, ← hstep.eq_elim]
          exact ih (fun other hother => hcounts other (List.mem_cons_of_mem _ hother)) h

theorem ownFills_cons (orderId : String) (row : RawFill) (rest : List RawFill) :
    ownFills orderId (row :: rest) =
      if row.orderId.toLower = orderId then row :: ownFills orderId rest
      else ownFills orderId rest := by
  by_cases hown : row.orderId.toLower = orderId <;> simp [ownFills, hown]

/-- The list of all fills sums up the sales of the order, whatever comes between them. -/
theorem accountingSums_foldl
    (hcontext : (contexts orderId).any fun known => known.terms.action = "SELL")
    {rows : List RawFill} (h : rows.foldlM (listFill contexts decimals) listing = .ok listing') :
    accountingSums (listing'.residualAccounting.get? orderId) =
      ((ownFills orderId rows).filterMap (countedSale decimals)).foldl SaleSums.add
        (accountingSums (listing.residualAccounting.get? orderId)) := by
  induction rows generalizing listing with
  | nil =>
      cases h
      rfl
  | cons row rest ih =>
      rw [List.foldlM_cons] at h
      cases hrow : listFill contexts decimals listing row with
      | error fault =>
          rw [hrow] at h
          cases h
      | ok next =>
          rw [hrow] at h
          rw [ownFills_cons, ih h]
          split
          · next hown =>
              rw [foldl_filterMap_cons, ← (listFill_sums hown hcontext hrow).eq_elim]
          · next hother => rw [listFill_other hother hrow]

/-! ## The records of the fills -/

/-- The quantity, price and fee of the record of a sale. -/
def recordedSale (sale : SaleAccounting) : Dec × Dec × Dec :=
  (sale.closedContracts,
    if stakeIndexTolerance < sale.closedContracts then
      Dec.div sale.netProceeds sale.closedContracts
    else 0,
    sale.refundFee)

/-- The quantities, prices and fees of the records of an order. -/
def ownRecords (orderId : String) (records : List FillRecord) : List (Dec × Dec × Dec) :=
  (records.filter fun record => record.venueOrderId.toLower = orderId).map fun record =>
    (record.quantity, record.price, record.fee)

theorem ownRecords_append (orderId : String) (records : List FillRecord) (record : FillRecord) :
    ownRecords orderId (records ++ [record]) =
      ownRecords orderId records ++
        if record.venueOrderId.toLower = orderId then [(record.quantity, record.price, record.fee)]
        else [] := by
  by_cases hown : record.venueOrderId.toLower = orderId <;> simp [ownRecords, hown]

/-- A fill of the order adds the record of its sale, if it has one. -/
theorem listFill_ownRecords (hown : row.orderId.toLower = orderId)
    (hcontext : (contexts orderId).any fun known => known.terms.action = "SELL")
    (h : listFill contexts decimals listing row = .ok listing') :
    ownRecords orderId listing'.fills =
      ownRecords orderId listing.fills ++ ((countedSale decimals row).toList.map recordedSale) := by
  obtain ⟨known, hknown, hsell⟩ := (Option.any_eq_true _ _).mp hcontext
  unfold listFill at h
  cases hstatus : v3FillStatus row with
  | error fault =>
      rw [hstatus] at h
      cases h
  | ok status =>
      simp only [countedSale, hstatus]
      simp only [hstatus, hown, hknown, Option.any_some, hsell, or_true, if_true, bind,
        Except.bind, pure, Except.pure] at h
      split at h
      · next hskipped =>
          cases h
          rw [if_neg]
          · simp
          · rintro ⟨hirreversible, hodds⟩
            rcases hskipped with hfalse | hle
            · rw [hfalse] at hirreversible
              cases hirreversible
            · exact absurd hodds (not_lt.mpr hle)
      · next hkept =>
          rw [not_or, Bool.not_eq_false, not_le] at hkept
          rw [if_pos hkept]
          split at h
          · cases h
          · split at h
            · cases h
            · cases hsale : sellFillAccounting row (row.stake decimals) row.odds decimals with
              | error fault =>
                  simp only [hsale] at h
                  cases h
              | ok sale =>
                  simp only [hsale] at h
                  split at h
                  · cases h
                  · split at h
                    · cases h
                    · cases h
                      dsimp only
                      rw [ownRecords_append, if_pos hown]
                      rfl

/-- A fill of another order adds no record of this one. -/
theorem listFill_ownRecords_other (hother : row.orderId.toLower ≠ orderId)
    (h : listFill contexts decimals listing row = .ok listing') :
    ownRecords orderId listing'.fills = ownRecords orderId listing.fills := by
  unfold listFill at h
  simp only [bind, Except.bind] at h
  repeat' split at h
  all_goals first
    | cases h; done
    | cases h
      first
        | rfl
        | rw [ownRecords_append, if_neg hother, List.append_nil]

theorem listed_ownRecords
    (hcontext : (contexts orderId).any fun known => known.terms.action = "SELL")
    {rows : List RawFill} (h : rows.foldlM (listFill contexts decimals) listing = .ok listing') :
    ownRecords orderId listing'.fills = ownRecords orderId listing.fills ++
      ((ownFills orderId rows).filterMap (countedSale decimals)).map recordedSale := by
  induction rows generalizing listing with
  | nil =>
      cases h
      simp [ownFills]
  | cons row rest ih =>
      rw [List.foldlM_cons] at h
      cases hrow : listFill contexts decimals listing row with
      | error fault =>
          rw [hrow] at h
          cases h
      | ok next =>
          rw [hrow] at h
          rw [ownFills_cons, ih h]
          split
          · next hown =>
              rw [listFill_ownRecords hown hcontext hrow, List.append_assoc]
              cases hsale : countedSale decimals row with
              | none => simp [hsale]
              | some sale => simp [hsale]
          · next hother => rw [listFill_ownRecords_other hother hrow]

/-! ## What goes through -/

/-- A fill of a sell that neither loop refuses. -/
def FillGoesThrough (decimals : ℕ) (fill : RawFill) : Prop :=
  ∃ status, v3FillStatus fill = .ok status ∧
    (status.irreversible = true ∧ 0 < fill.odds →
      ∃ sale, sellFillAccounting fill (fill.stake decimals) fill.odds decimals = .ok sale)

theorem SumsStep.goesThrough {before after : SaleSums} (h : SumsStep decimals fill before after) :
    FillGoesThrough decimals fill := by
  obtain ⟨status, hstatus, h⟩ := h
  refine ⟨status, hstatus, fun hcounts => ?_⟩
  rw [if_pos hcounts] at h
  obtain ⟨sale, hsale, _⟩ := h
  exact ⟨sale, hsale⟩

theorem reported_goThrough (hsell : submitted.terms.action = "SELL") {fills : List RawFill}
    (hcounts : ∀ fill ∈ fills, CountsStake decimals fill)
    (h : fills.foldlM (addFill submitted decimals) totals = .ok totals') :
    ∀ fill ∈ fills, FillGoesThrough decimals fill := by
  induction fills generalizing totals with
  | nil => intro fill hmem; exact absurd hmem List.not_mem_nil
  | cons fill rest ih =>
      rw [List.foldlM_cons] at h
      cases hadd : addFill submitted decimals totals fill with
      | error fault =>
          rw [hadd] at h
          cases h
      | ok next =>
          rw [hadd] at h
          intro other hmem
          rcases List.mem_cons.mp hmem with rfl | hrest
          · exact (addFill_sums hsell (hcounts other List.mem_cons_self) hadd).goesThrough
          · exact ih (fun later hlater => hcounts later (List.mem_cons_of_mem _ hlater)) h other hrest

/-- What the accounting of a sale needs is enough for the other refund checks. -/
theorem refund_checks_of_sale {stake odds : Dec}
    (h : sellFillAccounting row stake odds decimals = .ok sale) :
    (∃ fee, ceRefundFee row decimals = .ok fee) ∧
      ∃ refunded, hasPositiveCeRefund row decimals = .ok refunded := by
  obtain ⟨refund, fee, hrefund, hfee, hrefund_nonneg, hfee_nonneg, -⟩ := sellFillAccounting_spec h
  have hceFee : ceRefundFee row decimals = .ok (fromBaseUnits fee decimals) := by
    simp only [ceRefundFee, hfee, Option.getD_some]
    rw [if_neg (not_lt.mpr hfee_nonneg)]
  refine ⟨⟨_, hceFee⟩, ?_⟩
  simp only [hasPositiveCeRefund, hrefund, Option.getD_some]
  rw [if_neg (not_lt.mpr hrefund_nonneg), hceFee]
  exact ⟨_, rfl⟩

/-- The accounting of the order has the side of the order. -/
def OwnSide (submitted : SubmittedOrder) (orderId : String) (listing : FillListing) : Prop :=
  ∀ accounting, listing.residualAccounting.get? orderId = some accounting →
    accounting.side = submitted.terms.actualSide

/-- The list takes every fill of the order that the report takes. -/
theorem listFill_ok (hcontext : contexts orderId = some submitted)
    (hsell : submitted.terms.action = "SELL") (horder : orderId ≠ "")
    (hown : row.orderId.toLower = orderId) (hfill : FillGoesThrough decimals row)
    (hside : OwnSide submitted orderId listing) :
    ∃ listing', listFill contexts decimals listing row = .ok listing' ∧
      OwnSide submitted orderId listing' := by
  obtain ⟨status, hstatus, hsale⟩ := hfill
  simp only [listFill, hstatus, hown, hcontext, Option.any_some, hsell, decide_true, or_true,
    if_true, bind, Except.bind, pure, Except.pure]
  split
  · exact ⟨listing, rfl, hside⟩
  · next hkept =>
      rw [not_or, Bool.not_eq_false, not_le] at hkept
      obtain ⟨sale, hsale⟩ := hsale hkept
      obtain ⟨⟨fee, hfee⟩, ⟨refunded, hrefunded⟩⟩ := refund_checks_of_sale hsale
      simp only [hfee, hrefunded, hsale]
      have hagree : ¬ (listing.residualAccounting.get? orderId).any
          fun previous => previous.side ≠ submitted.terms.actualSide := by
        intro hdisagree
        obtain ⟨previous, hprevious, hne⟩ := (Option.any_eq_true _ _).mp hdisagree
        exact of_decide_eq_true hne (hside previous hprevious)
      rw [if_neg hagree]
      refine ⟨_, rfl, ?_⟩
      intro accounting haccounting
      rw [Lib.Dict.get?_set_self] at haccounting
      cases haccounting
      rfl

theorem listed_of_goThrough (hcontext : contexts orderId = some submitted)
    (hsell : submitted.terms.action = "SELL") (horder : orderId ≠ "") {rows : List RawFill}
    (hown : ∀ row ∈ rows, row.orderId.toLower = orderId)
    (hfills : ∀ row ∈ rows, FillGoesThrough decimals row)
    (hside : OwnSide submitted orderId listing) :
    ∃ listing', rows.foldlM (listFill contexts decimals) listing = .ok listing' := by
  induction rows generalizing listing with
  | nil => exact ⟨listing, rfl⟩
  | cons row rest ih =>
      obtain ⟨next, hnext, hnextSide⟩ := listFill_ok hcontext hsell horder
        (hown row List.mem_cons_self) (hfills row List.mem_cons_self) hside
      rw [List.foldlM_cons, hnext]
      exact ih (fun other hother => hown other (List.mem_cons_of_mem _ hother))
        (fun other hother => hfills other (List.mem_cons_of_mem _ hother)) hnextSide

/-! ## The sums in another order -/

/-- Two sums of these sales that differ by no more than the roundings of two orders. -/
structure SaleSums.Near (sales : List SaleAccounting) (sums others : SaleSums) : Prop where
  closed : |sums.closed - others.closed| ≤ 2 * growth (10 / 10 ^ 28) sales.length *
    (sales.map fun sale => |sale.closedContracts|).sum
  proceeds : |sums.proceeds - others.proceeds| ≤ 2 * growth (10 / 10 ^ 28) sales.length *
    (sales.map fun sale => |sale.netProceeds|).sum
  residual : |sums.residual - others.residual| ≤ 2 * growth (10 / 10 ^ 28) sales.length *
    (sales.map fun sale => |sale.residualOpposite|).sum

theorem foldl_add_eq_roundedSum (sales : List SaleAccounting) (sums : SaleSums) :
    sales.foldl SaleSums.add sums =
      ⟨roundedSum Dec.ctx sums.closed (sales.map (·.closedContracts)),
        roundedSum Dec.ctx sums.proceeds (sales.map (·.netProceeds)),
        roundedSum Dec.ctx sums.residual (sales.map (·.residualOpposite))⟩ := by
  induction sales generalizing sums with
  | nil => rfl
  | cons sale rest ih =>
      rw [List.foldl_cons, ih]
      rfl

theorem saleSums_near {sales others : List SaleAccounting} (h : sales.Perm others) :
    (saleSums sales).Near sales (saleSums others) := by
  have hnear : ∀ part : SaleAccounting → Dec,
      |roundedSum Dec.ctx 0 (sales.map part) - roundedSum Dec.ctx 0 (others.map part)| ≤
        2 * growth (10 / 10 ^ 28) sales.length * (sales.map fun sale => |part sale|).sum := by
    intro part
    have hparts := abs_roundedSum_perm_le Dec.ctx_rounding (h.map part)
    rw [List.length_map, List.map_map] at hparts
    exact hparts
  unfold saleSums
  rw [foldl_add_eq_roundedSum, foldl_add_eq_roundedSum]
  exact ⟨hnear _, hnear _, hnear _⟩

/-! ## The amounts of a report -/

/-- The report that a call computes, whether it returns it or raises it with an exposure. -/
def computedReport : Except FillFault ExecutionReport → Option ExecutionReport
  | .ok report => some report
  | .error (.residual report _ _) => some report
  | .error (.runtime _) => none

/-- A fill that closed nothing brought in nothing. -/
theorem netProceeds_eq_zero {stake odds : Dec}
    (h : sellFillAccounting fill stake odds decimals = .ok sale) (hclosed : sale.closedContracts = 0) :
    sale.netProceeds = 0 := by
  obtain ⟨refund, fee, -, -, hrefund, hfee, hsum, -, -, hnet⟩ := sellFillAccounting_spec h
  have hzero : fromBaseUnits refund decimals = 0 := by
    by_contra hne
    have hpos : 0 < fromBaseUnits refund decimals :=
      lt_of_le_of_ne (fromBaseUnits_nonneg hrefund _) (Ne.symm hne)
    have hadd : 0 < Dec.add (fromBaseUnits refund decimals) (fromBaseUnits fee decimals) :=
      Dec.ctx_pos (add_pos_of_pos_of_nonneg hpos (fromBaseUnits_nonneg hfee _))
    rw [← hsum, hclosed] at hadd
    exact absurd hadd (lt_irrefl 0)
  rw [hnet, hclosed, hzero]
  simp [Dec.sub, Dec.mul]

/-- What the totals of a sell keep. -/
structure TotalsHeld (totals : FillTotals) : Prop where
  sums : (reportSums totals).Held
  failed_nonneg : 0 ≤ totals.failedContracts
  unsold : (reportSums totals).closed = 0 → (reportSums totals).proceeds = 0

/-- A sale keeps that nothing was brought in if nothing was closed. -/
theorem SumsStep.unsold {before after : SaleSums} (h : SumsStep decimals fill before after)
    (hheld : before.Held) (hunsold : before.closed = 0 → before.proceeds = 0) :
    after.closed = 0 → after.proceeds = 0 := by
  obtain ⟨status, _, h⟩ := h
  split at h
  · obtain ⟨sale, hsale, rfl⟩ := h
    intro hclosed
    have hsaleClosed : 0 ≤ sale.closedContracts := (sellFillAccounting_nonneg hsale).1
    have hsum : before.closed + sale.closedContracts = 0 := by
      by_contra hne
      have hpos : 0 < before.closed + sale.closedContracts :=
        lt_of_le_of_ne (Left.add_nonneg hheld.closed_nonneg hsaleClosed) (Ne.symm hne)
      exact (Dec.ctx_pos hpos).ne' hclosed
    have hbefore : before.closed = 0 := by linarith [hheld.closed_nonneg]
    have hnone : sale.closedContracts = 0 := by linarith
    show Dec.add before.proceeds sale.netProceeds = 0
    rw [hunsold hbefore, netProceeds_eq_zero hsale hnone]
    simp [Dec.add]
  · rw [h]
    exact hunsold

theorem addFill_failed_nonneg (hfailed : 0 ≤ totals.failedContracts)
    (h : addFill submitted decimals totals fill = .ok totals') : 0 ≤ totals'.failedContracts := by
  unfold addFill at h
  cases hstatus : v3FillStatus fill with
  | error fault =>
      rw [hstatus] at h
      cases h
  | ok status =>
      simp only [hstatus, bind, Except.bind, pure, Except.pure] at h
      split at h
      · cases h
        exact hfailed
      · next hkept =>
          rw [not_or, not_le, not_le] at hkept
          have hcontracts : 0 ≤ Dec.div (fill.stake decimals) fill.odds :=
            Dec.ctx_nonneg (div_nonneg hkept.2.le hkept.1.le)
          repeat' split at h
          all_goals cases h
          all_goals first
            | exact hfailed
            | exact Dec.add_nonneg hfailed hcontracts

theorem TotalsHeld.foldlM (hsell : submitted.terms.action = "SELL") {fills : List RawFill}
    (hcounts : ∀ fill ∈ fills, CountsStake decimals fill) (hheld : TotalsHeld totals)
    (h : fills.foldlM (addFill submitted decimals) totals = .ok totals') : TotalsHeld totals' := by
  induction fills generalizing totals with
  | nil =>
      cases h
      exact hheld
  | cons fill rest ih =>
      rw [List.foldlM_cons] at h
      cases hadd : addFill submitted decimals totals fill with
      | error fault =>
          rw [hadd] at h
          cases h
      | ok next =>
          rw [hadd] at h
          have hstep := addFill_sums hsell (hcounts fill List.mem_cons_self) hadd
          exact ih (fun other hother => hcounts other (List.mem_cons_of_mem _ hother))
            ⟨hstep.held hheld.sums, addFill_failed_nonneg hheld.failed_nonneg hadd,
              hstep.unsold hheld.sums hheld.unsold⟩ h

theorem TotalsHeld.start : TotalsHeld {} where
  sums := ⟨le_rfl, le_rfl, Dec.ctx_zero, Dec.ctx_zero⟩
  failed_nonneg := le_rfl
  unsold _ := rfl

/-- A report holds the filled contracts of its totals, and their average price, raised to zero in
some of its branches. -/
structure HoldsTotals (totals : FillTotals) (report : ExecutionReport) : Prop where
  filled : report.amountFilled = totals.confirmedContracts
  price : report.avgPrice = averagePrice "SELL" totals ∨
    report.avgPrice = max 0 (averagePrice "SELL" totals)

theorem holdsTotals_fromAmounts (hheld : TotalsHeld totals) (orderId : String) {requested : Dec}
    (status : ExecutionStatus) (hrequested : totals.confirmedContracts ≤ requested) :
    HoldsTotals totals (fromAmounts orderId requested totals.confirmedContracts status
      (averagePrice "SELL" totals)) := by
  have hconfirmed : 0 ≤ totals.confirmedContracts := hheld.sums.closed_nonneg
  refine ⟨?_, .inr rfl⟩
  show min (max 0 totals.confirmedContracts) (max 0 requested) = totals.confirmedContracts
  rw [max_eq_right hconfirmed]
  exact min_eq_left (hrequested.trans (le_max_right _ _))

theorem computedReport_holds (hsell : submitted.terms.action = "SELL") (hheld : TotalsHeld totals)
    {fills : List RawFill} {reason : String} {report : ExecutionReport}
    (h : fills.foldlM (addFill submitted decimals) {} = .ok totals)
    (hreport : computedReport (reportFromV3Fills submitted decimals fills reason) = some report) :
    HoldsTotals totals report := by
  have hconfirmed : 0 ≤ totals.confirmedContracts := hheld.sums.closed_nonneg
  have hroom : totals.confirmedContracts ≤
      max submitted.terms.contracts (Dec.add totals.confirmedContracts totals.failedContracts) := by
    have hexact : Dec.ctx totals.confirmedContracts = totals.confirmedContracts :=
      hheld.sums.closed_exact
    apply le_max_of_le_right
    rw [← hexact]
    apply Dec.ctx_mono
    rw [hexact]
    exact le_add_of_nonneg_right hheld.failed_nonneg
  unfold reportFromV3Fills at hreport
  split at hreport
  · cases hreport
  · simp only [h, bind, Except.bind, hsell] at hreport
    split at hreport
    · cases hreport
      exact holdsTotals_fromAmounts hheld _ _ (le_max_right _ _)
    · simp only [reportFromTotals, hsell] at hreport
      split at hreport
      · cases hreport
        exact ⟨rfl, .inl rfl⟩
      · split at hreport
        · cases hreport
        · split at hreport
          · cases hreport
            exact ⟨rfl, .inl rfl⟩
          · split at hreport
            · cases hreport
              exact holdsTotals_fromAmounts hheld _ _ le_rfl
            · split at hreport
              · cases hreport
                exact holdsTotals_fromAmounts hheld _ _ hroom
              · next hnone =>
                  have hzero : totals.confirmedContracts = 0 :=
                    le_antisymm (not_lt.mp hnone) hconfirmed
                  have hempty (status : ExecutionStatus) : HoldsTotals totals
                      (fromAmounts submitted.orderId submitted.terms.contracts
                        totals.confirmedContracts status (averagePrice "SELL" totals)) := by
                    refine ⟨?_, .inr rfl⟩
                    show min (max 0 totals.confirmedContracts) _ = _
                    rw [hzero, max_self]
                    exact min_eq_left (le_max_left _ _)
                  split at hreport
                  · cases hreport
                    exact hempty _
                  · cases hreport
                    exact hempty _

/-- Filled contracts times average price are the proceeds, up to one rounding. -/
theorem HoldsTotals.notional {report : ExecutionReport} (h : HoldsTotals totals report)
    (hheld : TotalsHeld totals) (hproceeds : 0 ≤ totals.confirmedSellProceeds) :
    |report.avgPrice * report.amountFilled - totals.confirmedSellProceeds| ≤
      10 / 10 ^ 28 * totals.confirmedSellProceeds := by
  rcases hheld.sums.closed_nonneg.eq_or_lt with hzero | hpos
  · have hnothing : totals.confirmedSellProceeds = 0 := hheld.unsold hzero.symm
    have hfilled : report.amountFilled = 0 := h.filled.trans hzero.symm
    simp [hnothing, hfilled]
  · have hconfirmed : 0 < totals.confirmedContracts := hpos
    have haverage : averagePrice "SELL" totals =
        Dec.ctx (totals.confirmedSellProceeds / totals.confirmedContracts) := by
      simp [averagePrice, hconfirmed, Dec.div]
    have hquotient : 0 ≤ totals.confirmedSellProceeds / totals.confirmedContracts :=
      div_nonneg hproceeds hconfirmed.le
    have hprice : report.avgPrice =
        Dec.ctx (totals.confirmedSellProceeds / totals.confirmedContracts) := by
      rcases h.price with hprice | hprice
      · rw [hprice, haverage]
      · rw [hprice, haverage, max_eq_right (Dec.ctx_nonneg hquotient)]
    have herror := Dec.ctx_rounding.error (totals.confirmedSellProceeds / totals.confirmedContracts)
    rw [abs_of_nonneg hquotient] at herror
    rw [hprice, h.filled]
    calc |Dec.ctx (totals.confirmedSellProceeds / totals.confirmedContracts) *
            totals.confirmedContracts - totals.confirmedSellProceeds|
        = |Dec.ctx (totals.confirmedSellProceeds / totals.confirmedContracts) -
            totals.confirmedSellProceeds / totals.confirmedContracts| *
              totals.confirmedContracts := by
          rw [← abs_of_pos hconfirmed, ← abs_mul, abs_of_pos hconfirmed, sub_mul,
            div_mul_cancel₀ _ hconfirmed.ne']
      _ ≤ 10 / 10 ^ 28 * (totals.confirmedSellProceeds / totals.confirmedContracts) *
            totals.confirmedContracts := mul_le_mul_of_nonneg_right herror hconfirmed.le
      _ = 10 / 10 ^ 28 * totals.confirmedSellProceeds := by
          rw [mul_assoc, div_mul_cancel₀ _ hconfirmed.ne']

/-! ## Both paths -/

/-- The totals of the report of an order: `_fills_for_order`, and the loop over them. -/
def reportedTotals (submitted : SubmittedOrder) (decimals : ℕ) (page : ℕ → FillPage) :
    Except FillFault FillTotals := do
  let rows ← listV3Records page
  (ownFills submitted.orderId.toLower rows).foldlM (addFill submitted decimals) {}

/-- The pages of `list_fills`, and its loop over them. -/
def listedFills (contexts : String → Option SubmittedOrder) (decimals : ℕ) (page : ℕ → FillPage) :
    Except FillFault FillListing := do
  let rows ← listV3Records page
  rows.foldlM (listFill contexts decimals) {}

/-- **One sale on two paths.**  A sell is known to the connector, and the fills that count have a
stake.  Where the report of its fills goes through, so does the list, in any order and on any pages;
and whatever other fills it lists, its records and its sums of the order are those of the same
sales.  The sums are equal in the same order, and otherwise as near as the roundings are; and the
report has the filled contracts, and the proceeds in its price. -/
theorem listed_sales_agree {page reportedPage : ℕ → FillPage} {rows reportedRows : List RawFill}
    (hrows : listV3Records page = .ok rows)
    (hreportedRows : listV3Records reportedPage = .ok reportedRows)
    (hsame : (ownFills submitted.orderId.toLower rows).Perm
      (ownFills submitted.orderId.toLower reportedRows))
    (hcontext : contexts submitted.orderId.toLower = some submitted)
    (hsell : submitted.terms.action = "SELL") (horder : submitted.orderId.toLower ≠ "")
    (hcounts : ∀ fill ∈ ownFills submitted.orderId.toLower rows, CountsStake decimals fill)
    (hreport : reportedTotals submitted decimals reportedPage = .ok totals) :
    ((∀ row ∈ rows, row.orderId.toLower = submitted.orderId.toLower) →
        ∃ listing, listedFills contexts decimals page = .ok listing) ∧
      (∀ listing, listedFills contexts decimals page = .ok listing →
        let orderId := submitted.orderId.toLower
        let sales := (ownFills orderId rows).filterMap (countedSale decimals)
        let listed := accountingSums (listing.residualAccounting.get? orderId)
        ownRecords orderId listing.fills = sales.map recordedSale ∧
          listed.Near sales (reportSums totals) ∧
          (ownFills orderId rows = ownFills orderId reportedRows → listed = reportSums totals)) ∧
      ∀ reason report,
        computedReport (reportFromV3Fills submitted decimals
          (ownFills submitted.orderId.toLower reportedRows) reason) = some report →
          report.amountFilled = (reportSums totals).closed ∧
            (0 ≤ (reportSums totals).proceeds →
              |report.avgPrice * report.amountFilled - (reportSums totals).proceeds| ≤
                10 / 10 ^ 28 * (reportSums totals).proceeds) := by
  set orderId := submitted.orderId.toLower with horderId
  have hfold : (ownFills orderId reportedRows).foldlM (addFill submitted decimals) {} =
      .ok totals := by
    simpa only [reportedTotals, hreportedRows, bind, Except.bind] using hreport
  have hany : (contexts orderId).any fun known => known.terms.action = "SELL" := by
    simp [hcontext, hsell]
  have hreportedCounts : ∀ fill ∈ ownFills orderId reportedRows, CountsStake decimals fill :=
    fun fill hmem => hcounts fill (hsame.mem_iff.mpr hmem)
  have hreported := reportSums_foldl hsell hreportedCounts hfold
  have hheld := TotalsHeld.start.foldlM hsell hreportedCounts hfold
  have hlisting (listing : FillListing) : listedFills contexts decimals page = .ok listing →
      rows.foldlM (listFill contexts decimals) {} = .ok listing := by
    intro h
    simpa only [listedFills, hrows, bind, Except.bind] using h
  refine ⟨fun hown => ?_, fun listing h => ?_, fun reason report h => ?_⟩
  · have hall : ownFills orderId rows = rows :=
      List.filter_eq_self.mpr fun row hrow => decide_eq_true (hown row hrow)
    have hgo : ∀ row ∈ rows, FillGoesThrough decimals row := fun row hrow =>
      reported_goThrough hsell hreportedCounts hfold row (hsame.mem_iff.mp (hall.symm ▸ hrow))
    have hside : OwnSide submitted orderId {} := fun accounting h => by cases h
    obtain ⟨listing, hgoes⟩ := listed_of_goThrough hcontext hsell horder hown hgo hside
    refine ⟨listing, ?_⟩
    simpa only [listedFills, hrows, bind, Except.bind] using hgoes
  · have hsums := accountingSums_foldl hany (hlisting listing h)
    refine ⟨listed_ownRecords hany (hlisting listing h), ?_, fun hequal => ?_⟩
    · rw [hsums, hreported]
      exact saleSums_near (hsame.filterMap _)
    · rw [hsums, hreported, hequal]
      rfl
  · have hholds := computedReport_holds hsell hheld hfold h
    exact ⟨hholds.filled, hholds.notional hheld⟩

namespace ListedSaleExamples

/-- A locked fill of the order, with a stake and a refund in base units. -/
def soldFill (fillOdds fillAmount refund : Dec) : RawFill :=
  { partRefundedFill with
    fillOdds := fillOdds * 10 ^ 18
    fillAmount := fillAmount
    ceRefundAmount := some refund }

/-- All rows on one page. -/
def onePage (rows : List RawFill) (_ : ℕ) : FillPage := ⟨rows, ""⟩

/-- Three fills without a refund, at odds of three and of seven tenths. -/
def unrefunded : List RawFill := [soldFill 30 (10 ^ 6) 0, soldFill 70 (10 ^ 7) 0, soldFill 70 (10 ^ 9) 0]

/-- The sums of the order in the list of one page, if the connector knows these orders. -/
def listedSums (contexts : String → Option SubmittedOrder) (rows : List RawFill) :
    Option SaleSums :=
  (listedFills contexts 6 (onePage rows)).toOption.map fun listing =>
    accountingSums (listing.residualAccounting.get? "exit-b")

/-- The sums of the order in its report. -/
def reportedSums (rows : List RawFill) : Option SaleSums :=
  (reportedTotals (saleOrder 1) 6 (onePage rows)).toOption.map reportSums

/-- The records of the order in the list of one page. -/
def listedRecords (contexts : String → Option SubmittedOrder) (rows : List RawFill) :
    Option (List (Dec × Dec × Dec)) :=
  (listedFills contexts 6 (onePage rows)).toOption.map fun listing =>
    ownRecords "exit-b" listing.fills

/-- The sums depend on the order of the fills; a fill that closed a millionth of a contract has a
price in the report and none in the list; a fill without a stake counts in the list alone; and a
sell without a refund that the connector does not know is listed as a buy. -/
theorem listed_sales_differ :
    listedSums (saleContexts 1) unrefunded ≠ reportedSums unrefunded.reverse
      ∧ (listedRecords (saleContexts 1) [soldFill 50 1 1] = some [(1 / 10 ^ 6, 0, 0)] ∧
        (computedReport (reportFromV3Fills (saleOrder 1) 6 [soldFill 50 1 1] "SYSTEM")).map
          (fun report => (report.amountFilled, report.avgPrice)) = some (1 / 10 ^ 6, 1 / 2))
      ∧ ((listedSums (saleContexts 1) [soldFill 50 0 1]).map (·.closed) = some (1 / 10 ^ 6) ∧
        (reportedSums [soldFill 50 0 1]).map (·.closed) = some 0)
      ∧ listedRecords (fun _ => none) [soldFill 50 (10 ^ 6) 0] = some [(2, 1 / 2, 0)] := by
  refine ⟨?_, ⟨?_, ?_⟩, ⟨?_, ?_⟩, ?_⟩ <;> decide +kernel

/-- The same fills in another order. -/
def reorderedRows : List RawFill :=
  [soldFill 70 (10 ^ 9) 0, soldFill 30 (10 ^ 6) 0, soldFill 70 (10 ^ 7) 0]

/-- They come on two pages. -/
def reordered (index : ℕ) : FillPage :=
  if index = 0 then ⟨reorderedRows.take 1, "next"⟩ else ⟨reorderedRows.drop 1, ""⟩

/-- What is listed of them is near what is reported. -/
theorem listed_sales_agree_reordered :
    ∃ listing totals, listedFills (saleContexts 1) 6 reordered = .ok listing
      ∧ reportedTotals (saleOrder 1) 6 (onePage unrefunded) = .ok totals
      ∧ |(accountingSums (listing.residualAccounting.get? (saleOrder 1).orderId.toLower)).residual -
          (reportSums totals).residual| ≤ 1 / 10 ^ 23 := by
  obtain ⟨totals, htotals⟩ : ∃ totals,
      reportedTotals (saleOrder 1) 6 (onePage unrefunded) = .ok totals := by
    have h : (reportedTotals (saleOrder 1) 6 (onePage unrefunded)).toOption.isSome := by
      decide +kernel
    cases htotals : reportedTotals (saleOrder 1) 6 (onePage unrefunded) with
    | error fault =>
        rw [htotals] at h
        cases h
    | ok totals => exact ⟨totals, rfl⟩
  have hrows : listV3Records reordered = .ok reorderedRows := rfl
  have hreportedRows : listV3Records (onePage unrefunded) = .ok unrefunded := rfl
  have hstakes : ∀ fill ∈ reorderedRows, 0 < fill.stake 6 := by decide +kernel
  obtain ⟨hgoes, hlisted, _⟩ := listed_sales_agree hrows hreportedRows (by decide +kernel)
    (by decide +kernel : saleContexts 1 _ = some (saleOrder 1)) rfl (by decide +kernel)
    (fun fill hmem status _ _ _ => hstakes fill (List.mem_filter.mp hmem).1) htotals
  obtain ⟨listing, hlisting⟩ := hgoes (by decide +kernel)
  refine ⟨listing, totals, hlisting, htotals, ?_⟩
  apply (hlisted listing hlisting).2.1.residual.trans
  decide +kernel

end ListedSaleExamples

end ArbitrageEngine.Reconciliation
