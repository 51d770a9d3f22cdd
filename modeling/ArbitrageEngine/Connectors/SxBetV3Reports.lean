/-
# ArbitrageEngine.Connectors.SxBetV3Reports -- when a V3 report may be taken for final

A fill of a V3 order is MATCHED first, and may still fail; money has moved once it is LOCKED or
SETTLED.  A report that calls an order filled, cancelled or expired lets its intent end, so neither
the report of the matching engine nor the report of the fills may do so while a fill is MATCHED, or
while an order that is said to be filled lacks fills in the index.

What counts towards the filled amount are the locked and settled fills: of a buy the contracts that
their stakes buy at their odds, of a sell the contracts that their refunds close, which for every
fill are within the tolerance of the index of what its stake buys.
-/
import ArbitrageEngine.Connectors.SxBetV3Fills

namespace ArbitrageEngine.SxBetV3

open Execution (ExecutionReport ExecutionStatus intentStatusFromReport)

/-! ## The report of the matching engine -/

/-- The `outcome` of a created order; a missing amount counts as zero. -/
structure Outcome where
  state : String
  fillAmount : Dec
  blendedOdds : Dec
deriving DecidableEq

/-- `matched_contracts`. -/
def Outcome.matchedContracts (outcome : Outcome) (decimals : ℕ) : Dec :=
  if 0 < oddsUnitsToProbability outcome.blendedOdds then
    Dec.div (fromBaseUnits outcome.fillAmount decimals) (oddsUnitsToProbability outcome.blendedOdds)
  else 0

/-- `_report_from_v3_outcome`. -/
def reportFromV3Outcome (submitted : SubmittedOrder) (decimals : ℕ) (outcome : Outcome) :
    Except FillFault ExecutionReport :=
  let requested := submitted.terms.contracts
  let matchedContracts := outcome.matchedContracts decimals
  let state := outcome.state.toUpper
  if state = "PARTIAL_FILL_DONE" ∧ matchedContracts ≤ 0 then
    .error (.runtime ("SX Bet V3 order " ++ submitted.orderId ++
      " is PARTIAL_FILL_DONE but has no fill"))
  else if state ∈ ["TIMEOUT", "FULLY_FILLED", "PARTIAL_FILL_DONE"] ∨ 0 < matchedContracts then
    -- reversible until every fill is locked
    .ok (fromAmounts submitted.orderId (max requested matchedContracts) 0 .stillOpen 0)
  else if state = "EXPIRED" then .ok (fromAmounts submitted.orderId requested 0 .expired 0)
  else if state ∈ inactiveReasons then
    .ok (fromAmounts submitted.orderId requested 0 .cancelled 0)
  else .ok (fromAmounts submitted.orderId requested 0 .stillOpen 0)

/-- The outcome is no proof that the order is gone: it reports a fill, or no reason for its end. -/
def Outcome.Unsettled (outcome : Outcome) (decimals : ℕ) : Prop :=
  0 < outcome.matchedContracts decimals ∨ outcome.state.toUpper ∉ inactiveReasons

/-! ## What counts -/

variable (submitted : SubmittedOrder) (decimals : ℕ)

/-- The fill is in a state. -/
def RawFill.Is (fill : RawFill) (state : BetState) : Prop := v3FillStatus fill = .ok state

/-- The fill is locked or settled, with odds and a stake. -/
def RawFill.counts (fill : RawFill) : Bool :=
  match v3FillStatus fill with
  | .ok status => status.irreversible && 0 < fill.odds && 0 < fill.stake decimals
  | .error _ => false

/-- The contracts that the stake of a fill buys at its odds. -/
def RawFill.bought (fill : RawFill) : Dec := Dec.div (fill.stake decimals) fill.odds

/-- The contracts that the refund of a fill closes. -/
def RawFill.closed (fill : RawFill) : Dec :=
  Dec.add (fromBaseUnits (fill.ceRefundAmount.getD 0) decimals)
    (fromBaseUnits (fill.ceRefundFeeAmount.getD 0) decimals)

/-- The contracts of a fill that counts. -/
def RawFill.contracts (fill : RawFill) : Dec :=
  if submitted.terms.action = "SELL" then fill.closed decimals else fill.bought decimals

/-- The contracts of the fills that count. -/
def filledContracts (fills : List RawFill) : Dec :=
  ((fills.filter (RawFill.counts decimals)).map (RawFill.contracts submitted decimals)).foldl
    Dec.add 0

/-- The stakes of the fills that count. -/
def filledStake (fills : List RawFill) : Dec :=
  ((fills.filter (RawFill.counts decimals)).map (RawFill.stake decimals)).foldl Dec.add 0

/-- A fill closes what its stake buys, up to the tolerance of the index. -/
def RawFill.ClosesBought (fill : RawFill) : Prop :=
  fill.closed decimals ≤ Dec.add (fill.bought decimals) stakeIndexTolerance ∧
    Dec.sub (fill.bought decimals) (fill.closed decimals) ≤ stakeIndexTolerance

/-- An order that is said to be filled has no failed fill, and fills of its stake are missing. -/
def IndexIncomplete (fills : List RawFill) (inactiveReason : String) : Prop :=
  inactiveReason = "FILLED" ∧ (∀ fill ∈ fills, ¬ fill.Is .failed) ∧
    Dec.add (filledStake decimals fills) stakeIndexTolerance < submitted.submittedStake

/-! ## The totals of the fills -/

variable {submitted decimals} {fill : RawFill} {fills : List RawFill} {totals totals' : FillTotals}

theorem filledContracts_concat (fills : List RawFill) (fill : RawFill) :
    filledContracts submitted decimals (fills ++ [fill]) =
      if fill.counts decimals then
        Dec.add (filledContracts submitted decimals fills) (fill.contracts submitted decimals)
      else filledContracts submitted decimals fills := by
  unfold filledContracts
  by_cases hcounts : fill.counts decimals = true
  · simp [List.filter_append, hcounts]
  · simp [List.filter_append, hcounts]

theorem filledStake_concat (fills : List RawFill) (fill : RawFill) :
    filledStake decimals (fills ++ [fill]) =
      if fill.counts decimals then Dec.add (filledStake decimals fills) (fill.stake decimals)
      else filledStake decimals fills := by
  unfold filledStake
  by_cases hcounts : fill.counts decimals = true
  · simp [List.filter_append, hcounts]
  · simp [List.filter_append, hcounts]

/-- What one fill does to the totals. -/
structure Added (submitted : SubmittedOrder) (decimals : ℕ) (totals : FillTotals) (fill : RawFill)
    (totals' : FillTotals) : Prop where
  states : ∃ state, fill.Is state ∧ totals'.states = state :: totals.states
  contracts : totals'.confirmedContracts =
    if fill.counts decimals then
      Dec.add totals.confirmedContracts (fill.contracts submitted decimals)
    else totals.confirmedContracts
  stake : totals'.confirmedOrderStake =
    if fill.counts decimals then Dec.add totals.confirmedOrderStake (fill.stake decimals)
    else totals.confirmedOrderStake
  nonneg : fill.counts decimals → 0 ≤ fill.contracts submitted decimals
  failed : 0 ≤ totals.failedContracts → 0 ≤ totals'.failedContracts
  residual : totals'.confirmedResidualOpposite = totals.confirmedResidualOpposite ∨
    totals'.confirmedResidualOpposite = Dec.add totals.confirmedResidualOpposite
      (max 0 (Dec.sub (fill.bought decimals) (fill.closed decimals)))
  closes : submitted.terms.action = "SELL" → fill.counts decimals →
    fill.closed decimals ≤ Dec.add (fill.bought decimals) stakeIndexTolerance ∧
      totals'.confirmedResidualOpposite = Dec.add totals.confirmedResidualOpposite
        (max 0 (Dec.sub (fill.bought decimals) (fill.closed decimals)))

/-- A fill without odds or a stake, or in a reversible state, does not count. -/
theorem Added.of_not_counts {state : BetState} (hstate : fill.Is state)
    (hcounts : ¬ fill.counts decimals = true) {failed matched : Dec}
    (hfailed : 0 ≤ totals.failedContracts → 0 ≤ failed) :
    Added submitted decimals totals fill
      { totals with
        states := state :: totals.states
        matchedContracts := matched
        failedContracts := failed } where
  states := ⟨state, hstate, rfl⟩
  contracts := (if_neg hcounts).symm
  stake := (if_neg hcounts).symm
  nonneg h := absurd h hcounts
  failed := hfailed
  residual := .inl rfl
  closes _ h := absurd h hcounts

/-- Every round that goes through adds its fill. -/
theorem Added.of_addFill (h : addFill submitted decimals totals fill = .ok totals') :
    Added submitted decimals totals fill totals' := by
  unfold addFill at h
  cases hstate : v3FillStatus fill with
  | error fault =>
    rw [hstate] at h
    cases h
  | ok state =>
    simp only [hstate, bind, Except.bind, pure, Except.pure] at h
    have hcount : fill.counts decimals =
        (state.irreversible && decide (0 < fill.odds) && decide (0 < fill.stake decimals)) := by
      unfold RawFill.counts
      rw [hstate]
    by_cases hnone : fill.odds ≤ 0 ∨ fill.stake decimals ≤ 0
    · rw [if_pos hnone] at h
      cases h
      apply Added.of_not_counts hstate _ id
      rw [hcount]
      simp only [Bool.and_eq_true, decide_eq_true_eq]
      rintro ⟨⟨-, hodds⟩, hstake⟩
      exact hnone.elim hodds.not_ge hstake.not_ge
    · rw [if_neg hnone] at h
      obtain ⟨hodds, hstake⟩ := not_or.mp hnone
      rw [not_le] at hodds hstake
      have hbought : 0 ≤ fill.bought decimals := Dec.ctx_nonneg (div_nonneg hstake.le hodds.le)
      by_cases hirreversible : state.irreversible = true
      · rw [if_pos hirreversible] at h
        have hcounts : fill.counts decimals = true := by
          simp [hcount, hirreversible, hodds, hstake]
        by_cases hsell : submitted.terms.action = "SELL"
        · rw [if_pos hsell] at h
          cases hsale : sellFillAccounting fill (fill.stake decimals) fill.odds decimals with
          | error fault =>
            rw [hsale] at h
            cases h
          | ok sale =>
            rw [hsale] at h
            cases h
            obtain ⟨refund, fee, hrefund, hfee, hrefund₀, hfee₀, hclosed, hle, hresidual, -⟩ :=
              sellFillAccounting_spec hsale
            have hclose : sale.closedContracts = fill.closed decimals := by
              unfold RawFill.closed
              rw [hclosed, hrefund, hfee]
              rfl
            rw [hclose] at hle hresidual
            have hcontracts : fill.contracts submitted decimals = fill.closed decimals :=
              if_pos hsell
            have hadds := congrArg (Dec.add totals.confirmedResidualOpposite) hresidual
            exact {
              states := ⟨state, hstate, rfl⟩
              contracts := by rw [if_pos hcounts, hcontracts, ← hclose]
              stake := (if_pos hcounts).symm
              nonneg := fun _ => by
                rw [hcontracts, ← hclose, hclosed]
                exact Dec.add_nonneg (fromBaseUnits_nonneg hrefund₀ decimals)
                  (fromBaseUnits_nonneg hfee₀ decimals)
              failed := id
              residual := .inr hadds
              closes := fun _ _ => ⟨hle, hadds⟩ }
        · rw [if_neg hsell] at h
          cases hrefunded : hasPositiveCeRefund fill decimals with
          | error fault =>
            rw [hrefunded] at h
            cases h
          | ok refunded =>
            rw [hrefunded] at h
            cases refunded with
            | true => cases h
            | false =>
              cases h
              have hcontracts : fill.contracts submitted decimals = fill.bought decimals :=
                if_neg hsell
              exact {
                states := ⟨state, hstate, rfl⟩
                contracts := by
                  rw [if_pos hcounts, hcontracts]
                  rfl
                stake := (if_pos hcounts).symm
                nonneg := fun _ => hcontracts ▸ hbought
                failed := id
                residual := .inl rfl
                closes := fun h => absurd h hsell }
      · rw [if_neg hirreversible] at h
        have hcounts : ¬ fill.counts decimals = true := by
          simp [hcount, hirreversible]
        split at h
        · cases h
          exact Added.of_not_counts hstate hcounts id
        · cases h
          exact Added.of_not_counts hstate hcounts fun hfailed => Dec.add_nonneg hfailed hbought

/-- The totals are those of the fills so far. -/
structure Totalled (submitted : SubmittedOrder) (decimals : ℕ) (fills : List RawFill)
    (totals : FillTotals) : Prop where
  contracts : totals.confirmedContracts = filledContracts submitted decimals fills
  stake : totals.confirmedOrderStake = filledStake decimals fills
  states : ∀ state, state ∈ totals.states ↔ ∃ fill ∈ fills, fill.Is state
  read : ∀ fill ∈ fills, ∃ state, fill.Is state
  exact : Dec.Exact totals.confirmedContracts
  nonneg : 0 ≤ totals.confirmedContracts
  failed : 0 ≤ totals.failedContracts
  residual : 0 ≤ totals.confirmedResidualOpposite
  closes : submitted.terms.action = "SELL" → ∀ fill ∈ fills, fill.counts decimals →
    fill.closed decimals ≤ Dec.add (fill.bought decimals) stakeIndexTolerance ∧
      Dec.sub (fill.bought decimals) (fill.closed decimals) ≤ totals.confirmedResidualOpposite

theorem Totalled.start : Totalled submitted decimals [] {} where
  contracts := rfl
  stake := rfl
  states state := by simp
  read fill hmem := absurd hmem List.not_mem_nil
  exact := Dec.ctx_zero
  nonneg := le_rfl
  failed := le_rfl
  residual := le_rfl
  closes _ fill hmem := absurd hmem List.not_mem_nil

/-- Adding to a sum leaves it above every difference that it was above. -/
theorem sub_le_add {a b total more : Dec} (h : Dec.sub a b ≤ total ∨ Dec.sub a b ≤ more)
    (htotal : 0 ≤ total) (hmore : 0 ≤ more) : Dec.sub a b ≤ Dec.add total more := by
  have hsum : Dec.sub a b ≤ total + more := by
    obtain h | h := h
    · linarith
    · linarith
  calc Dec.sub a b = Dec.ctx (Dec.sub a b) := (Dec.exact_ctx _).symm
    _ ≤ Dec.ctx (total + more) := Dec.ctx_mono hsum

theorem Totalled.add (htotalled : Totalled submitted decimals fills totals)
    (hadded : Added submitted decimals totals fill totals') :
    Totalled submitted decimals (fills ++ [fill]) totals' := by
  have hresidual : totals'.confirmedResidualOpposite = totals.confirmedResidualOpposite ∨
      ∃ more, 0 ≤ more ∧
        totals'.confirmedResidualOpposite = Dec.add totals.confirmedResidualOpposite more := by
    obtain hsame | hmore := hadded.residual
    · exact .inl hsame
    · exact .inr ⟨_, le_max_left _ _, hmore⟩
  obtain ⟨state, hstate, hstates⟩ := hadded.states
  exact {
    contracts := by rw [hadded.contracts, filledContracts_concat, htotalled.contracts]
    stake := by rw [hadded.stake, filledStake_concat, htotalled.stake]
    states := fun other => by
      have hsame : state = other ↔ fill.Is other := by
        unfold RawFill.Is at hstate ⊢
        rw [hstate]
        exact ⟨fun heq => heq ▸ rfl, fun heq => Except.ok.inj heq⟩
      rw [hstates, List.mem_cons, htotalled.states, eq_comm, hsame]
      simp only [List.mem_append, List.mem_singleton, or_and_right, exists_or, exists_eq_left]
      exact or_comm
    read := fun other hmem => by
      rw [List.mem_append, List.mem_singleton] at hmem
      obtain hmem | rfl := hmem
      · exact htotalled.read other hmem
      · exact ⟨state, hstate⟩
    exact := by
      rw [hadded.contracts]
      split
      · exact Dec.exact_ctx _
      · exact htotalled.exact
    nonneg := by
      rw [hadded.contracts]
      split
      · next hcounts => exact Dec.add_nonneg htotalled.nonneg (hadded.nonneg hcounts)
      · exact htotalled.nonneg
    failed := hadded.failed htotalled.failed
    residual := by
      obtain hsame | ⟨more, hmore, heq⟩ := hresidual
      · rw [hsame]
        exact htotalled.residual
      · rw [heq]
        exact Dec.add_nonneg htotalled.residual hmore
    closes := fun hsell other hmem hcounts => by
      rw [List.mem_append, List.mem_singleton] at hmem
      obtain hmem | rfl := hmem
      · obtain ⟨hclosed, hle⟩ := htotalled.closes hsell other hmem hcounts
        refine ⟨hclosed, ?_⟩
        obtain hsame | ⟨more, hmore, heq⟩ := hresidual
        · rwa [hsame]
        · rw [heq]
          exact sub_le_add (.inl hle) htotalled.residual hmore
      · obtain ⟨hclosed, heq⟩ := hadded.closes hsell hcounts
        refine ⟨hclosed, ?_⟩
        rw [heq]
        exact sub_le_add (.inr (le_max_right _ _)) htotalled.residual (le_max_left _ _) }

/-- The loop totals all fills. -/
theorem Totalled.foldlM {rest : List RawFill} (htotalled : Totalled submitted decimals fills totals)
    (h : rest.foldlM (addFill submitted decimals) totals = .ok totals') :
    Totalled submitted decimals (fills ++ rest) totals' := by
  induction rest generalizing fills totals with
  | nil =>
    cases h
    rwa [List.append_nil]
  | cons fill rest ih =>
    rw [List.foldlM_cons] at h
    cases hadd : addFill submitted decimals totals fill with
    | error fault =>
      rw [hadd] at h
      cases h
    | ok next =>
      rw [hadd] at h
      have hrest := ih (htotalled.add (Added.of_addFill hadd)) h
      rwa [List.append_assoc, List.singleton_append] at hrest

/-! ## The reports -/

/-- The report says nothing final: it is open, and its intent stays unknown. -/
def Provisional (report : ExecutionReport) : Prop :=
  report.status = .stillOpen ∧ intentStatusFromReport report = .unknown

theorem Provisional.of_open {report : ExecutionReport} (h : report.status = .stillOpen) :
    Provisional report := by
  refine ⟨h, ?_⟩
  unfold intentStatusFromReport
  exact if_pos h

/-- A report keeps the filled amount that fits the requested one. -/
theorem fromAmounts_filled {orderId : String} {requested filled avgPrice : Dec}
    {status : ExecutionStatus} (hfilled : 0 ≤ filled) (hle : filled ≤ requested) :
    (fromAmounts orderId requested filled status avgPrice).amountFilled = filled := by
  show min (max 0 filled) (max 0 requested) = filled
  rw [max_eq_right hfilled, max_eq_right (hfilled.trans hle), min_eq_left hle]

/-- A report of nothing filled has nothing filled. -/
theorem fromAmounts_unfilled {orderId : String} {requested avgPrice : Dec}
    {status : ExecutionStatus} :
    (fromAmounts orderId requested 0 status avgPrice).amountFilled = 0 := by
  show min (max 0 0) (max 0 requested) = 0
  rw [max_self, min_eq_left (le_max_left _ _)]

variable {inactiveReason : String} {report : ExecutionReport}

/-- The report has filled what the fills amount to. -/
theorem reportFromTotals_filled (htotalled : Totalled submitted decimals fills totals)
    (h : reportFromTotals submitted fills inactiveReason totals = .ok report) :
    report.amountFilled = totals.confirmedContracts := by
  have hnone : ¬ 0 < totals.confirmedContracts → totals.confirmedContracts = 0 := fun hnot =>
    le_antisymm (not_lt.mp hnot) htotalled.nonneg
  unfold reportFromTotals at h
  simp only at h
  split at h
  · cases h
    rfl
  split at h
  · cases h
  split at h
  · cases h
    rfl
  split at h
  · cases h
    exact fromAmounts_filled htotalled.nonneg le_rfl
  split at h
  · cases h
    -- the failed contracts only raise what is requested
    apply fromAmounts_filled htotalled.nonneg
    apply le_max_of_le_right
    calc totals.confirmedContracts = Dec.ctx totals.confirmedContracts := htotalled.exact.symm
      _ ≤ Dec.ctx (totals.confirmedContracts + totals.failedContracts) :=
        Dec.ctx_mono (le_add_of_nonneg_right htotalled.failed)
  · next hnot =>
    rw [hnone hnot] at h ⊢
    split at h
    · cases h
      exact fromAmounts_unfilled
    · cases h
      exact fromAmounts_unfilled

/-- A matched fill leaves the order open. -/
theorem reportFromTotals_matched (htotalled : Totalled submitted decimals fills totals)
    (hmatched : ∃ fill ∈ fills, fill.Is .matched)
    (h : reportFromTotals submitted fills inactiveReason totals = .ok report) :
    report.status = .stillOpen := by
  unfold reportFromTotals at h
  simp only at h
  rw [if_pos ((htotalled.states .matched).mpr hmatched)] at h
  cases h
  rfl

/-- So does an index that lacks fills of a filled order. -/
theorem reportFromTotals_incomplete (htotalled : Totalled submitted decimals fills totals)
    (hincomplete : IndexIncomplete submitted decimals fills inactiveReason)
    (h : reportFromTotals submitted fills inactiveReason totals = .ok report) :
    report.status = .stillOpen := by
  obtain ⟨hreason, hfailed, hshort⟩ := hincomplete
  have hnotFailed : BetState.failed ∉ totals.states := fun hmem => by
    obtain ⟨fill, hmem, hfail⟩ := (htotalled.states .failed).mp hmem
    exact hfailed fill hmem hfail
  rw [← htotalled.stake] at hshort
  unfold reportFromTotals at h
  simp only [hreason, true_and, hnotFailed, decide_false, Bool.false_eq_true, not_false_eq_true,
    and_true] at h
  split at h
  · cases h
    rfl
  next hmatched =>
  by_cases hpositive : 0 < totals.confirmedContracts
  · rw [if_neg (fun h => h.1.not_gt hpositive), if_pos ⟨hpositive, hshort⟩] at h
    cases h
    rfl
  · -- without a matched or a failed fill every fill is locked or settled, and none has contracts
    rw [if_pos] at h
    · cases h
    · refine ⟨not_lt.mp hpositive, ?_⟩
      obtain _ | ⟨fill, rest⟩ := fills
      · exact .inl rfl
      · right
        obtain ⟨state, hstate⟩ := htotalled.read fill (List.mem_cons_self ..)
        have hmem := (htotalled.states state).mpr ⟨fill, List.mem_cons_self .., hstate⟩
        rw [List.any_eq_true]
        refine ⟨state, hmem, ?_⟩
        cases state with
        | matched => exact absurd hmem hmatched
        | failed => exact absurd hmem hnotFailed
        | locked => rfl
        | settled => rfl

/-- The report of the fills. -/
theorem reportFromV3Fills_spec
    (h : reportFromV3Fills submitted decimals fills inactiveReason = .ok report) :
    report.amountFilled = filledContracts submitted decimals fills ∧
      (submitted.terms.action = "SELL" →
        ∀ fill ∈ fills, fill.counts decimals → fill.ClosesBought decimals) ∧
      ((∃ fill ∈ fills, fill.Is .matched) ∨
        IndexIncomplete submitted decimals fills inactiveReason → Provisional report) := by
  unfold reportFromV3Fills at h
  split at h
  · cases h
  cases htotals : fills.foldlM (addFill submitted decimals) {} with
  | error fault =>
    rw [htotals] at h
    cases h
  | ok totals =>
    have htotalled : Totalled submitted decimals fills totals := Totalled.start.foldlM htotals
    rw [htotals] at h
    simp only [bind, Except.bind] at h
    split at h
    · cases h
    next hresidual =>
    refine ⟨?_, fun hsell fill hmem hcounts => ?_, fun hopen => ?_⟩
    · rw [reportFromTotals_filled htotalled h, htotalled.contracts]
    · obtain ⟨hclosed, hle⟩ := htotalled.closes hsell fill hmem hcounts
      exact ⟨hclosed, hle.trans (not_lt.mp fun hlt => hresidual ⟨hsell, hlt⟩)⟩
    · apply Provisional.of_open
      obtain hmatched | hincomplete := hopen
      · exact reportFromTotals_matched htotalled hmatched h
      · exact reportFromTotals_incomplete htotalled hincomplete h

/-- The report of the matching engine. -/
theorem reportFromV3Outcome_spec {outcome : Outcome}
    (h : reportFromV3Outcome submitted decimals outcome = .ok report) :
    report.amountFilled = 0 ∧ report.status ≠ .filled ∧
      (outcome.Unsettled decimals → Provisional report) := by
  unfold reportFromV3Outcome at h
  simp only at h
  split at h
  · cases h
  split at h
  · cases h
    exact ⟨fromAmounts_unfilled, nofun, fun _ => .of_open rfl⟩
  next hsettled =>
  obtain ⟨-, hnone⟩ := not_or.mp hsettled
  -- an expired or an inactive order is settled where it has no matched contracts
  split at h
  · next hexpired =>
    cases h
    refine ⟨fromAmounts_unfilled, nofun, fun hunsettled => ?_⟩
    obtain hmatched | hreason := hunsettled
    · exact absurd hmatched hnone
    · rw [hexpired] at hreason
      exact absurd (by decide) hreason
  split at h
  · next hinactive =>
    cases h
    refine ⟨fromAmounts_unfilled, nofun, fun hunsettled => ?_⟩
    obtain hmatched | hreason := hunsettled
    · exact absurd hmatched hnone
    · exact absurd hinactive hreason
  · cases h
    exact ⟨fromAmounts_unfilled, nofun, fun _ => .of_open rfl⟩

/-- **No report is final while the order is not**: while a fill is matched, or fills of a filled
order are missing in the index, or the matching engine reports a fill or no reason for the end of
the order, the report leaves the order open and its intent unknown.  What is filled is what the
locked and settled fills amount to. -/
theorem v3_reports_provisional (submitted : SubmittedOrder) (decimals : ℕ) :
    (∀ fills inactiveReason report,
      reportFromV3Fills submitted decimals fills inactiveReason = .ok report →
        report.amountFilled = filledContracts submitted decimals fills ∧
        (submitted.terms.action = "SELL" →
          ∀ fill ∈ fills, fill.counts decimals → fill.ClosesBought decimals) ∧
        ((∃ fill ∈ fills, fill.Is .matched) ∨
          IndexIncomplete submitted decimals fills inactiveReason → Provisional report)) ∧
    ∀ outcome report, reportFromV3Outcome submitted decimals outcome = .ok report →
      report.amountFilled = 0 ∧ report.status ≠ .filled ∧
        (outcome.Unsettled decimals → Provisional report) :=
  ⟨fun _ _ _ h => reportFromV3Fills_spec h, fun _ _ h => reportFromV3Outcome_spec h⟩

namespace ReportExamples

/-- A sell of ten contracts, which stakes six dollars on the other side. -/
def sale : SubmittedOrder where
  orderId := "0xa"
  terms := ⟨"yes-token", .yes, .no, 10, 4 / 10, "SELL"⟩
  submittedStake := 6

/-- A fill of three dollars, with a refund of its contracts less a fee. -/
def soldPart : RawFill where
  id := "sell-fill"
  orderId := "0xa"
  status := "LOCKED"
  fillOdds := 60 * 10 ^ 18
  fillAmount := 3 * 10 ^ 6
  ceRefundAmount := some 4950000
  ceRefundFeeAmount := some 50000
  isBettingOutcomeOne := some false

/-- Half of the sale is locked, and the other half matched. -/
def halfMatched : List RawFill := [soldPart, { soldPart with status := "MATCHED" }]

theorem v3_reports_provisional_matched :
    ∃ report, reportFromV3Fills sale 6 halfMatched "USER_REQUESTED" = .ok report ∧
      report.amountFilled = 5 ∧ Provisional report := by
  have hsome : (reportFromV3Fills sale 6 halfMatched "USER_REQUESTED").toOption.isSome := by
    decide +kernel
  cases hreport : reportFromV3Fills sale 6 halfMatched "USER_REQUESTED" with
  | error fault =>
    rw [hreport] at hsome
    cases hsome
  | ok report =>
    obtain ⟨hfilled, -, hopen⟩ := (v3_reports_provisional sale 6).1 _ _ _ hreport
    refine ⟨report, rfl, hfilled.trans (by decide +kernel), hopen (.inl ?_)⟩
    refine ⟨_, List.mem_cons_of_mem _ (List.mem_singleton_self _), ?_⟩
    unfold RawFill.Is v3FillStatus
    exact if_pos (by decide +kernel)

/-- The refund closes a little less than what the stake buys. -/
def soldShort : RawFill :=
  { soldPart with
    fillAmount := 6 * 10 ^ 6
    ceRefundAmount := some 9899999
    ceRefundFeeAmount := some 100000 }

/-- A filled sale is reported with what its refund closed, not with what its stake buys. -/
theorem sale_filled_short :
    (reportFromV3Fills sale 6 [soldShort] "FILLED").toOption.map
        (fun report => (report.status, report.amountFilled)) =
      some (.filled, 9999999 / 10 ^ 6) ∧
    soldShort.bought 6 = 10 := by
  decide +kernel

end ReportExamples

end ArbitrageEngine.SxBetV3
