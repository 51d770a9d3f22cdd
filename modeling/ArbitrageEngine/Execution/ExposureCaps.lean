/-
# ArbitrageEngine.Execution.ExposureCaps -- the ledger stays within its caps

An entry is checked against the caps with the capital of its plan, long before its fills are booked.
In between no other entry can be: the entry lock is held.  What the check has seen of the ledger can
only shrink until the row of the entry is written, and the row costs no more than the plan puts in.

The capital of a plan is what the signed orders can spend.  Where an order is signed for a stake,
that is less than the requested contracts at the limit price, so a fill of those would not be covered
by the check; the venue cannot make one.
-/
import ArbitrageEngine.Execution.Reservations
import ArbitrageEngine.Execution.UnwindConservation

namespace ArbitrageEngine.Execution.SignalHandling

open Lib Lib.Effect Lib.Runs

/-! ## The caps -/

/-- The symbols of the markets of some positions. -/
def symbols (positions : List OpenPosition) : List String :=
  positions.map fun position => position.market.symbol

/-- **The caps**, in the arithmetic of the check. -/
structure WithinCaps (limits : RiskLimits) (positions : List OpenPosition) : Prop where
  total : totalNotional positions ≤ Dec.add limits.maxTotalNotionalUsd riskUsdEpsilon
  venue : ∀ venue, amountOf (venueExposure positions) venue ≤
    Dec.add limits.maxVenueExposureUsd riskUsdEpsilon
  markets : ((symbols positions).toFinset.card : ℤ) ≤ limits.maxOpenPositions
  distinct : (symbols positions).Nodup

/-! ## Less exposure -/

section Shrinking

variable {positions larger : List OpenPosition}

theorem symbols_sublist (h : List.SublistForall₂ Shrinks positions larger) :
    (symbols positions).Sublist (symbols larger) := by
  induction h with
  | nil => exact List.nil_sublist _
  | cons hshrinks _ ih =>
      rw [symbols, symbols, List.map_cons, List.map_cons, hshrinks.market]
      exact ih.cons_cons _
  | cons_right _ ih => exact ih.cons _

theorem card_symbols_le (h : List.SublistForall₂ Shrinks positions larger) :
    (symbols positions).toFinset.card ≤ (symbols larger).toFinset.card := by
  refine Finset.card_le_card fun symbol hsymbol => ?_
  rw [List.mem_toFinset] at hsymbol ⊢
  exact (symbols_sublist h).subset hsymbol

theorem WithinCaps.shrink {limits : RiskLimits} (h : WithinCaps limits larger)
    (hle : List.SublistForall₂ Shrinks positions larger)
    (hnonneg : ∀ position ∈ larger, NonnegCost position) : WithinCaps limits positions where
  total := (totalNotional_le hle hnonneg).trans h.total
  venue := fun venue => (venueExposure_le hle hnonneg venue).trans (h.venue venue)
  markets := (Int.ofNat_le.mpr (card_symbols_le hle)).trans h.markets
  distinct := h.distinct.sublist (symbols_sublist hle)

instance : Std.Refl Shrinks := ⟨Shrinks.refl⟩

variable {key : String} {position : OpenPosition}

/-- A row that shrinks in place. -/
theorem shrinks_rewrite {entries : List (String × OpenPosition)}
    (h : ∀ e ∈ entries, e.1 = key → Shrinks position e.2) :
    List.SublistForall₂ Shrinks ((Dict.rewrite key position entries).map Prod.snd)
      (entries.map Prod.snd) := by
  induction entries with
  | nil => exact .nil
  | cons e rest ih =>
      have hrest := ih fun e he => h e (List.mem_cons_of_mem _ he)
      rw [Dict.rewrite, List.map_cons, List.map_cons, List.map_cons]
      refine .cons ?_ hrest
      split
      · next hkey => exact h e List.mem_cons_self hkey
      · exact Shrinks.refl _

end Shrinking

/-! ## What an entry books -/

/-- A row of an entry: it costs at most the capital of each leg. -/
structure Booked (entry : PreparedEntry) (row : OpenPosition) : Prop where
  market : row.market = entry.signal.market
  nonneg : NonnegCost row
  first : row.firstCost ≤ entry.signal.plan.polymarketCapitalUsd
  second : row.secondCost ≤ entry.signal.plan.predictFunCapitalUsd

theorem Booked.shrink {entry : PreparedEntry} {row larger : OpenPosition} (h : Booked entry larger)
    (hle : Shrinks row larger) (hnonneg : NonnegCost row) : Booked entry row where
  market := hle.market.trans h.market
  nonneg := hnonneg
  first := hle.first.trans h.first
  second := hle.second.trans h.second

/-- A fill costs at most the capital of its leg. -/
def FillWithin (capital : Dec) (result : EntryLegResult) : Prop :=
  ∀ report ∈ result.report, 0 ≤ report.amountFilled ∧ Dec.Exact report.amountFilled ∧
    Dec.mul report.amountFilled report.avgPrice ≤ capital

/-- The results of an entry within its plan; the context does not round the difference of the two
fills. -/
structure ResultsWithin (entry : PreparedEntry) (results : EntryResults) : Prop where
  first : FillWithin entry.signal.plan.polymarketCapitalUsd results.first
  second : FillWithin entry.signal.plan.predictFunCapitalUsd results.second
  difference :
    Dec.Exact (Router.filledAmount results.first - Router.filledAmount results.second) ∧
      Dec.Exact (Router.filledAmount results.second - Router.filledAmount results.first)
  unwound : 0 ≤ results.unwound.first ∧ 0 ≤ results.unwound.second

section Fills

variable {capital contracts : Dec} {result : EntryLegResult}

theorem mul_zero_eq (contracts : Dec) : Dec.mul contracts 0 = 0 := by simp [Dec.mul]

theorem mul_le_mul {a b price : Dec} (h : a ≤ b) (hprice : 0 ≤ price) :
    Dec.mul a price ≤ Dec.mul b price :=
  Dec.ctx_mono (mul_le_mul_of_nonneg_right h hprice)

theorem FillWithin.filled_nonneg (h : FillWithin capital result) :
    0 ≤ Router.filledAmount result := by
  unfold Router.filledAmount
  split
  · next report hreport => exact (h report hreport).1
  · exact le_rfl

theorem FillWithin.filled_exact (h : FillWithin capital result) :
    Dec.Exact (Router.filledAmount result) := by
  unfold Router.filledAmount
  split
  · next report hreport => exact (h report hreport).2.1
  · exact Dec.ctx_zero

/-- A part of a fill at its price. -/
theorem FillWithin.cost (h : FillWithin capital result) (hcapital : 0 ≤ capital)
    (hnonneg : 0 ≤ contracts) (hle : contracts ≤ Router.filledAmount result) {price : Dec}
    (hprice : price = 0 ∨ 0 ≤ price ∧ ∃ report ∈ result.report, price = report.avgPrice) :
    0 ≤ Dec.mul contracts price ∧ Dec.mul contracts price ≤ capital := by
  rcases hprice with rfl | ⟨hprice, report, hreport, rfl⟩
  · rw [mul_zero_eq]
    exact ⟨le_rfl, hcapital⟩
  · have hfilled : Router.filledAmount result = report.amountFilled := by
      unfold Router.filledAmount
      rw [hreport]
    refine ⟨Dec.ctx_nonneg (mul_nonneg hnonneg hprice), ?_⟩
    exact (mul_le_mul (hle.trans_eq hfilled) hprice).trans (h report hreport).2.2

theorem reportedPrice_cases (result : EntryLegResult) :
    Router.reportedPrice result = 0 ∨
      0 ≤ Router.reportedPrice result ∧
        ∃ report ∈ result.report, Router.reportedPrice result = report.avgPrice := by
  unfold Router.reportedPrice
  split
  · next report hreport =>
      rcases max_choice 0 report.avgPrice with h | h
      · exact .inl h
      · exact .inr ⟨le_max_left _ _, report, hreport, h⟩
  · exact .inl rfl

theorem entryPrice_cases (h : ¬ Router.priceMissing result = true) :
    Router.entryPrice result = 0 ∨
      0 ≤ Router.entryPrice result ∧
        ∃ report ∈ result.report, Router.entryPrice result = report.avgPrice := by
  unfold Router.priceMissing at h
  unfold Router.entryPrice
  split
  · next report hreport =>
      rw [hreport] at h
      split
      · next hfilled =>
          have hprice : ¬ report.avgPrice ≤ 0 := fun hprice => h (by simp [hfilled, hprice])
          exact .inr ⟨(not_le.mp hprice).le, report, hreport, rfl⟩
      · exact .inl rfl
  · exact .inl rfl

end Fills

section Outcome

variable {entry : PreparedEntry} {results : EntryResults}

/-- What is matched of a leg and what is left of the rest is at most its fill. -/
theorem matched_add_le {matched filled other unwound : Dec} (hmatched : matched = min filled other)
    (hexact : Dec.Exact filled) (hdiff : Dec.Exact (filled - other))
    (hunwound : 0 ≤ unwound) :
    Dec.add matched (max 0 (Dec.sub (max 0 (Dec.sub filled matched)) unwound)) ≤ filled := by
  have hunmatched : Dec.sub filled matched = filled - matched := by
    rcases min_choice filled other with h | h
    · rw [hmatched, h, Dec.sub, sub_self, Dec.ctx_zero]
    · rw [hmatched, h]
      exact hdiff
  have hle : matched ≤ filled := hmatched ▸ min_le_left _ _
  have hgap : 0 ≤ filled - matched := sub_nonneg.mpr hle
  have hfits : Dec.Exact (filled - matched) := by
    rw [← hunmatched]
    exact Dec.exact_ctx _
  -- What was unwound only takes away from the unmatched contracts.
  have hleft : Dec.sub (filled - matched) unwound ≤ filled - matched := by
    have hmono : Dec.ctx (filled - matched - unwound) ≤ Dec.ctx (filled - matched) :=
      Dec.ctx_mono (by linarith)
    rwa [show Dec.ctx (filled - matched) = filled - matched from hfits] at hmono
  rw [hunmatched, max_eq_right hgap]
  have hsum : matched + max 0 (Dec.sub (filled - matched) unwound) ≤ filled := by
    have hmax := max_le hgap hleft
    linarith
  have hctx := Dec.ctx_mono hsum
  rwa [show Dec.ctx filled = filled from hexact] at hctx

theorem booked_pending (entry : PreparedEntry) :
    Booked entry (Router.entryPendingPosition entry.signal.toArbitrageSignal) where
  market := rfl
  nonneg := ⟨(mul_zero_eq _).ge, (mul_zero_eq _).ge⟩
  first := (mul_zero_eq _).trans_le entry.capital_nonneg.1
  second := (mul_zero_eq _).trans_le entry.capital_nonneg.2

/-- **What an entry leaves in the ledger** costs at most the capital of its plan. -/
theorem booked_outcome (h : ResultsWithin entry results) :
    ∀ row ∈ entryOutcome entry.signal.toArbitrageSignal results, Booked entry row := by
  intro row hrow
  have hcapital := entry.capital_nonneg
  have hfirst := h.first.filled_nonneg
  have hsecond := h.second.filled_nonneg
  have hmatched : 0 ≤ Router.matchedAmount results.first results.second := le_min hfirst hsecond
  simp only [entryOutcome] at hrow
  split at hrow
  · -- A fill without a price.
    cases hrow
    have hf := h.first.cost hcapital.1 hfirst le_rfl (reportedPrice_cases _)
    have hs := h.second.cost hcapital.2 hsecond le_rfl (reportedPrice_cases _)
    exact ⟨rfl, ⟨hf.1, hs.1⟩, hf.2, hs.2⟩
  next hpriced =>
  obtain ⟨hfirstPriced, hsecondPriced⟩ := not_or.mp hpriced
  split at hrow
  · -- Something is still unmatched.
    cases hrow
    have hf := h.first.cost hcapital.1 (Dec.add_nonneg hmatched (le_max_left 0 _))
      (matched_add_le rfl h.first.filled_exact h.difference.1 h.unwound.1)
      (entryPrice_cases hfirstPriced)
    have hs := h.second.cost hcapital.2 (Dec.add_nonneg hmatched (le_max_left 0 _))
      (matched_add_le (min_comm _ _) h.second.filled_exact h.difference.2 h.unwound.2)
      (entryPrice_cases hsecondPriced)
    exact ⟨rfl, ⟨hf.1, hs.1⟩, hf.2, hs.2⟩
  · split at hrow
    · cases hrow
    · -- Both legs are matched.
      cases hrow
      have hf := h.first.cost hcapital.1 hmatched (min_le_left _ _) (entryPrice_cases hfirstPriced)
      have hs := h.second.cost hcapital.2 hmatched (min_le_right _ _)
        (entryPrice_cases hsecondPriced)
      exact ⟨rfl, ⟨hf.1, hs.1⟩, hf.2, hs.2⟩

end Outcome

/-! ## Room for an entry -/

/-- The check of a prepared entry against the other positions. -/
structure Fits (limits : RiskLimits) (labels : String × String) (others : List OpenPosition)
    (entry : PreparedEntry) : Prop where
  principal : entry.signal.principalCost ≤ entry.allInCostUsd
  total : Dec.add (totalNotional others) entry.allInCostUsd ≤
    Dec.add limits.maxTotalNotionalUsd riskUsdEpsilon
  first : Dec.add (amountOf (venueExposure others) labels.1)
      entry.signal.plan.polymarketCapitalUsd ≤
    Dec.add limits.maxVenueExposureUsd riskUsdEpsilon
  second : Dec.add (amountOf (venueExposure others) labels.2)
      entry.signal.plan.predictFunCapitalUsd ≤
    Dec.add limits.maxVenueExposureUsd riskUsdEpsilon

section Fits

variable {limits : RiskLimits} {labels : String × String} {others larger : List OpenPosition}
  {entry : PreparedEntry} {row : OpenPosition}

theorem Fits.shrink (h : Fits limits labels larger entry)
    (hle : List.SublistForall₂ Shrinks others larger)
    (hnonneg : ∀ position ∈ larger, NonnegCost position) : Fits limits labels others entry where
  principal := h.principal
  total := (Dec.ctx_mono (add_le_add_left (totalNotional_le hle hnonneg) _)).trans h.total
  first := (Dec.ctx_mono (add_le_add_left (venueExposure_le hle hnonneg _) _)).trans h.first
  second := (Dec.ctx_mono (add_le_add_left (venueExposure_le hle hnonneg _) _)).trans h.second

/-- The row of an entry that fits. -/
theorem WithinCaps.concat (h : WithinCaps limits others) (hfits : Fits limits labels others entry)
    (hrow : Booked entry row)
    (hlabels : (entry.signal.market.venueALabel, entry.signal.market.venueBLabel) = labels)
    (hne : labels.1 ≠ labels.2)
    (hfresh : entry.signal.market.symbol ∉ symbols others)
    (hroom : ((symbols others).toFinset.card : ℤ) + 1 ≤ limits.maxOpenPositions) :
    WithinCaps limits (others ++ [row]) where
  total := by
    -- The row costs at most the principal of its entry.
    have hnotional : Dec.add row.firstCost row.secondCost ≤ entry.allInCostUsd :=
      (Dec.ctx_mono (add_le_add hrow.first hrow.second)).trans hfits.principal
    rw [totalNotional_concat]
    exact (Dec.ctx_mono (add_le_add_right hnotional _)).trans hfits.total
  venue := by
    intro venue
    subst hlabels
    rw [venueExposure_concat, addVenueCost, hrow.market]
    by_cases hfirst : entry.signal.market.venueALabel = venue
    · subst hfirst
      rw [if_pos rfl, if_neg (Ne.symm hne)]
      exact (Dec.ctx_mono (add_le_add_right hrow.first _)).trans hfits.first
    · rw [if_neg hfirst]
      split
      · next hsecond =>
          subst hsecond
          exact (Dec.ctx_mono (add_le_add_right hrow.second _)).trans hfits.second
      · exact h.venue venue
  markets := by
    have hsymbols : symbols (others ++ [row]) = symbols others ++ [row.market.symbol] := by
      simp [symbols]
    have hcard := Finset.card_union_le (symbols others).toFinset {row.market.symbol}
    rw [hsymbols, List.toFinset_append]
    simp only [List.toFinset_cons, List.toFinset_nil, insert_empty_eq]
    rw [Finset.card_singleton] at hcard
    omega
  distinct := by
    have hsymbols : symbols (others ++ [row]) = symbols others ++ [row.market.symbol] := by
      simp [symbols]
    rw [hsymbols, hrow.market, List.nodup_append]
    refine ⟨h.distinct, List.nodup_singleton _, ?_⟩
    rintro a ha b hb rfl
    rw [List.mem_singleton] at hb
    exact hfresh (hb ▸ ha)

end Fits

/-! ## The ledger around an entry -/

theorem filter_of_not_mem {entries : List (String × OpenPosition)} {key : String}
    (h : key ∉ entries.map Prod.fst) : (entries.filter fun e => e.1 ≠ key) = entries := by
  rw [List.filter_eq_self]
  intro e he
  have hne : e.1 ≠ key := fun heq => h (heq ▸ List.mem_map_of_mem he)
  simpa using hne

/-- `ledger` is what others hold and the row of one call, if it has written one. -/
structure Room (limits : RiskLimits) (ledger : PositionLedger) (task : Task)
    (rest : List (String × OpenPosition)) (own : Option OpenPosition) : Prop where
  entries : ledger.entries =
    rest ++ own.toList.map (Prod.mk (positionKey task.signal.market))
  caps : WithinCaps limits (rest.map Prod.snd)
  nonneg : ∀ e ∈ rest, NonnegCost e.2
  key : positionKey task.signal.market ∉ rest.map Prod.fst
  symbol : task.signal.market.symbol ∉ symbols (rest.map Prod.snd)
  markets : ((symbols (rest.map Prod.snd)).toFinset.card : ℤ) + 1 ≤ limits.maxOpenPositions
  labels : (task.signal.market.venueALabel, task.signal.market.venueBLabel) = task.route.venueLabels
  market : ∀ entry ∈ task.phase.entry?, entry.signal.market = task.signal.market
  fits : ∀ entry ∈ task.phase.entry?,
    Fits limits task.route.venueLabels (rest.map Prod.snd) entry
  row : ∀ row ∈ own, ∃ entry ∈ task.phase.entry?, Booked entry row

namespace Room

variable {limits : RiskLimits} {ledger : PositionLedger} {task : Task}
  {rest : List (String × OpenPosition)} {own : Option OpenPosition}

theorem values_eq (h : Room limits ledger task rest own) :
    ledger.values = rest.map Prod.snd ++ own.toList := by
  rw [Dict.values, h.entries, List.map_append, List.map_map]
  congr 1
  exact List.map_id _

theorem rest_nonneg (h : Room limits ledger task rest own) :
    ∀ position ∈ rest.map Prod.snd, NonnegCost position := by
  intro position hposition
  obtain ⟨e, he, rfl⟩ := List.mem_map.mp hposition
  exact h.nonneg e he

theorem withinCaps (h : Room limits ledger task rest own) : WithinCaps limits ledger.values := by
  rw [h.values_eq]
  cases own with
  | none => simpa using h.caps
  | some row =>
      obtain ⟨entry, hentry, hbooked⟩ := h.row row rfl
      have hmarket := h.market entry hentry
      exact h.caps.concat (h.fits entry hentry) hbooked (hmarket ▸ h.labels)
        (venueLabels_ne task.route) (hmarket ▸ h.symbol) h.markets

theorem values_nonneg (h : Room limits ledger task rest own) :
    ∀ position ∈ ledger.values, NonnegCost position := by
  intro position hposition
  rw [h.values_eq, List.mem_append] at hposition
  rcases hposition with hrest | hown
  · obtain ⟨e, he, rfl⟩ := List.mem_map.mp hrest
    exact h.nonneg e he
  · obtain ⟨_, _, hbooked⟩ := h.row position (Option.mem_toList.mp hown)
    exact hbooked.nonneg

/-- The call goes on with the same entry. -/
theorem goOn {phase : Phase} (h : Room limits ledger task rest own)
    (hentry : phase.entry? = task.phase.entry?) :
    Room limits ledger { task with phase } rest own where
  entries := h.entries
  caps := h.caps
  nonneg := h.nonneg
  key := h.key
  symbol := h.symbol
  markets := h.markets
  labels := h.labels
  market := fun entry hmem => h.market entry (hentry ▸ hmem)
  fits := fun entry hmem => h.fits entry (hentry ▸ hmem)
  row := by
    intro row hrow
    obtain ⟨entry, hmem, hbooked⟩ := h.row row hrow
    exact ⟨entry, hentry.symm ▸ hmem, hbooked⟩

/-- The row of the entry is written. -/
theorem add (h : Room limits ledger task rest own) {entry : PreparedEntry} {row : OpenPosition}
    (hentry : entry ∈ task.phase.entry?) (hbooked : Booked entry row) :
    Room limits (ledger.add row) task rest (some row) where
  entries := by
    have hkey : positionKey row.market = positionKey task.signal.market := by
      rw [hbooked.market, h.market entry hentry]
    rw [PositionLedger.add, hkey, Dict.entries_set, h.entries]
    cases own with
    | none =>
        simp only [Option.toList_none, List.map_nil, List.append_nil, Option.toList_some]
        rw [if_neg h.key]
        rfl
    | some before =>
        rw [if_pos (by simp), Dict.rewrite_append, Dict.rewrite_of_not_mem h.key]
        simp [Dict.rewrite]
  caps := h.caps
  nonneg := h.nonneg
  key := h.key
  symbol := h.symbol
  markets := h.markets
  labels := h.labels
  market := h.market
  fits := h.fits
  row := fun _ hrow => ⟨entry, hentry, Option.some_inj.mp hrow ▸ hbooked⟩

/-- The row of the entry is removed. -/
theorem erase (h : Room limits ledger task rest own) :
    Room limits (ledger.erase (positionKey task.signal.market)) task rest none where
  entries := by
    show List.filter _ ledger.entries = _
    rw [h.entries, List.filter_append, filter_of_not_mem h.key]
    cases own <;> simp
  caps := h.caps
  nonneg := h.nonneg
  key := h.key
  symbol := h.symbol
  markets := h.markets
  labels := h.labels
  market := h.market
  fits := h.fits
  row := fun _ hrow => nomatch hrow

/-- Exits make room. -/
theorem shrink (h : Room limits ledger task rest own) {ledger' : PositionLedger}
    {rest' : List (String × OpenPosition)} {own' : Option OpenPosition}
    (hentries : ledger'.entries =
      rest' ++ own'.toList.map (Prod.mk (positionKey task.signal.market)))
    (hrest : List.SublistForall₂ Shrinks (rest'.map Prod.snd) (rest.map Prod.snd))
    (hkeys : rest'.map Prod.fst ⊆ rest.map Prod.fst) (hnonneg : ∀ e ∈ rest', NonnegCost e.2)
    (hown : ∀ row ∈ own', ∃ before ∈ own, Shrinks row before ∧ NonnegCost row) :
    Room limits ledger' task rest' own' where
  entries := hentries
  caps := h.caps.shrink hrest h.rest_nonneg
  nonneg := hnonneg
  key := fun hmem => h.key (hkeys hmem)
  symbol := fun hmem => h.symbol ((symbols_sublist hrest).subset hmem)
  markets := by
    have hcard := card_symbols_le hrest
    have hbefore := h.markets
    omega
  labels := h.labels
  market := h.market
  fits := fun entry hentry =>
    (h.fits entry hentry).shrink hrest h.rest_nonneg
  row := by
    intro row hrow
    obtain ⟨before, hbefore, hshrinks, hrowNonneg⟩ := hown row hrow
    obtain ⟨entry, hentry, hbooked⟩ := h.row before hbefore
    exact ⟨entry, hentry, hbooked.shrink hshrinks hrowNonneg⟩

end Room

/-! ## The invariant -/

namespace Engine

/-- The ledger is within the caps, and a funded entry under way has room in it. -/
structure Capped (settings : Settings) (engine : Engine) : Prop where
  phases : Phases settings engine
  caps : WithinCaps settings.limits engine.ledger.values
  nonneg : ∀ position ∈ engine.ledger.values, NonnegCost position
  room : settings.submitsOrders = true → ∀ task ∈ engine.tasks, ∃ rest own,
    Room settings.limits engine.ledger task rest own

/-- The condition on the fills of an entry. -/
def FillsWithin (engine : Engine) : Event → Prop
  | .settle i results => ∀ task ∈ engine.tasks[i]?, ∀ entry ∈ task.phase.entry?,
      ResultsWithin entry results
  | _ => True

variable {settings : Settings} {engine engine' : Engine}

/-- The room of an admitted entry is the ledger as it is. -/
theorem room_admit {route : ExecutionRoute} {signal : EntrySignal}
    (hcaps : WithinCaps settings.limits engine.ledger.values)
    (hnonneg : ∀ position ∈ engine.ledger.values, NonnegCost position)
    (hlabels : (signal.market.venueALabel, signal.market.venueBLabel) = route.venueLabels)
    (hadmits : engine.admits settings route signal = true) :
    Room settings.limits engine.ledger ⟨route, signal, .admitted⟩ engine.ledger.entries none := by
  simp only [admits, Bool.decide_and, Bool.and_eq_true, decide_eq_true_eq] at hadmits
  obtain ⟨hkey, hsymbol, hcount, _, _⟩ := hadmits
  refine ⟨by simp, hcaps, ?_, ?_, ?_, ?_, hlabels, ?_, ?_, ?_⟩
  · exact fun e he => hnonneg e.2 (List.mem_map_of_mem he)
  · intro hmem
    obtain ⟨e, he, heq⟩ := List.mem_map.mp hmem
    have hget : engine.ledger.get? e.1 = some e.2 := Dict.get?_eq_some_iff.mpr he
    rw [heq, hkey] at hget
    cases hget
  · exact fun hmem => hsymbol (List.mem_toFinset.mpr hmem)
  · have hsub := Finset.card_le_card
      (Finset.subset_union_left : engine.openMarkets ⊆ engine.openMarkets ∪ engine.pendingMarkets)
    show (engine.openMarkets.card : ℤ) + 1 ≤ _
    omega
  · intro _ hentry
    cases hentry
  · intro _ hentry
    cases hentry
  · intro _ hrow
    cases hrow

/-- The second look at the limits makes the entry fit. -/
theorem room_prepare {ledger : PositionLedger} {task : Task} {entry : PreparedEntry}
    {rest : List (String × OpenPosition)} {own : Option OpenPosition}
    (h : Room settings.limits ledger task rest own) (hphase : task.phase = .admitted)
    (hmarket : entry.signal.market = task.signal.market)
    (hallow : riskLimitsAllow settings.limits task.route.venueLabels ledger.values entry.signal
      (some entry.allInCostUsd) = true) :
    Room settings.limits ledger { task with phase := .prepared entry } rest none := by
  -- An admitted call has not written a row.
  have hown : own = none := by
    refine Option.eq_none_iff_forall_not_mem.mpr fun row hrow => ?_
    obtain ⟨entry, hentry, _⟩ := h.row row hrow
    rw [hphase] at hentry
    cases hentry
  subst hown
  have hvalues : ledger.values = rest.map Prod.snd := by simpa using h.values_eq
  rw [hvalues] at hallow
  obtain ⟨hprincipal, htotal, hfirst, hsecond⟩ := riskLimitsAllow_eq_true hallow
  refine ⟨h.entries, h.caps, h.nonneg, h.key, h.symbol, h.markets, h.labels, ?_, ?_, ?_⟩
  · intro other hother
    exact Option.some_inj.mp hother ▸ hmarket
  · intro other hother
    exact Option.some_inj.mp hother ▸ ⟨hprincipal, htotal, hfirst, hsecond⟩
  · intro _ hrow
    cases hrow

/-- A row that shrinks in the ledger. -/
theorem room_exitUpdate {ledger : PositionLedger} {task : Task} {key : String}
    {position : OpenPosition} {rest : List (String × OpenPosition)}
    {own : Option OpenPosition} (h : Room settings.limits ledger task rest own)
    (hshrinks : ∀ e ∈ ledger.entries, e.1 = key → Shrinks position e.2)
    (hmem : key ∈ ledger.entries.map Prod.fst) (hnonneg : NonnegCost position) :
    ∃ rest' own', Room settings.limits (ledger.set key position) task rest' own' := by
  rw [h.entries] at hshrinks
  refine ⟨Dict.rewrite key position rest,
    own.map fun row => if positionKey task.signal.market = key then position else row,
    h.shrink ?_ ?_ ?_ ?_ ?_⟩
  · rw [Dict.entries_set, if_pos hmem, h.entries, Dict.rewrite_append]
    congr 1
    cases own with
    | none => rfl
    | some row =>
        simp only [Option.toList_some, Option.map_some, List.map_cons, List.map_nil, Dict.rewrite]
        split <;> rfl
  · exact shrinks_rewrite fun e he => hshrinks e (List.mem_append_left _ he)
  · rw [Dict.keys_rewrite]
    exact List.Subset.refl _
  · intro e he
    obtain ⟨e', he', rfl⟩ := List.mem_map.mp he
    split
    · exact hnonneg
    · exact h.nonneg e' he'
  · intro row hrow
    obtain ⟨before, hbefore, rfl⟩ := Option.map_eq_some_iff.mp hrow
    have hrowNonneg : NonnegCost before := by
      obtain ⟨_, _, hbooked⟩ := h.row before hbefore
      exact hbooked.nonneg
    refine ⟨before, hbefore, ?_⟩
    split
    · next hkey =>
        refine ⟨hshrinks (positionKey task.signal.market, before) ?_ hkey, hnonneg⟩
        simp [hbefore]
    · exact ⟨Shrinks.refl _, hrowNonneg⟩

/-- A row that leaves the ledger. -/
theorem room_exitRemove {ledger : PositionLedger} {task : Task} (key : String)
    {rest : List (String × OpenPosition)} {own : Option OpenPosition}
    (h : Room settings.limits ledger task rest own) :
    ∃ rest' own', Room settings.limits (ledger.erase key) task rest' own' := by
  refine ⟨rest.filter fun e => e.1 ≠ key,
    own.filter fun _ => positionKey task.signal.market ≠ key, h.shrink ?_ ?_ ?_ ?_ ?_⟩
  · show List.filter _ ledger.entries = _
    rw [h.entries, List.filter_append]
    congr 1
    cases own with
    | none => rfl
    | some row =>
        by_cases hkey : positionKey task.signal.market = key <;> simp [hkey, Option.filter]
  · exact (List.filter_sublist.map _).sublistForall₂
  · exact (List.filter_sublist.map _).subset
  · exact fun e he => h.nonneg e (List.mem_of_mem_filter he)
  · intro row hrow
    have hbefore := (Option.filter_eq_some_iff.mp hrow).1
    obtain ⟨_, _, hbooked⟩ := h.row row hbefore
    exact ⟨row, hbefore, Shrinks.refl row, hbooked.nonneg⟩

/-- What an entry writes, in the room it has. -/
theorem Capped.writeEntry {i : ℕ} {task : Task} {entry : PreparedEntry} {kept : Bool}
    {row : Option OpenPosition} (h : engine.Capped settings) (htask : engine.tasks[i]? = some task)
    (hphase : task.phase = .holding entry kept) (hrow : ∀ position ∈ row, Booked entry position) :
    (engine.writeEntry entry.signal row).Capped settings := by
  have hne : task.phase ≠ .admitted := by simp [hphase]
  obtain ⟨hfunded, htasks, _⟩ := h.phases.tasks_eq htask hne
  obtain ⟨rest, own, hroom⟩ := h.room hfunded task (List.mem_of_getElem? htask)
  have hentry : entry ∈ task.phase.entry? := by simp [hphase, Phase.entry?]
  have hmarket := hroom.market entry hentry
  have hnew : ∃ own', Room settings.limits (engine.writeEntry entry.signal row).ledger task rest
      own' := by
    cases row with
    | none =>
        refine ⟨none, ?_⟩
        show Room _ (engine.ledger.erase (positionKey entry.signal.market)) _ _ _
        rw [hmarket]
        exact hroom.erase
    | some position => exact ⟨some position, hroom.add hentry (hrow position rfl)⟩
  obtain ⟨own', hroom'⟩ := hnew
  refine ⟨⟨h.phases.alone, h.phases.dry⟩, hroom'.withinCaps, hroom'.values_nonneg, ?_⟩
  intro _ other hother
  have hsame : other = task := by
    have hmem : other ∈ [task] := htasks ▸ hother
    exact List.mem_singleton.mp hmem
  exact ⟨rest, own', hsame ▸ hroom'⟩

/-- A call that goes on with the entry it has. -/
theorem Capped.goOn {i : ℕ} {task : Task} {phase : Phase} {balances : Balances}
    (h : engine.Capped settings) (htask : engine.tasks[i]? = some task)
    (hphases : Phases settings ({ engine with balances }.goOn i task phase))
    (hentry : phase.entry? = task.phase.entry?) :
    ({ engine with balances }.goOn i task phase).Capped settings := by
  refine ⟨hphases, h.caps, h.nonneg, ?_⟩
  intro hfunded other hother
  rcases List.mem_or_eq_of_mem_set hother with hother | rfl
  · exact h.room hfunded other hother
  · obtain ⟨rest, own, hroom⟩ := h.room hfunded task (List.mem_of_getElem? htask)
    exact ⟨rest, own, hroom.goOn hentry⟩

/-- A call that is over. -/
theorem Capped.finish {i : ℕ} (h : engine.Capped settings)
    (hledger : engine'.ledger = engine.ledger)
    (htasks : engine'.tasks = engine.tasks.eraseIdx i) : engine'.Capped settings := by
  refine ⟨h.phases.finish htasks, hledger ▸ h.caps, hledger ▸ h.nonneg, ?_⟩
  intro hfunded other hother
  rw [htasks] at hother
  rw [hledger]
  exact h.room hfunded other (List.mem_of_mem_eraseIdx hother)

/-- Every step keeps the caps, if the fills of an entry are within its plan. -/
theorem Capped.step {event : Event} (h : engine.Capped settings) (hok : FillsWithin engine event)
    (hs : engine.Steps settings event engine') : engine'.Capped settings := by
  have hphases := h.phases.step hs
  cases hs with
  | admitSignal hlabels hfree hadmits =>
      have hroom := room_admit h.caps h.nonneg hlabels hadmits
      refine ⟨hphases, h.caps, h.nonneg, ?_⟩
      intro hfunded task htask
      rcases List.mem_cons.mp htask with rfl | htask
      · exact ⟨_, none, hroom⟩
      · exact h.room hfunded task htask
  | prepare htask hphase hfunded hmarket hallow =>
      refine ⟨hphases, h.caps, h.nonneg, ?_⟩
      intro _ other hother
      rcases List.mem_or_eq_of_mem_set hother with hother | rfl
      · exact h.room hfunded other hother
      · obtain ⟨rest, own, hroom⟩ := h.room hfunded _ (List.mem_of_getElem? htask)
        exact ⟨rest, none, room_prepare hroom hphase hmarket hallow⟩
  | reserve htask hphase hreserve => exact h.goOn htask hphases (by rw [hphase]; rfl)
  | @reservationSaved i task entry saved htask hphase =>
      refine h.goOn htask hphases ?_
      rw [hphase]
      cases saved <;> rfl
  | @saveEntryPending i task entry kept htask hphase =>
      refine h.writeEntry htask hphase fun position hposition => ?_
      exact Option.some_inj.mp hposition ▸ booked_pending entry
  | removeEntry htask hphase => exact h.writeEntry htask hphase fun _ hrow => nomatch hrow
  | @settle i task entry kept results htask hphase =>
      refine h.writeEntry htask hphase (booked_outcome ?_)
      exact hok task htask entry (by simp [hphase, Phase.entry?])
  | giveUp _ _ => exact h.finish rfl rfl
  | release htask hphase => exact h.goOn htask hphases (by rw [hphase]; rfl)
  | @releaseSaved i task entry saved _ _ =>
      cases saved
      · exact h.finish rfl rfl
      · exact h.finish rfl rfl
  | clear _ =>
      refine ⟨hphases, h.caps, h.nonneg, ?_⟩
      intro hfunded other hother
      obtain ⟨task, htask, rfl⟩ := List.mem_map.mp hother
      obtain ⟨rest, own, hroom⟩ := h.room hfunded task htask
      refine ⟨rest, own, ?_⟩
      unfold Task.cleared
      split
      · next entry kept hphase => exact hroom.goOn (by rw [hphase]; rfl)
      · exact hroom
  | refresh | debit => exact ⟨hphases, h.caps, h.nonneg, h.room⟩
  | @exitUpdate key position before hbefore hshrinks hnonneg =>
      have hmem : (key, before) ∈ engine.ledger.entries := Dict.get?_eq_some_iff.mp hbefore
      have hkey : key ∈ engine.ledger.entries.map Prod.fst := List.mem_map_of_mem hmem
      have hevery : ∀ e ∈ engine.ledger.entries, e.1 = key → Shrinks position e.2 := by
        rintro ⟨_, row⟩ he rfl
        have hrow := Dict.get?_eq_some_iff.mpr he
        rw [hbefore, Option.some_inj] at hrow
        exact hrow ▸ hshrinks
      have hentries : (engine.ledger.set key position).entries =
          Dict.rewrite key position engine.ledger.entries := by
        rw [Dict.entries_set, if_pos hkey]
      have hle : List.SublistForall₂ Shrinks (engine.ledger.set key position).values
          engine.ledger.values := by
        rw [Dict.values, hentries]
        exact shrinks_rewrite hevery
      refine ⟨hphases, h.caps.shrink hle h.nonneg, ?_, ?_⟩
      · intro row hrow
        obtain ⟨e, he, rfl⟩ := List.mem_map.mp hrow
        rcases Dict.mem_entries_set he with rfl | he
        · exact hnonneg
        · exact h.nonneg e.2 (List.mem_map_of_mem he)
      · intro hfunded task htask
        obtain ⟨rest, own, hroom⟩ := h.room hfunded task htask
        exact room_exitUpdate hroom hevery hkey hnonneg
  | @exitRemove key =>
      have hsub : (engine.ledger.erase key).values.Sublist engine.ledger.values :=
        List.filter_sublist.map _
      refine ⟨hphases, h.caps.shrink hsub.sublistForall₂ h.nonneg, ?_, ?_⟩
      · exact fun row hrow => h.nonneg row (hsub.subset hrow)
      · intro hfunded task htask
        obtain ⟨rest, own, hroom⟩ := h.room hfunded task htask
        exact room_exitRemove key hroom

/-- **The exposure caps hold**: from a ledger within the caps, every run in which fills stay within
the plans of their entries keeps the ledger within the caps. -/
theorem exposure_capped {ledger : PositionLedger} {balanceCache debits : Lib.Dict String Dec}
    (hcaps : WithinCaps settings.limits ledger.values)
    (hnonneg : ∀ position ∈ ledger.values, NonnegCost position) {hist : List Engine}
    (h : Run (Engine.step settings) FillsWithin (start ledger balanceCache debits) hist engine) :
    WithinCaps settings.limits engine.ledger.values := by
  have hstart : (start ledger balanceCache debits).Capped settings :=
    ⟨phases_start ledger balanceCache debits, hcaps, hnonneg, fun _ _ htask => nomatch htask⟩
  have hcapped : engine.Capped settings :=
    h.state_invariant (Engine.Capped settings) hstart
      fun _ _ _ hcapped hok hstep => hcapped.step hok (steps_of_step hstep)
  exact hcapped.caps

/-! ## Runs -/

instance (capital : Dec) (result : EntryLegResult) : Decidable (FillWithin capital result) :=
  inferInstanceAs (Decidable (∀ report ∈ result.report, _ ∧ _ ∧ _))

instance (entry : PreparedEntry) (results : EntryResults) :
    Decidable (ResultsWithin entry results) :=
  decidable_of_iff
    (FillWithin entry.signal.plan.polymarketCapitalUsd results.first ∧
      FillWithin entry.signal.plan.predictFunCapitalUsd results.second ∧
      (Dec.Exact (Router.filledAmount results.first - Router.filledAmount results.second) ∧
        Dec.Exact (Router.filledAmount results.second - Router.filledAmount results.first)) ∧
      (0 ≤ results.unwound.first ∧ 0 ≤ results.unwound.second))
    ⟨fun h => ⟨h.1, h.2.1, h.2.2.1, h.2.2.2⟩,
      fun h => ⟨h.first, h.second, h.difference, h.unwound⟩⟩

instance : ∀ (engine : Engine) (event : Event), Decidable (FillsWithin engine event)
  | engine, .settle i results =>
      inferInstanceAs (Decidable (∀ task ∈ engine.tasks[i]?, ∀ entry ∈ task.phase.entry?,
        ResultsWithin entry results))
  | _, .admitSignal _ _ | _, .prepare _ _ | _, .reserve _ | _, .reservationSaved _ _
  | _, .saveEntryPending _ | _, .removeEntry _ | _, .giveUp _ | _, .release _
  | _, .releaseSaved _ _ | _, .clear | _, .refresh _ _ | _, .debit _ _ | _, .exitUpdate _ _
  | _, .exitRemove _ => inferInstanceAs (Decidable True)

/-- A complete fill at a price. -/
def filledAt (contracts price : Dec) : EntryLegResult where
  orderId := "o"
  report := some
    { orderId := "o"
      status := .filled
      amountRequested := contracts
      amountFilled := contracts
      remainingAmount := 0
      avgPrice := price }
  error := none

/-- A ledger without positions is within caps that are not negative. -/
theorem withinCaps_empty {limits : RiskLimits}
    (htotal : 0 ≤ Dec.add limits.maxTotalNotionalUsd riskUsdEpsilon)
    (hvenue : 0 ≤ Dec.add limits.maxVenueExposureUsd riskUsdEpsilon)
    (hmarkets : 0 ≤ limits.maxOpenPositions) :
    WithinCaps limits (Dict.empty : PositionLedger).values where
  total := htotal
  venue := fun _ => hvenue
  markets := hmarkets
  distinct := List.nodup_nil

/-- Both legs of an entry fill at their limits. -/
theorem exposure_capped_filled : ∃ hist engine,
    Run (Engine.step sampleSettings) FillsWithin (start .empty .empty .empty) hist engine ∧
      totalNotional engine.ledger.values = 9 ∧
      WithinCaps sampleSettings.limits engine.ledger.values := by
  have hsome : (exec (Engine.step sampleSettings) FillsWithin (start .empty .empty .empty)
      (upToReservation ++ [.reservationSaved 0 true, .saveEntryPending 0,
        .settle 0 ⟨filledAt 10 (2 / 5), filledAt 10 (1 / 2), {}⟩])).any
      (fun engine => totalNotional engine.ledger.values = 9) = true := by decide +kernel
  obtain ⟨engine, hexec, htotal⟩ := (Option.any_eq_true _ _).mp hsome
  obtain ⟨hist, hrun⟩ := Run.of_exec hexec
  have hcaps : WithinCaps sampleSettings.limits (Dict.empty : PositionLedger).values :=
    withinCaps_empty (by decide +kernel) (by decide +kernel) (by decide +kernel)
  exact ⟨hist, engine, hrun, of_decide_eq_true htotal,
    exposure_capped hcaps (fun _ hposition => nomatch hposition) hrun⟩

/-- A fill of at most the requested contracts at most at the limit price. -/
def FillRequested (contracts limit : Dec) (result : EntryLegResult) : Prop :=
  ∀ report ∈ result.report, 0 ≤ report.amountFilled ∧ report.amountFilled ≤ contracts ∧
    report.avgPrice ≤ limit

/-- The condition on fills that speaks of contracts and prices alone. -/
def FillsRequested (engine : Engine) : Event → Prop
  | .settle i results => ∀ task ∈ engine.tasks[i]?, ∀ entry ∈ task.phase.entry?,
      FillRequested entry.signal.plan.polymarketContracts entry.signal.polymarketPrice
        results.first ∧
      FillRequested entry.signal.plan.predictFunContracts entry.signal.predictFunPrice
        results.second
  | _ => True

instance (contracts limit : Dec) (result : EntryLegResult) :
    Decidable (FillRequested contracts limit result) :=
  inferInstanceAs (Decidable (∀ report ∈ result.report, _ ∧ _ ∧ _))

instance : ∀ (engine : Engine) (event : Event), Decidable (FillsRequested engine event)
  | engine, .settle i results =>
      inferInstanceAs (Decidable (∀ task ∈ engine.tasks[i]?, ∀ entry ∈ task.phase.entry?,
        FillRequested _ _ results.first ∧ FillRequested _ _ results.second))
  | _, .admitSignal _ _ | _, .prepare _ _ | _, .reserve _ | _, .reservationSaved _ _
  | _, .saveEntryPending _ | _, .removeEntry _ | _, .giveUp _ | _, .release _
  | _, .releaseSaved _ _ | _, .clear | _, .refresh _ _ | _, .debit _ _ | _, .exitUpdate _ _
  | _, .exitRemove _ => inferInstanceAs (Decidable True)

/-- The second leg is signed for a stake: ten contracts at the best ask of 0.48, with a limit of
0.50. -/
def stakeSignal : EntrySignal where
  market := { sampleMarket with venueBLabel := "SX Bet" }
  plan :=
    { polymarketContracts := 10
      polymarketCapitalUsd := 4
      predictFunContracts := 10
      predictFunCapitalUsd := 24 / 5
      totalCostUsd := 44 / 5 }
  fixedChainCostUsd := 0
  polymarketPrice := 2 / 5
  predictFunPrice := 1 / 2

def stakeEntry : PreparedEntry where
  signal := stakeSignal
  allInCostUsd := 44 / 5
  capital_nonneg := by decide +kernel
  fee_nonneg := by decide +kernel

/-- The entry takes all that the cap leaves. -/
def stakeSettings : Settings where
  limits := { sampleSettings.limits with maxTotalNotionalUsd := 44 / 5 }
  submitsOrders := true

/-- A fill with 27 decimals, and the smallest of the other leg. -/
def roundedFills : EntryResults where
  first := filledAt (1 + 3 / 10 ^ 27) 1
  second := filledAt (3 / (2 * 10 ^ 27)) (2 / 5)
  unwound := {}

def roundedEntry : PreparedEntry where
  signal :=
    { market := sampleMarket
      plan :=
        { polymarketContracts := 1 + 3 / 10 ^ 27
          polymarketCapitalUsd := 1 + 3 / 10 ^ 27
          predictFunContracts := 1
          predictFunCapitalUsd := 2 / 5
          totalCostUsd := 7 / 5 + 3 / 10 ^ 27 }
      fixedChainCostUsd := 0
      polymarketPrice := 1
      predictFunPrice := 2 / 5 }
  allInCostUsd := 7 / 5 + 3 / 10 ^ 27
  capital_nonneg := by decide +kernel
  fee_nonneg := by decide +kernel

/-- The first leg takes all that the cap of its venue leaves. -/
def roundedSettings : Settings where
  limits := { sampleSettings.limits with maxVenueExposureUsd := 1 + 3 / 10 ^ 27 - riskUsdEpsilon }
  submitsOrders := true

/-- **Requested contracts at their limits may cost more than a stake**, and more than the cap; and
where the context rounds the difference of the fills, the ledger holds more than was filled. -/
theorem requested_fills_exceed_caps :
    (∃ hist engine,
      Run (Engine.step stakeSettings) FillsRequested (start .empty .empty .empty) hist engine ∧
        ¬ WithinCaps stakeSettings.limits engine.ledger.values) ∧
    ∃ hist engine,
      Run (Engine.step roundedSettings) FillsRequested (start .empty .empty .empty) hist engine ∧
        ¬ WithinCaps roundedSettings.limits engine.ledger.values := by
  have hstake : (exec (Engine.step stakeSettings) FillsRequested (start .empty .empty .empty)
      [.refresh "Polymarket" 100, .refresh "SX Bet" 100, .admitSignal .polymarketSx stakeSignal,
        .prepare 0 stakeEntry, .reserve 0, .reservationSaved 0 true, .saveEntryPending 0,
        .settle 0 ⟨filledAt 10 (2 / 5), filledAt 10 (1 / 2), {}⟩]).any
      (fun engine => Dec.add stakeSettings.limits.maxTotalNotionalUsd riskUsdEpsilon <
        totalNotional engine.ledger.values) = true := by decide +kernel
  have hrounded : (exec (Engine.step roundedSettings) FillsRequested (start .empty .empty .empty)
      [.refresh "Polymarket" 100, .refresh "Predict.fun" 100,
        .admitSignal .polymarketPredict roundedEntry.signal, .prepare 0 roundedEntry, .reserve 0,
        .reservationSaved 0 true, .saveEntryPending 0, .settle 0 roundedFills]).any
      (fun engine => Dec.add roundedSettings.limits.maxVenueExposureUsd riskUsdEpsilon <
        amountOf (venueExposure engine.ledger.values) "Polymarket") = true := by decide +kernel
  constructor
  · obtain ⟨engine, hexec, hover⟩ := (Option.any_eq_true _ _).mp hstake
    obtain ⟨hist, hrun⟩ := Run.of_exec hexec
    exact ⟨hist, engine, hrun, fun hcaps => not_lt.mpr hcaps.total (of_decide_eq_true hover)⟩
  · obtain ⟨engine, hexec, hover⟩ := (Option.any_eq_true _ _).mp hrounded
    obtain ⟨hist, hrun⟩ := Run.of_exec hexec
    exact ⟨hist, engine, hrun, fun hcaps => not_lt.mpr (hcaps.venue _) (of_decide_eq_true hover)⟩

/-! ## Where the rows come from -/

section Books

variable {ledger : PositionLedger} {router : Router} {answers : SettleAnswers}
  {signal : ArbitrageSignal} {results : EntryResults}

end Books

end Engine

end ArbitrageEngine.Execution.SignalHandling
