/-
# ArbitrageEngine.Reconciliation.StoredResiduals -- two writers of one position

Reconciliation stores the residual exposure of an exit order by merging a snapshot into the row of
the position.  Execution and settlement save whole positions, computed from the copy they took from
the ledger, and reconciliation never refreshes the ledger.  So a save can put back a copy from before
the merge.

What is proved: where every save starts from a copy that covers the row, what reconciliation stored
stays.  What is not true is that the program sees to it.
-/
import ArbitrageEngine.Execution.Entry
import ArbitrageEngine.Execution.ResidualMerge
import ArbitrageEngine.Execution.SalesLog
import ArbitrageEngine.Lib.Runs

namespace ArbitrageEngine.Reconciliation

open Execution Lib.Runs

/-! ## What a booking does to the records -/

variable {position copy row updated : OpenPosition} {venue : String}
  {snapshot : ResidualExitSnapshot}

/-- The record a position has of an order of one of its legs. -/
def residualRecord (position : OpenPosition) (leg : Leg) (venueOrderId : String) :
    Option ResidualExitSnapshot :=
  (legAccount position leg).record venueOrderId

/-- `new` has closed no less than `old` and has no less residual exposure. -/
def AtLeast (old new : ResidualExitSnapshot) : Prop :=
  old.closedContracts ≤ new.closedContracts ∧ old.residualContracts ≤ new.residualContracts

instance (old new : ResidualExitSnapshot) : Decidable (AtLeast old new) :=
  inferInstanceAs (Decidable (_ ∧ _))

theorem AtLeast.refl (snapshot : ResidualExitSnapshot) : AtLeast snapshot snapshot :=
  ⟨le_rfl, le_rfl⟩

theorem AtLeast.trans {a b c : ResidualExitSnapshot} (hab : AtLeast a b) (hbc : AtLeast b c) :
    AtLeast a c :=
  ⟨hab.1.trans hbc.1, hab.2.trans hbc.2⟩

/-- `copy` has every residual record of `row`, and none of them is smaller. -/
def Covers (copy row : OpenPosition) : Prop :=
  ∀ leg venueOrderId record, residualRecord row leg venueOrderId = some record →
    ∃ own, residualRecord copy leg venueOrderId = some own ∧ AtLeast record own

theorem Covers.refl (position : OpenPosition) : Covers position position :=
  fun _ _ record h => ⟨record, h, AtLeast.refl record⟩

theorem Covers.trans {a b c : OpenPosition} (hab : Covers a b) (hbc : Covers b c) : Covers a c := by
  intro leg venueOrderId record h
  obtain ⟨middle, hmiddle, hle⟩ := hbc leg venueOrderId record h
  obtain ⟨own, hown, hle'⟩ := hab leg venueOrderId middle hmiddle
  exact ⟨own, hown, hle.trans hle'⟩

theorem covers_of_residual_eq (h : ∀ leg, (legAccount updated leg).residual =
    (legAccount copy leg).residual) : Covers updated copy := by
  intro leg venueOrderId record hrecord
  refine ⟨record, ?_, AtLeast.refl record⟩
  unfold residualRecord LegAccount.record at hrecord ⊢
  rw [h leg]
  exact hrecord

/-- Where the position has a record of the order, the snapshot is stale or no smaller.  The code
tolerates a total that shrinks by less than its tolerance while another one grows. -/
def Advances (position : OpenPosition) (venue : String) (snapshot : ResidualExitSnapshot) : Prop :=
  ∀ leg record, legOf position.market venue = some leg →
    residualRecord position leg snapshot.venueOrderId = some record →
    noneGrew record snapshot = true ∨ AtLeast record snapshot

/-- What `apply_to_leg` does to the records of a leg: nothing, a new record, or a replaced one. -/
theorem applyToLeg_records {account : LegAccount} {booked : BookedLeg}
    (h : applyToLeg account snapshot = .ok booked) :
    (∃ old, account.record snapshot.venueOrderId = some old ∧ noneGrew old snapshot = true ∧
        booked.residual.snapshots = account.residual.snapshots) ∨
      (account.record snapshot.venueOrderId = none ∧
        booked.residual.snapshots = account.residual.snapshots ++ [snapshot]) ∨
      ∃ old, account.record snapshot.venueOrderId = some old ∧ noneGrew old snapshot = false ∧
        booked.residual.snapshots = Lib.Keyed.replace ResidualExitSnapshot.venueOrderId snapshot
          account.residual.snapshots := by
  have hbook : ∀ {a b c : Dec} {snapshots : List ResidualExitSnapshot},
      bookDelta account snapshot a b c snapshots = .ok booked →
        booked.residual.snapshots = snapshots := by
    intro a b c snapshots hok
    unfold bookDelta at hok
    split at hok
    · cases hok
    · cases hok
      rfl
  unfold applyToLeg at h
  cases hfind : account.residual.snapshots.find?
      (fun item => item.venueOrderId = snapshot.venueOrderId) with
  | none =>
      simp only [hfind] at h
      split at h
      · cases h
      · exact .inr (.inl ⟨hfind, hbook h⟩)
  | some old =>
      simp only [hfind] at h
      split at h
      · cases h
      · split at h
        · next hnone =>
            cases h
            exact .inl ⟨old, hfind, hnone, rfl⟩
        · next hgrew =>
            split at h
            · cases h
            · split at h
              · cases h
              · exact .inr (.inr ⟨old, hfind, Bool.not_eq_true _ ▸ hgrew, hbook h⟩)

/-- A booking of a snapshot that advances covers the position. -/
theorem covers_applyResidualExitSnapshot
    (h : applyResidualExitSnapshot position venue snapshot = .ok updated)
    (hadvances : Advances position venue snapshot) : Covers updated position := by
  obtain ⟨leg, booked, hleg, happly, rfl⟩ := applyResidualExitSnapshot_ok h
  intro other venueOrderId record hrecord
  by_cases hother : other = leg
  · subst hother
    have hsnapshots : (legAccount (bookLeg position other booked) other).residual =
        booked.residual := by
      rw [legAccount_bookLeg_self]
      rfl
    unfold residualRecord LegAccount.record at hrecord ⊢
    rw [hsnapshots]
    rcases applyToLeg_records happly with
      ⟨old, hold, _, hsame⟩ | ⟨hnone, hnew⟩ | ⟨old, hold, hgrew, hreplaced⟩
    · rw [hsame]
      exact ⟨record, hrecord, AtLeast.refl record⟩
    · rw [hnew, Lib.Keyed.lookup_append_singleton, hrecord]
      exact ⟨record, rfl, AtLeast.refl record⟩
    · rw [hreplaced, Lib.Keyed.lookup_replace]
      split
      · next hid =>
          rw [hrecord]
          refine ⟨snapshot, rfl, ?_⟩
          subst hid
          rcases hadvances other record hleg hrecord with hstale | hle
          · have heq : old = record := Option.some.inj (hold.symm.trans hrecord)
            rw [heq, hstale] at hgrew
            cases hgrew
          · exact hle
      · exact ⟨record, hrecord, AtLeast.refl record⟩
  · refine ⟨record, ?_, AtLeast.refl record⟩
    unfold residualRecord at hrecord ⊢
    rw [legAccount_bookLeg_of_ne hother]
    exact hrecord

/-- A leg has one venue. -/
theorem legOf_inj {market : MarketSpec} {first second : String} {leg : Leg}
    (hfirst : legOf market first = some leg) (hsecond : legOf market second = some leg) :
    first = second := by
  unfold legOf at hfirst hsecond
  grind

theorem label_first_ne_second (router : Router) : router.label .first ≠ router.label .second := by
  obtain ⟨route, _⟩ := router
  show route.venueLabels.1 ≠ route.venueLabels.2
  cases route <;> decide

/-! ## Writes -/

/-- The snapshot an exit result books. -/
def resultSnapshot (result : ExitLegResult) : Option ResidualExitSnapshot :=
  match result.error with
  | some (.residual report residualContracts) => (residualSnapshot report residualContracts).toOption
  | _ => none

/-- What execution and settlement compute from a copy of a position before they save it. -/
inductive PositionWrite
  /-- `_close_position_legs`. -/
  | close (router : Router) (config : Config) (first second : ExitLegResult)
      (firstPrice secondPrice : Dec)
  /-- `retry_pending_unwind`, with unmatched contracts left. -/
  | unwind (firstFilled secondFilled : Dec)
  /-- `retry_pending_unwind`, with none left. -/
  | rematch (firstFilled secondFilled : Dec)
  /-- `_manual_review` of the settlement. -/
  | review

/-- The position that is saved. -/
def PositionWrite.apply (copy : OpenPosition) : PositionWrite → Except Exc OpenPosition
  | .close router config first second firstPrice secondPrice =>
      router.bookClose config copy first second firstPrice secondPrice
  | .unwind firstFilled secondFilled => .ok (Router.afterUnwind copy firstFilled secondFilled)
  | .rematch firstFilled secondFilled =>
      .ok (Router.matchedPosition (Router.afterUnwind copy firstFilled secondFilled))
  | .review => .ok { copy with status := "manual_review" }

/-- The snapshots a write books are stale in the copy or no smaller than its records. -/
def PositionWrite.Advances (copy : OpenPosition) : PositionWrite → Prop
  | .close router _ first second _ _ =>
      (∀ snapshot, resultSnapshot first = some snapshot →
        Reconciliation.Advances copy (router.label .first) snapshot) ∧
      ∀ snapshot, resultSnapshot second = some snapshot →
        Reconciliation.Advances copy (router.label .second) snapshot
  | _ => True

theorem afterClose_residual {router : Router} {config : Config} {first second : ExitLegResult}
    {firstPrice secondPrice : Dec}
    (h : router.afterClose config copy first second firstPrice secondPrice = .ok updated) :
    updated.market = copy.market ∧
      ∀ leg, (legAccount updated leg).residual = (legAccount copy leg).residual := by
  unfold Router.afterClose at h
  simp only [bind, Except.bind] at h
  split at h
  · cases h
  · split at h
    · cases h
    · cases h
      refine ⟨rfl, fun leg => ?_⟩
      cases leg <;> rfl

/-- What `_close_position_legs` books of one result: its residual exposure, if it is one. -/
theorem bookResidual_ok {router : Router} {leg : Leg} {result : ExitLegResult}
    (h : router.bookResidual leg result position = .ok updated) :
    ((∀ report residual, result.error ≠ some (.residual report residual)) ∧ updated = position) ∨
      ∃ report residual snapshot, result.error = some (.residual report residual) ∧
        residualSnapshot report residual = .ok snapshot ∧
        applyResidualExitSnapshot position (router.label leg) snapshot = .ok updated := by
  unfold Router.bookResidual at h
  match herror : result.error with
  | some (.residual report residual) =>
      simp only [herror] at h
      cases hsnapshot : residualSnapshot report residual with
      | error exc =>
          rw [hsnapshot] at h
          cases h
      | ok snapshot =>
          rw [hsnapshot] at h
          exact .inr ⟨report, residual, snapshot, rfl, hsnapshot, h⟩
  | none | some .cancelled | some (.rejected _) | some .transactionTimeout | some (.failed _) =>
      simp only [herror] at h
      cases h
      refine .inl ⟨fun _ _ heq => ?_, rfl⟩
      cases heq

/-- Booking a result concerns the leg of its venue. -/
theorem bookResidual_other {router : Router} {leg : Leg} {result : ExitLegResult}
    (h : router.bookResidual leg result position = .ok updated) :
    updated.market = position.market ∧
      ∀ other, legOf position.market (router.label leg) ≠ some other →
        legAccount updated other = legAccount position other ∧
          (SettledLeg position other → SettledLeg updated other) := by
  rcases bookResidual_ok h with ⟨_, rfl⟩ | ⟨_, _, snapshot, _, _, happly⟩
  · exact ⟨rfl, fun _ _ => ⟨rfl, id⟩⟩
  · obtain ⟨booked, account, hleg, _, rfl⟩ := applyResidualExitSnapshot_ok happly
    refine ⟨bookLeg_market position booked account, fun other hother => ?_⟩
    have hne : other ≠ booked := fun heq => hother (hleg.trans (congrArg some heq.symm))
    exact ⟨legAccount_bookLeg_of_ne hne account, fun hsettled => hsettled.of_other hne account⟩

theorem bookResidual_covers {router : Router} {leg : Leg} {result : ExitLegResult}
    (h : router.bookResidual leg result position = .ok updated)
    (hadvances : ∀ snapshot, resultSnapshot result = some snapshot →
      Advances position (router.label leg) snapshot) : Covers updated position := by
  rcases bookResidual_ok h with ⟨_, rfl⟩ | ⟨_, _, snapshot, herror, hsnapshot, happly⟩
  · exact Covers.refl _
  · refine covers_applyResidualExitSnapshot happly (hadvances snapshot ?_)
    unfold resultSnapshot
    rw [herror]
    simp only [hsnapshot]
    rfl

/-- The three steps of `bookClose`. -/
theorem bookClose_ok {router : Router} {config : Config} {first second : ExitLegResult}
    {firstPrice secondPrice : Dec}
    (h : router.bookClose config copy first second firstPrice secondPrice = .ok updated) :
    ∃ closed booked, router.afterClose config copy first second firstPrice secondPrice = .ok closed ∧
      router.bookResidual .first first closed = .ok booked ∧
      router.bookResidual .second second booked = .ok updated := by
  simp only [Router.bookClose, bind, Except.bind] at h
  split at h
  · cases h
  · next closed hclosed =>
      split at h
      · cases h
      · next booked hbooked => exact ⟨closed, booked, hclosed, hbooked, h⟩

/-- Two legs of a router are booked in different legs of a position. -/
theorem legOf_ne {market : MarketSpec} {router : Router} {side other leg : Leg}
    (hside : side ≠ other) (h : legOf market (router.label side) = some leg) :
    legOf market (router.label other) ≠ some leg := by
  intro hother
  have hlabel := legOf_inj h hother
  have hne := label_first_ne_second router
  cases side <;> cases other
  · exact hside rfl
  · exact hne hlabel
  · exact hne hlabel.symm
  · exact hside rfl

/-- **Writes keep the records.**  What a write saves covers the copy it starts from, and belongs to
the same market. -/
theorem write_covers {write : PositionWrite} (h : write.apply copy = .ok updated)
    (hadvances : write.Advances copy) : updated.market = copy.market ∧ Covers updated copy := by
  cases write with
  | unwind firstFilled secondFilled =>
      cases h
      exact ⟨rfl, covers_of_residual_eq fun leg => by cases leg <;> rfl⟩
  | rematch firstFilled secondFilled =>
      cases h
      exact ⟨rfl, covers_of_residual_eq fun leg => by cases leg <;> rfl⟩
  | review =>
      cases h
      exact ⟨rfl, covers_of_residual_eq fun leg => by cases leg <;> rfl⟩
  | close router config first second firstPrice secondPrice =>
      obtain ⟨hfirst, hsecond⟩ := hadvances
      obtain ⟨closed, booked, hclosed, hbooked, h⟩ := bookClose_ok h
      obtain ⟨hmarket, hresidual⟩ := afterClose_residual hclosed
      have hrecords : ∀ leg venueOrderId, residualRecord closed leg venueOrderId =
          residualRecord copy leg venueOrderId := by
        intro leg venueOrderId
        unfold residualRecord LegAccount.record
        rw [hresidual leg]
      have hcovers := bookResidual_covers hbooked fun snapshot hs leg record hleg hrecord =>
        hfirst snapshot hs leg record (hmarket ▸ hleg) (hrecords leg _ ▸ hrecord)
      obtain ⟨hmarket₁, hothers⟩ := bookResidual_other hbooked
      have hcovers₂ := bookResidual_covers h fun snapshot hs leg record hleg hrecord => by
        -- booking the first leg left the records of this one alone
        rw [hmarket₁] at hleg
        have hsame := (hothers leg (legOf_ne (by decide) hleg)).1
        refine hsecond snapshot hs leg record (hmarket ▸ hleg) ?_
        rw [← hrecords, ← hrecord]
        unfold residualRecord
        rw [hsame]
      exact ⟨(bookResidual_other h).1.trans (hmarket₁.trans hmarket),
        (hcovers₂.trans hcovers).trans (covers_of_residual_eq hresidual)⟩

/-! ### What the routers write -/

variable (copy) in
/-! ## The store -/

/-- What reconciliation has stored of an order of a leg. -/
structure StoredRecord where
  key : String
  leg : Leg
  record : ResidualExitSnapshot

/-- The table of positions, the ledger, and the copies that are on the way between them. -/
structure PositionStore where
  positions : Lib.Dict String OpenPosition
  ledger : PositionLedger
  /-- The copies that running tasks took from the ledger. -/
  held : List OpenPosition := []
  /-- The positions that are saved and not in the ledger yet. -/
  unlisted : List OpenPosition := []
  /-- The program has no such log: the records reconciliation has stored, of positions that no
  operator has removed. -/
  stored : List StoredRecord := []

/-- What `record_residual_exit_exposure` makes of a position: the requested contracts are those of
the intent, the rest is from the report. -/
def positionAfterResidualExit (position : OpenPosition) (venue : String) (requestedContracts : Dec)
    (report : ExecutionReport) (residualContracts : Dec) : Except Exc OpenPosition := do
  let snapshot ← residualSnapshot { report with amountRequested := requestedContracts }
    residualContracts
  applyResidualExitSnapshot position venue snapshot

/-- The positions that an entry creates. -/
inductive EntryWrite
  /-- `_save_entry_pending`. -/
  | pending (signal : ArbitrageSignal)
  /-- `_open_position_from_amounts`, `_save_unwind_pending` and `_save_unpriced_entry_pending`. -/
  | amounts (signal : ArbitrageSignal) (first second : EntryLegResult)
      (firstContracts secondContracts firstPrice secondPrice : Dec) (status : String)
      (unwindAttempts : ℕ) (unmatchedFirst unmatchedSecond : Dec)

/-- The position that is saved. -/
def EntryWrite.saved : EntryWrite → OpenPosition
  | .pending signal => Router.entryPendingPosition signal
  | .amounts signal first second firstContracts secondContracts firstPrice secondPrice status
      unwindAttempts unmatchedFirst unmatchedSecond =>
      { Router.positionFromAmounts signal first second firstContracts secondContracts firstPrice
          secondPrice with
        status := status
        polymarketUnwindAttempts := unwindAttempts
        unmatchedFirstContracts := unmatchedFirst
        unmatchedSecondContracts := unmatchedSecond }

/-- The steps of execution, settlement, reconciliation and the operator. -/
inductive StoreAct
  /-- A task takes a position from the ledger. -/
  | take (key : String)
  /-- `save_position` of what a task computed from its copy. -/
  | save (copy : OpenPosition) (write : PositionWrite)
  /-- `save_position` of an entry. -/
  | enter (write : EntryWrite)
  /-- `PositionLedger.add`, after the save. -/
  | list (position : OpenPosition)
  /-- `remove_position` of execution and settlement. -/
  | remove (key : String)
  /-- `PositionLedger.remove`, after it. -/
  | unlist (key : String)
  /-- `record_residual_exit_exposure`. -/
  | reconcile (key venue : String) (requestedContracts : Dec) (report : ExecutionReport)
      (residualContracts : Dec)
  /-- An operator deletes the row. -/
  | operatorRemoves (key : String)

/-- The records that the row has now of the order of a report. -/
def storedRecord (key venue : String) (report : ExecutionReport) (row : OpenPosition) :
    List StoredRecord :=
  ((legOf row.market venue).bind fun leg =>
    (residualRecord row leg (normalizedOrderId report.orderId)).map fun record =>
      ⟨key, leg, record⟩).toList

/-- One step.  A call that raises leaves the tables as they are. -/
def storeStep (s : PositionStore) : StoreAct → Option PositionStore
  | .take key => (s.ledger.get? key).map fun position => { s with held := position :: s.held }
  | .save copy write =>
      if copy ∈ s.held then
        match write.apply copy with
        | .error _ => some s
        | .ok updated => some
            { s with
              positions := s.positions.set (positionKey copy.market) updated
              unlisted := updated :: s.unlisted }
      else none
  | .enter write => some
      { s with
        positions := s.positions.set (positionKey write.saved.market) write.saved
        unlisted := write.saved :: s.unlisted }
  | .list position =>
      if position ∈ s.unlisted then
        some { s with ledger := s.ledger.add position, unlisted := s.unlisted.erase position }
      else none
  | .remove key => some { s with positions := s.positions.erase key }
  | .unlist key => some { s with ledger := s.ledger.erase key }
  | .reconcile key venue requestedContracts report residualContracts =>
      match s.positions.get? key with
      | none => some s
      | some row =>
          match positionAfterResidualExit row venue requestedContracts report residualContracts with
          | .error _ => some s
          | .ok updated => some
              { s with
                positions := s.positions.set key updated
                stored := storedRecord key venue report updated ++ s.stored }
  | .operatorRemoves key => some
      { s with
        positions := s.positions.erase key
        stored := s.stored.filter fun stored => stored.key ≠ key }

/-- Every record that reconciliation has stored is in the row of its position, or a larger one of
the same order is. -/
def KeepsStored (s : PositionStore) : Prop :=
  ∀ stored ∈ s.stored, ∃ row, s.positions.get? stored.key = some row ∧
    ∃ now, residualRecord row stored.leg stored.record.venueOrderId = some now ∧
      AtLeast stored.record now

instance (s : PositionStore) : Decidable (KeepsStored s) :=
  decidable_of_iff (∀ stored ∈ s.stored, (s.positions.get? stored.key).any fun row =>
      (residualRecord row stored.leg stored.record.venueOrderId).any fun now =>
        AtLeast stored.record now)
    (by simp only [KeepsStored, Option.any_eq_true, decide_eq_true_eq])

/-- The row has no residual record. -/
def Unrecorded (row : OpenPosition) : Prop :=
  ∀ leg venueOrderId, residualRecord row leg venueOrderId = none

/-- The step does not start from an old copy: a save starts from a copy that covers the row, an
entry and a removal find no residual record in it, and no snapshot shrinks within the tolerance. -/
def StartsCurrent (s : PositionStore) : StoreAct → Prop
  | .save copy write => write.Advances copy ∧
      ∀ row, s.positions.get? (positionKey copy.market) = some row → Covers copy row
  | .enter write => ∀ row, s.positions.get? (positionKey write.saved.market) = some row →
      Unrecorded row
  | .remove key => ∀ row, s.positions.get? key = some row → Unrecorded row
  | .reconcile key venue requestedContracts report residualContracts =>
      ∀ row snapshot, s.positions.get? key = some row →
        residualSnapshot { report with amountRequested := requestedContracts } residualContracts =
          .ok snapshot → Advances row venue snapshot
  | _ => True

variable {s s' : PositionStore} {act : StoreAct} {key : String}

/-- A row without records has nothing that reconciliation stored. -/
theorem key_ne_of_unrecorded (h : KeepsStored s)
    (hrow : ∀ row, s.positions.get? key = some row → Unrecorded row) {stored : StoredRecord}
    (hmem : stored ∈ s.stored) : stored.key ≠ key := by
  intro heq
  obtain ⟨row, hget, now, hnow, _⟩ := h stored hmem
  rw [heq] at hget
  rw [hrow row hget] at hnow
  cases hnow

/-- Writing a row that covers the one before keeps what is stored. -/
theorem keepsStored_set (h : KeepsStored s)
    (hcovers : ∀ row, s.positions.get? key = some row → Covers updated row) {stored : StoredRecord}
    (hmem : stored ∈ s.stored) :
    ∃ row, (s.positions.set key updated).get? stored.key = some row ∧
      ∃ now, residualRecord row stored.leg stored.record.venueOrderId = some now ∧
        AtLeast stored.record now := by
  obtain ⟨row, hget, now, hnow, hle⟩ := h stored hmem
  by_cases heq : stored.key = key
  · rw [heq] at hget ⊢
    obtain ⟨own, hown, hle'⟩ := hcovers row hget _ _ _ hnow
    exact ⟨updated, Lib.Dict.get?_set_self _ _ _, own, hown, hle.trans hle'⟩
  · exact ⟨row, (Lib.Dict.get?_set_of_ne _ heq _).trans hget, now, hnow, hle⟩

theorem keepsStored_erase {stored : StoredRecord} (h : KeepsStored s) (hmem : stored ∈ s.stored)
    (hne : stored.key ≠ key) :
    ∃ row, (s.positions.erase key).get? stored.key = some row ∧
      ∃ now, residualRecord row stored.leg stored.record.venueOrderId = some now ∧
        AtLeast stored.record now := by
  obtain ⟨row, hget, hnow⟩ := h stored hmem
  exact ⟨row, (Lib.Dict.get?_erase_of_ne _ hne).trans hget, hnow⟩

/-- **One step.**  A step that does not start from an old copy keeps what is stored. -/
theorem keepsStored_step (h : KeepsStored s) (hcurrent : StartsCurrent s act)
    (hstep : storeStep s act = some s') : KeepsStored s' := by
  cases act with
  | take key =>
      obtain ⟨position, _, rfl⟩ := Option.map_eq_some_iff.mp hstep
      exact h
  | save copy write =>
      simp only [storeStep] at hstep
      split at hstep
      · split at hstep
        · cases hstep
          exact h
        · next updated happly =>
            cases hstep
            obtain ⟨hadvances, hcovers⟩ := hcurrent
            have hupdated := (write_covers happly hadvances).2
            exact fun stored hmem =>
              keepsStored_set h (fun row hrow => hupdated.trans (hcovers row hrow)) hmem
      · cases hstep
  | enter write =>
      cases hstep
      refine fun stored hmem => keepsStored_set h (fun row hrow => ?_) hmem
      intro leg venueOrderId record hrecord
      rw [hcurrent row hrow] at hrecord
      cases hrecord
  | list position =>
      simp only [storeStep] at hstep
      split at hstep
      · cases hstep
        exact h
      · cases hstep
  | remove key =>
      cases hstep
      exact fun stored hmem => keepsStored_erase h hmem (key_ne_of_unrecorded h hcurrent hmem)
  | unlist key =>
      cases hstep
      exact h
  | operatorRemoves key =>
      cases hstep
      intro stored hmem
      obtain ⟨hmem, hne⟩ := List.mem_filter.mp hmem
      exact keepsStored_erase h hmem (by simpa using hne)
  | reconcile key venue requestedContracts report residualContracts =>
      simp only [storeStep] at hstep
      split at hstep
      · cases hstep
        exact h
      · next row hrow =>
          split at hstep
          · cases hstep
            exact h
          · next updated hbooked =>
              cases hstep
              cases hsnapshot : residualSnapshot
                  { report with amountRequested := requestedContracts } residualContracts with
              | error exc =>
                  rw [positionAfterResidualExit, hsnapshot] at hbooked
                  cases hbooked
              | ok snapshot =>
                  rw [positionAfterResidualExit, hsnapshot] at hbooked
                  have hcovers := covers_applyResidualExitSnapshot hbooked
                    (hcurrent row snapshot hrow hsnapshot)
                  intro stored hmem
                  rcases List.mem_append.mp hmem with hnew | hold
                  · obtain ⟨leg, _, hrecord⟩ := Option.bind_eq_some_iff.mp
                      (Option.mem_toList.mp hnew)
                    obtain ⟨record, hfound, rfl⟩ := Option.map_eq_some_iff.mp hrecord
                    refine ⟨updated, Lib.Dict.get?_set_self _ _ _, record, ?_, AtLeast.refl record⟩
                    have hid := Lib.Keyed.key_of_lookup _ hfound
                    exact hid ▸ hfound
                  · refine keepsStored_set h (fun old hgot => ?_) hold
                    rw [hrow, Option.some.injEq] at hgot
                    exact hgot ▸ hcovers

/-- A position on Polymarket and SX Bet whose first leg is closed. -/
def halfClosed : OpenPosition where
  market :=
    { symbol := "BTC"
      targetLabel := "up"
      polymarketTokenId := "first-token"
      polymarketSide := .yes
      predictFunTokenId := "second-token"
      predictFunSide := .no
      venueBLabel := "SX Bet" }
  polymarketContracts := 4
  polymarketEntryPrice := 1 / 2
  predictFunContracts := 4
  predictFunEntryPrice := 1 / 2
  polymarketOrderId := "entry-a"
  predictFunOrderId := "entry-b"
  status := "partial_exit_pending"
  polymarketClosed := true
  polymarketClosedContracts := 4
  polymarketExitProceedsUsd := 2

/-- The position is in the table and in the ledger. -/
def halfClosedStore : PositionStore where
  positions := (Lib.Dict.empty : Lib.Dict String OpenPosition).set
    (positionKey halfClosed.market) halfClosed
  ledger := PositionLedger.add Lib.Dict.empty halfClosed

/-- The venue reports three contracts closed and one exposed on the other side. -/
def residualSale : StoreAct :=
  .reconcile (positionKey halfClosed.market) "SX Bet" 4 ⟨"exit-b", .filled, 4, 3, 1, 1 / 2⟩ 1

/-- The next attempt to close the second leg, of which the venue reports nothing filled. -/
def emptyRetry : PositionWrite :=
  .close ⟨.polymarketSx, true⟩
    { autoCloseEnabled := true
      exitSpreadPct := 1 / 100
      submitsOrders := true
      polymarketTradingFeePct := 0
      predictFunFeeRateBps := 0
      sxBetTakerFeeBps := 0
      myriadTradingFeePct := 0
      floatText := id
      unwindPrice := id }
    ⟨"already-closed", none, none⟩ ⟨"exit-c", some ⟨"exit-c", .cancelled, 4, 0, 4, 0⟩, none⟩
    (1 / 2) (1 / 2)

theorem residualSale_startsCurrent : StartsCurrent halfClosedStore residualSale := by
  intro row snapshot hrow _ leg record _ hrecord
  have heq : row = halfClosed := by
    have hget := Lib.Dict.get?_set_self (Lib.Dict.empty : Lib.Dict String OpenPosition)
      (positionKey halfClosed.market) halfClosed
    exact Option.some.inj (hrow.symm.trans hget)
  rw [heq] at hrecord
  cases leg <;> cases hrecord

end ArbitrageEngine.Reconciliation
