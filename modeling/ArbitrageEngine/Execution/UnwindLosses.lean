/-
# ArbitrageEngine.Execution.UnwindLosses -- which losses of an unwind are recorded

Selling an unmatched leg at once costs money more often than not, and the daily loss stop only knows
of the losses it is told of.  The loss is worked out from the price the leg was bought at, and that
price comes from another place in each of the four cases: the quoted prices of the signal when the
entry is unwound at once; the stored price, through a float, when the unwind of a first leg is
retried; and zero when that of a second leg is.

`LossRecorded` asks that the loss recorded is the one at the price the leg was filled at.  It holds
exactly where `LossKept` does: the sale hands on the fill the venue reported, and the price the
unwind works with makes no difference to the loss.
-/
import ArbitrageEngine.Execution.UnwindConservation

namespace ArbitrageEngine.Execution

open Lib.Effect Lib.Runs

/-! ## The result of a fill -/

/-- What an unwind sold, and the price of it. -/
structure UnwindFill where
  contracts : Dec
  price : Dec

/-- The fill of a report: a report without a price counts at the price that was asked. -/
def unwindFill (requested target : Dec) (report : ExecutionReport) : UnwindFill where
  contracts := min requested report.amountFilled
  price := if report.avgPrice = 0 then target else report.avgPrice

/-- What a fill brings, less what the contracts cost. -/
def unwindResult (config : Config) (venueLabel : String) (market : MarketSpec) (entryPrice : Dec)
    (fill : UnwindFill) : Except Exc Dec :=
  (venueFeePct config venueLabel market).map fun fee =>
    Dec.mul fill.contracts
      (Dec.sub (Dec.mul fill.price (Dec.sub 1 fee)) (Dec.mul entryPrice (Dec.add 1 fee)))

/-- The loss of a fill, where there is one. -/
def lossOf (config : Config) (venueLabel : String) (market : MarketSpec) (entryPrice : Dec)
    (fill : UnwindFill) : List Dec :=
  if fill.contracts ≤ 0 then []
  else
    match unwindResult config venueLabel market entryPrice fill with
    | .ok result => if result < 0 then [result] else []
    | .error _ => []

section Losses

variable {config : Config} {venueLabel : String} {market : MarketSpec} {entryPrice result : Dec}
  {fill : UnwindFill}

theorem lossOf_eq_singleton :
    lossOf config venueLabel market entryPrice fill = [result] ↔
      0 < fill.contracts ∧
        unwindResult config venueLabel market entryPrice fill = .ok result ∧ result < 0 := by
  unfold lossOf
  by_cases hfill : fill.contracts ≤ 0
  · simp [hfill]
  · have hpos : 0 < fill.contracts := not_le.mp hfill
    cases hresult : unwindResult config venueLabel market entryPrice fill with
    | error exc => simp [hfill]
    | ok other =>
        by_cases hother : other < 0
        · simp only [hfill, hother, hpos, if_true, if_false, true_and]
          constructor
          · intro h
            have heq : other = result := by simpa using h
            exact ⟨by rw [heq], heq ▸ hother⟩
          · rintro ⟨h, _⟩
            cases h
            rfl
        · simp only [hfill, hother, if_false]
          constructor
          · intro h
            cases h
          · rintro ⟨_, h, hneg⟩
            cases h
            exact absurd hneg hother

end Losses

/-! ## What an attempt records -/

/-- The report a sale returns. -/
def returnedReport (sale : Effect ExitLegResult) (w : World) : Option ExecutionReport :=
  match sale w with
  | .ok result _ => result.report
  | .error _ _ => none

namespace Router

variable {router : Router} {config : Config} {market : MarketSpec} {leg : Leg}

/-- A loss is in the log before anything can be raised about it. -/
theorem recordLoss_final (pnl : PnlAnswers) (result : Dec) (w : World) :
    finalState (recordLoss pnl result) w = { w with realized := result :: w.realized } := by
  have hrun : (modify fun w => { w with realized := result :: w.realized } : Effect PUnit) w =
      .ok ⟨⟩ { w with realized := result :: w.realized } := rfl
  refine (finalState_of_ok hrun).trans ?_
  cases pnl.recordResult with
  | error exc => rfl
  | ok hardStop =>
      cases hardStop with
      | false => rfl
      | true =>
          cases pnl.sendHtml with
          | ok _ => rfl
          | error _ => rfl

theorem recordUnwindPnl_final (pnl : PnlAnswers) (venueLabel : String) (entryPrice : Dec)
    (fill : UnwindFill) (w : World) :
    finalState (recordUnwindPnl config pnl venueLabel market entryPrice fill.price fill.contracts)
        w =
      { w with
        realized := lossOf config venueLabel market entryPrice fill ++ w.realized } := by
  unfold recordUnwindPnl lossOf
  split
  · rfl
  · unfold unwindResult
    cases venueFeePct config venueLabel market with
    | error exc => rfl
    | ok fee =>
        show finalState (whenever _ (recordLoss pnl _)) w = _
        unfold whenever Except.map
        dsimp only
        split
        · exact recordLoss_final pnl _ w
        · rfl

/-- The sale of an attempt at this best bid. -/
def attemptSale (router : Router) (config : Config) (answers : LegAnswers) (market : MarketSpec)
    (leg : Leg) (pending bid : Dec) : Effect ExitLegResult :=
  router.submitExitLeg answers.sell
    (router.exitLeg market leg false pending (config.unwindPrice bid))

variable {answers : LegAnswers} {entryPrice pending bid : Dec} {bids : List Dec}

theorem attemptSale_realized (w : World) :
    (finalState (router.attemptSale config answers market leg pending bid) w).realized =
      w.realized := by
  have hsale : SaleInvariant fun t => t.realized = w.realized :=
    { intents := fun _ _ h => h
      observe := by
        intro t report h
        unfold World.observe
        split
        · exact h
        · exact h }
  have hkeeps : Keeps (fun t => t.realized = w.realized)
      (router.attemptSale config answers market leg pending bid) :=
    router.submitExitLeg_keeps hsale answers.sell fun _ _ _ h => h
  exact Spec.finalState hkeeps rfl

/-- An attempt records what it makes of the fill its sale returns. -/
theorem unwindUnmatched_sold (hpending : Dec.epsilon < pending)
    (hbook : answers.book = .ok (bid :: bids)) (w : World) :
    finalState (router.unwindUnmatched config answers market leg entryPrice pending) w =
      let t := finalState (router.attemptSale config answers market leg pending bid) w
      let returned := returnedReport (router.attemptSale config answers market leg pending bid) w
      { t with
        realized :=
          (returned.toList.flatMap fun report =>
            lossOf config (router.label leg) market entryPrice
              (unwindFill pending (config.unwindPrice bid) report)) ++ t.realized } := by
  rw [unwindUnmatched, if_pos hpending]
  -- The handler of `try` and the amount returned change nothing.
  have htry : finalState (router.tryUnwindLeg config answers market leg entryPrice pending) w =
      finalState (router.unwindLeg config answers market leg entryPrice pending) w := by
    refine (finalState_bind_same fun outcome t _ => ?_).trans (finalState_attempt _ _ _)
    cases outcome with
    | ok _ => rfl
    | error _ => rfl
  rw [htry, unwindLeg, hbook]
  show finalState (router.attemptSale config answers market leg pending bid >>= _) w = _
  unfold returnedReport
  cases hrun : router.attemptSale config answers market leg pending bid w with
  | error exc t =>
      rw [finalState_of_error hrun]
      have hfinal : finalState (router.attemptSale config answers market leg pending bid) w = t := by
        unfold finalState
        rw [hrun]
      rw [hfinal]
      rfl
  | ok result t =>
      rw [finalState_of_ok hrun]
      have hfinal : finalState (router.attemptSale config answers market leg pending bid) w = t := by
        unfold finalState
        rw [hrun]
      rw [hfinal]
      cases hreport : result.report with
      | none =>
          dsimp only
          rw [hreport]
          rfl
      | some report =>
          have hlog := fun fill : UnwindFill => @recordUnwindPnl_final config market answers.pnl
            (router.label leg) entryPrice fill t
          have hlog := hlog (unwindFill pending (config.unwindPrice bid) report)
          refine (finalState_bind_same fun _ _ _ => rfl).trans (hlog.trans ?_)
          simp [hreport]

/-- Without a bid, or without unmatched contracts, an attempt changes nothing. -/
theorem unwindUnmatched_unsold
    (h : ¬ (Dec.epsilon < pending ∧ ∃ bid bids, answers.book = .ok (bid :: bids))) (w : World) :
    finalState (router.unwindUnmatched config answers market leg entryPrice pending) w = w := by
  unfold unwindUnmatched
  split
  · next hpending =>
      unfold tryUnwindLeg
      refine (finalState_bind_same fun outcome t _ => ?_).trans ((finalState_attempt _ _ _).trans ?_)
      · cases outcome with
        | ok _ => rfl
        | error _ => rfl
      unfold unwindLeg
      cases hbook : answers.book with
      | error exc => rfl
      | ok bids =>
          cases bids with
          | nil => rfl
          | cons bid bids => exact absurd ⟨hpending, bid, bids, hbook⟩ h
  · rfl

end Router

/-! ## The two kinds of unwinds -/

/-- A call that unwinds what is unmatched: the end of an entry, or a retry. -/
inductive UnwindCall
  | immediate (answers : SettleAnswers) (legAnswers : Leg → LegAnswers) (signal : ArbitrageSignal)
      (first second : EntryLegResult)
  | retried (answers : PositionAnswers) (position : OpenPosition)

namespace UnwindCall

variable (router : Router) (config : Config) (call : UnwindCall)

/-- The answers to the unwind of a leg. -/
def legAnswers : Leg → LegAnswers :=
  match call with
  | immediate _ legAnswers _ _ _ => legAnswers
  | retried answers _ => answers.leg

/-- The market. -/
def market : MarketSpec :=
  match call with
  | immediate _ _ signal _ _ => signal.market
  | retried _ position => position.market

/-- What is unmatched of a leg; a retry looks only at positions that wait for it. -/
def pending : Leg → Dec :=
  match call with
  | immediate _ _ _ first second => Router.unmatchedAmount first second
  | retried _ position =>
      if position.status = "unwind_pending" then unmatchedContracts position else fun _ => 0

/-- The price the unwind of a leg works with: that of the signal, which a retry makes up. -/
def givenPrice : Leg → Dec :=
  match call with
  | immediate _ _ signal _ _ => byLeg signal.polymarketPrice signal.predictFunPrice
  | retried _ position => byLeg (config.floatText position.polymarketEntryPrice) 0

/-- The average price the leg was bought at: that of the report, which the position stores. -/
def boughtAt : Leg → Dec :=
  match call with
  | immediate _ _ _ first second => byLeg (Router.entryPrice first) (Router.entryPrice second)
  | retried _ position => byLeg position.polymarketEntryPrice position.predictFunEntryPrice

/-- The unwind of a leg. -/
def attempt (leg : Leg) : Effect Dec :=
  router.unwindUnmatched config (call.legAnswers leg) call.market leg (call.givenPrice config leg)
    (call.pending leg)

/-- The sale of that unwind, at this best bid. -/
def sale (leg : Leg) (bid : Dec) : Effect ExitLegResult :=
  router.attemptSale config (call.legAnswers leg) call.market leg (call.pending leg) bid

/-- The call. -/
def run : Effect Unit :=
  match call with
  | immediate answers legAnswers signal first second => do
      let _ ← router.unwindAndBook (router.unwindEntry config legAnswers signal) answers signal
        first second
      pure ()
  | retried answers position => router.retryPendingUnwind config answers position

/-- The state in which the unwind of a leg starts: that of the second follows that of the first. -/
def before (w : World) : Leg → World
  | .first => w
  | .second => finalState (call.attempt router config .first) w

end UnwindCall

/-! ## What a call records -/

/-- Both legs of a gather run to their end. -/
theorem gather_final {α β : Type} (first : Effect α) (second : Effect β) (w : World) :
    finalState (gather first second) w = finalState second (finalState first w) := by
  have hany : ∀ {γ : Type} (m : Effect γ) (t : World),
      ∃ outcome, attempt Exc.any m t = .ok outcome (finalState m t) := by
    intro γ m t
    rw [attempt_run]
    unfold finalState
    cases m t with
    | ok a u => exact ⟨_, rfl⟩
    | error exc u => exact ⟨_, rfl⟩
  obtain ⟨a, hfirst⟩ := hany first w
  obtain ⟨b, hsecond⟩ := hany second (finalState first w)
  unfold gather
  rw [finalState_of_ok hfirst, finalState_of_ok hsecond]
  cases a with
  | ok a =>
      cases b with
      | ok b => rfl
      | error exc => rfl
  | error exc => rfl

theorem bookEntry_keeps {I : World → Prop} (hpositions : KeptByPositions I) (router : Router)
    (answers : SettleAnswers) (signal : ArbitrageSignal) (first second : EntryLegResult)
    (pendingFirst pendingSecond : Dec) :
    Keeps I (router.bookEntry answers signal first second pendingFirst pendingSecond) := by
  refine Keeps.ite (addPosition_keeps hpositions _ _ _) (Keeps.ite ?_ ?_)
  · exact removePosition_keeps hpositions _ _ _
  · exact Keeps.bind (addPosition_keeps hpositions _ _ _) fun _ => Keeps.await _

namespace UnwindCall

variable (router : Router) (config : Config) (call : UnwindCall)

/-- What follows the unwinds records nothing. -/
theorem run_realized (w : World) :
    (finalState (call.run router config) w).realized =
      (finalState (call.attempt router config .second)
        (call.before router config w .second)).realized := by
  set after := finalState (call.attempt router config .second)
    (call.before router config w .second) with hafter
  have hpositions : KeptByPositions fun t => t.realized = after.realized := fun _ _ _ h => h
  cases call with
  | immediate answers legAnswers signal first second =>
      have hgather := gather_final
        ((immediate answers legAnswers signal first second).attempt router config .first)
        ((immediate answers legAnswers signal first second).attempt router config .second) w
      refine finalState_bind_keeps (I := fun t : World => t.realized = after.realized)
        (fun _ => Keeps.pure _) ?_
      refine finalState_bind_keeps (I := fun t : World => t.realized = after.realized) (fun unwound => ?_)
        (congrArg World.realized hgather)
      refine Keeps.bind (Keeps.whenever (Keeps.await _)) fun _ => ?_
      exact Keeps.bind (bookEntry_keeps hpositions router _ _ _ _ _ _) fun _ => Keeps.pure _
  | retried answers position =>
      have hgather := gather_final ((retried answers position).attempt router config .first)
        ((retried answers position).attempt router config .second) w
      show (finalState (ite _ _ _) w).realized = after.realized
      split
      · next hstatus =>
          -- Nothing is pending in a position that does not wait for a retry.
          have hnone : ∀ leg, (retried answers position).pending leg = 0 := by
            intro leg
            simp only [pending, if_neg hstatus]
          have hskipped : ∀ leg t,
              finalState ((retried answers position).attempt router config leg) t = t := by
            intro leg t
            refine Router.unwindUnmatched_unsold (fun h => ?_) t
            exact absurd h.1 (by rw [hnone]; exact not_lt.mpr Dec.epsilon_pos.le)
          rw [hafter, hskipped]
          show w.realized = (finalState _ w).realized
          rw [hskipped]
      · next hstatus =>
          have hstatus : position.status = "unwind_pending" := not_not.mp hstatus
          have hpending : (retried answers position).pending = unmatchedContracts position := by
            simp only [pending, if_pos hstatus]
          refine finalState_bind_keeps (I := fun t : World => t.realized = after.realized) (fun unwound =>
            Router.settleUnwind_keeps router hpositions _ _ _ _) ?_
          have hattempts : gather
                (router.unwindUnmatched config answers.first position.market .first
                  (config.floatText position.polymarketEntryPrice)
                  position.unmatchedFirstContracts)
                (router.unwindUnmatched config answers.second position.market .second 0
                  position.unmatchedSecondContracts) =
              gather ((retried answers position).attempt router config .first)
                ((retried answers position).attempt router config .second) := by
            unfold attempt
            rw [hpending]
            rfl
          show (finalState (gather _ _) w).realized = after.realized
          rw [hattempts]
          exact congrArg World.realized hgather

/-! ## Which losses are recorded -/

/-- From `w` to `w'` the leg was put up for sale at this best bid, and the venue reported this fill
of the order. -/
structure Sold (leg : Leg) (bid : Dec) (report : ExecutionReport) (w w' : World) : Prop where
  book : ∃ bids, (call.legAnswers leg).book = .ok (bid :: bids)
  order : ∃ sell, w'.sells = sell :: w.sells ∧ sell.report = some report
  filled : 0 < (unwindFill (call.pending leg) (config.unwindPrice bid) report).contracts

/-- The result of a fill of the leg, if the leg was bought at this price. -/
def result (leg : Leg) (bid : Dec) (entryPrice : Dec) (report : ExecutionReport) :
    Except Exc Dec :=
  unwindResult config (router.label leg) call.market entryPrice
    (unwindFill (call.pending leg) (config.unwindPrice bid) report)

/-- A fill of the leg that was sold for less than it was bought for is recorded as that loss. -/
def LossRecorded (leg : Leg) (w : World) : Prop :=
  let w' := finalState (call.attempt router config leg) w
  ∀ bid report, call.Sold config leg bid report w w' →
    ∃ result, call.result router config leg bid (call.boughtAt leg) report = .ok result ∧
      (result < 0 → w'.realized = result :: w.realized)

/-- A fill of the leg that was sold for less than it was bought for is returned by the sale, and
gives the same loss at the price the unwind works with. -/
def LossKept (leg : Leg) (w : World) : Prop :=
  Dec.epsilon < call.pending leg →
    ∀ bid report,
      call.Sold config leg bid report w (finalState (call.sale router config leg bid) w) →
        ∃ result, call.result router config leg bid (call.boughtAt leg) report = .ok result ∧
          (result < 0 → ∃ returned,
            returnedReport (call.sale router config leg bid) w = some returned ∧
            0 < (unwindFill (call.pending leg) (config.unwindPrice bid) returned).contracts ∧
            call.result router config leg bid (call.givenPrice config leg) returned = .ok result)

variable {router config call} {leg : Leg} {w : World}

/-- The attempt puts up for sale what its sale does. -/
theorem attempt_sells {bid : Dec} (hpending : Dec.epsilon < call.pending leg)
    (hbook : ∃ bids, (call.legAnswers leg).book = .ok (bid :: bids)) :
    (finalState (call.attempt router config leg) w).sells =
      (finalState (call.sale router config leg bid) w).sells := by
  obtain ⟨bids, hbook⟩ := hbook
  unfold attempt sale
  rw [Router.unwindUnmatched_sold hpending hbook]

/-- What an attempt adds to the log of results. -/
theorem attempt_realized {bid : Dec} (hpending : Dec.epsilon < call.pending leg)
    (hbook : ∃ bids, (call.legAnswers leg).book = .ok (bid :: bids)) :
    (finalState (call.attempt router config leg) w).realized =
      ((returnedReport (call.sale router config leg bid) w).toList.flatMap fun report =>
        lossOf config (router.label leg) call.market (call.givenPrice config leg)
          (unwindFill (call.pending leg) (config.unwindPrice bid) report)) ++ w.realized := by
  obtain ⟨bids, hbook⟩ := hbook
  unfold attempt sale
  rw [Router.unwindUnmatched_sold hpending hbook]
  dsimp only
  rw [Router.attemptSale_realized]

/-- A loss is recorded exactly if the sale returned a fill that gives this loss. -/
theorem attempt_records_iff {bid loss : Dec} (hpending : Dec.epsilon < call.pending leg)
    (hbook : ∃ bids, (call.legAnswers leg).book = .ok (bid :: bids)) (hloss : loss < 0) :
    (finalState (call.attempt router config leg) w).realized = loss :: w.realized ↔
      ∃ returned, returnedReport (call.sale router config leg bid) w = some returned ∧
        0 < (unwindFill (call.pending leg) (config.unwindPrice bid) returned).contracts ∧
        call.result router config leg bid (call.givenPrice config leg) returned = .ok loss := by
  rw [attempt_realized hpending hbook, ← List.singleton_append, List.append_left_inj]
  cases returnedReport (call.sale router config leg bid) w with
  | none => simp
  | some returned =>
      simp only [Option.toList_some, List.flatMap_cons, List.flatMap_nil, List.append_nil,
        lossOf_eq_singleton]
      constructor
      · rintro ⟨hfilled, hresult, _⟩
        exact ⟨returned, rfl, hfilled, hresult⟩
      · rintro ⟨other, hother, hfilled, hresult⟩
        cases hother
        exact ⟨hfilled, hresult, hloss⟩

/-- One leg. -/
theorem lossRecorded_iff :
    call.LossRecorded router config leg w ↔ call.LossKept router config leg w := by
  constructor
  · intro h hpending bid report hsold
    have hsold' : call.Sold config leg bid report w
        (finalState (call.attempt router config leg) w) := by
      refine ⟨hsold.book, ?_, hsold.filled⟩
      rw [attempt_sells hpending hsold.book]
      exact hsold.order
    obtain ⟨result, hresult, hrecorded⟩ := h bid report hsold'
    exact ⟨result, hresult, fun hloss =>
      (attempt_records_iff hpending hsold.book hloss).mp (hrecorded hloss)⟩
  · intro h bid report hsold
    by_cases hpending : Dec.epsilon < call.pending leg
    · have hsold' : call.Sold config leg bid report w
          (finalState (call.sale router config leg bid) w) := by
        refine ⟨hsold.book, ?_, hsold.filled⟩
        rw [← attempt_sells hpending hsold.book]
        exact hsold.order
      obtain ⟨result, hresult, hkept⟩ := h hpending bid report hsold'
      exact ⟨result, hresult, fun hloss =>
        (attempt_records_iff hpending hsold.book hloss).mpr (hkept hloss)⟩
    · -- Nothing was put up for sale.
      obtain ⟨sell, hsells, _⟩ := hsold.order
      have hsame : finalState (call.attempt router config leg) w = w :=
        Router.unwindUnmatched_unsold (fun hsale => hpending hsale.1) w
      rw [hsame] at hsells
      exact absurd hsells.symm (List.cons_ne_self sell w.sells)

/-- **Which losses of an unwind are recorded.**  Of every call and both legs, the loss at the price
the leg was bought at is recorded exactly if the sale returns the fill and the price the unwind works
with gives the same loss; and a call records nothing but what its two unwinds record. -/
theorem unwind_losses_recorded (router : Router) (config : Config) (call : UnwindCall)
    (w : World) :
    ((∀ leg, call.LossRecorded router config leg (call.before router config w leg)) ↔
        ∀ leg, call.LossKept router config leg (call.before router config w leg)) ∧
      (finalState (call.run router config) w).realized =
        (finalState (call.attempt router config .second)
          (call.before router config w .second)).realized :=
  ⟨forall_congr' fun _ => lossRecorded_iff, call.run_realized router config w⟩

end UnwindCall

/-! ## The stored prices -/

/-- Every position of the market that waits for a retry stores the prices of these purchases. -/
def StoresPrices (market : MarketSpec) (first second : EntryLegResult) (w : World) : Prop :=
  ∀ position, w.ledger.get? (positionKey market) = some position →
    position.status = "unwind_pending" →
    position.polymarketEntryPrice = Router.entryPrice first ∧
      position.predictFunEntryPrice = Router.entryPrice second

section StoredPrices

variable {market : MarketSpec} {first second : EntryLegResult}

theorem storesPrices_sale : SaleInvariant (StoresPrices market first second) where
  intents := fun _ _ h => h
  observe := by
    intro w report h
    unfold World.observe
    split
    · exact h
    · exact h

/-- A position with these prices may be saved, and one that waits for nothing. -/
theorem addPosition_storesPrices (repository : Bool) (answer : WriteAnswer Exc)
    {position : OpenPosition}
    (hposition : position.status = "unwind_pending" →
      position.polymarketEntryPrice = Router.entryPrice first ∧
        position.predictFunEntryPrice = Router.entryPrice second) :
    Keeps (StoresPrices market first second) (addPosition repository answer position) := by
  refine Keeps.bind (Keeps.whenever (Keeps.transact fun _ h => h)) fun _ =>
    Keeps.modify fun w h => ?_
  intro other hother
  by_cases hkey : positionKey market = positionKey position.market
  · have hsaved : (w.ledger.add position).get? (positionKey market) = some position := by
      rw [hkey]
      exact Lib.Dict.get?_set_self _ _ _
    cases hsaved.symm.trans hother
    exact hposition
  · have hkept : (w.ledger.add position).get? (positionKey market) =
        w.ledger.get? (positionKey market) := Lib.Dict.get?_set_of_ne _ hkey _
    exact h other (hkept.symm.trans hother)

theorem removePosition_storesPrices (repository : Bool) (answer : WriteAnswer Exc) (key : String) :
    Keeps (StoresPrices market first second) (removePosition repository answer key) := by
  refine Keeps.bind (Keeps.whenever (Keeps.transact fun _ h => h)) fun _ =>
    Keeps.modify fun w h => ?_
  intro other hother
  by_cases hkey : positionKey market = key
  · have hnone : (w.ledger.erase key).get? (positionKey market) = none := by
      rw [hkey]
      exact Lib.Dict.get?_erase_self _ _
    cases hnone.symm.trans hother
  · have hkept : (w.ledger.erase key).get? (positionKey market) =
        w.ledger.get? (positionKey market) := Lib.Dict.get?_erase_of_ne _ hkey
    exact h other (hkept.symm.trans hother)

theorem unwind_storesPrices {router : Router} {config : Config} (answers : LegAnswers)
    (other : MarketSpec) (leg : Leg) (price pending : Dec) :
    Keeps (StoresPrices market first second)
      (router.unwindUnmatched config answers other leg price pending) :=
  Router.unwindUnmatched_keeps storesPrices_sale (fun _ _ h => h) (fun _ _ _ _ _ _ h => h) _ _

/-- The end of an entry saves the prices of its purchases. -/
theorem unwindAndBook_storesPrices (router : Router) (config : Config)
    (legAnswers : Leg → LegAnswers) (answers : SettleAnswers) (signal : ArbitrageSignal) :
    Keeps (StoresPrices market first second)
      (router.unwindAndBook (router.unwindEntry config legAnswers signal) answers signal first
        second) := by
  refine Keeps.bind (Router.gather_spec (unwind_storesPrices _ _ _ _ _)
    (unwind_storesPrices _ _ _ _ _)) fun _ => ?_
  refine Keeps.bind (Keeps.whenever (Keeps.await _)) fun _ => ?_
  refine Keeps.bind (Keeps.ite ?_ (Keeps.ite ?_ ?_)) fun _ => Keeps.pure _
  · exact addPosition_storesPrices _ _ fun _ => ⟨rfl, rfl⟩
  · exact removePosition_storesPrices _ _ _
  · refine Keeps.bind (addPosition_storesPrices _ _ fun hstatus => ?_) fun _ => Keeps.await _
    exact absurd (show "open" = "unwind_pending" from hstatus) (by decide)

/-- A retry keeps the prices. -/
theorem retryUnwind_storesPrices {router : Router} {config : Config} {w w' : World}
    {answers : PositionAnswers} (h : StoresPrices market first second w)
    (hstep : retryUnwind router config market w answers = some w') :
    StoresPrices market first second w' := by
  obtain ⟨position, hposition, rfl⟩ := Option.map_eq_some_iff.mp hstep
  have hprices := h position hposition
  refine Spec.finalState (P := StoresPrices market first second) ?_ h
  refine Keeps.ite (Keeps.pure _) ?_
  refine Keeps.bind (Router.gather_spec (unwind_storesPrices _ _ _ _ _)
    (unwind_storesPrices _ _ _ _ _)) fun unwound => ?_
  refine Keeps.ite (Keeps.bind (Keeps.ite ?_ ?_) fun _ => Keeps.await _) ?_
  · refine addPosition_storesPrices _ _ fun hstatus => ?_
    exact absurd (show "open" = "unwind_pending" from hstatus) (by decide)
  · exact removePosition_storesPrices _ _ _
  · exact addPosition_storesPrices _ _ hprices

end StoredPrices

/-! ## A loss that is not recorded -/

/-- Ten contracts of a second leg that were bought at three quarters wait for a retry. -/
def dearPosition : OpenPosition where
  market := unwindMarket "Predict.fun"
  polymarketContracts := 0
  polymarketEntryPrice := 0
  predictFunContracts := 10
  predictFunEntryPrice := 3 / 4
  polymarketOrderId := "first"
  predictFunOrderId := "second"
  status := "unwind_pending"
  unmatchedSecondContracts := 10

/-- The retry sells them at one half. -/
def dearRetry : UnwindCall := .retried (retryAnswers "retry" 10) dearPosition

/-- The state after it. -/
def afterDearRetry : World :=
  finalState (dearRetry.attempt ⟨.polymarketPredict, true⟩ noFees .second) beforeUnwind

/-- Ten contracts bought at three quarters are sold at one half, and no loss is recorded. -/
theorem retried_loss_unrecorded :
    ¬ ∀ (router : Router) (config : Config) (call : UnwindCall) (leg : Leg) (w : World),
        call.LossRecorded router config leg w := by
  intro h
  let report : ExecutionReport := ⟨"order", .filled, 10, 10, 0, 1 / 2⟩
  have hsold : dearRetry.Sold noFees .second (1 / 2) report beforeUnwind afterDearRetry := by
    refine ⟨⟨[], rfl⟩, ?_, by decide +kernel⟩
    have hsells : afterDearRetry.sells.map SellOrder.report = [some report] := by decide +kernel
    obtain ⟨sell, hsell, hreport⟩ := List.map_eq_singleton_iff.mp hsells
    exact ⟨sell, hsell, hreport⟩
  obtain ⟨result, hresult, hrecorded⟩ :=
    h ⟨.polymarketPredict, true⟩ noFees dearRetry .second beforeUnwind (1 / 2) report hsold
  have hloss : dearRetry.result ⟨.polymarketPredict, true⟩ noFees .second (1 / 2) (3 / 4) report =
      .ok (-5 / 2) := by decide +kernel
  have hresult : dearRetry.result ⟨.polymarketPredict, true⟩ noFees .second (1 / 2) (3 / 4) report =
      .ok result := hresult
  rw [hloss] at hresult
  cases hresult
  have hnone : afterDearRetry.realized = [] := by decide +kernel
  have hsome : afterDearRetry.realized = [-5 / 2] := hrecorded (by norm_num)
  rw [hnone] at hsome
  cases hsome

end ArbitrageEngine.Execution
