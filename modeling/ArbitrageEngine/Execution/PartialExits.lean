/-
# ArbitrageEngine.Execution.PartialExits -- closing a position in parts

A close sells both legs at once, but a venue may fill only a part of an order, or nothing.  What was
filled is booked into the stored position, and the rest is sold by retries, each from what the
position says is still open, until both legs are closed; then the position is removed and its result
recorded.

The account of a leg is a fold over its fills (`LegExit.fills`): the closed contracts, the proceeds
and whether the leg is closed.  A run of calls keeps the stored position equal to these accounts, so
what is proved of the fold holds of every stored position.
-/
import ArbitrageEngine.ContextError
import ArbitrageEngine.Execution.UnwindLosses

namespace ArbitrageEngine.Execution

open Lib.Effect Lib.Runs Lib.RoundedSums

/-! ## The account of a leg -/

/-- A fill of an exit order. -/
structure LegFill where
  contracts : Dec
  price : Dec
deriving DecidableEq

/-- What a fill brings after the fee, as the code computes it. -/
def netProceeds (fee : Dec) (fill : LegFill) : Dec :=
  Dec.mul (Dec.mul fill.contracts fill.price) (Dec.sub 1 fee)

/-- The account of a leg; a leg of an open position starts with its contracts alone. -/
structure LegExit where
  contracts : Dec
  closed : Dec := 0
  proceeds : Dec := 0
  isClosed : Bool := false
deriving DecidableEq

namespace LegExit

/-- Are so many contracts all of the leg, up to the tolerance? -/
def complete (account : LegExit) : Prop :=
  Dec.sub account.contracts Dec.epsilon ≤ account.closed

instance (account : LegExit) : Decidable account.complete :=
  inferInstanceAs (Decidable (_ ≤ _))

/-- A fill is booked. -/
def fill (fee : Dec) (account : LegExit) (sold : LegFill) : LegExit :=
  let closed := min account.contracts (Dec.add account.closed sold.contracts)
  { account with
    closed := closed
    proceeds := Dec.add account.proceeds (netProceeds fee sold)
    isClosed := account.isClosed ∨ Dec.sub account.contracts Dec.epsilon ≤ closed }

/-- The account after these fills. -/
def fills (fee contracts : Dec) (sold : List LegFill) : LegExit :=
  sold.foldl (fill fee) { contracts := contracts }

variable {fee contracts : Dec} {account : LegExit} {sold : List LegFill} {last : LegFill}

theorem fills_concat :
    fills fee contracts (sold ++ [last]) = (fills fee contracts sold).fill fee last := by
  unfold fills
  rw [List.foldl_append]
  rfl

@[simp]
theorem contracts_fill : (account.fill fee last).contracts = account.contracts := rfl

@[simp]
theorem contracts_foldl : (sold.foldl (fill fee) account).contracts = account.contracts := by
  induction sold generalizing account with
  | nil => rfl
  | cons first rest ih => exact ih

@[simp]
theorem contracts_fills : (fills fee contracts sold).contracts = contracts := contracts_foldl

/-- What every account of a leg keeps. -/
structure Sound (account : LegExit) : Prop where
  nonneg : 0 ≤ account.closed
  le : account.closed ≤ account.contracts
  exact : Dec.Exact account.closed
  complete : account.isClosed = true → account.complete

/-- What one fill does. -/
structure Fills (account next : LegExit) : Prop where
  le : account.closed ≤ next.closed
  isClosed_iff : next.isClosed = true ↔ next.complete

theorem Sound.fresh (h : 0 ≤ contracts) : Sound { contracts := contracts } where
  nonneg := le_rfl
  le := h
  exact := Dec.ctx_zero
  complete := nofun

theorem Sound.fill (h : account.Sound) (hexact : Dec.Exact account.contracts)
    (hsold : 0 ≤ last.contracts) :
    (account.fill fee last).Sound ∧ account.Fills (account.fill fee last) := by
  -- The context does not round an account down.
  have hadd : account.closed ≤ Dec.add account.closed last.contracts := by
    have hle : account.closed ≤ account.closed + last.contracts := by linarith
    have hmono := Dec.ctx_mono hle
    rwa [h.exact] at hmono
  have hle : account.closed ≤ (account.fill fee last).closed := le_min h.le hadd
  have hcomplete : (account.fill fee last).isClosed = true ↔ (account.fill fee last).complete := by
    show decide (_ ∨ _) = true ↔ _
    rw [decide_eq_true_iff]
    constructor
    · rintro (hbefore | hnow)
      · exact (h.complete hbefore).trans hle
      · exact hnow
    · exact Or.inr
  refine ⟨⟨h.nonneg.trans hle, min_le_left _ _, ?_, hcomplete.mp⟩, hle, hcomplete⟩
  show Dec.Exact (min _ _)
  rcases min_choice account.contracts (Dec.add account.closed last.contracts) with hmin | hmin
  · rw [hmin]
    exact hexact
  · rw [hmin]
    exact Dec.exact_ctx _

/-- The proceeds are the running total of what the fills bring. -/
theorem proceeds_fills :
    (fills fee contracts sold).proceeds = roundedSum Dec.ctx 0 (sold.map (netProceeds fee)) := by
  have hfold : ∀ account : LegExit, (sold.foldl (fill fee) account).proceeds =
      roundedSum Dec.ctx account.proceeds (sold.map (netProceeds fee)) := by
    induction sold with
    | nil => exact fun _ => rfl
    | cons first rest ih => exact fun account => ih _
  exact hfold _

/-- What the roundings of the context can add up to in `n` operations. -/
def drift (n : ℕ) : Dec := growth (10 / 10 ^ 28) n

/-- The proceeds are the sum over the fills, up to the roundings of the context. -/
theorem abs_proceeds_sub_le :
    |(fills fee contracts sold).proceeds -
        (sold.map fun fill => fill.contracts * fill.price * (1 - fee)).sum| ≤
      drift (sold.length + 3) *
        (sold.map fun fill => |fill.contracts * fill.price * (1 - fee)|).sum := by
  have hone : ∀ x : Dec, |Dec.ctx x - x| ≤ growth (10 / 10 ^ 28) 1 * |x| := by
    intro x
    have herror := Dec.ctx_rounding.error x
    unfold growth
    rwa [pow_one, add_sub_cancel_left]
  -- One rounding for each of the two factors, and one for their product.
  have hfill : ∀ fill ∈ sold, |netProceeds fee fill - fill.contracts * fill.price * (1 - fee)| ≤
      growth (10 / 10 ^ 28) (1 + 1 + 1) * |fill.contracts * fill.price * (1 - fee)| :=
    fun fill _ =>
      abs_round_mul_le Dec.ctx_rounding (hone (fill.contracts * fill.price)) (hone (1 - fee))
  rw [proceeds_fills]
  unfold drift
  exact abs_roundedSum_map_le Dec.ctx_rounding sold hfill

end LegExit

/-- The account of a leg in the stored position. -/
def legExit (position : OpenPosition) : Leg → LegExit
  | .first =>
      { contracts := position.polymarketContracts
        closed := position.polymarketClosedContracts
        proceeds := position.polymarketExitProceedsUsd
        isClosed := position.polymarketClosed }
  | .second =>
      { contracts := position.predictFunContracts
        closed := position.predictFunClosedContracts
        proceeds := position.predictFunExitProceedsUsd
        isClosed := position.predictFunClosed }

/-! ## A call -/

/-- What the two sales of a close end with, and the prices they were asked at. -/
structure Sales where
  first : ExitLegResult
  second : ExitLegResult
  firstPrice : Dec
  secondPrice : Dec

namespace Sales

variable (sales : Sales)

/-- The result of a leg. -/
def result : Leg → ExitLegResult
  | .first => sales.first
  | .second => sales.second

/-- The fill of a leg, as it is booked. -/
def fill : Leg → LegFill
  | .first => ⟨Router.newFill sales.first, Router.fillPrice sales.first sales.firstPrice⟩
  | .second => ⟨Router.newFill sales.second, Router.fillPrice sales.second sales.secondPrice⟩

/-- Does a leg need a manual review? -/
def needsReview : Bool := Router.needsReview sales.first || Router.needsReview sales.second

/-- The report of a leg is definitive: no opposite exposure, and no more filled than was asked. -/
structure Definitive (position : OpenPosition) (leg : Leg) : Prop where
  plain : (sales.result leg).error.any Router.isResidual = false
  nonneg : 0 ≤ (sales.fill leg).contracts
  within : (sales.fill leg).contracts ≤
    max 0 (Dec.sub (legExit position leg).contracts (legExit position leg).closed)

instance (position : OpenPosition) (leg : Leg) : Decidable (sales.Definitive position leg) :=
  decidable_of_iff ((sales.result leg).error.any Router.isResidual = false ∧
      0 ≤ (sales.fill leg).contracts ∧ (sales.fill leg).contracts ≤
        max 0 (Dec.sub (legExit position leg).contracts (legExit position leg).closed))
    ⟨fun ⟨hplain, hnonneg, hwithin⟩ => ⟨hplain, hnonneg, hwithin⟩,
      fun ⟨hplain, hnonneg, hwithin⟩ => ⟨hplain, hnonneg, hwithin⟩⟩

end Sales

namespace Router

variable (router : Router) (config : Config)

/-- The sales of `_close_position_legs`. -/
def sellLegs (answers : PositionAnswers) (position : OpenPosition) (firstPrice secondPrice : Dec) :
    Effect Sales := do
  let rawFirst ← attempt Exc.any (router.closeLeg answers position .first firstPrice)
  let rawSecond ← attempt Exc.any (router.closeLeg answers position .second secondPrice)
  let first ← normalizeExitResult rawFirst
  let second ← normalizeExitResult rawSecond
  pure ⟨first, second, firstPrice, secondPrice⟩

/-- The rest of `_close_position_legs`. -/
def bookSales (answers : PositionAnswers) (position : OpenPosition) (sales : Sales) :
    Effect Unit := do
  let updated ← await (router.bookClose config position sales.first sales.second sales.firstPrice
    sales.secondPrice)
  router.settleClose config answers position sales.first sales.second updated

theorem closePositionLegs_eq (answers : PositionAnswers) (position : OpenPosition)
    (firstPrice secondPrice : Dec) :
    router.closePositionLegs config answers position firstPrice secondPrice =
      router.sellLegs answers position firstPrice secondPrice >>=
        router.bookSales config answers position := by
  unfold closePositionLegs sellLegs bookSales
  simp only [bind_assoc, pure_bind]

end Router

/-- A call that closes a position: a close at these prices, or a retry at the best bids. -/
inductive ExitCall
  | close (answers : PositionAnswers) (firstPrice secondPrice : Dec)
  | retry (answers : PositionAnswers)

namespace ExitCall

variable (router : Router) (config : Config) (position : OpenPosition)

/-- The answers of the environment. -/
def answers : ExitCall → PositionAnswers
  | close answers _ _ => answers
  | retry answers => answers

/-- The sales of the call; a retry sells only what waits for one. -/
def sales : ExitCall → Effect (Option Sales)
  | close answers firstPrice secondPrice => do
      let sales ← router.sellLegs answers position firstPrice secondPrice
      pure (some sales)
  | retry answers =>
      if position.status ≠ "partial_exit_pending" then pure none
      else do
        let firstPrice ← Router.closingPrice position.polymarketClosed
          position.polymarketExitPrice answers.first.book
        let secondPrice ← Router.closingPrice position.predictFunClosed
          position.predictFunExitPrice answers.second.book
        let price (value : Option Dec) : Dec := (value.filter (· ≠ 0)).getD (1 / 100)
        let sales ← router.sellLegs answers position (price firstPrice) (price secondPrice)
        pure (some sales)

/-- What follows the sales. -/
def book (answers : PositionAnswers) : Option Sales → Effect Unit
  | none => pure ()
  | some sales => router.bookSales config answers position sales

/-- The call: `_close_position_legs` or `retry_partial_exit`. -/
def run : ExitCall → Effect Unit
  | close answers firstPrice secondPrice =>
      router.closePositionLegs config answers position firstPrice secondPrice
  | retry answers => router.retryPartialExit config answers position

/-- A call sells, and books what it sold. -/
theorem run_eq (call : ExitCall) :
    call.run router config position =
      call.sales router position >>= book router config position call.answers := by
  cases call with
  | close answers firstPrice secondPrice =>
      simp only [run, sales, ExitCall.answers, Router.closePositionLegs_eq, bind_assoc, pure_bind]
      rfl
  | retry answers =>
      simp only [run, sales, ExitCall.answers, Router.retryPartialExit]
      split
      · rfl
      · simp only [Router.closePositionLegs_eq, bind_assoc, pure_bind]
        rfl

/-- What a property of the positions and the results is kept by. -/
theorem sales_keeps {I : World → Prop} (hsale : SaleInvariant I)
    (hsubmit : ∀ leg, router.AllowsLeg I position.market leg) (call : ExitCall) :
    Keeps I (call.sales router position) := by
  have hnormalize : ∀ raw : Except Exc ExitLegResult, Keeps I (Router.normalizeExitResult raw) := by
    intro raw
    match raw with
    | .ok _ => exact Keeps.pure _
    | .error .cancelled => exact Keeps.throw _
    | .error (.residual _ _) => exact Keeps.pure _
    | .error (.rejected _) => exact Keeps.pure _
    | .error .transactionTimeout => exact Keeps.pure _
    | .error (.failed _) => exact Keeps.pure _
  have hleg : ∀ answers leg minPrice,
      Keeps I (router.closeLeg answers position leg minPrice) := fun answers leg minPrice =>
    router.submitExitLeg_keeps hsale _ fun _ => hsubmit leg _ _ _
  have hsell : ∀ answers firstPrice secondPrice,
      Keeps I (router.sellLegs answers position firstPrice secondPrice) := by
    intro answers firstPrice secondPrice
    refine Keeps.bind (Keeps.attempt (hleg _ _ _)) fun _ => ?_
    refine Keeps.bind (Keeps.attempt (hleg _ _ _)) fun _ => ?_
    exact Keeps.bind (hnormalize _) fun _ => Keeps.bind (hnormalize _) fun _ => Keeps.pure _
  have hprice : ∀ closed exitPrice book, Keeps I (Router.closingPrice closed exitPrice book) :=
    fun _ _ _ => Keeps.ite (Keeps.pure _)
      (Keeps.bind (Router.bestBid_keeps _) fun _ => Keeps.pure _)
  cases call with
  | close answers firstPrice secondPrice =>
      exact Keeps.bind (hsell _ _ _) fun _ => Keeps.pure _
  | retry answers =>
      refine Keeps.ite (Keeps.pure _) ?_
      refine Keeps.bind (hprice _ _ _) fun _ => Keeps.bind (hprice _ _ _) fun _ => ?_
      exact Keeps.bind (hsell _ _ _) fun _ => Keeps.pure _

end ExitCall

/-! ## What is booked -/

section Booking

variable {router : Router} {config : Config} {position : OpenPosition} {sales : Sales}
  {fee : Leg → Dec}

/-- The fees of the legs. -/
def LegFees (router : Router) (config : Config) (market : MarketSpec) (fee : Leg → Dec) : Prop :=
  ∀ leg, venueFeePct config (router.label leg) market = .ok (fee leg)

theorem bookResidual_plain {leg : Leg} {result : ExitLegResult}
    (hplain : result.error.any Router.isResidual = false) :
    router.bookResidual leg result position = .ok position := by
  unfold Router.bookResidual
  split
  · next report contracts herror =>
      rw [herror] at hplain
      cases hplain
  · rfl

/-- The purchases of a position. -/
structure SamePurchases (position next : OpenPosition) : Prop where
  market : next.market = position.market
  firstPrice : next.polymarketEntryPrice = position.polymarketEntryPrice
  secondPrice : next.predictFunEntryPrice = position.predictFunEntryPrice

theorem SamePurchases.trans {position next last : OpenPosition} (h : SamePurchases position next)
    (h' : SamePurchases next last) : SamePurchases position last :=
  ⟨h'.market.trans h.market, h'.firstPrice.trans h.firstPrice, h'.secondPrice.trans h.secondPrice⟩

/-- Each leg books its fill. -/
theorem bookClose_fills (hfee : LegFees router config position.market fee)
    (hdefinitive : ∀ leg, sales.Definitive position leg) :
    ∃ updated, router.bookClose config position sales.first sales.second sales.firstPrice
        sales.secondPrice = .ok updated ∧ SamePurchases position updated ∧
      ∀ leg, legExit updated leg = (legExit position leg).fill (fee leg) (sales.fill leg) := by
  have hafter : ∃ updated, router.afterClose config position sales.first sales.second
        sales.firstPrice sales.secondPrice = .ok updated ∧ SamePurchases position updated ∧
      ∀ leg, legExit updated leg = (legExit position leg).fill (fee leg) (sales.fill leg) := by
    unfold Router.afterClose Router.legProceeds
    rw [hfee .first, hfee .second]
    refine ⟨_, rfl, ⟨rfl, rfl, rfl⟩, fun leg => ?_⟩
    cases leg with
    | first => rfl
    | second => rfl
  obtain ⟨updated, hupdated, hsame, hfills⟩ := hafter
  refine ⟨updated, ?_, hsame, hfills⟩
  unfold Router.bookClose
  rw [hupdated]
  have hfirst : router.bookResidual .first sales.first updated = .ok updated :=
    bookResidual_plain (hdefinitive .first).plain
  show (router.bookResidual .first sales.first updated >>= _) = _
  rw [hfirst]
  exact bookResidual_plain (hdefinitive .second).plain

/-- The cost of the purchases with their fees, as the code computes it. -/
def entryCost (fee : Leg → Dec) (position : OpenPosition) : Dec :=
  Dec.add
    (Dec.mul position.polymarketContracts
      (Dec.mul position.polymarketEntryPrice (Dec.add 1 (fee .first))))
    (Dec.mul position.predictFunContracts
      (Dec.mul position.predictFunEntryPrice (Dec.add 1 (fee .second))))

/-- The proceeds of both legs less the cost of the purchases. -/
def exitProfit (fee : Leg → Dec) (position : OpenPosition) (proceeds : Leg → Dec) : Dec :=
  Dec.sub (Dec.add (proceeds .first) (proceeds .second)) (entryCost fee position)

/-- The results that are recorded when the position is removed. -/
def recordedAtExit (fee : Leg → Dec) (position : OpenPosition) (proceeds : Leg → Dec) : List Dec :=
  if entryCost fee position ≤ 0 then []
  else if exitProfit fee position proceeds < 0 then [exitProfit fee position proceeds] else []

theorem announceClose_final (hfee : LegFees router config position.market fee)
    (answers : PositionAnswers) (updated : OpenPosition) (w : World) :
    finalState (router.announceClose config answers position updated) w =
      { w with
        realized := recordedAtExit fee position (fun leg => (legExit updated leg).proceeds) ++
          w.realized } := by
  have hsend : ∀ t : World, finalState (await answers.sendExit : Effect Unit) t = t := by
    intro t
    cases answers.sendExit with
    | ok _ => rfl
    | error _ => rfl
  set profit := exitProfit fee position fun leg => (legExit updated leg).proceeds with hprofit
  have hrun : router.announceClose config answers position updated =
      if entryCost fee position ≤ 0 then throw (.failed none)
      else
        whenever (profit < 0) (Router.recordLoss answers.closePnl profit) >>= fun _ =>
          await answers.sendExit := by
    unfold Router.announceClose
    rw [await_bind (hfee .first), await_bind (hfee .second)]
    rfl
  rw [hrun]
  unfold recordedAtExit
  by_cases hcost : entryCost fee position ≤ 0
  · rw [if_pos hcost, if_pos hcost]
    rfl
  · rw [if_neg hcost, if_neg hcost, ← hprofit]
    refine (finalState_bind_same fun _ t _ => hsend t).trans ?_
    unfold whenever
    by_cases hloss : profit < 0
    · rw [if_pos hloss, if_pos hloss]
      exact Router.recordLoss_final answers.closePnl profit w
    · rw [if_neg hloss, if_neg hloss]
      rfl

/-- Are both legs closed, and does neither need a review? -/
def Sales.ends (sales : Sales) (next : Leg → LegExit) : Prop :=
  sales.needsReview = false ∧ (next .first).isClosed = true ∧ (next .second).isClosed = true

instance (sales : Sales) (next : Leg → LegExit) : Decidable (sales.ends next) :=
  inferInstanceAs (Decidable (_ ∧ _))

/-- The end of a close asks whether the booked accounts are closed. -/
theorem settleClose_eq (answers : PositionAnswers) {updated : OpenPosition}
    (hfills : ∀ leg, legExit updated leg =
      (legExit position leg).fill (fee leg) (sales.fill leg)) :
    router.settleClose config answers position sales.first sales.second updated =
      if sales.ends (legExit updated) then
        removePosition router.repository answers.removePosition (positionKey position.market) >>=
          fun _ => router.announceClose config answers position updated
      else
        addPosition router.repository answers.savePosition updated >>= fun _ =>
          await answers.sendHtml := by
  -- The tests of the source are the flags of the booked accounts.
  have hfirst : (legExit updated .first).isClosed = decide (position.polymarketClosed = true ∨
      Dec.sub position.polymarketContracts Dec.epsilon ≤ min position.polymarketContracts
        (Dec.add position.polymarketClosedContracts (Router.newFill sales.first))) := by
    rw [hfills]
    rfl
  have hsecond : (legExit updated .second).isClosed = decide (position.predictFunClosed = true ∨
      Dec.sub position.predictFunContracts Dec.epsilon ≤ min position.predictFunContracts
        (Dec.add position.predictFunClosedContracts (Router.newFill sales.second))) := by
    rw [hfills]
    rfl
  unfold Router.settleClose
  dsimp only
  rw [← hfirst, ← hsecond]
  by_cases hends : sales.ends (legExit updated)
  · obtain ⟨hreview, hclosed, hclosed'⟩ := id hends
    obtain ⟨hplain, hplain'⟩ := Bool.or_eq_false_iff.mp hreview
    rw [if_pos hends, if_neg (by simp [hplain, hplain', hclosed, hclosed'])]
  · rw [if_neg hends, if_pos]
    by_contra hnone
    simp only [not_or, Bool.not_eq_true, Bool.not_eq_false] at hnone
    exact hends ⟨Bool.or_eq_false_iff.mpr ⟨hnone.1, hnone.2.1⟩, hnone.2.2.1, hnone.2.2.2⟩

theorem addPosition_final {repository : Bool} {answer : WriteAnswer Exc}
    (hsaved : repository = true → answer = .done) (saved : OpenPosition) (w : World) :
    ∃ positions, addPosition repository answer saved w =
      .ok () { w with positions := positions, ledger := w.ledger.add saved } := by
  cases repository with
  | false => exact ⟨w.positions, rfl⟩
  | true =>
      rw [hsaved rfl]
      exact ⟨w.positions.set (positionKey saved.market) saved, rfl⟩

theorem removePosition_final {repository : Bool} {answer : WriteAnswer Exc}
    (hsaved : repository = true → answer = .done) (key : String) (w : World) :
    ∃ positions, removePosition repository answer key w =
      .ok () { w with positions := positions, ledger := w.ledger.erase key } := by
  cases repository with
  | false => exact ⟨w.positions, rfl⟩
  | true =>
      rw [hsaved rfl]
      exact ⟨w.positions.erase key, rfl⟩

/-- What follows the sales of a close: the accounts are stored, or the position is removed and its
result recorded. -/
theorem bookSales_final (hfee : LegFees router config position.market fee)
    (hdefinitive : ∀ leg, sales.Definitive position leg) {answers : PositionAnswers}
    (hsaved : Saved router [answers.savePosition, answers.removePosition]) (w : World) :
    ∃ updated, SamePurchases position updated ∧
      (∀ leg, legExit updated leg = (legExit position leg).fill (fee leg) (sales.fill leg)) ∧
      (finalState (router.bookSales config answers position sales) w).ledger =
        (if sales.ends (legExit updated) then w.ledger.erase (positionKey position.market)
          else w.ledger.add updated) ∧
      (finalState (router.bookSales config answers position sales) w).realized =
        (if sales.ends (legExit updated) then
            recordedAtExit fee position (fun leg => (legExit updated leg).proceeds)
          else []) ++ w.realized := by
  obtain ⟨updated, hupdated, hsame, hfills⟩ := bookClose_fills hfee hdefinitive
  refine ⟨updated, hsame, hfills, ?_⟩
  unfold Router.bookSales
  rw [await_bind hupdated, settleClose_eq answers hfills]
  split
  · obtain ⟨positions, hremoved⟩ := removePosition_final
      (fun hrepository => hsaved hrepository answers.removePosition (by simp))
      (positionKey position.market) w
    rw [finalState_of_ok hremoved, announceClose_final hfee]
    exact ⟨rfl, rfl⟩
  · obtain ⟨positions, hadded⟩ := addPosition_final
      (fun hrepository => hsaved hrepository answers.savePosition (by simp)) updated w
    have hsend : ∀ t : World, finalState (await answers.sendHtml : Effect Unit) t = t := by
      intro t
      cases answers.sendHtml with
      | ok _ => rfl
      | error _ => rfl
    rw [finalState_of_ok hadded, hsend]
    exact ⟨rfl, rfl⟩

end Booking

/-! ## Runs -/

/-- The state with the fills of each leg that its sales have returned. -/
structure ExitLog where
  world : World
  fills : Leg → List LegFill

/-- The fills after these sales. -/
def ExitLog.fillsAfter (log : ExitLog) (sales : Option Sales) (leg : Leg) : List LegFill :=
  match sales with
  | none => log.fills leg
  | some sales => log.fills leg ++ [sales.fill leg]

/-- What the sales of a call return. -/
def returnedSales (sales : Effect (Option Sales)) (w : World) : Option Sales :=
  match sales w with
  | .ok sales _ => sales
  | .error _ _ => none

/-- A call on the position the ledger has for the market. -/
def exitStep (router : Router) (config : Config) (market : MarketSpec) (log : ExitLog)
    (call : ExitCall) : Option ExitLog :=
  (log.world.ledger.get? (positionKey market)).map fun position =>
    { world := finalState (call.run router config position) log.world
      fills := log.fillsAfter (returnedSales (call.sales router position) log.world) }

/-- The reports of the call are definitive, and what it stores is stored. -/
structure Definite (router : Router) (market : MarketSpec) (log : ExitLog) (call : ExitCall) :
    Prop where
  reports : ∀ position, log.world.ledger.get? (positionKey market) = some position →
    ∀ sales, returnedSales (call.sales router position) log.world = some sales →
      ∀ leg, sales.Definitive position leg
  saved : Saved router [call.answers.savePosition, call.answers.removePosition]

section Runs

variable (position : OpenPosition) (fee : Leg → Dec)

/-- The account of a leg of the position after the fills of the log. -/
def ExitLog.account (log : ExitLog) (leg : Leg) : LegExit :=
  LegExit.fills (fee leg) (legExit position leg).contracts (log.fills leg)

/-- The position is stored with the accounts of its fills, and nothing was recorded. -/
structure Stored (w₀ : World) (log : ExitLog) : Prop where
  position : ∃ stored, log.world.ledger.get? (positionKey position.market) = some stored ∧
    SamePurchases position stored ∧ ∀ leg, legExit stored leg = log.account position fee leg
  realized : log.world.realized = w₀.realized

/-- The position is removed: both legs are closed, and the result was recorded. -/
structure Removed (w₀ : World) (log : ExitLog) : Prop where
  gone : log.world.ledger.get? (positionKey position.market) = none
  closed : ∀ leg, (log.account position fee leg).complete
  realized : log.world.realized =
    recordedAtExit fee position (fun leg => (log.account position fee leg).proceeds) ++ w₀.realized

/-- What one call does: no account falls, and the position is removed exactly if the call sold and
closes both legs, and neither needs a review. -/
structure Progress (router : Router) (log : ExitLog) (call : ExitCall) (next : ExitLog) :
    Prop where
  grows : ∀ leg, (log.account position fee leg).closed ≤ (next.account position fee leg).closed
  removed_iff : next.world.ledger.get? (positionKey position.market) = none ↔
    ∃ stored sales, log.world.ledger.get? (positionKey position.market) = some stored ∧
      returnedSales (call.sales router stored) log.world = some sales ∧
      sales.needsReview = false ∧ ∀ leg, (next.account position fee leg).complete

variable {position fee} {router : Router} {config : Config} {w₀ : World} {log next : ExitLog}
  {call : ExitCall}

/-- The sales of a call change neither the positions nor the results. -/
theorem ExitCall.sales_same (router : Router) (call : ExitCall) (stored : OpenPosition)
    (w : World) :
    Keeps (fun t => t.ledger = w.ledger ∧ t.realized = w.realized)
      (call.sales router stored) := by
  refine ExitCall.sales_keeps router stored ⟨fun _ _ h => h, fun t report h => ?_⟩
    (fun _ _ _ _ _ _ h => h) call
  unfold World.observe
  split
  · exact h
  · exact h

/-- What a call comes to, by the sales it returns. -/
theorem ExitCall.run_returned (router : Router) (config : Config) (call : ExitCall)
    (stored : OpenPosition) (w : World) :
    ∃ t : World, t.ledger = w.ledger ∧ t.realized = w.realized ∧
      finalState (call.run router config stored) w =
        match returnedSales (call.sales router stored) w with
        | none => t
        | some sales => finalState (router.bookSales config call.answers stored sales) t := by
  have hsame := ExitCall.sales_same router call stored w w ⟨rfl, rfl⟩
  unfold returnedSales
  rw [ExitCall.run_eq]
  cases hrun : call.sales router stored w with
  | error exc t =>
      rw [hrun] at hsame
      exact ⟨t, hsame.1, hsame.2, finalState_of_error hrun⟩
  | ok sales t =>
      rw [hrun] at hsame
      refine ⟨t, hsame.1, hsame.2, (finalState_of_ok hrun).trans ?_⟩
      cases sales with
      | none => rfl
      | some sales => rfl

/-- The cost of a position depends on its purchases alone. -/
theorem recordedAtExit_congr {stored : OpenPosition} {proceeds : Leg → Dec}
    (hsame : SamePurchases position stored)
    (hcontracts : ∀ leg, (legExit stored leg).contracts = (legExit position leg).contracts) :
    recordedAtExit fee stored proceeds = recordedAtExit fee position proceeds := by
  have hfirst : stored.polymarketContracts = position.polymarketContracts := hcontracts .first
  have hsecond : stored.predictFunContracts = position.predictFunContracts := hcontracts .second
  have hcost : entryCost fee stored = entryCost fee position := by
    unfold entryCost
    rw [hfirst, hsecond, hsame.firstPrice, hsame.secondPrice]
  unfold recordedAtExit exitProfit
  rw [hcost]

/-- One call. -/
theorem Stored.step (hfee : LegFees router config position.market fee)
    (hsound : ∀ leg, (log.account position fee leg).Sound)
    (hexact : ∀ leg, Dec.Exact (legExit position leg).contracts)
    (h : Stored position fee w₀ log) (hdefinite : Definite router position.market log call)
    (hstep : exitStep router config position.market log call = some next) :
    (∀ leg, (next.account position fee leg).Sound) ∧
      (Stored position fee w₀ next ∨ Removed position fee w₀ next) ∧
      Progress position fee router log call next := by
  obtain ⟨⟨stored, hstored, hsame, haccounts⟩, hrealized⟩ := h
  unfold exitStep at hstep
  rw [hstored] at hstep
  have hworld : next.world = finalState (call.run router config stored) log.world := by
    cases hstep
    rfl
  have hlog : next.fills = log.fillsAfter (returnedSales (call.sales router stored) log.world) := by
    cases hstep
    rfl
  clear hstep
  obtain ⟨t, hledger, hresults, hfinal⟩ :=
    ExitCall.run_returned router config call stored log.world
  rw [← hworld] at hfinal
  cases hreturned : returnedSales (call.sales router stored) log.world with
  | none =>
      -- Nothing was sold, and nothing is booked.
      rw [hreturned] at hfinal hlog
      have hsameAccount : ∀ leg, next.account position fee leg = log.account position fee leg := by
        intro leg
        unfold ExitLog.account
        rw [hlog]
        rfl
      have hget : next.world.ledger.get? (positionKey position.market) = some stored := by
        rw [hfinal]
        dsimp only
        rw [hledger]
        exact hstored
      have hquiet : next.world.realized = w₀.realized := by
        rw [hfinal]
        exact hresults.trans hrealized
      refine ⟨fun leg => hsameAccount leg ▸ hsound leg, .inl ⟨⟨stored, hget, hsame, ?_⟩, hquiet⟩,
        fun leg => (hsameAccount leg ▸ le_rfl), ?_⟩
      · intro leg
        rw [hsameAccount]
        exact haccounts leg
      constructor
      · intro hgone
        exact nomatch hgone.symm.trans hget
      · rintro ⟨other, sales, hother, hsales, _⟩
        cases hstored.symm.trans hother
        exact nomatch hreturned.symm.trans hsales
  | some sales =>
      rw [hreturned] at hfinal hlog
      have hdefinitive := hdefinite.reports stored hstored sales hreturned
      have hfee' : LegFees router config stored.market fee := hsame.market ▸ hfee
      obtain ⟨updated, hupdated, hfills, hledger', hresults'⟩ :=
        bookSales_final hfee' hdefinitive hdefinite.saved t
      have hworld' : next.world =
          finalState (router.bookSales config call.answers stored sales) t := hfinal
      rw [← hworld', hledger, hsame.market] at hledger'
      rw [← hworld', hresults, hrealized] at hresults'
      -- What is booked is the account with one fill more.
      have hnext : ∀ leg, legExit updated leg = next.account position fee leg := by
        intro leg
        unfold ExitLog.account
        rw [hlog, hfills, haccounts]
        exact LegExit.fills_concat.symm
      have hfill : ∀ leg, (next.account position fee leg).Sound ∧
          (log.account position fee leg).Fills (next.account position fee leg) := by
        intro leg
        rw [← hnext, hfills, haccounts]
        refine (hsound leg).fill ?_ (hdefinitive leg).nonneg
        rw [ExitLog.account, LegExit.contracts_fills]
        exact hexact leg
      have hends : sales.ends (legExit updated) ↔ sales.needsReview = false ∧
          ∀ leg, (next.account position fee leg).complete := by
        unfold Sales.ends
        rw [hnext, hnext, (hfill .first).2.isClosed_iff, (hfill .second).2.isClosed_iff]
        constructor
        · rintro ⟨hreview, hfirst, hsecond⟩
          refine ⟨hreview, fun leg => ?_⟩
          cases leg with
          | first => exact hfirst
          | second => exact hsecond
        · rintro ⟨hreview, hcomplete⟩
          exact ⟨hreview, hcomplete .first, hcomplete .second⟩
      refine ⟨fun leg => (hfill leg).1, ?_, fun leg => (hfill leg).2.le, ?_⟩
      · by_cases hend : sales.ends (legExit updated)
        · rw [if_pos hend] at hledger' hresults'
          refine .inr ⟨?_, (hends.mp hend).2, ?_⟩
          · rw [hledger']
            exact Lib.Dict.get?_erase_self _ _
          · have hcontracts : ∀ leg, (legExit stored leg).contracts =
                (legExit position leg).contracts := by
              intro leg
              rw [haccounts, ExitLog.account, LegExit.contracts_fills]
            rw [hresults', recordedAtExit_congr hsame hcontracts]
            simp only [hnext]
        · rw [if_neg hend] at hledger' hresults'
          refine .inl ⟨⟨updated, ?_, hsame.trans hupdated, hnext⟩, hresults'⟩
          rw [hledger', ← hsame.market, ← hupdated.market]
          exact Lib.Dict.get?_set_self _ _ _
      · have hgone : next.world.ledger.get? (positionKey position.market) = none ↔
            sales.ends (legExit updated) := by
          rw [hledger']
          split
          · next hend => exact iff_of_true (Lib.Dict.get?_erase_self _ _) hend
          · next hend =>
              have hadded : (log.world.ledger.add updated).get? (positionKey position.market) =
                  some updated := by
                rw [← hsame.market, ← hupdated.market]
                exact Lib.Dict.get?_set_self _ _ _
              refine iff_of_false (fun hnone => ?_) hend
              exact nomatch hnone.symm.trans hadded
        rw [hgone, hends]
        constructor
        · rintro ⟨hreview, hcomplete⟩
          exact ⟨stored, sales, hstored, hreturned, hreview, hcomplete⟩
        · rintro ⟨other, sold, hother, hsold, hreview, hcomplete⟩
          cases hstored.symm.trans hother
          cases hreturned.symm.trans hsold
          exact ⟨hreview, hcomplete⟩

/-- **Partial exits.**  In every run of closes and retries of an open position with definitive
reports, whose contracts the decimal context holds and whose venues have a fee: the closed contracts
of a leg never fall and never exceed its contracts, and its proceeds are the sum over its fills, up
to the roundings of the context; the position is removed exactly by the call that leaves both legs
closed with no review; and nothing is recorded before, and then the loss, once, if it is one. -/
theorem partial_exits_accounted (hfee : LegFees router config position.market fee)
    (hopen : ∀ leg, legExit position leg = { contracts := (legExit position leg).contracts })
    (hcontracts : ∀ leg, 0 ≤ (legExit position leg).contracts ∧
      Dec.Exact (legExit position leg).contracts)
    (hledger : w₀.ledger.get? (positionKey position.market) = some position)
    {hist : List ExitLog}
    (hrun : Run (exitStep router config position.market) (Definite router position.market)
      ⟨w₀, fun _ => []⟩ hist log) :
    (∀ leg, (log.account position fee leg).closed ≤ (legExit position leg).contracts ∧
        |(log.account position fee leg).proceeds - ((log.fills leg).map fun fill =>
            fill.contracts * fill.price * (1 - fee leg)).sum| ≤
          LegExit.drift ((log.fills leg).length + 3) * ((log.fills leg).map fun fill =>
            |fill.contracts * fill.price * (1 - fee leg)|).sum) ∧
      (Stored position fee w₀ log ∨ Removed position fee w₀ log) ∧
      ∀ call next, Definite router position.market log call →
        exitStep router config position.market log call = some next →
          Progress position fee router log call next := by
  have hexact : ∀ leg, Dec.Exact (legExit position leg).contracts := fun leg => (hcontracts leg).2
  have hinvariant : (∀ leg, (log.account position fee leg).Sound) ∧
      (Stored position fee w₀ log ∨ Removed position fee w₀ log) := by
    refine hrun.state_invariant (fun log => (∀ leg, (log.account position fee leg).Sound) ∧
      (Stored position fee w₀ log ∨ Removed position fee w₀ log)) ⟨fun leg => ?_, .inl ?_⟩ ?_
    · exact LegExit.Sound.fresh (hcontracts leg).1
    · exact ⟨⟨position, hledger, ⟨rfl, rfl, rfl⟩, hopen⟩, rfl⟩
    · rintro before call after ⟨hsound, hstored | hremoved⟩ hdefinite hstep
      · obtain ⟨hsound', hafter, _⟩ := hstored.step hfee hsound hexact hdefinite hstep
        exact ⟨hsound', hafter⟩
      · -- There is no position any more.
        unfold exitStep at hstep
        rw [hremoved.gone] at hstep
        cases hstep
  obtain ⟨hsound, hstate⟩ := hinvariant
  refine ⟨fun leg => ⟨?_, LegExit.abs_proceeds_sub_le⟩, hstate, ?_⟩
  · have hle := (hsound leg).le
    unfold ExitLog.account at hle ⊢
    rwa [LegExit.contracts_fills] at hle
  · intro call next hdefinite hstep
    rcases hstate with hstored | hremoved
    · exact (hstored.step hfee hsound hexact hdefinite hstep).2.2
    · unfold exitStep at hstep
      rw [hremoved.gone] at hstep
      cases hstep

end Runs

/-! ## A loss and a profit -/

/-- An open position of ten contracts of each leg, bought at this price. -/
def heldPosition (entryPrice : Dec) : OpenPosition where
  market := unwindMarket "Predict.fun"
  polymarketContracts := 10
  polymarketEntryPrice := entryPrice
  predictFunContracts := 10
  predictFunEntryPrice := entryPrice
  polymarketOrderId := "first"
  predictFunOrderId := "second"

/-- The state that holds it. -/
def holding (entryPrice : Dec) : ExitLog where
  world := { beforeUnwind with ledger := PositionLedger.add .empty (heldPosition entryPrice) }
  fills := fun _ => []

/-- So much of each leg is sold at one half. -/
def soldHalves (round : String) (first second : Dec) : PositionAnswers :=
  { retryAnswers round 0 with
    first := unwoundAtHalf ("first-" ++ round) first
    second := unwoundAtHalf ("second-" ++ round) second }

/-- The router of the examples. -/
def exitRouter : Router := ⟨.polymarketPredict, true⟩

/-- A check that the reports of a call are definitive. -/
theorem definite_of_check {router : Router} {market : MarketSpec} {log : ExitLog} {call : ExitCall}
    (hcheck : ((log.world.ledger.get? (positionKey market)).all fun position =>
      (returnedSales (call.sales router position) log.world).all fun sales =>
        decide (sales.Definitive position .first) && decide (sales.Definitive position .second)) =
      true)
    (hsaved : Saved router [call.answers.savePosition, call.answers.removePosition]) :
    Definite router market log call := by
  refine ⟨fun position hposition sales hsales leg => ?_, hsaved⟩
  rw [hposition, Option.all_some, hsales, Option.all_some, Bool.and_eq_true, decide_eq_true_iff,
    decide_eq_true_iff] at hcheck
  cases leg with
  | first => exact hcheck.1
  | second => exact hcheck.2

/-- Ten contracts of each leg that were bought at three fifths are sold at one half, those of the
second leg in two parts. -/
theorem partial_exits_accounted_two_calls :
    ∃ hist log, Run (exitStep exitRouter noFees (unwindMarket "Predict.fun"))
        (Definite exitRouter (unwindMarket "Predict.fun")) (holding (3 / 5)) hist log ∧
      log.world.realized = [-2] ∧
      (Stored (heldPosition (3 / 5)) (fun _ => 0) (holding (3 / 5)).world log ∨
        Removed (heldPosition (3 / 5)) (fun _ => 0) (holding (3 / 5)).world log) := by
  let close : ExitCall := .close (soldHalves "1" 10 4) (1 / 2) (1 / 2)
  let retry : ExitCall := .retry (soldHalves "2" 0 6)
  have hsteps : ((exitStep exitRouter noFees (unwindMarket "Predict.fun") (holding (3 / 5))
      close).bind fun log => exitStep exitRouter noFees (unwindMarket "Predict.fun") log retry).map
        (fun log => log.world.realized) = some [-2] := by decide +kernel
  obtain ⟨last, hlast, hrealized⟩ := Option.map_eq_some_iff.mp hsteps
  obtain ⟨log, hlog, hretry⟩ := Option.bind_eq_some_iff.mp hlast
  have hclose : Definite exitRouter (unwindMarket "Predict.fun") (holding (3 / 5)) close :=
    definite_of_check (by decide +kernel) fun _ => by decide
  have hcheck : ((exitStep exitRouter noFees (unwindMarket "Predict.fun") (holding (3 / 5))
      close).map fun log => (log.world.ledger.get? (positionKey (unwindMarket "Predict.fun"))).all
        fun position => (returnedSales (retry.sales exitRouter position) log.world).all fun sales =>
          decide (sales.Definitive position .first) &&
            decide (sales.Definitive position .second)) = some true := by decide +kernel
  rw [hlog] at hcheck
  have hagain : Definite exitRouter (unwindMarket "Predict.fun") log retry :=
    definite_of_check (Option.some.inj hcheck) fun _ => by decide
  have hrun := (Run.start.next hclose hlog).next hagain hretry
  have hfee : LegFees exitRouter noFees (heldPosition (3 / 5)).market fun _ => 0 := by
    intro leg
    cases leg with
    | first => decide +kernel
    | second => decide +kernel
  have hopen : ∀ leg, legExit (heldPosition (3 / 5)) leg =
      { contracts := (legExit (heldPosition (3 / 5)) leg).contracts } := by
    intro leg
    cases leg with
    | first => rfl
    | second => rfl
  have hcontracts : ∀ leg, 0 ≤ (legExit (heldPosition (3 / 5)) leg).contracts ∧
      Dec.Exact (legExit (heldPosition (3 / 5)) leg).contracts := by
    intro leg
    cases leg with
    | first => decide +kernel
    | second => decide +kernel
  exact ⟨_, last, hrun, hrealized,
    (partial_exits_accounted hfee hopen hcontracts (by decide +kernel) hrun).2.1⟩

/-- Ten contracts of each leg that were bought at two fifths are sold at one half: the position is
removed with a profit of two, and nothing is recorded. -/
theorem exit_profit_unrecorded :
    ∃ log, exitStep exitRouter noFees (unwindMarket "Predict.fun") (holding (2 / 5))
        (.close (soldHalves "1" 10 10) (1 / 2) (1 / 2)) = some log ∧
      log.world.ledger.get? (positionKey (unwindMarket "Predict.fun")) = none ∧
      exitProfit (fun _ => 0) (heldPosition (2 / 5))
        (fun leg => (log.account (heldPosition (2 / 5)) (fun _ => 0) leg).proceeds) = 2 ∧
      log.world.realized = [] := by
  have hstep : (exitStep exitRouter noFees (unwindMarket "Predict.fun") (holding (2 / 5))
      (.close (soldHalves "1" 10 10) (1 / 2) (1 / 2))).map (fun log =>
        (log.world.ledger.get? (positionKey (unwindMarket "Predict.fun")),
          exitProfit (fun _ => 0) (heldPosition (2 / 5))
            (fun leg => (log.account (heldPosition (2 / 5)) (fun _ => 0) leg).proceeds),
          log.world.realized)) = some (none, 2, []) := by decide +kernel
  obtain ⟨log, hlog, hfacts⟩ := Option.map_eq_some_iff.mp hstep
  obtain ⟨hgone, hrest⟩ := Prod.mk.inj hfacts
  obtain ⟨hprofit, hrealized⟩ := Prod.mk.inj hrest
  exact ⟨log, hlog, hgone, hprofit, hrealized⟩

end ArbitrageEngine.Execution
