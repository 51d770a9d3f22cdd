/-
# ArbitrageEngine.Execution.SalesLog -- what the exits keep of the log of sales

A property of the log that speaks neither of the tables nor of the reported amounts is kept by every
method of the router, provided it allows the sales of the two legs: the one place where the log
grows is the sale.
-/
import ArbitrageEngine.Execution.PositionManager

namespace ArbitrageEngine.Execution

open Lib.Effect

/-! ## What a sale keeps -/

/-- A property that speaks neither of the intents nor of what was reported of a sale. -/
structure SaleInvariant (I : World → Prop) : Prop where
  intents : ∀ w intents, I w → I { w with intents := intents }
  observe : ∀ w report, I w → I (w.observe report)

/-- The property does not speak of the positions. -/
def KeptByPositions (I : World → Prop) : Prop :=
  ∀ w positions ledger, I w → I { w with positions := positions, ledger := ledger }

/-- The property does not speak of the results that were recorded. -/
def KeptByRecords (I : World → Prop) : Prop :=
  ∀ w result, I w → I { w with realized := result :: w.realized }

/-- A property of the log of sales. -/
structure LogInvariant (I : World → Prop) : Prop extends SaleInvariant I where
  positions : KeptByPositions I
  record : KeptByRecords I

/-- The property allows the sale of this call. -/
def AllowsSale (I : World → Prop) (call : ExitLeg) : Prop :=
  ∀ w clientOrderId, I w → I (w.submit clientOrderId call.market call.leg call.venueLabel
    call.tokenId call.contracts)

/-! ## What can be sold -/

/-- The unmatched contracts of a leg. -/
def unmatchedContracts (position : OpenPosition) : Leg → Dec
  | .first => position.unmatchedFirstContracts
  | .second => position.unmatchedSecondContracts

/-- Is the leg sold when the best bids are good enough? -/
def Router.ClosesLeg (router : Router) (config : Config) (position : OpenPosition)
    (leg : Leg) : Prop :=
  config.submitsOrders = true ∧ Router.legClosed position leg = false ∧
    ∃ firstExit secondExit, router.closesAt config position firstExit secondExit = .ok true

/-- Can a round of the position at this route sell the leg? -/
def PositionManager.CanSell (manager : PositionManager) (route : ExecutionRoute)
    (position : OpenPosition) (leg : Leg) : Prop :=
  if position.status = "unwind_pending" then Dec.epsilon < unmatchedContracts position leg
  else if position.status = "partial_exit_pending" then Router.legClosed position leg = false
  else position.status = "open" ∧ manager.config.autoCloseEnabled = true ∧
    (manager.router route).ClosesLeg manager.config position leg

section Keeps

variable {I : World → Prop}

section Sale

variable (hI : SaleInvariant I)
include hI

theorem createOrderIntent_keeps (answer : WriteAnswer Exc) (intent : OrderIntent) :
    Keeps I (createOrderIntent answer intent) := by
  refine Keeps.bind (Spec.get fun _ h => h) fun w => ?_
  cases w.intents.get? intent.clientOrderId with
  | some _ => exact Keeps.throw _
  | none => exact Keeps.transact fun w => hI.intents w _

theorem updateOrderIntent_keeps (answer : WriteAnswer Exc) (clientOrderId : String)
    (status : OrderIntentStatus) (venueOrderId : Option String) :
    Keeps I (updateOrderIntent answer clientOrderId status venueOrderId) := by
  refine Keeps.bind (Spec.get fun _ h => h) fun w => ?_
  cases w.intents.get? clientOrderId with
  | none => exact Keeps.throw _
  | some _ => exact Keeps.transact fun w => hI.intents w _

omit hI in
theorem addPosition_keeps (hpositions : KeptByPositions I) (repository : Bool)
    (answer : WriteAnswer Exc) (position : OpenPosition) :
    Keeps I (addPosition repository answer position) :=
  Keeps.bind (Keeps.whenever (Keeps.transact fun w => hpositions w _ _)) fun _ =>
    Keeps.modify fun w => hpositions w _ _

omit hI in
theorem removePosition_keeps (hpositions : KeptByPositions I) (repository : Bool)
    (answer : WriteAnswer Exc) (key : String) :
    Keeps I (removePosition repository answer key) :=
  Keeps.bind (Keeps.whenever (Keeps.transact fun w => hpositions w _ _)) fun _ =>
    Keeps.modify fun w => hpositions w _ _

namespace Router

variable (router : Router) (answers : SellAnswers)

omit answers in
theorem updateIntent_keeps (clientOrderId : String) (answer : WriteAnswer Exc)
    (status : OrderIntentStatus) (venueOrderId : Option String) :
    Keeps I (router.updateIntent clientOrderId answer status venueOrderId) :=
  Keeps.whenever (updateOrderIntent_keeps hI _ _ _ _)

theorem persistOrderIds_keeps (clientOrderId : String) :
    ∀ (calls : List (String × WriteAnswer Exc)) (orderId : String),
      Keeps I (router.persistOrderIds clientOrderId calls orderId)
  | [], _ => Keeps.pure _
  | (prepared, answer) :: rest, orderId => by
      unfold persistOrderIds
      refine Keeps.ite (persistOrderIds_keeps clientOrderId rest orderId) ?_
      exact Keeps.bind (Keeps.attempt (router.updateIntent_keeps hI _ _ _ _)) fun _ =>
        persistOrderIds_keeps clientOrderId rest prepared

theorem observed_keeps (answer : Except Exc ExecutionReport) :
    Keeps I (observed World.observe answer) :=
  Keeps.bind (Keeps.await answer) fun report =>
    Keeps.bind (Keeps.modify fun w => hI.observe w report) fun _ => Keeps.pure _

theorem cancelAndReconcile_keeps (cancelOrder : Except Exc Unit)
    (reconcile : Except Exc ExecutionReport) (previous : ExecutionReport) :
    Keeps I (cancelAndReconcile World.observe cancelOrder reconcile previous) := by
  refine Keeps.bind (Keeps.attempt (Keeps.await _)) fun _ => ?_
  refine Keeps.bind (Keeps.attempt (observed_keeps hI _)) fun current => ?_
  cases current with
  | error _ => exact Keeps.pure _
  | ok _ => exact Keeps.pure _

theorem confirm_keeps (orderId : String) : Keeps I (router.confirm answers orderId) := by
  refine Keeps.bind (router.updateIntent_keeps hI _ _ _ _) fun _ => ?_
  refine Keeps.bind (observed_keeps hI _) fun first => Keeps.bind ?_ fun report => ?_
  · exact Keeps.ite (Keeps.pure _) (cancelAndReconcile_keeps hI _ _ first)
  · exact Keeps.bind (router.updateIntent_keeps hI _ _ _ _) fun _ =>
      Keeps.bind (Keeps.whenever (Keeps.await _)) fun _ => Keeps.pure _

/-- What the submission of the sale makes of `J` is kept by the rest of the `try`. -/
theorem submit_spec {J : World → Prop} {call : ExitLeg}
    (hsale : ∀ w, J w → I (w.submit answers.clientOrderId call.market call.leg call.venueLabel
      call.tokenId call.contracts)) :
    Spec J (router.submit answers call) (fun _ => I) fun _ => I := by
  have hsell : Spec J (router.sell answers call) (fun _ => I) fun _ => I :=
    Spec.bind (Spec.modify hsale) fun _ => router.persistOrderIds_keeps hI _ _ _
  refine Spec.bind hsell fun orderId => ?_
  cases answers.sell with
  | error _ => exact Keeps.pure _
  | ok returned =>
      show Keeps I (ite _ _ _)
      split
      · exact Keeps.pure _
      · exact Keeps.bind (Keeps.attempt (router.confirm_keeps hI answers returned)) fun _ =>
          Keeps.pure _

theorem reconcileAfterError_keeps (orderId : String) (exc : Exc) :
    Keeps I (reconcileAfterError answers orderId exc) := by
  unfold reconcileAfterError
  split
  · exact Keeps.pure _
  · refine Keeps.bind (Keeps.attempt (Keeps.await _)) fun _ => ?_
    refine Keeps.bind (Keeps.attempt (observed_keeps hI _)) fun found => ?_
    match found with
    | .ok _ => exact Keeps.pure _
    | .error (.residual report _) =>
        exact Keeps.bind (Keeps.modify fun w => hI.observe w report) fun _ => Keeps.pure _
    | .error .cancelled | .error (.rejected _) | .error .transactionTimeout
    | .error (.failed _) => exact Keeps.pure _

theorem onError_keeps (before : String) (exc : Exc) :
    Keeps I (router.onError answers before exc) := by
  refine Keeps.bind (Keeps.whenever (Keeps.await _)) fun _ => ?_
  refine Keeps.bind (reconcileAfterError_keeps hI answers _ _) fun outcome => ?_
  have hupdate := router.updateIntent_keeps hI answers.clientOrderId
  refine Keeps.bind (Keeps.ite ?_ (hupdate _ _ _)) fun _ =>
    Keeps.bind (Keeps.whenever (Keeps.await _)) fun _ => Keeps.pure _
  exact Keeps.bind (Keeps.attempt (hupdate _ _ _)) fun _ => Keeps.pure _

theorem onExit_keeps (outcome : String × Except Exc ExecutionReport) :
    Keeps I (router.onExit answers outcome) := by
  match outcome with
  | (_, .ok _) => exact Keeps.pure _
  | (_, .error (.residual report _)) =>
      refine Keeps.bind (Keeps.modify fun w => hI.observe w report) fun _ => ?_
      refine Keeps.bind (Keeps.attempt (router.updateIntent_keeps hI _ _ _ _)) fun _ => ?_
      exact Keeps.bind (Keeps.await _) fun _ => Keeps.pure _
  | (_, .error .cancelled) =>
      refine Keeps.bind (router.updateIntent_keeps hI _ _ _ _) fun _ => ?_
      exact Keeps.bind (Keeps.attempt (Keeps.whenever (Keeps.await _))) fun _ => Keeps.throw _
  | (before, .error (.rejected id)) => exact router.onError_keeps hI answers before (.rejected id)
  | (before, .error .transactionTimeout) =>
      exact router.onError_keeps hI answers before .transactionTimeout
  | (before, .error (.failed id)) => exact router.onError_keeps hI answers before (.failed id)

/-- A sale keeps what allows it. -/
theorem submitExitLeg_keeps {call : ExitLeg}
    (hcall : call.alreadyClosed = false → AllowsSale I call) :
    Keeps I (router.submitExitLeg answers call) := by
  unfold submitExitLeg
  cases hclosed : call.alreadyClosed with
  | true => exact Keeps.pure _
  | false =>
      refine Keeps.bind (Keeps.whenever (createOrderIntent_keeps hI _ _)) fun _ => ?_
      refine Keeps.bind (router.updateIntent_keeps hI _ _ _ _) fun _ => ?_
      exact Keeps.bind (router.submit_spec hI answers fun w => hcall hclosed w _) fun outcome =>
        router.onExit_keeps hI answers outcome

omit hI answers in
theorem settleUnwind_keeps (hpositions : KeptByPositions I) (posAnswers : PositionAnswers)
    (position : OpenPosition) (firstFilled secondFilled : Dec) :
    Keeps I (router.settleUnwind posAnswers position firstFilled secondFilled) := by
  have hadd := addPosition_keeps hpositions router.repository posAnswers.savePosition
  refine Keeps.ite (Keeps.bind ?_ fun _ => Keeps.await _) (hadd _)
  exact Keeps.ite (hadd _) (removePosition_keeps hpositions _ _ _)

end Router

end Sale

/-! ## What an exit keeps -/

variable (hI : LogInvariant I)
include hI

namespace Router

/-- The property allows the sales of this leg. -/
def AllowsLeg (router : Router) (I : World → Prop) (market : MarketSpec) (leg : Leg) : Prop :=
  ∀ alreadyClosed contracts minPrice,
    AllowsSale I (router.exitLeg market leg alreadyClosed contracts minPrice)

variable {router : Router} {config : Config} {market : MarketSpec}

omit hI in
theorem gather_spec {J K : World → Prop} {α β : Type} {first : Effect α} {second : Effect β}
    (hfirst : Spec J first (fun _ => K) fun _ => K)
    (hsecond : Spec K second (fun _ => I) fun _ => I) :
    Spec J (gather first second) (fun _ => I) fun _ => I := by
  refine Spec.bind (Spec.attempted hfirst nofun) fun a =>
    Spec.bind (Spec.attempted hsecond nofun) fun b => ?_
  match a, b with
  | .ok _, .ok _ => exact Keeps.pure _
  | .error _, .ok _ => exact Keeps.throw _
  | .ok _, .error _ => exact Keeps.throw _
  | .error _, .error _ => exact Keeps.throw _

omit hI in
theorem recordLoss_keeps (hrecord : KeptByRecords I) (pnl : PnlAnswers) (result : Dec) :
    Keeps I (recordLoss pnl result) := by
  refine Keeps.bind (Keeps.modify fun w => hrecord w result) fun _ => ?_
  exact Keeps.bind (Keeps.await _) fun _ => Keeps.whenever (Keeps.await _)

omit hI in
theorem recordUnwindPnl_keeps (hrecord : KeptByRecords I) (pnl : PnlAnswers) (venueLabel : String)
    (entryPrice exitPrice contracts : Dec) :
    Keeps I (recordUnwindPnl config pnl venueLabel market entryPrice exitPrice contracts) := by
  refine Keeps.ite (Keeps.pure _) ?_
  exact Keeps.bind (Keeps.await _) fun _ => Keeps.whenever (recordLoss_keeps hrecord _ _)

omit hI in
/-- What the sale makes of `J` is kept by what follows it; without a sale `J` must be enough. -/
theorem tryUnwindLeg_spec (hrecord : KeptByRecords I) {J : World → Prop} {legAnswers : LegAnswers}
    {leg : Leg} {entryPrice requested : Dec}
    (hbook : (∀ bids, legAnswers.book = .ok bids → bids.head? = none) → ∀ w, J w → I w)
    (hsale : ∀ target, Spec J (router.submitExitLeg legAnswers.sell
      (router.exitLeg market leg false requested target)) (fun _ => I) fun _ => I) :
    Spec J (router.tryUnwindLeg config legAnswers market leg entryPrice requested) (fun _ => I)
      fun _ => I := by
  have hbody : Spec J (router.unwindLeg config legAnswers market leg entryPrice requested)
      (fun _ => I) fun _ => I := by
    refine Spec.bind (Spec.await (fun bids hbids w hw => And.intro hbids hw)
      fun exc hexc => hbook (by rw [hexc]; exact nofun)) fun bids => Spec.assume fun hbids => ?_
    cases hhead : bids.head? with
    | none =>
        refine Spec.pure (hbook fun bids' h => ?_)
        rw [hbids] at h
        cases h
        exact hhead
    | some bid =>
        refine Spec.bind (hsale _) fun result => ?_
        cases result.report with
        | none => exact Keeps.pure _
        | some report =>
            exact Keeps.bind (recordUnwindPnl_keeps hrecord _ _ _ _ _) fun _ => Keeps.pure _
  refine Spec.bind (Spec.attempted hbody fun _ _ _ h => h) fun unwound => ?_
  cases unwound with
  | ok _ => exact Keeps.pure _
  | error _ => exact Keeps.pure _

omit hI in
theorem unwindUnmatched_keeps (hI : SaleInvariant I) (hrecord : KeptByRecords I) {leg : Leg} {pending : Dec}
    (hsale : Dec.epsilon < pending → router.AllowsLeg I market leg) (legAnswers : LegAnswers)
    (entryPrice : Dec) :
    Keeps I (router.unwindUnmatched config legAnswers market leg entryPrice pending) := by
  unfold unwindUnmatched
  split
  · next h =>
      exact tryUnwindLeg_spec hrecord (fun _ _ hw => hw) fun _ =>
        router.submitExitLeg_keeps hI _ fun _ => hsale h _ _ _
  · exact Keeps.pure _

theorem retryPendingUnwind_keeps {position : OpenPosition}
    (hsale : ∀ leg, Dec.epsilon < unmatchedContracts position leg →
      router.AllowsLeg I position.market leg) (posAnswers : PositionAnswers) :
    Keeps I (router.retryPendingUnwind config posAnswers position) := by
  refine Keeps.ite (Keeps.pure _) ?_
  exact Keeps.bind (gather_spec
    (unwindUnmatched_keeps hI.toSaleInvariant hI.record (hsale .first) _ _)
    (unwindUnmatched_keeps hI.toSaleInvariant hI.record (hsale .second) _ _)) fun _ =>
      settleUnwind_keeps router hI.positions _ _ _ _

omit hI in
/-- Announcing a closed position writes nothing. -/
theorem announceClose_keeps (hrecord : KeptByRecords I) (posAnswers : PositionAnswers) (position updated : OpenPosition) :
    Keeps I (router.announceClose config posAnswers position updated) := by
  refine Keeps.bind (Keeps.await _) fun _ => Keeps.bind (Keeps.await _) fun _ => ?_
  refine Keeps.ite (Keeps.throw _) ?_
  exact Keeps.bind (Keeps.whenever (recordLoss_keeps hrecord _ _)) fun _ => Keeps.await _

/-- What the sales of the two legs make of `J` is kept by what follows them. -/
theorem closePositionLegs_spec {J K : World → Prop} {position : OpenPosition}
    {posAnswers : PositionAnswers} {firstPrice secondPrice : Dec}
    (hfirst : Spec J (router.closeLeg posAnswers position .first firstPrice) (fun _ => K)
      fun _ => K)
    (hsecond : Spec K (router.closeLeg posAnswers position .second secondPrice) (fun _ => I)
      fun _ => I) :
    Spec J (router.closePositionLegs config posAnswers position firstPrice secondPrice)
      (fun _ => I) fun _ => I := by
  have hnormalize : ∀ raw : Except Exc ExitLegResult, Keeps I (normalizeExitResult raw) := by
    intro raw
    match raw with
    | .ok _ => exact Keeps.pure _
    | .error .cancelled => exact Keeps.throw _
    | .error (.residual _ _) => exact Keeps.pure _
    | .error (.rejected _) => exact Keeps.pure _
    | .error .transactionTimeout => exact Keeps.pure _
    | .error (.failed _) => exact Keeps.pure _
  refine Spec.bind (Spec.attempted hfirst nofun) fun _ =>
    Spec.bind (Spec.attempted hsecond nofun) fun _ => ?_
  refine Keeps.bind (hnormalize _) fun first => Keeps.bind (hnormalize _) fun second =>
    Keeps.bind (Keeps.await _) fun updated => ?_
  refine Keeps.ite (Keeps.bind (addPosition_keeps hI.positions _ _ _) fun _ =>
    Keeps.await _) ?_
  exact Keeps.bind (removePosition_keeps hI.positions _ _ _) fun _ =>
    announceClose_keeps hI.record _ _ _

theorem closePositionLegs_keeps {position : OpenPosition}
    (hsale : ∀ leg, legClosed position leg = false → router.AllowsLeg I position.market leg)
    (posAnswers : PositionAnswers) (firstPrice secondPrice : Dec) :
    Keeps I (router.closePositionLegs config posAnswers position firstPrice secondPrice) := by
  have hleg : ∀ leg minPrice, Keeps I (router.closeLeg posAnswers position leg minPrice) :=
    fun leg minPrice =>
      router.submitExitLeg_keeps hI.toSaleInvariant _ fun h => hsale leg h _ _ minPrice
  exact closePositionLegs_spec hI (hleg _ _) (hleg _ _)

omit hI in
theorem bestBid_keeps (book : Except Exc (List Dec)) : Keeps I (bestBid book) := by
  refine Keeps.bind (Keeps.await _) fun bids => ?_
  cases bids.head? with
  | none => exact Keeps.throw _
  | some _ => exact Keeps.pure _

theorem retryPartialExit_keeps {position : OpenPosition}
    (hsale : ∀ leg, legClosed position leg = false → router.AllowsLeg I position.market leg)
    (posAnswers : PositionAnswers) :
    Keeps I (router.retryPartialExit config posAnswers position) := by
  have hprice : ∀ closed exitPrice book, Keeps I (closingPrice closed exitPrice book) :=
    fun _ _ _ => Keeps.ite (Keeps.pure _) (Keeps.bind (bestBid_keeps _) fun _ => Keeps.pure _)
  refine Keeps.ite (Keeps.pure _) ?_
  exact Keeps.bind (hprice _ _ _) fun _ => Keeps.bind (hprice _ _ _) fun _ =>
    closePositionLegs_keeps hI hsale _ _ _

theorem checkOpenPosition_keeps {position : OpenPosition}
    (hsale : ∀ leg, router.ClosesLeg config position leg →
      router.AllowsLeg I position.market leg) (posAnswers : PositionAnswers) :
    Keeps I (router.checkOpenPosition config posAnswers position) := by
  refine Keeps.bind (gather_spec (Keeps.await _) (Keeps.await _)) fun _ => ?_
  refine Keeps.bind (bestBid_keeps _) fun firstExit =>
    Keeps.bind (bestBid_keeps _) fun secondExit => ?_
  refine Spec.bind (Spec.await (fun closes hcloses w hw => And.intro hcloses hw)
    fun _ _ _ hw => hw) fun closes => Spec.assume fun hcloses => ?_
  cases closes with
  | false => exact Keeps.pure _
  | true =>
      cases hsubmits : config.submitsOrders with
      | false => exact Keeps.await _
      | true =>
          exact closePositionLegs_keeps hI
            (fun leg hopen => hsale leg ⟨hsubmits, hopen, firstExit, secondExit, hcloses⟩) _ _ _

end Router

/-- A round of a position keeps what allows the sales of the legs it can sell. -/
theorem managePosition_keeps {manager : PositionManager} {position : OpenPosition}
    (hsale : ∀ route leg, manager.routeForPosition position = some route →
      manager.CanSell route position leg →
      (manager.router route).AllowsLeg I position.market leg) (answers : PositionAnswers) :
    Keeps I (manager.managePosition answers position) := by
  unfold PositionManager.managePosition
  cases hroute : manager.routeForPosition position with
  | none => exact Keeps.pure _
  | some route =>
      have hallows := fun leg => hsale route leg hroute
      simp only [PositionManager.CanSell] at hallows
      show Keeps I (ite _ _ _)
      split
      · exact Keeps.pure _
      · split
        · next h => exact Router.retryPendingUnwind_keeps hI (by simpa [h] using hallows) _
        · split
          · next h => exact Router.retryPartialExit_keeps hI (by simpa [h] using hallows) _
          · next hunwind hpartial =>
              split
              · exact Keeps.pure _
              · next hopen =>
                  split
                  · exact Keeps.pure _
                  · next hauto =>
                      refine Router.checkOpenPosition_keeps hI (fun leg hcloses => hallows leg ?_) _
                      rw [if_neg hunwind, if_neg hpartial]
                      exact ⟨by simpa using hopen, by simpa using hauto, hcloses⟩

/-- The loop over positions keeps what allows the sales of each of them. -/
theorem manageAll_keeps {manager : PositionManager} {positions : List OpenPosition}
    {answers : ℕ → PositionAnswers}
    (hsale : ∀ position ∈ positions, ∀ route leg, manager.routeForPosition position = some route →
      manager.CanSell route position leg →
      (manager.router route).AllowsLeg I position.market leg) :
    Keeps I (manager.manageAll answers positions) := by
  refine Keeps.forM _ fun entry hentry => ?_
  have hposition : entry.1 ∈ positions := List.fst_mem_of_mem_zipIdx hentry
  exact Keeps.bind (Keeps.attempt (managePosition_keeps hI (hsale entry.1 hposition) _)) fun _ =>
    Keeps.pure _

end Keeps

end ArbitrageEngine.Execution
