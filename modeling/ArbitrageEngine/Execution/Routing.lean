/-
# ArbitrageEngine.Execution.Routing -- where the exits of a position are sold

A position belongs to the route between its two venues.  `routeForPosition` returns that route when
its router and its clients are configured, and otherwise the Polymarket route with the same second
venue if that is available.  The router of a route sells both legs at the clients of its own labels,
so a position that falls through has its first leg offered at Polymarket.

`Misroutes` says for which positions that happens, in terms of what is configured and what can be
sold; it is exactly when a round of `run_once` can submit a sale to a foreign client.
-/
import ArbitrageEngine.Execution.SalesLog

namespace ArbitrageEngine.Execution

open Lib.Effect

/-! ## What is configured -/

namespace PositionManager

variable (manager : PositionManager)

/-- Is there a client of this venue? -/
def client (venue : String) : Bool :=
  venue = "Polymarket" ∨ (venue = "Predict.fun" ∧ manager.predictFun) ∨
    (venue = "SX Bet" ∧ manager.sxBet) ∨ (venue = "Myriad" ∧ manager.myriad) ∨
    (venue = "Opinion" ∧ manager.opinion)

/-- The router of the route and the clients of its venues are configured. -/
def available (route : ExecutionRoute) : Bool :=
  manager.routers route ∧ manager.client route.venueLabels.1 ∧ manager.client route.venueLabels.2

/-- The route is the one between the venues of the market. -/
def OwnRoute (market : MarketSpec) (route : ExecutionRoute) : Prop :=
  market.venueALabel = route.venueLabels.1 ∧ market.venueBLabel = route.venueLabels.2

/-- The route is the one a position of this market falls through to. -/
def PolymarketRoute (market : MarketSpec) (route : ExecutionRoute) : Prop :=
  route.venueLabels.1 = "Polymarket" ∧ market.venueBLabel = route.venueLabels.2

theorem venueLabels_injective {route other : ExecutionRoute}
    (h : route.venueLabels = other.venueLabels) : route = other := by
  revert h
  cases route <;> cases other <;> decide

theorem OwnRoute.unique {market : MarketSpec} {route other : ExecutionRoute}
    (h : OwnRoute market route) (h' : OwnRoute market other) : route = other :=
  venueLabels_injective (Prod.ext (h.1.symm.trans h'.1) (h.2.symm.trans h'.2))

/-- The order of the tests of `_route_for_position`. -/
def cascade : List ExecutionRoute :=
  [.predictMyriad, .predictSx, .sxMyriad, .opinionMyriad, .polymarketMyriad, .predictOpinion,
    .sxOpinion, .polymarketOpinion, .polymarketPredict, .polymarketSx]

theorem mem_cascade (route : ExecutionRoute) : route ∈ cascade := by
  cases route <;> decide

/-- No route to the same second venue is tested after the one from Polymarket. -/
theorem cascade_polymarket_last : cascade.Pairwise fun earlier later =>
    earlier.venueLabels.1 = "Polymarket" → later.venueLabels.2 ≠ earlier.venueLabels.2 := by
  decide

/-- Is the route available, and does it lead to the second venue of the market, from the first one
or from Polymarket? -/
def serves (market : MarketSpec) (route : ExecutionRoute) : Bool :=
  manager.available route ∧ market.venueBLabel = route.venueLabels.2 ∧
    (market.venueALabel = route.venueLabels.1 ∨ route.venueLabels.1 = "Polymarket")

theorem ite_eq_find? {market : MarketSpec} {route : ExecutionRoute} {test : Prop} [Decidable test]
    {rest : Option ExecutionRoute} {routes : List ExecutionRoute}
    (htest : test ↔ manager.serves market route = true)
    (hrest : rest = routes.find? (manager.serves market)) :
    (if test then some route else rest) = (route :: routes).find? (manager.serves market) := by
  rw [List.find?_cons]
  split
  · next h => rw [htest.mp h]
  · next h => rw [Bool.eq_false_iff.mpr fun hserves => h (htest.mpr hserves), hrest]

/-- The cascade looks for the first route that serves the position. -/
theorem routeForPosition_eq_find? (position : OpenPosition) :
    manager.routeForPosition position = cascade.find? (manager.serves position.market) := by
  unfold routeForPosition cascade
  repeat' apply ite_eq_find?
  case hrest => rfl
  -- What is left are the ten tests.
  all_goals grind [serves, available, client, ExecutionRoute.venueLabels]

variable {manager} {position : OpenPosition} {route : ExecutionRoute}

/-- What `_route_for_position` returns serves the position, and no other route that does is the
position's own. -/
theorem routeForPosition_eq_some (h : manager.routeForPosition position = some route) :
    manager.serves position.market route = true ∧
      ∀ own, OwnRoute position.market own → manager.available own = true → own = route := by
  rw [routeForPosition_eq_find?] at h
  have hserves : manager.serves position.market route = true := List.find?_some h
  refine ⟨hserves, fun own hown havailable => ?_⟩
  simp only [serves, decide_eq_true_eq] at hserves
  rcases hserves.2.2 with hfirst | hpolymarket
  · exact hown.unique ⟨hfirst, hserves.2.1⟩
  · obtain ⟨_, before, after, hsplit, hbefore⟩ := List.find?_eq_some_iff_append.mp h
    have hownServes : manager.serves position.market own = true := by
      simp [serves, havailable, hown.1, hown.2]
    have hmem : own ∈ before ++ route :: after := hsplit ▸ mem_cascade own
    rcases List.mem_append.mp hmem with hmem | hmem
    · exact absurd hownServes (by simpa using hbefore own hmem)
    · rcases List.mem_cons.mp hmem with hmem | hmem
      · exact hmem
      · have hlast := hsplit ▸ cascade_polymarket_last
        have htail := (List.pairwise_cons.mp (List.pairwise_append.mp hlast).2.1).1 own hmem
        exact absurd (hown.2.symm.trans hserves.2.1) (htail hpolymarket)

/-- A position is exited on its own route or, when that is not available, on the one from
Polymarket. -/
theorem routeForPosition_cases (h : manager.routeForPosition position = some route) :
    (OwnRoute position.market route ∧ manager.routers route = true) ∨
      PolymarketRoute position.market route ∧ manager.available route = true ∧
        ∀ own, OwnRoute position.market own → manager.available own = false := by
  obtain ⟨hserves, hown⟩ := routeForPosition_eq_some h
  simp only [serves, decide_eq_true_eq] at hserves
  obtain ⟨havailable, hsecond, hfirst⟩ := hserves
  by_cases hlabel : position.market.venueALabel = route.venueLabels.1
  · simp only [available, decide_eq_true_eq] at havailable
    exact .inl ⟨⟨hlabel, hsecond⟩, havailable.1⟩
  · refine .inr ⟨⟨hfirst.resolve_left hlabel, hsecond⟩, havailable, fun own hownRoute => ?_⟩
    by_contra hne
    have heq := hown own hownRoute (by simpa using hne)
    exact hlabel (heq ▸ hownRoute.1)

/-- A position whose own route is not available falls through to Polymarket. -/
theorem routeForPosition_of_fallthrough
    (hown : ∀ own, OwnRoute position.market own → manager.available own = false)
    (hpolymarket : PolymarketRoute position.market route)
    (havailable : manager.available route = true) :
    manager.routeForPosition position = some route := by
  have hserves : manager.serves position.market route = true := by
    simp [serves, havailable, hpolymarket.1, hpolymarket.2]
  have hsome : (manager.routeForPosition position).isSome := by
    rw [routeForPosition_eq_find?, List.find?_isSome]
    exact ⟨route, mem_cascade route, hserves⟩
  obtain ⟨found, hfound⟩ := Option.isSome_iff_exists.mp hsome
  rcases routeForPosition_cases hfound with ⟨hfoundOwn, _⟩ | ⟨hfoundPolymarket, _, _⟩
  · have hfoundServes := (routeForPosition_eq_some hfound).1
    simp only [serves, decide_eq_true_eq] at hfoundServes
    exact absurd hfoundServes.1 (by simp [hown found hfoundOwn])
  · have hlabels : found.venueLabels = route.venueLabels :=
      Prod.ext (hfoundPolymarket.1.trans hpolymarket.1.symm)
        (hfoundPolymarket.2.symm.trans hpolymarket.2)
    rw [hfound, venueLabels_injective hlabels]

end PositionManager

/-! ## Right sales -/

/-- The label of the venue of a leg, and the token stored for it. -/
def legVenue (market : MarketSpec) : Leg → String × String
  | .first => (market.venueALabel, market.polymarketTokenId)
  | .second => (market.venueBLabel, market.predictFunTokenId)

namespace PositionManager

variable (manager : PositionManager)

/-- The sale was submitted to the client of its leg's own venue with the token stored for the leg,
and the router between the venues of its market is configured. -/
def RightSale (sell : SellOrder) : Prop :=
  (sell.client, sell.tokenId) = legVenue sell.market sell.leg ∧
    ∃ own, OwnRoute sell.market own ∧ manager.routers own = true

/-- The position falls through to Polymarket and something of it can be sold there: its first leg,
or its second leg although the router of its own venues is not configured. -/
def Misroutes (position : OpenPosition) : Prop :=
  (∀ own, OwnRoute position.market own → manager.available own = false) ∧
    ∃ route, PolymarketRoute position.market route ∧ manager.available route = true ∧
      (manager.CanSell route position .first ∨ manager.CanSell route position .second ∧
        ∀ own, OwnRoute position.market own → manager.routers own = false)

variable {manager} {position : OpenPosition} {route : ExecutionRoute}

/-- "All sales are right" is a property of the log. -/
theorem rightSales_logInvariant :
    LogInvariant fun w => ∀ sell ∈ w.sells, manager.RightSale sell where
  intents := fun _ _ h => h
  positions := fun _ _ _ h => h
  record := fun _ _ h => h
  observe := by
    intro w report h
    unfold World.observe
    split
    · exact h
    · next sell older hsells =>
        rw [hsells] at h
        obtain ⟨hsell, holder⟩ := List.forall_mem_cons.mp h
        exact List.forall_mem_cons.mpr ⟨hsell, holder⟩

/-- A position that is not misrouted sells each leg where it belongs. -/
theorem allowsLeg_of_not_misroutes (hroute : manager.routeForPosition position = some route)
    (hposition : ¬ manager.Misroutes position) {leg : Leg}
    (hsell : manager.CanSell route position leg) :
    (manager.router route).AllowsLeg (fun w => ∀ sell ∈ w.sells, manager.RightSale sell)
      position.market leg := by
  intro alreadyClosed contracts minPrice w clientOrderId hw
  refine List.forall_mem_cons.mpr ⟨?_, hw⟩
  rcases routeForPosition_cases hroute with ⟨hown, hrouter⟩ | ⟨hpolymarket, havailable, hnone⟩
  · refine ⟨?_, route, hown, hrouter⟩
    cases leg with
    | first => exact Prod.ext hown.1.symm rfl
    | second => exact Prod.ext hown.2.symm rfl
  · cases leg with
    | first => exact absurd ⟨hnone, route, hpolymarket, havailable, .inl hsell⟩ hposition
    | second =>
        refine ⟨Prod.ext hpolymarket.2.symm rfl, ?_⟩
        by_contra hrouters
        refine hposition ⟨hnone, route, hpolymarket, havailable, .inr ⟨hsell, fun own hown => ?_⟩⟩
        by_contra hconfigured
        exact hrouters ⟨own, hown, by simpa using hconfigured⟩

end PositionManager

/-! ## An environment that sells

To show that a sale does happen, the environment answers the rounds of all other positions with
books that cannot be read, and the round of one position with books and intents that are there. -/

/-- The exception of a call that fails. -/
def failure : Exc := .failed none

/-- The intent of the sale is written; everything after the sale fails. -/
def sellAnswers : SellAnswers where
  clientOrderId := "sale"
  createIntent := .done
  submitting := .done
  persisted := []
  sell := .error failure
  acknowledged := .done
  waitFilled := .error failure
  cancelOrder := .error failure
  reconcile := .error failure
  recordStatus := .done
  pause := .error failure
  sendTimeout := .error failure
  cancelAfterError := .error failure
  waitAfterError := .error failure
  recordError := .done
  pauseAfterError := .error failure

/-- A round with these books, in which nothing but the intents can be written. -/
def roundAnswers (firstBook secondBook : Except Exc (List Dec)) : PositionAnswers :=
  let pnl : PnlAnswers := ⟨.error failure, .error failure⟩
  { first := ⟨firstBook, sellAnswers, pnl⟩
    second := ⟨secondBook, sellAnswers, pnl⟩
    savePosition := .failed false failure
    removePosition := .failed false failure
    sendHtml := .error failure
    closePnl := pnl
    sendExit := .error failure }

/-- The client order id of the sale is not taken. -/
def Fresh (w : World) : Prop := w.intents.get? "sale" = none

/-- The effect leaves the client order id of the sale free and ends no loop over positions. -/
def Quiet {α : Type} (m : Effect α) : Prop :=
  Spec Fresh m (fun _ => Fresh) fun exc w => exc ≠ .cancelled ∧ Fresh w

theorem Quiet.pure {α : Type} (a : α) : Quiet (pure a) := Spec.pure fun _ h => h

theorem Quiet.bind {α β : Type} {m : Effect α} {f : α → Effect β} (hm : Quiet m)
    (hf : ∀ a, Quiet (f a)) : Quiet (m >>= f) := Spec.bind hm hf

theorem Quiet.await {α : Type} {answer : Except Exc α} (h : answer ≠ .error .cancelled) :
    Quiet (await answer) :=
  Spec.await (fun _ _ _ hw => hw) fun _ hexc _ hw => ⟨fun heq => h (heq ▸ hexc), hw⟩

theorem Quiet.failed {α : Type} : Quiet (Lib.Effect.await (.error failure) : Effect α) :=
  Quiet.await nofun

theorem Quiet.ite {α : Type} {c : Prop} [Decidable c] {m m' : Effect α} (h : Quiet m)
    (h' : Quiet m') : Quiet (if c then m else m') := by
  split
  · exact h
  · exact h'

/-- The loop goes on after a quiet round. -/
theorem Quiet.attempted {α : Type} {m : Effect α} (h : Quiet m) :
    Spec Fresh (attempt Exc.caught m) (fun _ => Fresh) fun _ _ => False := by
  refine Spec.attempt (Q := fun _ => Fresh) h (fun _ _ _ _ hexc => hexc.2) ?_
  intro exc w hthrough hexc
  cases exc with
  | cancelled => exact hexc.1 rfl
  | residual _ _ => cases hthrough
  | rejected _ => cases hthrough
  | transactionTimeout => cases hthrough
  | failed _ => cases hthrough

theorem quiet_addPosition (repository : Bool) (position : OpenPosition) :
    Quiet (addPosition repository (.failed false failure) position) := by
  refine Quiet.bind (Spec.whenever (fun _ => ?_) fun _ _ h => h) fun _ => Spec.modify fun _ h => h
  exact Spec.transact nofun nofun fun _ h _ hw => ⟨by cases h; exact nofun, hw⟩

theorem quiet_removePosition (repository : Bool) (key : String) :
    Quiet (removePosition repository (.failed false failure) key) := by
  refine Quiet.bind (Spec.whenever (fun _ => ?_) fun _ _ h => h) fun _ => Spec.modify fun _ h => h
  exact Spec.transact nofun nofun fun _ h _ hw => ⟨by cases h; exact nofun, hw⟩

namespace Router

variable {router : Router} {config : Config} {position : OpenPosition} {market : MarketSpec}

/-- Nothing follows a call that fails. -/
theorem spec_failed {α β : Type} {f : α → Effect β} :
    Quiet (Lib.Effect.await (.error failure) >>= f : Effect β) :=
  Spec.bind (R := fun _ _ => False) (fun _ h => ⟨nofun, h⟩) fun _ _ h => h.elim

theorem unwindUnmatched_unreadable (sell : SellAnswers) (pnl : PnlAnswers) (leg : Leg)
    (entryPrice pending : Dec) :
    router.unwindUnmatched config ⟨.error failure, sell, pnl⟩ market leg entryPrice pending =
      pure 0 := by
  unfold unwindUnmatched
  split
  · rfl
  · rfl

theorem quiet_retryPendingUnwind : Quiet (router.retryPendingUnwind config
    (roundAnswers (.error failure) (.error failure)) position) := by
  simp only [retryPendingUnwind, roundAnswers, unwindUnmatched_unreadable]
  refine Quiet.ite (Quiet.pure _) (Quiet.bind (Quiet.pure (0, 0)) fun _ => ?_)
  refine Quiet.ite (Quiet.bind ?_ fun _ => Quiet.failed) (quiet_addPosition _ _)
  exact Quiet.ite (quiet_addPosition _ _) (quiet_removePosition _ _)

/-- The result of a leg that is closed already. -/
def alreadyClosed : ExitLegResult := ⟨"already-closed", none, none⟩

theorem closeLeg_closed {answers : PositionAnswers} {leg : Leg} {minPrice : Dec}
    (h : legClosed position leg = true) :
    router.closeLeg answers position leg minPrice = pure alreadyClosed := by
  simp only [closeLeg, submitExitLeg, exitLeg, h, if_true]
  rfl

theorem venueFeePct_error {venueLabel : String} {exc : Exc}
    (h : venueFeePct config venueLabel market = .error exc) : exc = failure := by
  unfold venueFeePct at h
  split_ifs at h
  cases h
  rfl

theorem legProceeds_error {leg : Leg} {before fill price : Dec} {exc : Exc}
    (h : router.legProceeds config market leg before fill price = .error exc) :
    exc = failure := by
  unfold legProceeds at h
  cases hfee : venueFeePct config (router.label leg) market with
  | ok fee =>
      rw [hfee] at h
      cases h
  | error exc' =>
      rw [hfee] at h
      cases h
      exact venueFeePct_error hfee

/-- Booking two legs that were closed before fails only for want of a fee. -/
theorem bookClose_closed_error {firstPrice secondPrice : Dec} {exc : Exc}
    (h : router.bookClose config position alreadyClosed alreadyClosed firstPrice secondPrice =
      .error exc) : exc = failure := by
  cases hbooked : router.afterClose config position alreadyClosed alreadyClosed firstPrice
    secondPrice with
  | ok booked =>
      simp only [bookClose, hbooked] at h
      cases h
  | error exc' =>
      simp only [bookClose, hbooked] at h
      cases h
      simp only [afterClose, bind, Except.bind] at hbooked
      split at hbooked
      · next hfirst =>
          cases hbooked
          exact legProceeds_error hfirst
      · split at hbooked
        · next hsecond =>
            cases hbooked
            exact legProceeds_error hsecond
        · cases hbooked

theorem quiet_venueFeePct (venueLabel : String) :
    Quiet (Lib.Effect.await (venueFeePct config venueLabel market)) :=
  Quiet.await fun h => nomatch venueFeePct_error h

theorem quiet_closePositionLegs {firstPrice secondPrice : Dec}
    (hclosed : ∀ leg, legClosed position leg = true) :
    Quiet (router.closePositionLegs config (roundAnswers (.error failure) (.error failure))
      position firstPrice secondPrice) := by
  simp only [closePositionLegs, closeLeg_closed (hclosed _)]
  show Quiet (Lib.Effect.await (router.bookClose config position alreadyClosed alreadyClosed
      firstPrice secondPrice) >>= router.settleClose config
    (roundAnswers (.error failure) (.error failure)) position alreadyClosed alreadyClosed)
  refine Quiet.bind (Quiet.await fun h => nomatch bookClose_closed_error h) fun updated => ?_
  refine Quiet.ite (Quiet.bind (quiet_addPosition _ _) fun _ => Quiet.failed) ?_
  refine Quiet.bind (quiet_removePosition _ _) fun _ => ?_
  refine Quiet.bind (quiet_venueFeePct _) fun _ => Quiet.bind (quiet_venueFeePct _) fun _ => ?_
  refine Quiet.ite (Spec.throw fun _ h => ⟨nofun, h⟩) (Quiet.bind ?_ fun _ => Quiet.failed)
  exact Spec.whenever (fun _ => Quiet.bind (Spec.modify fun _ h => h) fun _ => spec_failed)
    fun _ _ h => h

theorem quiet_retryPartialExit : Quiet (router.retryPartialExit config
    (roundAnswers (.error failure) (.error failure)) position) := by
  refine Quiet.ite (Quiet.pure _) ?_
  cases hfirst : position.polymarketClosed with
  | false => exact spec_failed
  | true =>
      cases hsecond : position.predictFunClosed with
      | false =>
          refine Quiet.bind (Quiet.pure position.polymarketExitPrice) fun _ => ?_
          exact spec_failed
      | true =>
          refine Quiet.bind (Quiet.pure _) fun _ => Quiet.bind (Quiet.pure _) fun _ => ?_
          refine quiet_closePositionLegs fun leg => ?_
          cases leg with
          | first => exact hfirst
          | second => exact hsecond

end Router

/-- A round in which no book can be read. -/
theorem PositionManager.quiet_managePosition {manager : PositionManager}
    (position : OpenPosition) :
    Quiet (manager.managePosition (roundAnswers (.error failure) (.error failure)) position) := by
  unfold PositionManager.managePosition
  cases manager.routeForPosition position with
  | none => exact Quiet.pure _
  | some route =>
      exact Quiet.ite (Quiet.pure _) (Quiet.ite Router.quiet_retryPendingUnwind
        (Quiet.ite Router.quiet_retryPartialExit (Quiet.ite (Quiet.pure _)
          (Quiet.ite (Quiet.pure _) Router.spec_failed))))


/-! ## A sale that happens -/

/-- A sale of this leg to this client is in the log. -/
def Sold (client : String) (market : MarketSpec) (leg : Leg) (w : World) : Prop :=
  ∃ sell ∈ w.sells, sell.market = market ∧ sell.leg = leg ∧ sell.client = client

variable {client : String} {market : MarketSpec} {leg : Leg}

theorem sold_logInvariant : LogInvariant (Sold client market leg) where
  intents := fun _ _ h => h
  positions := fun _ _ _ h => h
  record := fun _ _ h => h
  observe := by
    intro w report h
    unfold World.observe
    split
    · exact h
    · next last older hsells =>
        obtain ⟨sell, hmem, hsell⟩ := h
        rw [hsells] at hmem
        rcases List.mem_cons.mp hmem with rfl | hold
        · exact ⟨_, List.mem_cons_self, hsell⟩
        · exact ⟨sell, List.mem_cons_of_mem _ hold, hsell⟩

theorem sold_allowsSale (call : ExitLeg) : AllowsSale (Sold client market leg) call := by
  rintro w clientOrderId ⟨sell, hmem, hsell⟩
  exact ⟨sell, List.mem_cons_of_mem _ hmem, hsell⟩

theorem createOrderIntent_spec {intent : OrderIntent} (h : intent.clientOrderId = "sale") :
    Spec Fresh (createOrderIntent .done intent)
      (fun _ w => (w.intents.get? "sale").isSome) fun _ _ => False := by
  refine Spec.bind (R := fun v w => Fresh v ∧ Fresh w) (Spec.get fun _ hw => ⟨hw, hw⟩) fun v =>
    Spec.assume fun hfree => ?_
  have hnone : v.intents.get? intent.clientOrderId = none := h ▸ hfree
  rw [hnone]
  exact Spec.transact (fun _ w _ => by simp [h]) nofun nofun

theorem updateOrderIntent_spec (status : OrderIntentStatus) (venueOrderId : Option String) :
    Spec (fun w => (w.intents.get? "sale").isSome)
      (updateOrderIntent .done "sale" status venueOrderId) (fun _ _ => True) fun _ _ => False := by
  refine Spec.bind (R := fun v _ => (v.intents.get? "sale").isSome ∧ True)
    (Spec.get fun _ hw => ⟨hw, trivial⟩) fun v => Spec.assume fun hsome => ?_
  obtain ⟨intent, hintent⟩ := Option.isSome_iff_exists.mp hsome
  rw [hintent]
  exact Spec.transact (fun _ _ _ => trivial) nofun nofun

namespace Router

variable {router : Router} {config : Config} {position : OpenPosition}

/-- The sale is submitted whatever comes after it. -/
theorem submitExitLeg_sells (contracts minPrice : Dec) :
    Spec Fresh (router.submitExitLeg sellAnswers
        (router.exitLeg market leg false contracts minPrice))
      (fun _ => Sold (router.label leg) market leg)
      fun _ => Sold (router.label leg) market leg := by
  have hI := @sold_logInvariant (router.label leg) market leg
  have hcreated : Spec Fresh (whenever (router.repository = true) (createOrderIntent .done
      (router.exitIntent sellAnswers (router.exitLeg market leg false contracts minPrice))))
      (fun _ w => router.repository = true → (w.intents.get? "sale").isSome)
      fun _ _ => False := by
    refine Spec.whenever (fun _ => ?_) fun hno _ _ hrepository => absurd hrepository hno
    exact Spec.conseq (createOrderIntent_spec rfl) (fun _ h => h) (fun _ _ h _ => h) fun _ _ h => h
  have hsubmitting : Spec (fun w => router.repository = true → (w.intents.get? "sale").isSome)
      (router.updateIntent sellAnswers.clientOrderId .done .submitting none) (fun _ _ => True)
      fun _ _ => False := by
    refine Spec.whenever (fun hrepository => ?_) fun _ _ _ => trivial
    exact Spec.conseq (updateOrderIntent_spec _ _) (fun _ h => h hrepository) (fun _ _ h => h)
      fun _ _ h => h
  have hfalse : ∀ (exc : Exc) (w : World), False → Sold (router.label leg) market leg w :=
    fun _ _ h => h.elim
  refine Spec.bind (Spec.conseq hcreated (fun _ h => h) (fun _ _ h => h) hfalse) fun _ => ?_
  refine Spec.bind (Spec.conseq hsubmitting (fun _ h => h) (fun _ _ h => h) hfalse) fun _ => ?_
  refine Spec.bind (router.submit_spec hI.toSaleInvariant sellAnswers fun w _ => ?_) fun outcome =>
    router.onExit_keeps hI.toSaleInvariant sellAnswers outcome
  exact ⟨_, List.mem_cons_self, rfl, rfl, rfl⟩

theorem unwindUnmatched_sells {pending bid entryPrice : Dec} {pnl : PnlAnswers}
    (h : Dec.epsilon < pending) :
    Spec Fresh (router.unwindUnmatched config ⟨.ok [bid], sellAnswers, pnl⟩ market leg entryPrice
        pending) (fun _ => Sold (router.label leg) market leg)
      fun _ => Sold (router.label leg) market leg := by
  rw [unwindUnmatched, if_pos h]
  exact tryUnwindLeg_spec sold_logInvariant.record
    (fun hnone => absurd (hnone [bid] rfl) nofun) fun target => submitExitLeg_sells _ target

theorem retryPendingUnwind_sells {bid : Dec} (hstatus : position.status = "unwind_pending")
    (h : Dec.epsilon < unmatchedContracts position leg)
    (hother : leg = .second → ¬ Dec.epsilon < unmatchedContracts position .first) :
    Spec Fresh (router.retryPendingUnwind config (roundAnswers (.ok [bid]) (.ok [bid])) position)
      (fun _ => Sold (router.label leg) position.market leg)
      fun _ => Sold (router.label leg) position.market leg := by
  have hI := @sold_logInvariant (router.label leg) position.market leg
  rw [retryPendingUnwind, if_neg (not_not_intro hstatus)]
  refine Spec.bind ?_ fun _ => settleUnwind_keeps router hI.positions _ _ _ _
  cases leg with
  | first =>
      refine gather_spec (unwindUnmatched_sells h) ?_
      exact unwindUnmatched_keeps hI.toSaleInvariant hI.record
        (fun _ _ _ _ => sold_allowsSale _) _ _
  | second =>
      refine gather_spec ?_ (unwindUnmatched_sells h)
      have hfirst : ¬ Dec.epsilon < position.unmatchedFirstContracts := hother rfl
      rw [unwindUnmatched, if_neg hfirst]
      exact Spec.pure fun _ hw => hw

theorem closePositionLegs_sells {firstBook secondBook : Except Exc (List Dec)}
    {firstPrice secondPrice : Dec} (h : legClosed position leg = false)
    (hother : leg = .second → legClosed position .first = true) :
    Spec Fresh (router.closePositionLegs config (roundAnswers firstBook secondBook) position
        firstPrice secondPrice) (fun _ => Sold (router.label leg) position.market leg)
      fun _ => Sold (router.label leg) position.market leg := by
  have hI := @sold_logInvariant (router.label leg) position.market leg
  have hsale : ∀ minPrice, Spec Fresh
      (router.closeLeg (roundAnswers firstBook secondBook) position leg minPrice)
      (fun _ => Sold (router.label leg) position.market leg)
      fun _ => Sold (router.label leg) position.market leg := by
    intro minPrice
    rw [closeLeg, h]
    cases leg with
    | first => exact submitExitLeg_sells _ minPrice
    | second => exact submitExitLeg_sells _ minPrice
  cases leg with
  | first =>
      exact closePositionLegs_spec hI (hsale _)
        (router.submitExitLeg_keeps hI.toSaleInvariant _ fun _ => sold_allowsSale _)
  | second =>
      refine closePositionLegs_spec hI ?_ (hsale _)
      rw [closeLeg_closed (hother rfl)]
      exact Spec.pure fun _ hw => hw

theorem closingPrice_readable {closed : Bool} {price : Option Dec} {bid : Dec}
    {E : Exc → World → Prop} :
    Spec Fresh (closingPrice closed price (.ok [bid])) (fun _ => Fresh) E := by
  cases closed with
  | true => exact Spec.pure fun _ hw => hw
  | false => exact Spec.pure fun _ hw => hw

theorem retryPartialExit_sells {bid : Dec} (hstatus : position.status = "partial_exit_pending")
    (h : legClosed position leg = false)
    (hother : leg = .second → legClosed position .first = true) :
    Spec Fresh (router.retryPartialExit config (roundAnswers (.ok [bid]) (.ok [bid])) position)
      (fun _ => Sold (router.label leg) position.market leg)
      fun _ => Sold (router.label leg) position.market leg := by
  rw [retryPartialExit, if_neg (not_not_intro hstatus)]
  exact Spec.bind closingPrice_readable fun _ => Spec.bind closingPrice_readable fun _ =>
    closePositionLegs_sells h hother

theorem checkOpenPosition_sells {firstExit secondExit : Dec}
    (hcloses : router.closesAt config position firstExit secondExit = .ok true)
    (hsubmits : config.submitsOrders = true) (h : legClosed position leg = false)
    (hother : leg = .second → legClosed position .first = true) :
    Spec Fresh (router.checkOpenPosition config
        (roundAnswers (.ok [firstExit]) (.ok [secondExit])) position)
      (fun _ => Sold (router.label leg) position.market leg)
      fun _ => Sold (router.label leg) position.market leg := by
  show Spec Fresh (Lib.Effect.await (router.closesAt config position firstExit secondExit) >>=
    fun closes => _) _ _
  rw [hcloses]
  show Spec Fresh (if config.submitsOrders = true then _ else _) _ _
  rw [if_pos hsubmits]
  exact closePositionLegs_sells h hother

end Router

namespace PositionManager

variable {manager : PositionManager} {position : OpenPosition} {route : ExecutionRoute}

/-- Whatever can be sold is sold in some environment. -/
theorem managePosition_sells (hroute : manager.routeForPosition position = some route)
    (hsell : manager.CanSell route position leg)
    (hother : leg = .second → ¬ manager.CanSell route position .first) :
    ∃ answers, Spec Fresh (manager.managePosition answers position)
      (fun _ => Sold ((manager.router route).label leg) position.market leg)
      fun _ => Sold ((manager.router route).label leg) position.market leg := by
  unfold CanSell at hsell hother
  split at hsell
  · next hstatus =>
      rw [if_pos hstatus] at hother
      refine ⟨roundAnswers (.ok [1]) (.ok [1]), ?_⟩
      simp only [managePosition, hroute, hstatus]
      exact Router.retryPendingUnwind_sells hstatus hsell hother
  · next hunwind =>
      split at hsell
      · next hstatus =>
          rw [if_neg hunwind, if_pos hstatus] at hother
          refine ⟨roundAnswers (.ok [1]) (.ok [1]), ?_⟩
          simp only [managePosition, hroute, hstatus]
          exact Router.retryPartialExit_sells hstatus hsell fun h => by simpa using hother h
      · next hpartial =>
          obtain ⟨hopen, hauto, hsubmits, hlegOpen, firstExit, secondExit, hcloses⟩ := hsell
          rw [if_neg hunwind, if_neg hpartial] at hother
          refine ⟨roundAnswers (.ok [firstExit]) (.ok [secondExit]), ?_⟩
          simp only [managePosition, hroute, hopen, hauto]
          refine Router.checkOpenPosition_sells hcloses hsubmits hlegOpen fun h => ?_
          by_contra hfirst
          exact hother h
            ⟨hopen, hauto, hsubmits, by simpa using hfirst, firstExit, secondExit, hcloses⟩

/-- If something of a position can be sold, some environment has it sold in a round over all
positions. -/
theorem runOnce_sells {ledger : PositionLedger} (hmem : position ∈ ledger.values)
    (hroute : manager.routeForPosition position = some route)
    (hsell : manager.CanSell route position leg)
    (hother : leg = .second → ¬ manager.CanSell route position .first) :
    ∃ answers, Sold ((manager.router route).label leg) position.market leg
      (finalState (manager.runOnce answers) ⟨.empty, .empty, ledger, [], [], .empty, []⟩) := by
  obtain ⟨selling, hselling⟩ := managePosition_sells hroute hsell hother
  obtain ⟨before, after, hsplit⟩ := List.append_of_mem hmem
  let answers (i : ℕ) : PositionAnswers :=
    if i = before.length then selling else roundAnswers (.error failure) (.error failure)
  refine ⟨answers, ?_⟩
  have hround : Spec Fresh (manager.manageAll answers ledger.values)
      (fun _ => Sold ((manager.router route).label leg) position.market leg)
      fun _ => Sold ((manager.router route).label leg) position.market leg := by
    rw [hsplit, manageAll, List.zipIdx_append, List.zipIdx_cons]
    refine Spec.forM_of_round ?_ ?_ _ ?_
    · have hanswers : answers (0 + before.length) = selling := by simp [answers]
      show Spec Fresh (attempt Exc.caught (manager.managePosition (answers (0 + before.length))
        position) >>= fun _ => pure ()) _ _
      rw [hanswers]
      exact Spec.bind (Spec.attempted hselling fun _ _ _ h => h) fun _ => Keeps.pure _
    · intro entry _
      exact Keeps.bind (Keeps.attempt (managePosition_keeps sold_logInvariant
        (fun _ _ _ _ _ _ _ => sold_allowsSale _) _)) fun _ => Keeps.pure _
    · intro entry hentry
      have hquiet : answers entry.2 = roundAnswers (.error failure) (.error failure) :=
        if_neg (Nat.ne_of_lt (List.mem_zipIdx' hentry).1)
      show Spec Fresh (attempt Exc.caught (manager.managePosition (answers entry.2) entry.1) >>=
        fun _ => pure ()) _ _
      rw [hquiet]
      exact Spec.bind (Quiet.attempted (quiet_managePosition entry.1)) fun _ =>
        Spec.pure fun _ h => h
  exact Spec.finalState (m := manager.manageAll answers ledger.values) hround rfl

end PositionManager

/-! ## Exit routing -/

/-- **Exit routing.**  However the venues and the store answer, a round over the positions of a
ledger submits right sales only, if and only if no position of the ledger is misrouted. -/
theorem runOnce_sales_right_iff (manager : PositionManager) (ledger : PositionLedger) :
    (∀ answers w, w.ledger = ledger → (∀ sell ∈ w.sells, manager.RightSale sell) →
      ∀ sell ∈ (finalState (manager.runOnce answers) w).sells, manager.RightSale sell) ↔
      ∀ position ∈ ledger.values, ¬ manager.Misroutes position := by
  constructor
  · rintro hright position hmem ⟨hown, route, hpolymarket, havailable, hsell⟩
    have hroute := PositionManager.routeForPosition_of_fallthrough hown hpolymarket havailable
    by_cases hfirst : manager.CanSell route position .first
    · obtain ⟨answers, sell, hsold, hmarket, hleg, hclient⟩ :=
        PositionManager.runOnce_sells hmem hroute hfirst nofun
      obtain ⟨hvenue, _⟩ := hright answers _ rfl (fun _ h => absurd h List.not_mem_nil) sell hsold
      -- The first leg was offered at Polymarket, so Polymarket would be its venue.
      have hlabel : position.market.venueALabel = route.venueLabels.1 := by
        have := congrArg Prod.fst hvenue
        rw [hmarket, hleg, hclient] at this
        exact this.symm
      simp [hown route ⟨hlabel, hpolymarket.2⟩] at havailable
    · obtain ⟨hsecond, hrouters⟩ := hsell.resolve_left hfirst
      obtain ⟨answers, sell, hsold, hmarket, _, _⟩ :=
        PositionManager.runOnce_sells hmem hroute hsecond fun _ => hfirst
      obtain ⟨_, own, hownRoute, hconfigured⟩ :=
        hright answers _ rfl (fun _ h => absurd h List.not_mem_nil) sell hsold
      rw [hmarket] at hownRoute
      simp [hrouters own hownRoute] at hconfigured
  · intro hpositions answers w hledger hw
    have hround : Keeps (fun w => ∀ sell ∈ w.sells, manager.RightSale sell)
        (manager.manageAll answers w.ledger.values) := by
      refine manageAll_keeps PositionManager.rightSales_logInvariant ?_
      intro position hmem route leg hroute hsell
      rw [hledger] at hmem
      exact PositionManager.allowsLeg_of_not_misroutes hroute (hpositions position hmem) hsell
    exact Spec.finalState hround hw

/-! ## A position without its router -/

/-- Only the route from Polymarket to Myriad is executed. -/
def polymarketMyriadOnly : PositionManager where
  config :=
    { autoCloseEnabled := true
      exitSpreadPct := 1 / 100
      submitsOrders := true
      polymarketTradingFeePct := 0
      predictFunFeeRateBps := 0
      sxBetTakerFeeBps := 0
      myriadTradingFeePct := 0
      floatText := id
      unwindPrice := fun bid => max (1 / 100) (bid - 1 / 100) }
  repository := true
  predictFun := true
  sxBet := false
  myriad := true
  opinion := false
  routers := fun route => route = .polymarketMyriad

/-- A position between Predict.fun and Myriad of which ten contracts of the first leg are
unmatched. -/
def predictMyriadPosition : OpenPosition where
  market :=
    { symbol := "BTC"
      targetLabel := "up"
      polymarketTokenId := "predict-token"
      polymarketSide := .yes
      predictFunTokenId := "myriad-token"
      predictFunSide := .no
      venueALabel := "Predict.fun"
      venueBLabel := "Myriad" }
  polymarketContracts := 10
  polymarketEntryPrice := 1 / 2
  predictFunContracts := 0
  predictFunEntryPrice := 0
  polymarketOrderId := "a"
  predictFunOrderId := "b"
  status := "unwind_pending"
  unmatchedFirstContracts := 10

/-- A round over that position, with a bid of one half. -/
def misroutedRound : World :=
  finalState (polymarketMyriadOnly.runOnce fun _ => roundAnswers (.ok [1 / 2]) (.ok [1 / 2]))
    ⟨.empty, .empty, PositionLedger.add .empty predictMyriadPosition, [], [], .empty, []⟩

/-- The token of the Predict.fun leg is offered to the Polymarket client. -/
theorem predict_token_sold_at_polymarket :
    ¬ ∀ sell ∈ misroutedRound.sells, polymarketMyriadOnly.RightSale sell := by
  intro h
  have hsells : misroutedRound.sells.map (fun sell => (sell.client, sell.tokenId,
      sell.market.venueALabel, sell.leg)) =
      [("Polymarket", "predict-token", "Predict.fun", .first)] := by decide +kernel
  obtain ⟨sell, hmem, hsell⟩ := List.mem_map.mp (hsells ▸ List.mem_singleton_self _)
  simp only [Prod.mk.injEq] at hsell
  obtain ⟨hclient, _, hvenue, hleg⟩ := hsell
  obtain ⟨hright, _⟩ := h sell hmem
  rw [hleg, legVenue, hclient, hvenue] at hright
  have hlabels : "Polymarket" = "Predict.fun" := congrArg Prod.fst hright
  exact absurd hlabels (by decide)

end ArbitrageEngine.Execution
