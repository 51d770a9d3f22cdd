/-
# ArbitrageEngine.Execution.SoldAmounts -- how much an exit sells

What the venue reported of a sale is in the log; what the caller learns is the report of the result.
The two agree as long as nothing raises once a fill has been reported: what raises before is
answered by asking the venue again, what raises after loses the report.

An unwind that nothing disturbs therefore returns what it sold.
-/
import ArbitrageEngine.Execution.Exits
import Mathlib.Algebra.BigOperators.Group.List.Basic

namespace ArbitrageEngine.Execution

open Lib.Effect

/-! ## What the environment answers -/

/-- The report an answer carries. -/
def reportsOf : Except Exc ExecutionReport → List ExecutionReport
  | .ok report => [report]
  | .error _ => []

/-- The exception of an answer. -/
def raisedBy {α : Type} : Except Exc α → List Exc
  | .ok _ => []
  | .error exc => [exc]

/-- The exception of a write. -/
def failedBy : WriteAnswer Exc → List Exc
  | .done => []
  | .failed _ exc => [exc]

/-- The report an exception carries. -/
def Exc.reports : Exc → List ExecutionReport
  | .residual report _ => [report]
  | _ => []

namespace SellAnswers

variable (answers : SellAnswers)

/-- Everything one of the awaits may raise. -/
def exceptions : List Exc :=
  failedBy answers.createIntent ++ failedBy answers.submitting ++ raisedBy answers.sell ++
    failedBy answers.acknowledged ++ raisedBy answers.waitFilled ++ raisedBy answers.cancelOrder ++
    raisedBy answers.reconcile ++ failedBy answers.recordStatus ++ raisedBy answers.pause ++
    raisedBy answers.sendTimeout ++ raisedBy answers.cancelAfterError ++
    raisedBy answers.waitAfterError ++ failedBy answers.recordError ++
    raisedBy answers.pauseAfterError

/-- Everything the venue may report of the sale. -/
def reports : List ExecutionReport :=
  reportsOf answers.waitFilled ++ reportsOf answers.reconcile ++ reportsOf answers.waitAfterError ++
    answers.exceptions.flatMap Exc.reports

/-- The venue reports no fill. -/
def Unsold : Prop := ∀ report ∈ answers.reports, report.amountFilled = 0

/-- None of the awaits that follow a report raises. -/
structure Undisturbed : Prop where
  recordStatus : answers.recordStatus = .done
  pause : answers.pause = .ok ()
  recordError : answers.recordError = .done
  pauseAfterError : answers.pauseAfterError = .ok ()

end SellAnswers

/-- No fill the venue reports is lost on the way to the result of the sale. -/
structure SellAnswers.Tells (answers : SellAnswers) : Prop where
  nonneg : ∀ report ∈ answers.reports, 0 ≤ report.amountFilled
  uncancelled : Exc.cancelled ∉ answers.exceptions
  kept : answers.Unsold ∨ answers.Undisturbed

/-! ## The log -/

/-- The contracts of a leg that venues reported as sold. -/
def World.sold (w : World) (key : String) (leg : Leg) : Dec :=
  ((w.sells.filter fun sell => positionKey sell.market = key ∧ sell.leg = leg).map
    SellOrder.filled).sum

variable {w₀ w : World} {market : MarketSpec} {leg : Leg}

/-- Since `w₀` nothing was sold but this amount of this leg, and no position has changed. -/
structure SoldSince (w₀ : World) (market : MarketSpec) (leg : Leg) (amount : Dec) (w : World) :
    Prop where
  ledger : w.ledger = w₀.ledger
  sold : ∀ key other, w.sold key other =
    w₀.sold key other + if key = positionKey market ∧ other = leg then amount else 0

/-- Since `w₀` one sale of this leg is in the log, with this amount filled; its intent is there. -/
structure OneSale (router : Router) (clientOrderId : String) (w₀ : World) (market : MarketSpec)
    (leg : Leg) (filled : Dec) (w : World) : Prop where
  ledger : w.ledger = w₀.ledger
  intent : router.repository = true → (w.intents.get? clientOrderId).isSome
  sells : ∃ sell : SellOrder, w.sells = sell :: w₀.sells ∧ sell.market = market ∧ sell.leg = leg ∧
    sell.filled = filled

/-- Since `w₀` nothing was sold, and no position has changed. -/
structure NoSale (w₀ w : World) : Prop where
  ledger : w.ledger = w₀.ledger
  sells : w.sells = w₀.sells

theorem NoSale.soldSince (h : NoSale w₀ w) : SoldSince w₀ market leg 0 w := by
  refine ⟨h.ledger, fun key other => ?_⟩
  unfold World.sold
  rw [h.sells]
  simp

variable {router : Router} {clientOrderId : String} {filled : Dec}

theorem OneSale.soldSince (h : OneSale router clientOrderId w₀ market leg filled w) :
    SoldSince w₀ market leg filled w := by
  obtain ⟨sell, hsells, hmarket, hleg, hfilled⟩ := h.sells
  refine ⟨h.ledger, fun key other => ?_⟩
  unfold World.sold
  rw [hsells, List.filter_cons]
  by_cases hsame : key = positionKey market ∧ other = leg
  · obtain ⟨rfl, rfl⟩ := hsame
    simp [hmarket, hleg, hfilled, add_comm]
  · have hother : ¬ (positionKey sell.market = key ∧ sell.leg = other) := by
      rintro ⟨rfl, rfl⟩
      exact hsame ⟨by rw [hmarket], hleg⟩
    simp [hother, hsame]

theorem OneSale.observe (report : ExecutionReport)
    (h : OneSale router clientOrderId w₀ market leg filled w) :
    OneSale router clientOrderId w₀ market leg (max filled report.amountFilled)
      (w.observe report) := by
  obtain ⟨sell, hsells, hmarket, hleg, hfilled⟩ := h.sells
  unfold World.observe
  rw [hsells]
  exact ⟨h.ledger, h.intent, _, rfl, hmarket, hleg, by rw [hfilled]⟩

/-! ## Updates of an intent -/

/-- A property that asks no more of the intents than that the one of this order is there. -/
structure AsksIntent (router : Router) (clientOrderId : String) (P : World → Prop) : Prop where
  intent : router.repository = true → ∀ w, P w → (w.intents.get? clientOrderId).isSome
  update : ∀ w intent, P w → P { w with intents := w.intents.set clientOrderId intent }

theorem oneSale_asksIntent :
    AsksIntent router clientOrderId (OneSale router clientOrderId w₀ market leg filled) where
  intent := fun hrepository _ h => h.intent hrepository
  update := fun w intent h => ⟨h.ledger, fun _ => by simp, h.sells⟩

theorem Router.updateIntent_spec {P : World → Prop} (hP : AsksIntent router clientOrderId P)
    (answer : WriteAnswer Exc) (status : OrderIntentStatus) (venueOrderId : Option String) :
    Spec P (router.updateIntent clientOrderId answer status venueOrderId) (fun _ => P)
      fun exc w => exc ∈ failedBy answer ∧ P w := by
  refine Spec.whenever (fun hrepository => ?_) fun _ _ h => h
  refine Spec.bind (R := fun v w => P v ∧ P w) (Spec.get fun _ h => ⟨h, h⟩) fun v =>
    Spec.assume fun hv => ?_
  obtain ⟨intent, hintent⟩ := Option.isSome_iff_exists.mp (hP.intent hrepository v hv)
  rw [hintent]
  refine Spec.transact (fun _ w h => hP.update w _ h) ?_ ?_
  · rintro exc rfl w h
    exact ⟨List.mem_singleton_self _, hP.update w _ h⟩
  · rintro exc rfl w h
    exact ⟨List.mem_singleton_self _, h⟩

theorem createOrderIntent_present {P : World → Prop} {intent : OrderIntent}
    (hP : ∀ w, P w → P { w with intents := w.intents.set intent.clientOrderId intent })
    (answer : WriteAnswer Exc) :
    Spec P (createOrderIntent answer intent)
      (fun _ w => P w ∧ (w.intents.get? intent.clientOrderId).isSome)
      fun exc w => (exc = .failed none ∨ exc ∈ failedBy answer) ∧ P w := by
  refine Spec.bind (R := fun _ => P) (Spec.get fun _ h => h) fun v => ?_
  cases v.intents.get? intent.clientOrderId with
  | some _ => exact Spec.throw fun _ h => ⟨.inl rfl, h⟩
  | none =>
      refine Spec.transact (fun _ w h => ⟨hP w h, by simp⟩) ?_ ?_
      · rintro exc rfl w h
        exact ⟨.inr (List.mem_singleton_self _), hP w h⟩
      · rintro exc rfl w h
        exact ⟨.inr (List.mem_singleton_self _), h⟩

theorem await_spec {P : World → Prop} {α : Type} (answer : Except Exc α) :
    Spec P (Lib.Effect.await answer) (fun a w => answer = .ok a ∧ P w)
      fun exc w => exc ∈ raisedBy answer ∧ P w := by
  refine Spec.await (fun a h w hw => ⟨h, hw⟩) fun exc h w hw => ⟨?_, hw⟩
  rw [h]
  exact List.mem_singleton_self _

theorem caught_eq_none {exc : Exc} (h : exc.caught = none) : exc = .cancelled := by
  cases exc <;> first | rfl | cases h

theorem caught_eq_some {exc seen : Exc} (h : exc.caught = some seen) : seen = exc := by
  cases exc <;> cases h <;> rfl

/-- What a handler sees of the exceptions that are no cancellation. -/
def Seen {α : Type} (exceptions : List Exc) (Q : α → World → Prop) (E : World → Prop) :
    Except Exc α → World → Prop
  | .ok a, w => Q a w
  | .error exc, w => exc ∈ exceptions ∧ E w

/-- A handler sees everything but a cancellation. -/
theorem attempt_spec {P : World → Prop} {α : Type} {m : Effect α} {exceptions : List Exc}
    {Q : α → World → Prop} {E : World → Prop}
    (hm : Spec P m Q fun exc w => exc ∈ exceptions ∧ E w)
    (hcancelled : Exc.cancelled ∉ exceptions) :
    Spec P (attempt Exc.caught m) (Seen exceptions Q E) fun _ _ => False := by
  refine Spec.attempt hm (fun exc seen w hseen h => ?_) fun exc w hnone h => ?_
  · rw [caught_eq_some hseen]
    exact h
  · exact hcancelled (caught_eq_none hnone ▸ h.1)

/-! ## A sale that is told of -/

namespace Router

variable {answers : SellAnswers} {call : ExitLeg}

/-- The only sale since `w₀` is the one of this call. -/
abbrev Selling (router : Router) (answers : SellAnswers) (call : ExitLeg) (w₀ : World)
    (filled : Dec) : World → Prop :=
  OneSale router answers.clientOrderId w₀ call.market call.leg filled

theorem observed_spec {filled : Dec} (answer : Except Exc ExecutionReport) :
    Spec (Selling router answers call w₀ filled) (observed World.observe answer)
      (fun report w => answer = .ok report ∧
        Selling router answers call w₀ (max filled report.amountFilled) w)
      fun exc w => exc ∈ raisedBy answer ∧ Selling router answers call w₀ filled w := by
  refine Spec.bind (await_spec answer) fun report => ?_
  exact Spec.bind (R := fun _ w => answer = .ok report ∧
    Selling router answers call w₀ (max filled report.amountFilled) w)
    (Spec.modify fun w h => ⟨h.1, h.2.observe report⟩) fun _ => Spec.pure fun _ h => h

/-- The report with the greater fill is the one that is returned. -/
theorem cancelAndReconcile_spec {cancelOrder : Except Exc Unit}
    {reconcile : Except Exc ExecutionReport} (previous : ExecutionReport)
    (hcancel : Exc.cancelled ∉ raisedBy cancelOrder)
    (hreconcile : Exc.cancelled ∉ raisedBy reconcile) :
    Spec (Selling router answers call w₀ previous.amountFilled)
      (cancelAndReconcile World.observe cancelOrder reconcile previous)
      (fun report w => (report = previous ∨ reconcile = .ok report) ∧
        Selling router answers call w₀ report.amountFilled w)
      fun _ _ => False := by
  refine Spec.bind (R := fun _ => Selling router answers call w₀ previous.amountFilled) ?_ ?_
  · refine Spec.conseq (attempt_spec (Spec.conseq (await_spec cancelOrder) (fun _ h => h)
      (fun _ _ h => h.2) fun _ _ h => h) hcancel) (fun _ h => h) ?_ fun _ _ h => h
    rintro (_ | _) w h
    · exact h.2
    · exact h
  intro _
  refine Spec.bind (attempt_spec (observed_spec reconcile) hreconcile) fun outcome => ?_
  cases outcome with
  | error _ => exact Spec.pure fun _ h => ⟨.inl rfl, h.2⟩
  | ok current =>
      refine Spec.pure fun w h => ?_
      split
      · next hle => exact ⟨.inr h.1, by simpa [max_eq_right hle] using h.2⟩
      · next hlt => exact ⟨.inl rfl, by simpa [max_eq_left (not_le.mp hlt).le] using h.2⟩

variable (htells : answers.Tells)
include htells

/-- Where a write or an await after a report may fail, nothing was sold. -/
theorem tells_undisturbed {report : ExecutionReport} (hreport : report ∈ answers.reports) :
    failedBy answers.recordStatus = [] ∧ raisedBy answers.pause = [] ∧
        failedBy answers.recordError = [] ∧ raisedBy answers.pauseAfterError = [] ∨
      report.amountFilled = 0 := by
  rcases htells.kept with hunsold | ⟨hrecord, hpause, herror, hafter⟩
  · exact .inr (hunsold report hreport)
  · exact .inl ⟨by rw [hrecord]; rfl, by rw [hpause]; rfl, by rw [herror]; rfl, by rw [hafter]; rfl⟩

theorem confirm_spec (orderId : String) :
    Spec (Selling router answers call w₀ 0) (router.confirm answers orderId)
      (fun report w => report ∈ answers.reports ∧
        Selling router answers call w₀ report.amountFilled w)
      fun exc w => exc ∈ answers.exceptions ∧ Selling router answers call w₀ 0 w := by
  refine Spec.bind (Spec.conseq (router.updateIntent_spec oneSale_asksIntent _ _ _)
    (fun _ h => h) (fun _ _ h => h) fun exc w h => ⟨?_, h.2⟩) fun _ => ?_
  · simp [SellAnswers.exceptions, h.1]
  refine Spec.bind (Spec.conseq (observed_spec answers.waitFilled) (fun _ h => h)
    (fun _ _ h => h) fun exc w h => ⟨?_, h.2⟩) fun first => Spec.assume fun hfirst => ?_
  · simp [SellAnswers.exceptions, h.1]
  have hfirstReport : first ∈ answers.reports := by
    simp [SellAnswers.reports, hfirst, reportsOf]
  rw [max_eq_right (htells.nonneg first hfirstReport)]
  -- The report that is recorded is the one with the greatest fill.
  refine Spec.bind (R := fun report w => report ∈ answers.reports ∧
    Selling router answers call w₀ report.amountFilled w) ?_ fun report =>
      Spec.assume fun hreport => ?_
  · show Spec _ (ite _ _ _) _ _
    split
    · exact Spec.pure fun _ h => ⟨hfirstReport, h⟩
    · refine Spec.conseq (cancelAndReconcile_spec first ?_ ?_) (fun _ h => h) ?_
        fun _ _ h => h.elim
      · exact fun h => htells.uncancelled (by simp [SellAnswers.exceptions, h])
      · exact fun h => htells.uncancelled (by simp [SellAnswers.exceptions, h])
      · rintro report w ⟨rfl | hreconcile, hselling⟩
        · exact ⟨hfirstReport, hselling⟩
        · exact ⟨by simp [SellAnswers.reports, hreconcile, reportsOf], hselling⟩
  have hlost : ∀ exc w, (exc ∈ failedBy answers.recordStatus ∨ exc ∈ raisedBy answers.pause) →
      Selling router answers call w₀ report.amountFilled w →
      exc ∈ answers.exceptions ∧ Selling router answers call w₀ 0 w := by
    intro exc w hexc hselling
    rcases tells_undisturbed htells hreport with ⟨hrecord, hpause, _⟩ | hzero
    · rw [hrecord, hpause] at hexc
      rcases hexc with h | h <;> cases h
    · rw [hzero] at hselling
      refine ⟨?_, hselling⟩
      rcases hexc with h | h <;> simp [SellAnswers.exceptions, h]
  refine Spec.bind (Spec.conseq (router.updateIntent_spec oneSale_asksIntent _ _ _)
    (fun _ h => h) (fun _ _ h => h) fun exc w h => hlost exc w (.inl h.1) h.2) fun _ => ?_
  refine Spec.bind (R := fun _ => Selling router answers call w₀ report.amountFilled) ?_ fun _ =>
    Spec.pure fun _ h => ⟨hreport, h⟩
  refine Spec.whenever (fun _ => ?_) fun _ _ h => h
  exact Spec.conseq (await_spec answers.pause) (fun _ h => h) (fun _ _ h => h.2)
    fun exc w h => hlost exc w (.inr h.1) h.2

omit htells in
theorem persistOrderIds_spec (calls : List (String × WriteAnswer Exc)) :
    ∀ orderId, Spec (Selling router answers call w₀ 0)
      (router.persistOrderIds answers.clientOrderId calls orderId)
      (fun _ => Selling router answers call w₀ 0) fun _ _ => False := by
  induction calls with
  | nil => exact fun _ => Spec.pure fun _ h => h
  | cons entry rest ih =>
      intro orderId
      unfold persistOrderIds
      show Spec _ (ite _ _ _) _ _
      split
      · exact ih orderId
      · refine Spec.bind (R := fun _ => Selling router answers call w₀ 0) ?_ fun _ => ih _
        refine Spec.attempt (R := fun _ => Selling router answers call w₀ 0) ?_ ?_ ?_
        · exact Spec.conseq (router.updateIntent_spec oneSale_asksIntent _ _ _) (fun _ h => h)
            (fun _ _ h => h) fun _ _ h => h.2
        · exact fun _ _ _ _ h => h
        · exact fun _ _ hnone _ => nomatch hnone

/-- How the body of the `try` leaves the sale. -/
def Left (router : Router) (answers : SellAnswers) (call : ExitLeg) (w₀ : World) :
    String × Except Exc ExecutionReport → World → Prop
  | (_, .ok report), w =>
      report ∈ answers.reports ∧ Selling router answers call w₀ report.amountFilled w
  | (_, .error exc), w =>
      (exc = .failed none ∨ exc ∈ answers.exceptions) ∧ Selling router answers call w₀ 0 w

theorem submit_left :
    Spec (fun w => NoSale w₀ w ∧
        (router.repository = true → (w.intents.get? answers.clientOrderId).isSome))
      (router.submit answers call) (Left router answers call w₀) fun _ _ => False := by
  refine Spec.bind (R := fun _ => Selling router answers call w₀ 0) ?_ fun orderId => ?_
  · refine Spec.bind (Spec.modify (Q := fun _ => Selling router answers call w₀ 0) ?_) fun _ =>
      persistOrderIds_spec _ _
    rintro w ⟨hnone, hintent⟩
    exact ⟨hnone.ledger, hintent, _, congrArg _ hnone.sells, rfl, rfl, rfl⟩
  cases hsell : answers.sell with
  | error exc =>
      refine Spec.pure fun w h => ⟨.inr ?_, h⟩
      simp [SellAnswers.exceptions, hsell, raisedBy]
  | ok returned =>
      show Spec _ (ite _ _ _) _ _
      split
      · exact Spec.pure fun w h => ⟨.inl rfl, h⟩
      · refine Spec.bind (R := fun outcome => Left router answers call w₀ (returned, outcome)) ?_
          fun outcome => Spec.pure fun _ h => h
        refine Spec.attempt (confirm_spec htells returned) ?_ fun _ _ hnone _ => nomatch hnone
        rintro exc seen w hseen ⟨hexc, hselling⟩
        cases hseen
        exact ⟨.inr hexc, hselling⟩

/-- The filled amount of a report, where there is one. -/
def reportedAmount : Option ExecutionReport → Dec
  | some report => report.amountFilled
  | none => 0

/-- The report that is known is one of the venue's, and its fill is what was sold. -/
def Told (router : Router) (answers : SellAnswers) (call : ExitLeg) (w₀ : World)
    (known : Option ExecutionReport) (w : World) : Prop :=
  (∀ report, known = some report → report ∈ answers.reports) ∧
    Selling router answers call w₀ (reportedAmount known) w

omit htells in
theorem mem_reports_of_residual {report : ExecutionReport} {contracts : Dec}
    (h : Exc.residual report contracts ∈ answers.exceptions) : report ∈ answers.reports := by
  refine List.mem_append_right _ (List.mem_flatMap.mpr ⟨_, h, ?_⟩)
  exact List.mem_singleton_self _

omit htells in
theorem told_asksIntent {known : Option ExecutionReport} :
    AsksIntent router answers.clientOrderId (Told router answers call w₀ known) where
  intent := fun hrepository w h => oneSale_asksIntent.intent hrepository w h.2
  update := fun w intent h => ⟨h.1, oneSale_asksIntent.update w intent h.2⟩

/-- What a handler does with a report it knows may fail only where nothing was sold. -/
theorem afterReport_spec {known : Option ExecutionReport} {α : Type} {m : Effect α}
    {exceptions : List Exc}
    (hsub : exceptions ⊆ failedBy answers.recordError ++ raisedBy answers.pauseAfterError)
    (hm : Spec (Told router answers call w₀ known) m (fun _ => Told router answers call w₀ known)
      fun exc w => exc ∈ exceptions ∧ Told router answers call w₀ known w) :
    Spec (Told router answers call w₀ known) m (fun _ => Told router answers call w₀ known)
      fun exc w => exc ∈ answers.exceptions ∧ Selling router answers call w₀ 0 w := by
  refine Spec.conseq hm (fun _ h => h) (fun _ _ h => h) fun exc w ⟨hexc, htold, hselling⟩ => ?_
  have hall : exc ∈ answers.exceptions := by
    rcases List.mem_append.mp (hsub hexc) with h | h <;> simp [SellAnswers.exceptions, h]
  cases known with
  | none => exact ⟨hall, hselling⟩
  | some report =>
      rcases tells_undisturbed htells (htold report rfl) with ⟨_, _, herror, hafter⟩ | hzero
      · rw [herror, hafter] at hsub
        exact absurd (hsub hexc) List.not_mem_nil
      · rw [reportedAmount, hzero] at hselling
        exact ⟨hall, hselling⟩

theorem observe_told {report : ExecutionReport} (hreport : report ∈ answers.reports) {w : World}
    (h : Selling router answers call w₀ 0 w) :
    Told router answers call w₀ (some report) (w.observe report) := by
  refine ⟨fun other heq => Option.some.inj heq ▸ hreport, ?_⟩
  have hobserved := h.observe report
  rwa [max_eq_right (htells.nonneg report hreport)] at hobserved

theorem attemptUpdate_spec {P : World → Prop} (hP : AsksIntent router answers.clientOrderId P)
    (status : OrderIntentStatus) (venueOrderId : Option String) :
    Spec P (attempt Exc.caught
      (router.updateIntent answers.clientOrderId answers.recordError status venueOrderId))
      (fun _ => P) fun _ _ => False := by
  refine Spec.conseq (attempt_spec (router.updateIntent_spec hP _ _ _) fun h =>
    htells.uncancelled (by simp [SellAnswers.exceptions, h])) (fun _ h => h) ?_
    fun _ _ h => h.elim
  rintro (_ | _) w h
  · exact h.2
  · exact h

theorem onResidual_told {report : ExecutionReport} (hreport : report ∈ answers.reports)
    (exc : Exc) :
    Spec (Selling router answers call w₀ 0) (router.onResidual answers report exc)
      (fun result => Told router answers call w₀ result.report)
      fun exc w => exc ∈ answers.exceptions ∧ Selling router answers call w₀ 0 w := by
  refine Spec.bind (R := fun _ => Told router answers call w₀ (some report))
    (Spec.modify fun w h => observe_told htells hreport h) fun _ => ?_
  refine Spec.bind (Spec.conseq (attemptUpdate_spec htells told_asksIntent _ _) (fun _ h => h)
    (fun _ _ h => h) fun _ _ h => h.elim) fun _ => ?_
  refine Spec.bind (afterReport_spec htells (List.subset_append_right _ _) (Spec.conseq
    (await_spec answers.pauseAfterError) (fun _ h => h) (fun _ _ h => h.2) fun _ _ h => h))
    fun _ => Spec.pure fun _ h => h

theorem reconcileAfterError_told (orderId : String) (exc : Exc) :
    Spec (Selling router answers call w₀ 0) (reconcileAfterError answers orderId exc)
      (fun outcome => Told router answers call w₀ outcome.1) fun _ _ => False := by
  have hnothing : ∀ w, Selling router answers call w₀ 0 w →
      Told router answers call w₀ none w := fun w h => ⟨fun _ heq => (nomatch heq), h⟩
  show Spec _ (ite _ _ _) _ _
  split
  · exact Spec.pure hnothing
  refine Spec.bind (R := fun _ => Selling router answers call w₀ 0) ?_ fun _ => ?_
  · refine Spec.conseq (attempt_spec (Spec.conseq (await_spec answers.cancelAfterError)
      (fun _ h => h) (fun _ _ h => h.2) fun _ _ h => h) fun h =>
        htells.uncancelled (by simp [SellAnswers.exceptions, h])) (fun _ h => h) ?_
      fun _ _ h => h
    rintro (_ | _) w h
    · exact h.2
    · exact h
  refine Spec.bind (R := Seen (raisedBy answers.waitAfterError)
    (fun report => Told router answers call w₀ (some report))
    (Selling router answers call w₀ 0)) ?_ fun found => ?_
  · refine attempt_spec ?_ fun h => htells.uncancelled (by simp [SellAnswers.exceptions, h])
    refine Spec.bind (await_spec answers.waitAfterError) fun report =>
      Spec.assume fun hreport => ?_
    have hmem : report ∈ answers.reports := by simp [SellAnswers.reports, hreport, reportsOf]
    exact Spec.bind (R := fun _ => Told router answers call w₀ (some report))
      (Spec.modify fun w h => observe_told htells hmem h) fun _ => Spec.pure fun _ h => h
  match found with
  | .ok report => exact Spec.pure fun _ h => h
  | .error (.residual report contracts) =>
      refine Spec.bind (R := fun _ => Told router answers call w₀ (some report))
        (Spec.modify fun w ⟨hexc, h⟩ => ?_) fun _ => Spec.pure fun _ h => h
      have hraised : Exc.residual report contracts ∈ answers.exceptions := by
        simp [SellAnswers.exceptions, hexc]
      exact observe_told htells (mem_reports_of_residual hraised) h
  | .error .cancelled | .error (.rejected _) | .error .transactionTimeout | .error (.failed _) =>
      exact Spec.pure fun w h => hnothing w h.2

theorem onError_told (before : String) (exc : Exc) :
    Spec (Selling router answers call w₀ 0) (router.onError answers before exc)
      (fun result => Told router answers call w₀ result.report)
      fun exc w => exc ∈ answers.exceptions ∧ Selling router answers call w₀ 0 w := by
  refine Spec.bind (R := fun _ => Selling router answers call w₀ 0) ?_ fun _ => ?_
  · refine Spec.whenever (fun _ => ?_) fun _ _ h => h
    refine Spec.conseq (await_spec answers.sendTimeout) (fun _ h => h) (fun _ _ h => h.2)
      fun _ _ h => ⟨?_, h.2⟩
    simp [SellAnswers.exceptions, h.1]
  refine Spec.bind (Spec.conseq (reconcileAfterError_told htells _ _) (fun _ h => h)
    (fun _ _ h => h) fun _ _ h => h.elim) fun (known, error) => ?_
  refine Spec.bind (R := fun _ => Told router answers call w₀ known) ?_ fun _ => ?_
  · show Spec _ (ite _ _ _) _ _
    split
    · exact Spec.bind (Spec.conseq (attemptUpdate_spec htells told_asksIntent _ _) (fun _ h => h)
        (fun _ _ h => h) fun _ _ h => h.elim) fun _ => Spec.pure fun _ h => h
    · exact afterReport_spec htells (List.subset_append_left _ _)
        (router.updateIntent_spec told_asksIntent _ _ _)
  refine Spec.bind (R := fun _ => Told router answers call w₀ known) ?_ fun _ =>
    Spec.pure fun _ h => h
  refine afterReport_spec htells (List.subset_append_right _ _) ?_
  refine Spec.whenever (fun _ => ?_) fun _ _ h => h
  exact Spec.conseq (await_spec answers.pauseAfterError) (fun _ h => h) (fun _ _ h => h.2)
    fun _ _ h => h

theorem onExit_told (outcome : String × Except Exc ExecutionReport) :
    Spec (Left router answers call w₀ outcome) (router.onExit answers outcome)
      (fun result => Told router answers call w₀ result.report)
      fun exc w => exc ∈ answers.exceptions ∧ Selling router answers call w₀ 0 w := by
  match outcome with
  | (_, .ok report) =>
      exact Spec.pure fun w h => ⟨fun other heq => Option.some.inj heq ▸ h.1, h.2⟩
  | (_, .error (.residual report contracts)) =>
      refine Spec.assume fun hexc => ?_
      have hmem : report ∈ answers.reports := by
        rcases hexc with h | h
        · cases h
        · exact mem_reports_of_residual h
      exact onResidual_told htells hmem _
  | (_, .error .cancelled) =>
      refine Spec.assume fun hexc => ?_
      rcases hexc with h | h
      · cases h
      · exact absurd h htells.uncancelled
  | (before, .error (.rejected id)) =>
      exact Spec.assume fun _ => onError_told htells before (.rejected id)
  | (before, .error .transactionTimeout) =>
      exact Spec.assume fun _ => onError_told htells before .transactionTimeout
  | (before, .error (.failed id)) =>
      exact Spec.assume fun _ => onError_told htells before (.failed id)

/-- A sale that tells of its fills: what the result reports is what was sold, and what raises sold
nothing. -/
theorem submitExitLeg_told (hopen : call.alreadyClosed = false) :
    Spec (NoSale w₀) (router.submitExitLeg answers call)
      (fun result => Told router answers call w₀ result.report)
      fun exc w => exc ≠ .cancelled ∧ SoldSince w₀ call.market call.leg 0 w := by
  have hraised : ∀ exc w, exc ∈ answers.exceptions → NoSale w₀ w →
      exc ≠ .cancelled ∧ SoldSince w₀ call.market call.leg 0 w := by
    refine fun exc w hexc h => ⟨?_, h.soldSince⟩
    rintro rfl
    exact htells.uncancelled hexc
  unfold submitExitLeg
  rw [if_neg (by rw [hopen]; exact Bool.false_ne_true)]
  refine Spec.bind (R := fun _ w => NoSale w₀ w ∧
    (router.repository = true → (w.intents.get? answers.clientOrderId).isSome)) ?_ fun _ => ?_
  · refine Spec.whenever (fun _ => ?_) fun hno _ h => ⟨h, fun hyes => absurd hyes hno⟩
    refine Spec.conseq (createOrderIntent_present (P := NoSale w₀) (fun w h => ⟨h.ledger, h.sells⟩) _)
      (fun _ h => h) (fun _ _ h => ⟨h.1, fun _ => h.2⟩) fun exc w h => ?_
    rcases h.1 with rfl | hexc
    · exact ⟨nofun, h.2.soldSince⟩
    · exact hraised exc w (by simp [SellAnswers.exceptions, hexc]) h.2
  refine Spec.bind (Spec.conseq (router.updateIntent_spec (P := fun w => NoSale w₀ w ∧
    (router.repository = true → (w.intents.get? answers.clientOrderId).isSome)) ?_ _ _ _)
    (fun _ h => h) (fun _ _ h => h) fun exc w h => hraised exc w ?_ h.2.1) fun _ => ?_
  · exact ⟨fun hrepository w h => h.2 hrepository, fun w intent h => ⟨⟨h.1.ledger, h.1.sells⟩,
      fun _ => by simp⟩⟩
  · simp [SellAnswers.exceptions, h.1]
  refine Spec.bind (Spec.conseq (submit_left htells) (fun _ h => h) (fun _ _ h => h)
    fun _ _ h => h.elim) fun outcome => ?_
  refine Spec.conseq (onExit_told htells outcome) (fun _ h => h) (fun _ _ h => h)
    fun exc w h => ⟨?_, h.2.soldSince⟩
  rintro rfl
  exact htells.uncancelled h.1

end Router

/-! ## An unwind -/

/-- An unwind of a leg returns what it sells: its sale tells of its fills, the venue fills no more
than was ordered, and the booking of a loss does not raise. -/
structure LegAnswers.Tells (router : Router) (config : Config) (market : MarketSpec) (leg : Leg)
    (pending : Dec) (answers : LegAnswers) : Prop where
  sale : answers.sell.Tells
  within : ∀ report ∈ answers.sell.reports,
    report.amountFilled ≤ pending ∧ Dec.Exact (pending - report.amountFilled)
  book : Exc.cancelled ∉ raisedBy answers.book
  booked : answers.sell.Unsold ∨ (raisedBy (venueFeePct config (router.label leg) market) = [] ∧
    raisedBy answers.pnl.recordResult = [] ∧ raisedBy answers.pnl.sendHtml = [])

/-- This much of `pending` can be what was sold of it. -/
def PartOf (pending amount : Dec) : Prop :=
  0 ≤ amount ∧ amount ≤ pending ∧ Dec.Exact (pending - amount)

theorem PartOf.zero {pending : Dec} (h : 0 ≤ pending) (hexact : Dec.Exact pending) :
    PartOf pending 0 := ⟨le_rfl, h, by rwa [sub_zero]⟩

/-- What is left of `pending` is what the code computes. -/
theorem PartOf.rest {pending amount : Dec} (h : PartOf pending amount) :
    max 0 (Dec.sub pending amount) = pending - amount := by
  rw [Dec.sub, h.2.2, max_eq_right (sub_nonneg.mpr h.2.1)]

namespace Router

variable {config : Config} {answers : LegAnswers} {pending : Dec}

/-- Booking a loss keeps what was sold. -/
theorem recordUnwindPnl_spec {P : World → Prop} {entryPrice exitPrice contracts : Dec}
    (hP : ∀ w result, P w → P { w with realized := result :: w.realized })
    (h : 0 < contracts → raisedBy (venueFeePct config (router.label leg) market) = [] ∧
      raisedBy answers.pnl.recordResult = [] ∧ raisedBy answers.pnl.sendHtml = []) :
    Spec P (recordUnwindPnl config answers.pnl (router.label leg) market entryPrice exitPrice
      contracts) (fun _ => P) fun _ _ => False := by
  have hawait : ∀ {α : Type} {answer : Except Exc α}, raisedBy answer = [] →
      Spec P (Lib.Effect.await answer) (fun _ => P) fun _ _ => False := by
    intro α answer hnone
    refine Spec.conseq (await_spec answer) (fun _ h => h) (fun _ _ h => h.2) fun _ _ h => ?_
    rw [hnone] at h
    exact List.not_mem_nil h.1
  show Spec P (ite _ _ _) _ _
  split
  · exact Spec.pure fun _ h => h
  · next hpos =>
      obtain ⟨hfee, hrecord, hsend⟩ := h (not_le.mp hpos)
      refine Spec.bind (hawait hfee) fun fee => Spec.whenever (fun _ => ?_) fun _ _ h => h
      refine Spec.bind (Spec.modify (Q := fun _ => P) fun w => hP w _) fun _ => ?_
      exact Spec.bind (hawait hrecord) fun _ => Spec.whenever (fun _ => hawait hsend) fun _ _ h => h

/-- What an unwind returns is what it sold. -/
def Unwinds (market : MarketSpec) (leg : Leg) (pending : Dec) (answers : LegAnswers) (w₀ : World)
    (unwound : Dec) (w : World) : Prop :=
  SoldSince w₀ market leg unwound w ∧ PartOf pending unwound ∧
    ((Dec.epsilon < pending → answers.sell.Unsold) → unwound = 0)

/-- An unwind returns what it sells, and never raises. -/
theorem tryUnwindLeg_told {entryPrice : Dec} (hpending : Dec.epsilon < pending)
    (hexact : Dec.Exact pending) (h : answers.Tells router config market leg pending) :
    Spec (NoSale w₀) (router.tryUnwindLeg config answers market leg entryPrice pending)
      (Unwinds market leg pending answers w₀) fun _ _ => False := by
  have hzero := PartOf.zero (Dec.epsilon_pos.trans hpending).le hexact
  have hbody : Spec (NoSale w₀) (router.unwindLeg config answers market leg entryPrice pending)
      (Unwinds market leg pending answers w₀)
      fun exc w => exc ≠ .cancelled ∧ SoldSince w₀ market leg 0 w := by
    refine Spec.bind (Spec.conseq (await_spec answers.book) (fun _ h => h) (fun _ _ h => h.2)
      fun exc w hraised => ⟨?_, hraised.2.soldSince⟩) fun bids => ?_
    · rintro rfl
      exact h.book hraised.1
    cases bids.head? with
    | none => exact Spec.pure fun w hw => ⟨hw.soldSince, hzero, fun _ => rfl⟩
    | some bid =>
        refine Spec.bind (submitExitLeg_told h.sale rfl) fun result => ?_
        cases hreport : result.report with
        | none => exact Spec.pure fun w hw => ⟨hw.2.soldSince, hzero, fun _ => rfl⟩
        | some report =>
            refine Spec.assume fun hknown => ?_
            have hmem := hknown report rfl
            obtain ⟨hle, hleft⟩ := h.within report hmem
            have hpart : PartOf pending report.amountFilled :=
              ⟨h.sale.nonneg report hmem, hle, hleft⟩
            simp only [min_eq_right hle]
            have hrecorded : 0 < report.amountFilled →
                raisedBy (venueFeePct config (router.label leg) market) = [] ∧
                  raisedBy answers.pnl.recordResult = [] ∧
                  raisedBy answers.pnl.sendHtml = [] := by
              intro hpos
              rcases h.booked with hunsold | hbooked
              · exact absurd (hunsold report hmem) hpos.ne'
              · exact hbooked
            refine Spec.bind (Spec.conseq (recordUnwindPnl_spec
              (fun _ _ hw => ⟨hw.ledger, hw.intent, hw.sells⟩) hrecorded)
              (fun _ h => h) (fun _ _ h => h) fun _ _ h => h.elim) fun _ =>
                Spec.pure fun w hw =>
                  ⟨hw.soldSince, hpart, fun hunsold => hunsold hpending report hmem⟩
  refine Spec.bind (R := fun outcome w =>
    (∀ unwound, outcome = .ok unwound → Unwinds market leg pending answers w₀ unwound w) ∧
      ∀ exc, outcome = .error exc → SoldSince w₀ market leg 0 w) ?_ fun outcome => ?_
  · refine Spec.attempt (Spec.conseq hbody (fun _ h => h) ?_ fun _ _ h => h) ?_ ?_
    · intro unwound w h
      refine ⟨?_, by simp⟩
      rintro _ ⟨⟩
      exact h
    · intro _ _ _ _ h
      exact ⟨by simp, fun _ _ => h.2⟩
    · intro exc _ hnone h
      exact h.1 (caught_eq_none hnone)
  · cases outcome with
    | ok _ => exact Spec.pure fun _ h => h.1 _ rfl
    | error _ => exact Spec.pure fun _ h => ⟨h.2 _ rfl, hzero, fun _ => rfl⟩

theorem unwindUnmatched_told {entryPrice : Dec} (hpending : 0 ≤ pending)
    (hexact : Dec.Exact pending)
    (h : Dec.epsilon < pending → answers.Tells router config market leg pending) :
    Spec (NoSale w₀) (router.unwindUnmatched config answers market leg entryPrice pending)
      (Unwinds market leg pending answers w₀) fun _ _ => False := by
  unfold unwindUnmatched
  split
  · next hlt => exact tryUnwindLeg_told hlt hexact (h hlt)
  · exact Spec.pure fun w hw => ⟨hw.soldSince, PartOf.zero hpending hexact, fun _ => rfl⟩

end Router

end ArbitrageEngine.Execution
