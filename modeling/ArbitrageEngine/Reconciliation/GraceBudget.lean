/-
# ArbitrageEngine.Reconciliation.GraceBudget -- what a cycle may pass over

The orders and fills of no intent that a cycle passes over are those of as many venue orders as there
are recent SUBMITTING intents, whether or not these know their venue order; at startup there are
none.  Any other one that the active baseline does not cover ends readiness.

`Steady` collects what the loops do to the locals, so that an invariant is checked once for each
kind of change and then holds of the whole cycle.
-/
import ArbitrageEngine.Reconciliation.VenueCycle

namespace ArbitrageEngine.Reconciliation

open Execution Lib.Effect

variable {submitted unresolved fillRefs : List String} {I : VenueLocals → Prop}
  {answers : VenueAnswers} {full allowInflightGrace : Bool}

/-! ## Invariants of the loops -/

/-- The changes of the loops keep `I`: what is logged was deferred before, and a venue order is
deferred only while there is room. -/
structure Steady (submitted : List String) (I : VenueLocals → Prop) : Prop where
  checked : ∀ l, I l → I (countChecked l)
  drift : ∀ amount l, I l → I (addDrift amount l)
  order : ∀ venueOrderId l, I l → I (addUntrackedOrder venueOrderId l)
  fill : ∀ fillRef l, I l → I (addUntrackedFill fillRef l)
  handled : ∀ orderId l, I l → I (addHandled orderId l)
  recorded : ∀ inserted l, I l → I (countRecorded inserted l)
  graced : ∀ venueOrderId l, I l → venueOrderId ∉ l.gracedVenueOrderIds →
    l.gracedVenueOrderIds.length < submitted.length →
      I { l with gracedVenueOrderIds := venueOrderId :: l.gracedVenueOrderIds }
  deferred : ∀ item l, I l → item.venueOrderId ∈ l.gracedVenueOrderIds → I (logDeferred item l)

theorem canDeferUntracked_eq (venueOrderId : String) (l : VenueLocals) :
    canDeferUntracked submitted venueOrderId l =
      if venueOrderId ∈ l.gracedVenueOrderIds then .ok true l
      else if submitted.length ≤ l.gracedVenueOrderIds.length then .ok false l
      else .ok true { l with gracedVenueOrderIds := venueOrderId :: l.gracedVenueOrderIds } := by
  show (if venueOrderId ∈ l.gracedVenueOrderIds then (pure true : VenueEffect Bool)
    else if submitted.length ≤ l.gracedVenueOrderIds.length then pure false
    else do
      modify fun l => { l with gracedVenueOrderIds := venueOrderId :: l.gracedVenueOrderIds }
      pure true) l = _
  split
  · rfl
  · split <;> rfl

/-- `can_defer_untracked` says yes of an order that it has deferred. -/
theorem Steady.canDeferUntracked (h : Steady submitted I) (venueOrderId : String) :
    Spec I (canDeferUntracked submitted venueOrderId)
      (fun yes l => I l ∧ (yes = true → venueOrderId ∈ l.gracedVenueOrderIds)) fun _ => I := by
  intro l hl
  rw [canDeferUntracked_eq]
  split_ifs with hmem hfull
  · exact ⟨hl, fun _ => hmem⟩
  · exact ⟨hl, fun hyes => absurd hyes (by decide)⟩
  · exact ⟨h.graced venueOrderId l hl hmem (not_le.mp hfull), fun _ => List.mem_cons_self⟩

theorem Steady.defersSubmission (h : Steady submitted I) (persisted remote : Option String)
    (venueOrderId : String) :
    Keeps I (defersSubmission submitted persisted remote venueOrderId) := by
  unfold Reconciliation.defersSubmission
  apply Keeps.ite
  · exact Spec.conseq (h.canDeferUntracked venueOrderId) (fun _ hl => hl) (fun _ _ hl => hl.1)
      fun _ _ hl => hl
  · exact Keeps.pure _

/-! ## The loops keep a steady invariant -/

theorem Steady.reconcileIntent (h : Steady submitted I) (row : UnresolvedRow) :
    Keeps I (reconcileIntent allowInflightGrace row) := by
  have hdrift : Keeps I (modify (addDrift 1) : VenueEffect Unit) := Keeps.modify (h.drift 1)
  unfold Reconciliation.reconcileIntent
  refine Keeps.bind (Keeps.modify h.checked) fun _ => Keeps.ite (Keeps.pure _) ?_
  split
  · exact Keeps.bind (Keeps.whenever hdrift) fun _ => Keeps.await _
  · refine Keeps.bind (Keeps.attempt (Keeps.await _)) fun answer => ?_
    split
    · exact Keeps.bind (Keeps.await _) fun _ => Keeps.bind (Keeps.await _) fun _ =>
        Keeps.whenever hdrift
    · refine Keeps.ite (Keeps.throw _) ?_
      exact Keeps.bind (Keeps.await _) fun _ =>
        Keeps.bind (Keeps.modify (h.handled _)) fun _ => hdrift
    · exact Keeps.ite (Keeps.await _) (Keeps.throw _)

theorem Steady.closeOpenOrder (h : Steady submitted I) (order : OpenOrder) :
    Keeps I (closeOpenOrder order) := by
  have hdrift : Keeps I (modify (addDrift 1) : VenueEffect Unit) := Keeps.modify (h.drift 1)
  have hcancel : Keeps I (cancelOpenOrder order) :=
    Keeps.bind (Keeps.await _) fun _ => Keeps.bind (Keeps.await _) fun _ =>
      Keeps.bind (Keeps.await _) fun _ => Keeps.whenever hdrift
  unfold Reconciliation.closeOpenOrder
  refine Keeps.bind (Keeps.await _) fun _ => Keeps.bind (Keeps.await _) fun _ =>
    Keeps.bind (Keeps.attempt hcancel) fun outcome => ?_
  split
  · exact Keeps.pure _
  · exact Keeps.bind hdrift fun _ => Keeps.await _

theorem Steady.untrackedOrder (h : Steady submitted I) (venueOrderId : String) :
    Keeps I (untrackedOrder submitted venueOrderId) := by
  refine Spec.bind (h.canDeferUntracked venueOrderId) fun deferred => Spec.modify fun l hl => ?_
  split
  · next hyes => exact h.deferred _ l hl.1 (hl.2 hyes)
  · exact h.order _ l hl.1

theorem Steady.reconcileOrder (h : Steady submitted I) (order : OpenOrder) :
    Keeps I (reconcileOrder submitted unresolved order) := by
  refine Keeps.bind (Keeps.modify h.checked) fun _ => Keeps.bind (Keeps.await _) fun persisted =>
    Keeps.bind (h.defersSubmission _ _ _) fun deferred => Keeps.ite (Keeps.pure _) ?_
  split
  · exact h.untrackedOrder _
  · exact h.closeOpenOrder _

theorem Steady.reconcileExposure (h : Steady submitted I) (exposure : ListedExposure) :
    Keeps I (reconcileExposure exposure) := by
  unfold Reconciliation.reconcileExposure
  split
  · exact Keeps.throw _
  · refine Keeps.bind (Spec.get fun _ hl => hl) fun l => ?_
    refine Keeps.ite (Keeps.pure _) (Keeps.ite (Keeps.throw _) ?_)
    exact Keeps.bind (Keeps.await _) fun _ => Keeps.bind (Keeps.modify (h.handled _)) fun _ =>
      Keeps.modify (h.drift 1)

theorem Steady.untrackedFill (h : Steady submitted I) (fill : ListedFill) :
    Keeps I (untrackedFill submitted fillRefs fill) := by
  refine Spec.bind (h.canDeferUntracked fill.venueOrderId) fun deferred =>
    Spec.modify fun l hl => ?_
  split_ifs with hyes
  · exact h.deferred _ l hl.1 (hl.2 hyes)
  · exact hl.1
  · exact h.fill _ l hl.1

theorem Steady.reconcileFill (h : Steady submitted I) (fill : ListedFill) :
    Keeps I (reconcileFill submitted unresolved fillRefs fill) := by
  refine Keeps.bind (Keeps.await _) fun persisted => Keeps.bind (h.defersSubmission _ _ _)
    fun deferred => Keeps.ite (Keeps.pure _) ?_
  split
  · exact h.untrackedFill _
  · exact Keeps.bind (Keeps.await _) fun inserted => Keeps.modify (h.recorded inserted)

theorem Steady.countUntracked (h : Steady submitted I) : Keeps I (countUntracked answers) := by
  have haudit : ∀ {amount : ℕ} {audit : Except Exc Unit},
      Keeps I (do modify (addDrift amount); await audit : VenueEffect Unit) :=
    Keeps.bind (Keeps.modify (h.drift _)) fun _ => Keeps.await _
  refine Keeps.bind (Spec.get fun _ hl => hl) fun l => ?_
  exact Keeps.bind (Keeps.whenever (Keeps.await _)) fun _ =>
    Keeps.bind (Keeps.whenever haudit) fun _ => Keeps.whenever haudit

theorem Steady.countMismatches (h : Steady submitted I) :
    Keeps I (countMismatches answers full) :=
  Keeps.whenever (Keeps.bind (Keeps.await _) fun mismatches => Keeps.modify (h.drift mismatches))

/-! ## The cycle keeps a steady invariant -/

/-- The submissions that a cycle has a grace for. -/
def submissions (answers : VenueAnswers) (allowInflightGrace : Bool) : List String :=
  match answers.unresolved with
  | .ok rows => potentiallySubmitted allowInflightGrace rows
  | .error _ => []

theorem submissions_eq {rows : List UnresolvedRow} (h : answers.unresolved = .ok rows) :
    submissions answers allowInflightGrace = potentiallySubmitted allowInflightGrace rows := by
  unfold submissions
  rw [h]

theorem Steady.venueBody (h : Steady (submissions answers allowInflightGrace) I) :
    Keeps I (venueBody answers full allowInflightGrace) := by
  unfold Reconciliation.venueBody
  refine Keeps.bind (Keeps.await _) fun baseline => Keeps.bind (Keeps.await _) fun fillRefs => ?_
  refine Spec.bind (R := fun rows l => answers.unresolved = .ok rows ∧ I l)
    (Spec.await (fun rows hrows l hl => ⟨hrows, hl⟩) fun _ _ _ hl => hl) fun rows => ?_
  refine Spec.assume fun hrows => ?_
  rw [submissions_eq hrows] at h
  refine Keeps.bind (Keeps.forM _ fun row _ => h.reconcileIntent row) fun _ => ?_
  refine Keeps.bind (Keeps.await _) fun orders => ?_
  refine Keeps.bind (Keeps.forM _ fun order _ => h.reconcileOrder order) fun _ => ?_
  refine Keeps.bind (Keeps.await _) fun _ => Keeps.bind (Keeps.await _) fun listed => ?_
  obtain ⟨exposures, fills⟩ := listed
  refine Keeps.bind (Keeps.forM _ fun exposure _ => h.reconcileExposure exposure) fun _ => ?_
  refine Keeps.bind (Keeps.forM _ fun fill _ => h.reconcileFill fill) fun _ => ?_
  exact Keeps.bind h.countUntracked fun _ => h.countMismatches

/-! ## The budget -/

/-- No more venue orders are deferred than there are submissions, and what was passed over is
theirs. -/
structure Budgeted (submitted : List String) (l : VenueLocals) : Prop where
  distinct : l.gracedVenueOrderIds.Nodup
  bounded : l.gracedVenueOrderIds.length ≤ submitted.length
  logged : ∀ item ∈ l.deferred, item.venueOrderId ∈ l.gracedVenueOrderIds

theorem steady_budgeted (submitted : List String) : Steady submitted (Budgeted submitted) where
  checked _ h := ⟨h.distinct, h.bounded, h.logged⟩
  drift _ _ h := ⟨h.distinct, h.bounded, h.logged⟩
  order _ _ h := ⟨h.distinct, h.bounded, h.logged⟩
  fill _ _ h := ⟨h.distinct, h.bounded, h.logged⟩
  handled _ _ h := ⟨h.distinct, h.bounded, h.logged⟩
  recorded _ _ h := ⟨h.distinct, h.bounded, h.logged⟩
  graced _ _ h hnew hroom :=
    ⟨List.nodup_cons.mpr ⟨hnew, h.distinct⟩, hroom,
      fun item hitem => List.mem_cons_of_mem _ (h.logged item hitem)⟩
  deferred item _ h hgraced := by
    refine ⟨h.distinct, h.bounded, fun other hother => ?_⟩
    rcases List.mem_cons.mp hother with rfl | hold
    · exact hgraced
    · exact h.logged other hold

/-- The venue orders of what a cycle passed over. -/
def deferredOrderIds (answers : VenueAnswers) (full allowInflightGrace : Bool) : List String :=
  (venueLocals answers full allowInflightGrace).deferred.map Deferred.venueOrderId

theorem budgeted_venueLocals (answers : VenueAnswers) (full allowInflightGrace : Bool) :
    Budgeted (submissions answers allowInflightGrace)
      (venueLocals answers full allowInflightGrace) := by
  apply Spec.finalState (P := Budgeted (submissions answers allowInflightGrace))
  · exact (steady_budgeted _).venueBody
  · exact ⟨List.nodup_nil, Nat.zero_le _, fun _ hitem => absurd hitem List.not_mem_nil⟩

theorem deferred_bounded (answers : VenueAnswers) (full allowInflightGrace : Bool) :
    (deferredOrderIds answers full allowInflightGrace).dedup.length ≤
      (submissions answers allowInflightGrace).length := by
  have h := budgeted_venueLocals answers full allowInflightGrace
  refine le_trans ?_ h.bounded
  apply List.Subperm.length_le
  apply List.subperm_of_subset (List.nodup_dedup _)
  intro venueOrderId hmem
  obtain ⟨item, hitem, rfl⟩ := List.mem_map.mp (List.mem_dedup.mp hmem)
  exact h.logged item hitem

/-- Without a grace there is nothing to defer for. -/
theorem submissions_startup (answers : VenueAnswers) : submissions answers false = [] := by
  unfold submissions potentiallySubmitted
  split
  · next rows _ =>
      rw [List.filter_eq_nil_iff.mpr]
      · rfl
      · intro row _ hrow
        exact absurd (of_decide_eq_true hrow).1 (by simp [UnresolvedRow.graced])
  · rfl

theorem deferred_startup (answers : VenueAnswers) (full : Bool) :
    (venueLocals answers full false).deferred = [] := by
  have hlength := deferred_bounded answers full false
  rw [submissions_startup, List.length_nil, Nat.le_zero, List.length_eq_zero_iff,
    List.dedup_eq_nil] at hlength
  exact List.map_eq_nil_iff.mp hlength

/-! ## What is not deferred is drift -/

/-- Is the order or fill that of an intent? -/
def isTracked (submitted unresolved : List String) (persisted : Option String)
    (clientOrderId : String) : Bool :=
  let remote := truthy (some clientOrderId)
  persisted.any (fun id => id ∈ submitted) ∨ remote.any (fun id => id ∈ submitted) ∨
    (knownClientOrderId unresolved persisted remote).isSome

/-- The venue lists an order with this id, or a fill of it, that no intent knows and the active
baseline does not cover. -/
inductive Uncovered (answers : VenueAnswers) (allowInflightGrace : Bool) : String → Prop
  | order {rows : List UnresolvedRow} {orders : List OpenOrder} {order : OpenOrder}
      {persisted : Option String} (hrows : answers.unresolved = .ok rows)
      (horders : answers.openOrders = .ok orders) (hmem : order ∈ orders)
      (hpersisted : order.persisted = .ok persisted)
      (hnone : isTracked (potentiallySubmitted allowInflightGrace rows)
        (unresolvedClientOrderIds rows) persisted order.clientOrderId = false) :
      Uncovered answers allowInflightGrace order.venueOrderId
  | fill {baseline : Option Baseline} {fillRefs : List String} {rows : List UnresolvedRow}
      {exposures : List ListedExposure} {fills : List ListedFill} {fill : ListedFill}
      {persisted : Option String} (hbaseline : answers.baseline = .ok baseline)
      (hrefs : baselineFillRefs answers.fingerprint baseline = .ok fillRefs)
      (hrows : answers.unresolved = .ok rows) (hfills : answers.fills = .ok (exposures, fills))
      (hmem : fill ∈ fills) (hpersisted : fill.persisted = .ok persisted)
      (hnone : isTracked (potentiallySubmitted allowInflightGrace rows)
        (unresolvedClientOrderIds rows) persisted fill.clientOrderId = false)
      (huncovered : fill.ref ∉ fillRefs) :
      Uncovered answers allowInflightGrace fill.venueOrderId

/-- The order is counted, or it was passed over. -/
def Found (venueOrderId : String) (l : VenueLocals) : Prop :=
  0 < l.drift ∨ venueOrderId ∈ l.deferred.map Deferred.venueOrderId

/-- The order will be counted, or it was passed over. -/
def Noticed (venueOrderId : String) (l : VenueLocals) : Prop :=
  l.untrackedOpenOrderIds ≠ [] ∨ l.untrackedFillRefs ≠ [] ∨ Found venueOrderId l

theorem insert_ne_nil (x : String) (xs : List String) : xs.insert x ≠ [] :=
  List.ne_nil_of_mem List.mem_insert_self

theorem steady_found (submitted : List String) (venueOrderId : String) : Steady submitted (Found venueOrderId) where
  checked _ h := h
  drift _ _ h := h.imp_left fun hdrift => Nat.add_pos_left hdrift _
  order _ _ h := h
  fill _ _ h := h
  handled _ _ h := h
  recorded _ _ h := h
  graced _ _ h _ _ := h
  deferred _ _ h _ := h.imp_right (List.mem_cons_of_mem _)

theorem steady_noticed (submitted : List String) (venueOrderId : String) : Steady submitted (Noticed venueOrderId) where
  checked _ h := h
  drift _ _ h := h.imp_right fun h => h.imp_right fun h =>
    h.imp_left fun hdrift => Nat.add_pos_left hdrift _
  order _ _ _ := .inl (insert_ne_nil _ _)
  fill _ _ _ := .inr (.inl (insert_ne_nil _ _))
  handled _ _ h := h
  recorded _ _ h := h
  graced _ _ h _ _ := h
  deferred _ _ h _ := h.imp_right fun h => h.imp_right fun h =>
    h.imp_right (List.mem_cons_of_mem _)

/-- Nothing is deferred for an order of no submission. -/
theorem defersSubmission_of_untracked {persisted : Option String} {clientOrderId : String}
    (hnone : isTracked submitted unresolved persisted clientOrderId = false)
    (venueOrderId : String) :
    defersSubmission submitted persisted (truthy (some clientOrderId)) venueOrderId = pure false := by
  simp only [isTracked, decide_eq_false_iff_not, not_or] at hnone
  unfold defersSubmission
  rw [if_neg]
  rintro (hpersisted | hremote)
  · exact hnone.1 hpersisted
  · exact hnone.2.1 hremote

theorem knownClientOrderId_of_untracked {persisted : Option String} {clientOrderId : String}
    (hnone : isTracked submitted unresolved persisted clientOrderId = false) :
    knownClientOrderId unresolved persisted (truthy (some clientOrderId)) = none := by
  simp only [isTracked, decide_eq_false_iff_not, not_or] at hnone
  exact Option.not_isSome_iff_eq_none.mp hnone.2.2

/-- An open order of no intent is noticed in its round. -/
theorem noticed_order {order : OpenOrder} {persisted : Option String}
    (hpersisted : order.persisted = .ok persisted)
    (hnone : isTracked submitted unresolved persisted order.clientOrderId = false) :
    Spec (fun _ => True) (reconcileOrder submitted unresolved order)
      (fun _ => Noticed order.venueOrderId) fun _ _ => True := by
  unfold reconcileOrder
  rw [hpersisted]
  refine Spec.bind (Spec.trivial _) fun _ => ?_
  show Spec (fun _ => True) (do
    let deferred ← defersSubmission submitted persisted (truthy (some order.clientOrderId))
      order.venueOrderId
    if deferred then pure () else _) _ _
  rw [defersSubmission_of_untracked hnone, pure_bind, if_neg (by decide),
    knownClientOrderId_of_untracked hnone]
  refine Spec.bind (Spec.trivial _) fun deferred => Spec.modify fun l _ => ?_
  split
  · exact .inr (.inr (.inr List.mem_cons_self))
  · exact .inl (insert_ne_nil _ _)

/-- So is a fill of no intent that the baseline does not cover. -/
theorem noticed_fill {fill : ListedFill} {persisted : Option String}
    (hpersisted : fill.persisted = .ok persisted)
    (hnone : isTracked submitted unresolved persisted fill.clientOrderId = false)
    (huncovered : fill.ref ∉ fillRefs) :
    Spec (fun _ => True) (reconcileFill submitted unresolved fillRefs fill)
      (fun _ => Noticed fill.venueOrderId) fun _ _ => True := by
  unfold reconcileFill
  rw [hpersisted]
  show Spec (fun _ => True) (do
    let deferred ← defersSubmission submitted persisted (truthy (some fill.clientOrderId))
      fill.venueOrderId
    if deferred then pure () else _) _ _
  rw [defersSubmission_of_untracked hnone, pure_bind, if_neg (by decide),
    knownClientOrderId_of_untracked hnone]
  refine Spec.bind (Spec.trivial _) fun deferred => Spec.modify fun l _ => ?_
  rw [if_neg huncovered]
  split
  · exact .inr (.inr (.inr List.mem_cons_self))
  · exact .inr (.inl (insert_ne_nil _ _))

/-- A drift that is counted and audited. -/
theorem found_counted {P : VenueLocals → Prop} {venueOrderId : String} {amount : ℕ}
    {audit : Except Exc Unit} (hpos : 0 < amount) :
    Spec P (do modify (addDrift amount); await audit : VenueEffect Unit)
      (fun _ => Found venueOrderId) fun _ _ => True := by
  refine Spec.bind (R := fun _ => Found venueOrderId)
    (Spec.modify fun l _ => .inl (Nat.add_pos_right _ hpos)) fun _ => ?_
  exact Spec.returns (Keeps.await _)

/-- What was noticed is found when the audits are through. -/
theorem found_countUntracked (venueOrderId : String) :
    Spec (Noticed venueOrderId) (countUntracked answers) (fun _ => Found venueOrderId)
      fun _ _ => True := by
  unfold countUntracked
  refine Spec.bind (R := fun l s => l = s ∧ Noticed venueOrderId s)
    (Spec.get fun s hs => ⟨rfl, hs⟩) fun l => ?_
  refine Spec.bind (R := fun _ s => l.untrackedOpenOrderIds ≠ [] ∨ l.untrackedFillRefs ≠ [] ∨
    Found venueOrderId s) ?_ fun _ => ?_
  · refine Spec.conseq (Keeps.whenever (Keeps.await _)) (fun s hs => ?_) (fun _ _ hs => hs)
      fun _ _ _ => True.intro
    obtain ⟨rfl, hs⟩ := hs
    exact hs
  refine Spec.bind (R := fun _ s => l.untrackedFillRefs ≠ [] ∨ Found venueOrderId s)
    (Spec.whenever (fun hne => ?_) fun hnil s hs => hs.resolve_left hnil) fun _ => ?_
  · exact Spec.conseq (found_counted (List.length_pos_iff.mpr hne)) (fun _ hs => hs)
      (fun _ _ hs => .inr hs) fun _ _ _ => True.intro
  · exact Spec.whenever (fun hne => found_counted (List.length_pos_iff.mpr hne))
      fun hnil s hs => hs.resolve_left hnil

/-! ## The end of a cycle -/

/-- The end of the body, from the loop over the fills on. -/
theorem found_end {P : VenueLocals → Prop} {venueOrderId : String} {fills : List ListedFill}
    (h : Spec P (fills.forM (reconcileFill submitted unresolved fillRefs))
      (fun _ => Noticed venueOrderId) fun _ _ => True) :
    Spec P (do
      fills.forM (reconcileFill submitted unresolved fillRefs)
      countUntracked answers
      countMismatches answers full) (fun _ => Found venueOrderId) fun _ _ => True :=
  Spec.bind h fun _ => Spec.bind (found_countUntracked venueOrderId) fun _ =>
    Spec.returns (steady_found submitted venueOrderId).countMismatches

/-- A body that returns has counted what is uncovered, or passed it over. -/
theorem found_venueBody {venueOrderId : String}
    (h : Uncovered answers allowInflightGrace venueOrderId) :
    Spec (fun _ => True) (venueBody answers full allowInflightGrace)
      (fun _ => Found venueOrderId) fun _ _ => True := by
  cases h with
  | @order rows orders order persisted hrows horders hmem hpersisted hnone =>
      have hsteady := steady_noticed (potentiallySubmitted allowInflightGrace rows)
        order.venueOrderId
      unfold venueBody
      refine Spec.bind (Spec.trivial _) fun baseline => Spec.bind (Spec.trivial _) fun fillRefs => ?_
      rw [await_bind hrows]
      refine Spec.bind (Spec.trivial _) fun _ => ?_
      rw [await_bind horders]
      refine Spec.bind (Spec.forM_of_mem (noticed_order hpersisted hnone) orders hmem
        fun other _ => hsteady.reconcileOrder other) fun _ => ?_
      refine Spec.bind (Spec.returns (Keeps.await _)) fun _ =>
        Spec.bind (Spec.returns (Keeps.await _)) fun listed => ?_
      obtain ⟨exposures, fills⟩ := listed
      refine Spec.bind (Spec.returns (Keeps.forM _ fun exposure _ =>
        hsteady.reconcileExposure exposure)) fun _ => ?_
      exact found_end (Spec.returns (Keeps.forM _ fun fill _ => hsteady.reconcileFill fill))
  | @fill baseline fillRefs rows exposures fills fill persisted hbaseline hrefs hrows hfills hmem
      hpersisted hnone huncovered =>
      have hsteady := steady_noticed (potentiallySubmitted allowInflightGrace rows)
        fill.venueOrderId
      unfold venueBody
      rw [await_bind hbaseline, await_bind hrefs, await_bind hrows]
      refine Spec.bind (Spec.trivial _) fun _ => Spec.bind (Spec.trivial _) fun orders =>
        Spec.bind (Spec.trivial _) fun _ => Spec.bind (Spec.trivial _) fun _ => ?_
      rw [await_bind hfills]
      refine Spec.bind (Spec.trivial _) fun _ => ?_
      exact found_end (Spec.forM_of_mem (noticed_fill hpersisted hnone huncovered) fills hmem
        fun other _ => hsteady.reconcileFill other)

/-- The result of a cycle that left something uncovered is a failure. -/
theorem failure_of_uncovered {venueOrderId : String} {result : ReconciliationResult}
    (h : Uncovered answers allowInflightGrace venueOrderId)
    (hother : venueOrderId ∉ deferredOrderIds answers full allowInflightGrace)
    (hresult : reconcileVenue full allowInflightGrace answers = .ok result) :
    0 < result.driftCount ∨ result.success = false := by
  unfold reconcileVenue at hresult
  cases hvenue : venueResult answers full allowInflightGrace with
  | error exc =>
      rw [hvenue] at hresult
      cases hresult
  | ok value =>
      have hvalue : value = result := by
        rw [hvenue] at hresult
        cases hrecord : answers.recordReconciliation with
        | error exc =>
            rw [hrecord] at hresult
            cases hresult
        | ok _ =>
            rw [hrecord] at hresult
            exact Except.ok.inj hresult
      rw [← hvalue]
      unfold venueResult at hvenue
      cases hraised : raised (venueBody answers full allowInflightGrace) {} with
      | none =>
          rw [hraised] at hvenue
          cases hvenue
          have hfound : Found venueOrderId (venueLocals answers full allowInflightGrace) :=
            Spec.of_returns (found_venueBody h) True.intro hraised
          exact .inl (hfound.resolve_right hother)
      | some exc =>
          right
          rw [hraised] at hvenue
          cases exc <;> cases hvenue <;> rfl

theorem not_ready_of_failure {results : List ReconciliationResult} {result : ReconciliationResult}
    {service : ServiceState} (hmem : result ∈ results)
    (hfailure : 0 < result.driftCount ∨ result.success = false) :
    (afterCycle results service).ready = false := by
  unfold afterCycle
  split
  · rfl
  · next hhard =>
      rw [if_pos]
      simp only [List.any_eq_true, not_exists, not_and, isHardFailure, decide_eq_true_eq, not_or]
        at hhard
      obtain ⟨hdrift, hkind⟩ := hhard result hmem
      have hsuccess := hfailure.resolve_left hdrift
      refine List.any_eq_true.mpr ⟨result, hmem, decide_eq_true ⟨?_, hsuccess, ?_⟩⟩
      · exact Nat.eq_zero_of_not_pos hdrift
      · simpa [hsuccess] using hkind

/-- **The grace is bounded.**  A cycle passes over the untracked orders and fills of at most as many
venue orders as there are recent SUBMITTING intents, and of none at startup.  Where the venue lists
any other one that the active baseline does not cover, a cycle that returns is not ready, a round of
the background task is not ready either, and an attempt at startup does not succeed. -/
theorem grace_is_bounded :
    (∀ (answers : VenueAnswers) (full allowInflightGrace : Bool),
      (deferredOrderIds answers full allowInflightGrace).dedup.length ≤
        (submissions answers allowInflightGrace).length) ∧
    (∀ (answers : VenueAnswers) (full : Bool), (venueLocals answers full false).deferred = []) ∧
    (∀ (venues : List VenueAnswers) (full : Bool) (service : ServiceState),
      ∀ answers ∈ venues, ∀ venueOrderId, Uncovered answers true venueOrderId →
        venueOrderId ∉ deferredOrderIds answers full true →
        (∀ results next, runOnce venues full service = .ok (results, next) → next.ready = false) ∧
          (runRound venues full service).ready = false) ∧
    (∀ (answers : VenueAnswers) (venueOrderId : String), Uncovered answers false venueOrderId →
      isStartupSuccess (reconcileVenue true false answers) = false) := by
  refine ⟨deferred_bounded, deferred_startup, ?_, ?_⟩
  · intro venues full service answers hmem venueOrderId huncovered hother
    have hcycle : ∀ results next, runOnce venues full service = .ok (results, next) →
        next.ready = false := by
      intro results next hrun
      unfold runOnce at hrun
      cases hresults : venues.mapM (reconcileVenue full true) with
      | error exc =>
          rw [hresults] at hrun
          cases hrun
      | ok values =>
          rw [hresults] at hrun
          cases hrun
          obtain ⟨result, hresult, hvenue⟩ := exists_of_mapM hresults hmem
          exact not_ready_of_failure hresult (failure_of_uncovered huncovered hother hvenue)
    refine ⟨hcycle, ?_⟩
    unfold runRound
    split
    · next results next hrun => exact hcycle results next hrun
    · rfl
  · intro answers venueOrderId huncovered
    cases hvenue : reconcileVenue true false answers with
    | error exc => rfl
    | ok result =>
        have hother : venueOrderId ∉ deferredOrderIds answers true false := by
          unfold deferredOrderIds
          rw [deferred_startup]
          exact List.not_mem_nil
        rcases failure_of_uncovered huncovered hother hvenue with hdrift | hsuccess
        · simp [isStartupSuccess, hdrift]
        · simp [isStartupSuccess, hsuccess]

/-! ## A submission on its way -/

/-- A recent submission, and the venue order it knows. -/
def recentSubmission (venueOrderId : Option String) : UnresolvedRow where
  intent :=
    { clientOrderId := "client-1"
      route := "polymarket_sx"
      marketKey := "market"
      venue := "SX Bet"
      tokenId := "token"
      binarySide := .yes
      action := "BUY"
      quantity := 10
      limitPrice := 1 / 2
      status := .submitting
      venueOrderId := venueOrderId }
  recent := true
  fetch := .error (.failed none)
  notFound := false
  updateIntent := .ok ()
  upsertVenueOrder := .ok ()
  persistExposure := .ok ()

/-- An open order that no intent knows. -/
def foreignOrder (venueOrderId : String) : OpenOrder where
  venueOrderId := venueOrderId
  clientOrderId := ""
  persisted := .ok none
  upsertVenueOrder := .ok ()
  markCancelPending := .ok ()
  cancelOrder := .ok ()
  fetch := .error (.failed none)
  updateIntent := .ok ()
  updateFailed := .ok ()

/-- A fill that no intent knows. -/
def foreignFill (fillId venueOrderId : String) : ListedFill where
  fillId := fillId
  venueOrderId := venueOrderId
  clientOrderId := ""
  persisted := .ok none
  insert := .ok true

/-- A venue with one recent submission. -/
def submissionAnswers (known : Option String) (orders : List OpenOrder)
    (fills : List ListedFill) : VenueAnswers where
  baseline := .ok none
  fingerprint := none
  unresolved := .ok [recentSubmission known]
  openOrders := .ok orders
  fillContexts := .ok ()
  fills := .ok ([], fills)
  auditDeferred := .ok ()
  auditOpenOrders := .ok ()
  auditFills := .ok ()
  mismatches := .ok 0
  recordReconciliation := .ok ()
  isTransient := fun _ => false

/-- Two orders of no intent beside one submission: the first is passed over, and the second ends
readiness. -/
theorem grace_is_bounded_two_orders :
    deferredOrderIds (submissionAnswers none [foreignOrder "one", foreignOrder "two"] []) false
        true = ["one"] ∧
      (runRound [submissionAnswers none [foreignOrder "one", foreignOrder "two"] []] false
        ⟨true, 0⟩).ready = false := by
  have hdeferred : deferredOrderIds
      (submissionAnswers none [foreignOrder "one", foreignOrder "two"] []) false true = ["one"] := by
    decide +kernel
  have huncovered : Uncovered (submissionAnswers none [foreignOrder "one", foreignOrder "two"] [])
      true (foreignOrder "two").venueOrderId :=
    .order rfl rfl (List.mem_cons_of_mem _ List.mem_cons_self) rfl (by decide +kernel)
  refine ⟨hdeferred, (grace_is_bounded.2.2.1 _ false ⟨true, 0⟩ _ List.mem_cons_self _ huncovered
    ?_).2⟩
  rw [hdeferred]
  decide

/-- A submission that knows its venue order has a grace for another one, and an order that is passed
over takes its fills along. -/
theorem grace_beyond_unknown_orders :
    (deferredOrderIds (submissionAnswers (some "own") [foreignOrder "one"] []) false true = ["one"] ∧
      ([recentSubmission (some "own")].filter fun row =>
        truthy row.intent.venueOrderId = none).length = 0) ∧
    (venueLocals (submissionAnswers none [foreignOrder "one"]
        [foreignFill "fill-1" "one", foreignFill "fill-2" "one"]) false true).deferred =
      [.fill "fill-2" "one", .fill "fill-1" "one", .order "one"] := by
  decide +kernel

end ArbitrageEngine.Reconciliation
