/-
# ArbitrageEngine.Reconciliation.FillWatermark -- the window in which fills are listed

Every query of a venue lists the fills since a point that the service keeps for all venues: the
start of the last cycle in which every venue succeeded, less an overlap of five minutes, but never
beyond the lookback of a week or the capture of the external baseline.  What is listed goes into the
fills table under its id, once.

A fill that becomes visible at its venue at most the overlap after it occurred stays in the window
of every query of its venue up to the first clean one that starts after it is visible
(`since_le_occurredAt`), and that query stores it unless it is covered by the baseline or passed
over for a submission on its way (`fill_is_reconciled`).

The queries of a cycle run one after another here: what they share is the table, and it only grows.
-/
import ArbitrageEngine.Lib.Dict
import ArbitrageEngine.Reconciliation.GraceBudget

namespace ArbitrageEngine.Reconciliation

open Execution Lib.Effect

/-! ## The fills table -/

/-- A time of the UTC clock in microseconds. -/
abbrev UtcTime : Type := ℤ

/-- `FillRecord`, and a row of the fills table. -/
structure FillRow where
  fillId : String
  clientOrderId : String
  venueOrderId : String
  venue : String
  quantity : Dec
  price : Dec
  fee : Dec
  occurredAt : UtcTime
deriving DecidableEq

/-- `replace(fill, client_order_id=…)`. -/
def FillRow.ofClient (row : FillRow) (clientOrderId : String) : FillRow :=
  { row with clientOrderId := clientOrderId }

/-- The fills table, by `fill_id`. -/
abbrev FillTable : Type := Lib.Dict String FillRow

/-- `insert_fill`: a row that is there already stays. -/
def insertFill (row : FillRow) (table : FillTable) : FillTable :=
  match table.get? row.fillId with
  | some _ => table
  | none => table.set row.fillId row

/-- Everything that is in the table is in the later one, under the same row. -/
def Kept (table later : FillTable) : Prop :=
  ∀ fillId row, table.get? fillId = some row → later.get? fillId = some row

theorem Kept.refl (table : FillTable) : Kept table table := fun _ _ h => h

theorem Kept.trans {table later latest : FillTable} (h : Kept table later)
    (h' : Kept later latest) : Kept table latest :=
  fun fillId row hrow => h' fillId row (h fillId row hrow)

theorem kept_insertFill (row : FillRow) (table : FillTable) :
    Kept table (insertFill row table) := by
  intro fillId stored hstored
  unfold insertFill
  split
  · exact hstored
  · next hnone =>
      rw [Lib.Dict.get?_set, if_neg]
      · exact hstored
      · rintro rfl
        cases hnone.symm.trans hstored

/-- After `insert_fill` there is a row under the id of the fill. -/
theorem exists_insertFill (row : FillRow) (table : FillTable) :
    ∃ stored, (insertFill row table).get? row.fillId = some stored := by
  unfold insertFill
  split
  · next stored hstored => exact ⟨stored, hstored⟩
  · exact ⟨row, Lib.Dict.get?_set_self ..⟩

/-! ## The loop over the fills, with the table -/

/-- A fill of `list_fills`, with the answers to its calls. -/
structure ListedRow where
  row : FillRow
  /-- `client_order_id_for_venue_order`. -/
  persisted : Except Exc (Option String)
  /-- The transaction of `insert_fill`. -/
  insert : WriteAnswer Exc

/-- A part of `_reconcile_venue` that may insert fills. -/
abbrev FillEffect (α : Type) : Type := EStateM Exc (VenueLocals × FillTable) α

/-- A part that does not. -/
def onLocals {α : Type} (m : VenueEffect α) : FillEffect α := fun s =>
  match m s.1 with
  | .ok a l => .ok a (l, s.2)
  | .error exc l => .error exc (l, s.2)

/-- `insert_fill`: was the fill new? -/
def ListedRow.insertRow (fill : ListedRow) (clientOrderId : String) : FillEffect Bool := do
  let s ← get
  transact fill.insert fun s =>
    (s.1, insertFill (fill.row.ofClient clientOrderId) s.2)
  pure (s.2.get? fill.row.fillId).isNone

/-- The fill as a cycle without a table sees it; `inserted` is what `insert_fill` returns. -/
def ListedRow.toListedFill (fill : ListedRow) (inserted : Bool) : ListedFill where
  fillId := fill.row.fillId
  venueOrderId := fill.row.venueOrderId
  clientOrderId := fill.row.clientOrderId
  persisted := fill.persisted
  insert :=
    match fill.insert with
    | .done => .ok inserted
    | .failed _ exc => .error exc

/-- `fill.fill_id or fill.venue_order_id`. -/
def ListedRow.ref (fill : ListedRow) : String := (fill.toListedFill true).ref

/-- A fill of the third loop. -/
def ingestFill (submitted unresolved fillRefs : List String) (fill : ListedRow) :
    FillEffect Unit := do
  let persisted ← await fill.persisted
  let remote := truthy (some fill.row.clientOrderId)
  let deferred ← onLocals (defersSubmission submitted persisted remote fill.row.venueOrderId)
  if deferred then pure ()
  else match knownClientOrderId unresolved persisted remote with
    | none => onLocals (untrackedFill submitted fillRefs (fill.toListedFill true))
    | some clientOrderId => do
        let inserted ← fill.insertRow clientOrderId
        onLocals (modify (countRecorded inserted))

/-! ## A query of a venue -/

/-- `_FILL_RECONCILIATION_LOOKBACK`. -/
def fillReconciliationLookback : UtcTime := 7 * 24 * 60 * 60 * 10 ^ 6

/-- `_FILL_RECONCILIATION_OVERLAP`. -/
def fillReconciliationOverlap : UtcTime := 5 * 60 * 10 ^ 6

/-- `initial_fill_since`; `capturedAt` is that of the active baseline. -/
def initialFillSince (startedAt : UtcTime) (capturedAt : Option UtcTime) : UtcTime :=
  match capturedAt with
  | none => startedAt - fillReconciliationLookback
  | some capturedAt => min (startedAt - fillReconciliationLookback) capturedAt

/-- `fill_since`. -/
def fillSince (lastSuccessAt : Option UtcTime) (startedAt : UtcTime)
    (capturedAt : Option UtcTime) : UtcTime :=
  match lastSuccessAt with
  | none => initialFillSince startedAt capturedAt
  | some lastSuccessAt =>
      max (initialFillSince startedAt capturedAt) (lastSuccessAt - fillReconciliationOverlap)

/-- One call of `_reconcile_venue`, with what the store and the venue answer. -/
structure Query where
  venue : String
  startedAt : UtcTime
  /-- `captured_at` of the active baseline. -/
  capturedAt : Option UtcTime
  full : Bool
  /-- The answers to all calls but `list_fills`. -/
  answers : VenueAnswers
  /-- `list_fills`. -/
  listFills : UtcTime → Except Exc (List ListedExposure × List ListedRow)

/-- The body up to `list_fills`: the submissions that are deferred for, the unresolved intents and
the fills of the baseline. -/
def beforeListing (answers : VenueAnswers) (allowInflightGrace : Bool) :
    VenueEffect (List String × List String × List String) := do
  let baseline ← await answers.baseline
  let fillRefs ← await (baselineFillRefs answers.fingerprint baseline)
  let rows ← await answers.unresolved
  let submitted := potentiallySubmitted allowInflightGrace rows
  let unresolved := unresolvedClientOrderIds rows
  rows.forM (reconcileIntent allowInflightGrace)
  let orders ← await answers.openOrders
  orders.forM (reconcileOrder submitted unresolved)
  await answers.fillContexts
  pure (submitted, unresolved, fillRefs)

/-- The body after the fills. -/
def afterListing (answers : VenueAnswers) (full : Bool) : VenueEffect Unit := do
  countUntracked answers
  countMismatches answers full

/-- The body of the `try` of `_reconcile_venue`, with the fills table. -/
def Query.body (query : Query) (allowInflightGrace : Bool) (since : UtcTime) : FillEffect Unit := do
  let (submitted, unresolved, fillRefs) ← onLocals (beforeListing query.answers allowInflightGrace)
  let (exposures, fills) ← await (query.listFills since)
  onLocals (exposures.forM reconcileExposure)
  fills.forM (ingestFill submitted unresolved fillRefs)
  onLocals (afterListing query.answers query.full)

/-! ### A round is one of the loop without a table -/

/-- What is left of a run with the table when the table is forgotten. -/
def forgetTable {α : Type} :
    EStateM.Result Exc (VenueLocals × FillTable) α → EStateM.Result Exc VenueLocals α
  | .ok a s => .ok a s.1
  | .error exc s => .error exc s.1

theorem forgetTable_onLocals {α : Type} (m : VenueEffect α) (s : VenueLocals × FillTable) :
    forgetTable (onLocals m s) = m s.1 := by
  unfold onLocals
  cases m s.1 <;> rfl

/-- What follows a part that agrees with its counterpart agrees if it does so after every return. -/
theorem forgetTable_bind {α β : Type} {m : FillEffect α} {f : α → FillEffect β}
    {m' : VenueEffect α} {f' : α → VenueEffect β} {s : VenueLocals × FillTable}
    (hm : forgetTable (m s) = m' s.1)
    (hf : ∀ a t, m s = .ok a t → forgetTable (f a t) = f' a t.1) :
    forgetTable ((m >>= f) s) = (m' >>= f') s.1 := by
  show forgetTable (EStateM.bind m f s) = EStateM.bind m' f' s.1
  unfold EStateM.bind
  cases hrun : m s with
  | ok a t =>
      rw [hrun] at hm
      rw [← hm]
      exact hf a t hrun
  | error exc t =>
      rw [hrun] at hm
      rw [← hm]
      rfl

theorem forgetTable_await {α : Type} (answer : Except Exc α) (s : VenueLocals × FillTable) :
    forgetTable ((await answer : FillEffect α) s) = (await answer : VenueEffect α) s.1 := by
  cases answer <;> rfl

/-- `insert_fill` returns what the table says of the fill, or it raises. -/
theorem forgetTable_insertRow (fill : ListedRow) (clientOrderId : String)
    (s : VenueLocals × FillTable) :
    forgetTable
        ((do
          let inserted ← fill.insertRow clientOrderId
          onLocals (modify (countRecorded inserted)) : FillEffect Unit) s) =
      (do
        let inserted ← await (fill.toListedFill (s.2.get? fill.row.fillId).isNone).insert
        modify (countRecorded inserted) : VenueEffect Unit) s.1 := by
  obtain ⟨row, persisted, insert⟩ := fill
  cases insert with
  | done => rfl
  | failed committed exc => cases committed <;> rfl

/-- A part of the locals leaves the table as it is. -/
theorem onLocals_table {α : Type} {m : VenueEffect α} {a : α} {s t : VenueLocals × FillTable}
    (h : onLocals m s = .ok a t) : t.2 = s.2 := by
  unfold onLocals at h
  split at h <;> cases h
  rfl

/-- A round of the loop agrees with one whose answer is read off the table. -/
theorem forgetTable_ingestFill (submitted unresolved fillRefs : List String) (fill : ListedRow)
    (s : VenueLocals × FillTable) :
    forgetTable (ingestFill submitted unresolved fillRefs fill s) =
      reconcileFill submitted unresolved fillRefs
        (fill.toListedFill (s.2.get? fill.row.fillId).isNone) s.1 := by
  refine forgetTable_bind (forgetTable_await ..) fun persisted t ht => ?_
  have hst : t = s := by
    cases hpersisted : fill.persisted with
    | ok value =>
        rw [hpersisted] at ht
        cases ht
        rfl
    | error exc =>
        rw [hpersisted] at ht
        cases ht
  subst hst
  refine forgetTable_bind (forgetTable_onLocals ..) fun deferred t' ht' => ?_
  have htable : t'.2 = t.2 := onLocals_table ht'
  cases deferred with
  | true => rfl
  | false =>
      have hremote : (fill.toListedFill (t.2.get? fill.row.fillId).isNone).clientOrderId =
          fill.row.clientOrderId := rfl
      rw [hremote, if_neg (by decide), if_neg (by decide)]
      cases hknown : knownClientOrderId unresolved persisted
          (truthy (some fill.row.clientOrderId)) with
      | none => exact forgetTable_onLocals ..
      | some clientOrderId =>
          rw [← htable]
          exact forgetTable_insertRow ..

/-! ### What it comes to -/

/-- The table a query leaves. -/
def Query.after (query : Query) (allowInflightGrace : Bool) (since : UtcTime) (table : FillTable) :
    FillTable := (finalState (query.body allowInflightGrace since) ({}, table)).2

/-- The locals a query ends with. -/
def Query.locals (query : Query) (allowInflightGrace : Bool) (since : UtcTime)
    (table : FillTable) : VenueLocals :=
  (finalState (query.body allowInflightGrace since) ({}, table)).1

/-- The result after the `try`; a cancellation goes on. -/
def Query.result (query : Query) (allowInflightGrace : Bool) (since : UtcTime)
    (table : FillTable) : Except Exc ReconciliationResult :=
  let drift := (query.locals allowInflightGrace since table).drift
  match raised (query.body allowInflightGrace since) ({}, table) with
  | none => .ok ⟨drift, true, false⟩
  | some .cancelled => .error .cancelled
  | some exc => .ok ⟨drift, false, query.answers.isTransient exc⟩

/-- `_reconcile_venue`. -/
def Query.reconcile (query : Query) (allowInflightGrace : Bool) (since : UtcTime)
    (table : FillTable) : Except Exc ReconciliationResult := do
  let result ← query.result allowInflightGrace since table
  query.answers.recordReconciliation
  pure result

/-! ## What a clean query does with a fill -/

/-- A rule for either of two preconditions. -/
theorem spec_or {α σ : Type} {P P' : σ → Prop} {m : EStateM Exc σ α} {Q Q' : α → σ → Prop}
    (h : Spec P m Q fun _ _ => True) (h' : Spec P' m Q' fun _ _ => True) :
    Spec (fun s => P s ∨ P' s) m (fun a s => Q a s ∨ Q' a s) fun _ _ => True := by
  rintro s (hs | hs)
  · have hm := h s hs
    cases hrun : m s with
    | ok a t =>
        rw [hrun] at hm
        exact .inl hm
    | error exc t => trivial
  · have hm := h' s hs
    cases hrun : m s with
    | ok a t =>
        rw [hrun] at hm
        exact .inr hm
    | error exc t => trivial

/-- A program that keeps two invariants keeps either of them. -/
theorem keeps_or {α σ : Type} {I J : σ → Prop} {m : EStateM Exc σ α} (hI : Keeps I m)
    (hJ : Keeps J m) : Keeps (fun s => I s ∨ J s) m := by
  rintro s (hs | hs)
  · have hm := hI s hs
    cases hrun : m s with
    | ok a t =>
        rw [hrun] at hm
        exact .inl hm
    | error exc t =>
        rw [hrun] at hm
        exact .inl hm
  · have hm := hJ s hs
    cases hrun : m s with
    | ok a t =>
        rw [hrun] at hm
        exact .inr hm
    | error exc t =>
        rw [hrun] at hm
        exact .inr hm

theorem spec_onLocals {α : Type} {P : VenueLocals → Prop} {m : VenueEffect α}
    {Q : α → VenueLocals → Prop} {E : Exc → VenueLocals → Prop} (h : Spec P m Q E) :
    Spec (fun s => P s.1) (onLocals m) (fun a s => Q a s.1) fun exc s => E exc s.1 := by
  intro s hs
  have hm := h s.1 hs
  unfold onLocals
  cases hrun : m s.1 with
  | ok a l =>
      rw [hrun] at hm
      exact hm
  | error exc l =>
      rw [hrun] at hm
      exact hm

/-- The locals do not touch the table. -/
theorem keeps_onLocals_table {α : Type} (T : FillTable → Prop) (m : VenueEffect α) :
    Keeps (fun s => T s.2) (onLocals m) := by
  intro s hs
  unfold onLocals
  cases m s.1 <;> exact hs

/-- An insertion keeps what every larger table has. -/
theorem keeps_insertRow {T : FillTable → Prop}
    (hT : ∀ table later, Kept table later → T table → T later) (fill : ListedRow)
    (clientOrderId : String) :
    Keeps (fun s => T s.2) (fill.insertRow clientOrderId) := by
  refine Keeps.bind (Spec.get fun _ hs => hs) fun before => ?_
  exact Keeps.bind (Keeps.transact fun s hs => hT _ _ (kept_insertFill _ s.2) hs)
    fun _ => Keeps.pure _

theorem keeps_ingestFill {T : FillTable → Prop}
    (hT : ∀ table later, Kept table later → T table → T later)
    {submitted unresolved fillRefs : List String} (fill : ListedRow) :
    Keeps (fun s => T s.2) (ingestFill submitted unresolved fillRefs fill) := by
  refine Keeps.bind (Keeps.await _) fun persisted =>
    Keeps.bind (keeps_onLocals_table T _) fun deferred => Keeps.ite (Keeps.pure _) ?_
  split
  · exact keeps_onLocals_table T _
  · exact Keeps.bind (keeps_insertRow hT fill _) fun _ => keeps_onLocals_table T _

/-- No query takes anything out of the table. -/
theorem kept_after (query : Query) (allowInflightGrace : Bool) (since : UtcTime)
    (table : FillTable) : Kept table (query.after allowInflightGrace since table) := by
  have hbody : Keeps (fun s => Kept table s.2) (query.body allowInflightGrace since) := by
    refine Keeps.bind (keeps_onLocals_table _ _) fun found => Keeps.bind (Keeps.await _)
      fun listing => Keeps.bind (keeps_onLocals_table _ _) fun _ => ?_
    refine Keeps.bind (Keeps.forM _ fun fill _ => ?_) fun _ => keeps_onLocals_table _ _
    exact keeps_ingestFill (fun _ _ hlater hkept => hkept.trans hlater) fill
  exact Spec.finalState hbody (Kept.refl table)

/-- An invariant of the locals that the loops keep is kept by the loop with the table. -/
theorem keeps_ingestFill_locals {submitted unresolved fillRefs : List String}
    {I : VenueLocals → Prop} (h : Steady submitted I) (fill : ListedRow) :
    Keeps (fun s => I s.1) (ingestFill submitted unresolved fillRefs fill) := by
  intro s hs
  have hkeeps : ∀ seen, Keeps I (reconcileFill submitted unresolved fillRefs seen) :=
    fun seen => h.reconcileFill seen
  have hround := hkeeps (fill.toListedFill (s.2.get? fill.row.fillId).isNone) s.1 hs
  rw [← forgetTable_ingestFill] at hround
  cases hrun : ingestFill submitted unresolved fillRefs fill s with
  | ok _ t =>
      rw [hrun] at hround
      exact hround
  | error exc t =>
      rw [hrun] at hround
      exact hround

/-- So it is by the whole body. -/
theorem keeps_body_locals (query : Query) (allowInflightGrace : Bool) (since : UtcTime)
    {I : VenueLocals → Prop} (h : ∀ submitted, Steady submitted I) :
    Keeps (fun s => I s.1) (query.body allowInflightGrace since) := by
  have hbefore : Keeps I (beforeListing query.answers allowInflightGrace) := by
    refine Keeps.bind (Keeps.await _) fun baseline => Keeps.bind (Keeps.await _) fun fillRefs =>
      Keeps.bind (Keeps.await _) fun rows => ?_
    refine Keeps.bind (Keeps.forM _ fun row _ => (h []).reconcileIntent row) fun _ =>
      Keeps.bind (Keeps.await _) fun orders => ?_
    refine Keeps.bind (Keeps.forM _ fun order _ => (h _).reconcileOrder order) fun _ => ?_
    exact Keeps.bind (Keeps.await _) fun _ => Keeps.pure _
  refine Keeps.bind (spec_onLocals hbefore) fun found => Keeps.bind (Keeps.await _) fun listing => ?_
  refine Keeps.bind (spec_onLocals (Keeps.forM _ fun exposure _ =>
    (h []).reconcileExposure exposure)) fun _ => ?_
  refine Keeps.bind (Keeps.forM _ fun fill _ => keeps_ingestFill_locals (h _) fill) fun _ => ?_
  exact spec_onLocals (Keeps.bind (h []).countUntracked fun _ => (h []).countMismatches)

/-- The fill has a row. -/
def Stored (fill : ListedRow) (table : FillTable) : Prop :=
  ∃ row, table.get? fill.row.fillId = some row

theorem Stored.kept {fill : ListedRow} {table later : FillTable} (hkept : Kept table later)
    (h : Stored fill table) : Stored fill later := h.imp fun _ hrow => hkept _ _ hrow

/-- The venue order was deferred. -/
def Graced (venueOrderId : String) (l : VenueLocals) : Prop :=
  venueOrderId ∈ l.gracedVenueOrderIds

/-- What was passed over was deferred before. -/
def Logged (l : VenueLocals) : Prop :=
  ∀ item ∈ l.deferred, item.venueOrderId ∈ l.gracedVenueOrderIds

theorem steady_logged (submitted : List String) : Steady submitted Logged where
  checked _ h := h
  drift _ _ h := h
  order _ _ h := h
  fill _ _ h := h
  handled _ _ h := h
  recorded _ _ h := h
  graced _ _ h _ _ item hitem := List.mem_cons_of_mem _ (h item hitem)
  deferred _ _ h hgraced := List.forall_mem_cons.mpr ⟨hgraced, h⟩

theorem steady_graced (submitted : List String) (venueOrderId : String) :
    Steady submitted (Graced venueOrderId) where
  checked _ h := h
  drift _ _ h := h
  order _ _ h := h
  fill _ _ h := h
  handled _ _ h := h
  recorded _ _ h := h
  graced _ _ h _ _ := List.mem_cons_of_mem _ h
  deferred _ _ h _ := h

/-- The fill is stored, or was passed over, or will be counted. -/
def Accounted (fillRefs : List String) (fill : ListedRow) (s : VenueLocals × FillTable) : Prop :=
  (Stored fill s.2 ∨ fill.ref ∈ fillRefs) ∨
    (Graced fill.row.venueOrderId s.1 ∨ Noticed fill.row.venueOrderId s.1)

section Settling

variable {submitted unresolved fillRefs : List String} (fill : ListedRow)

theorem steady_true (submitted : List String) : Steady submitted fun _ => True where
  checked _ _ := trivial
  drift _ _ _ := trivial
  order _ _ _ := trivial
  fill _ _ _ := trivial
  handled _ _ _ := trivial
  recorded _ _ _ := trivial
  graced _ _ _ _ _ := trivial
  deferred _ _ _ _ := trivial

/-- What is deferred for a submission is in the list of the deferred. -/
theorem graced_defersSubmission (persisted remote : Option String) (venueOrderId : String) :
    Spec (fun _ => True) (defersSubmission submitted persisted remote venueOrderId)
      (fun yes l => yes = true → Graced venueOrderId l) fun _ _ => True := by
  unfold defersSubmission
  split
  · exact Spec.conseq ((steady_true submitted).canDeferUntracked venueOrderId) (fun _ hl => hl)
      (fun _ _ hl => hl.2) fun _ _ hl => hl
  · exact Spec.pure fun _ _ hyes => by cases hyes

/-- A fill of no intent is covered, passed over or noted. -/
theorem noticed_untrackedFill (seen : ListedFill) :
    Spec (fun _ => True) (untrackedFill submitted fillRefs seen)
      (fun _ l => seen.ref ∈ fillRefs ∨ Noticed seen.venueOrderId l) fun _ _ => True := by
  refine Spec.bind (Spec.trivial _) fun deferred => Spec.modify fun l _ => ?_
  split_ifs with hyes hcovered
  · exact .inr (.inr (.inr (.inr List.mem_cons_self)))
  · exact .inl hcovered
  · exact .inr (.inr (.inl (insert_ne_nil _ _)))

/-- An insertion that returns leaves a row for its fill. -/
theorem stored_insertRow (clientOrderId : String) :
    Spec (fun _ => True) (fill.insertRow clientOrderId) (fun _ s => Stored fill s.2)
      fun _ _ => True := by
  refine Spec.bind (Spec.trivial _) fun before => ?_
  refine Spec.bind (R := fun _ s => Stored fill s.2) ?_ fun _ => Spec.pure fun _ hs => hs
  exact Spec.transact (fun _ s _ => exists_insertFill (fill.row.ofClient clientOrderId) s.2)
    (fun _ _ _ _ => trivial) fun _ _ _ _ => trivial

/-- Its own round accounts for a fill. -/
theorem accounted_round :
    Spec (fun _ => True) (ingestFill submitted unresolved fillRefs fill)
      (fun _ => Accounted fillRefs fill) fun _ _ => True := by
  refine Spec.bind (Spec.trivial _) fun persisted => ?_
  refine Spec.bind (spec_onLocals (graced_defersSubmission persisted _ _)) fun deferred => ?_
  split
  · next hyes => exact Spec.pure fun s hs => .inr (.inl (hs hyes))
  · split
    · refine Spec.conseq (spec_onLocals (noticed_untrackedFill (fill.toListedFill true)))
        (fun _ _ => trivial) (fun _ s hs => ?_) fun _ _ _ => trivial
      rcases hs with hcovered | hnoticed
      · exact .inl (.inr hcovered)
      · exact .inr (.inr hnoticed)
    · next clientOrderId _ =>
        refine Spec.bind (Spec.conseq (stored_insertRow fill clientOrderId) (fun _ _ => trivial)
          (fun _ _ hs => hs) fun _ _ hs => hs) fun inserted => ?_
        exact Spec.conseq (Spec.returns (keeps_onLocals_table (Stored fill) _)) (fun _ hs => hs)
          (fun _ _ hs => .inl (.inl hs)) fun _ _ hs => hs

/-- The other rounds leave it accounted for. -/
theorem keeps_accounted (other : ListedRow) :
    Keeps (Accounted fillRefs fill) (ingestFill submitted unresolved fillRefs other) := by
  refine keeps_or ?_ (keeps_or ?_ ?_)
  · exact keeps_ingestFill (T := fun table => Stored fill table ∨ fill.ref ∈ fillRefs)
      (fun _ _ hkept => Or.imp_left (Stored.kept hkept)) other
  · exact keeps_ingestFill_locals (steady_graced submitted fill.row.venueOrderId) other
  · exact keeps_ingestFill_locals (steady_noticed submitted fill.row.venueOrderId) other

/-- The loop accounts for every fill it goes through. -/
theorem accounted_loop {fills : List ListedRow} (hmem : fill ∈ fills) :
    Spec (fun _ => True) (fills.forM (ingestFill submitted unresolved fillRefs))
      (fun _ => Accounted fillRefs fill) fun _ _ => True :=
  Spec.forM_of_mem (accounted_round fill) fills hmem fun other _ => keeps_accounted fill other

/-- The fill is stored, or was passed over, or counted. -/
def Settled (fillRefs : List String) (fill : ListedRow) (s : VenueLocals × FillTable) : Prop :=
  (Stored fill s.2 ∨ fill.ref ∈ fillRefs) ∨
    (Graced fill.row.venueOrderId s.1 ∨ Found fill.row.venueOrderId s.1)

/-- The audits count what was noticed. -/
theorem settled_afterListing (answers : VenueAnswers) (full : Bool) :
    Spec (Accounted fillRefs fill) (onLocals (afterListing answers full))
      (fun _ => Settled fillRefs fill) fun _ _ => True := by
  have hsteady := steady_graced [] fill.row.venueOrderId
  refine spec_or (Spec.returns (keeps_onLocals_table
    (fun table => Stored fill table ∨ fill.ref ∈ fillRefs) _)) (spec_or ?_ ?_)
  · exact spec_onLocals (Spec.returns (Keeps.bind hsteady.countUntracked fun _ =>
      hsteady.countMismatches))
  · exact spec_onLocals (Spec.bind (found_countUntracked _) fun _ =>
      Spec.returns (steady_found [] _).countMismatches)

end Settling

/-- The fills of the active baseline. -/
def Query.coveredRefs (query : Query) : List String :=
  match query.answers.baseline with
  | .ok baseline =>
      match baselineFillRefs query.answers.fingerprint baseline with
      | .ok fillRefs => fillRefs
      | .error _ => []
  | .error _ => []

/-- A fact about no state is kept by everything. -/
theorem spec_const {α : Type} (p : Prop) (m : VenueEffect α) :
    Spec (fun _ => p) m (fun _ _ => p) fun _ _ => True := by
  intro s hs
  cases m s with
  | ok _ _ => exact hs
  | error _ _ => trivial

/-- The refs that the loop over the fills is given. -/
theorem refs_beforeListing (query : Query) (allowInflightGrace : Bool) :
    Spec (fun _ => True) (beforeListing query.answers allowInflightGrace)
      (fun found _ => found.2.2 = query.coveredRefs) fun _ _ => True := by
  refine Spec.bind (R := fun baseline _ => query.answers.baseline = .ok baseline)
    (Spec.await (fun _ h _ _ => h) fun _ _ _ _ => trivial) fun baseline => ?_
  refine Spec.bind (R := fun refs _ => refs = query.coveredRefs) (Spec.await
    (fun refs hrefs _ hbaseline => ?_) fun _ _ _ _ => trivial) fun refs => ?_
  · unfold Query.coveredRefs
    simp only [hbaseline, hrefs]
  · refine Spec.bind (spec_const _ _) fun rows => Spec.bind (spec_const _ _) fun _ =>
      Spec.bind (spec_const _ _) fun orders => Spec.bind (spec_const _ _) fun _ =>
        Spec.bind (spec_const _ _) fun _ => ?_
    exact Spec.pure fun _ h => h

/-- A body that returns has settled every fill that was listed. -/
theorem settled_body (query : Query) (allowInflightGrace : Bool) (since : UtcTime)
    {exposures : List ListedExposure} {fills : List ListedRow} {fill : ListedRow}
    (hlisting : query.listFills since = .ok (exposures, fills)) (hmem : fill ∈ fills) :
    Spec (fun _ => True) (query.body allowInflightGrace since)
      (fun _ => Settled query.coveredRefs fill) fun _ _ => True := by
  unfold Query.body
  refine Spec.bind (spec_onLocals (refs_beforeListing query _)) fun found => ?_
  obtain ⟨submitted, unresolved, fillRefs⟩ := found
  refine Spec.bind (R := fun listing _ =>
    fillRefs = query.coveredRefs ∧ listing = (exposures, fills)) (Spec.await
      (fun listing h _ hrefs => ⟨hrefs, Except.ok.inj (h.symm.trans hlisting)⟩)
      fun _ _ _ _ => trivial) fun listing => ?_
  refine Spec.conseq (P := fun _ => (fillRefs = query.coveredRefs ∧ listing = (exposures, fills)) ∧
    True) (Spec.assume fun h => ?_) (fun _ hs => ⟨hs, trivial⟩) (fun _ _ hs => hs) fun _ _ hs => hs
  obtain ⟨rfl, rfl⟩ := h
  exact Spec.bind (Spec.trivial _) fun _ => Spec.bind (accounted_loop fill hmem) fun _ =>
    settled_afterListing fill query.answers query.full

/-- A clean query has gone through without an exception and without drift. -/
theorem returns_of_clean {query : Query} {allowInflightGrace : Bool} {since : UtcTime}
    {table : FillTable}
    (hclean : isStartupSuccess (query.reconcile allowInflightGrace since table) = true) :
    raised (query.body allowInflightGrace since) ({}, table) = none ∧
      (query.locals allowInflightGrace since table).drift = 0 := by
  cases hreconcile : query.reconcile allowInflightGrace since table with
  | error exc =>
      rw [hreconcile] at hclean
      cases hclean
  | ok result =>
      obtain ⟨value, hresult, hvalue⟩ := exists_of_bind_ok hreconcile
      obtain ⟨-, -, hvalue⟩ := exists_of_bind_ok hvalue
      cases hvalue
      rw [hreconcile] at hclean
      obtain ⟨hsuccess, hdrift⟩ := of_decide_eq_true hclean
      unfold Query.result at hresult
      cases hraised : raised (query.body allowInflightGrace since) ({}, table) with
      | none =>
          rw [hraised] at hresult
          cases hresult
          exact ⟨rfl, Nat.eq_zero_of_not_pos hdrift⟩
      | some exc =>
          rw [hraised] at hresult
          cases exc <;> cases hresult <;> cases hsuccess

/-- A query that returns a result without drift has stored every fill of its listing that is neither
covered by the baseline nor passed over for a submission on its way. -/
theorem settled_of_clean {query : Query} {allowInflightGrace : Bool} {since : UtcTime}
    {table : FillTable} {exposures : List ListedExposure} {fills : List ListedRow}
    {fill : ListedRow}
    (hclean : isStartupSuccess (query.reconcile allowInflightGrace since table) = true)
    (hlisting : query.listFills since = .ok (exposures, fills)) (hmem : fill ∈ fills) :
    Stored fill (query.after allowInflightGrace since table) ∨ fill.ref ∈ query.coveredRefs ∨
      fill.row.venueOrderId ∈
        (query.locals allowInflightGrace since table).gracedVenueOrderIds := by
  obtain ⟨hreturns, hdrift⟩ := returns_of_clean hclean
  have hsettled := Spec.of_returns (settled_body query allowInflightGrace since hlisting hmem)
    (s := ({}, table)) trivial hreturns
  have hlogs : Logged (query.locals allowInflightGrace since table) :=
    Spec.finalState (keeps_body_locals query allowInflightGrace since steady_logged)
      fun _ hitem => absurd hitem List.not_mem_nil
  rcases hsettled with (hstored | hcovered) | hgraced | hfound
  · exact .inl hstored
  · exact .inr (.inl hcovered)
  · exact .inr (.inr hgraced)
  · -- nothing was counted, so the fill is in the log of what was passed over
    have hlogged := hfound.resolve_left fun hpos => absurd hdrift (Nat.pos_iff_ne_zero.mp hpos)
    obtain ⟨item, hitem, hid⟩ := List.mem_map.mp hlogged
    exact .inr (.inr (hid ▸ hlogs item hitem))

/-- A clean query was given a listing. -/
theorem exists_listing_of_clean {query : Query} {allowInflightGrace : Bool} {since : UtcTime}
    {table : FillTable}
    (hclean : isStartupSuccess (query.reconcile allowInflightGrace since table) = true) :
    ∃ exposures fills, query.listFills since = .ok (exposures, fills) := by
  obtain ⟨hreturns, -⟩ := returns_of_clean hclean
  cases hlisting : query.listFills since with
  | ok listing => exact ⟨listing.1, listing.2, rfl⟩
  | error exc =>
      have hbody : Spec (fun _ => True) (query.body allowInflightGrace since) (fun _ _ => False)
          fun _ _ => True := by
        refine Spec.bind (Spec.trivial _) fun found => Spec.bind (R := fun _ _ => False)
          (Spec.await (fun listing h => ?_) fun _ _ _ _ => trivial) fun _ => ?_
        · cases hlisting.symm.trans h
        · exact fun _ h => h.elim
      exact (Spec.of_returns hbody (s := ({}, table)) trivial hreturns).elim

/-! ## Cycles -/

/-- One cycle: `_startup_reconcile_unlocked`, without a grace and with every attempt among its
queries, or `_run_once_unlocked`, with one query for each venue. -/
structure FillCycle where
  startedAt : UtcTime
  allowInflightGrace : Bool
  queries : List Query

/-- The clock does not go back during a cycle. -/
def FillCycle.WellTimed (cycle : FillCycle) : Prop :=
  ∀ query ∈ cycle.queries, cycle.startedAt ≤ query.startedAt

/-- What the service keeps, and the fills table. -/
structure FillService where
  lastSuccessAt : Option UtcTime := none
  fills : FillTable := Lib.Dict.empty

/-- A query as it was made: in which kind of cycle, and from what. -/
structure MadeQuery where
  query : Query
  allowInflightGrace : Bool
  lastSuccessAt : Option UtcTime
  before : FillTable

namespace MadeQuery

variable (made : MadeQuery)

/-- `fill_since`. -/
def since : UtcTime :=
  fillSince made.lastSuccessAt made.query.startedAt made.query.capturedAt

/-- The query succeeded, without drift. -/
def clean : Bool :=
  isStartupSuccess (made.query.reconcile made.allowInflightGrace made.since made.before)

/-- The table the query left. -/
def after : FillTable := made.query.after made.allowInflightGrace made.since made.before

/-- The venue orders it passed over for submissions on their way. -/
def graced : List String :=
  (made.query.locals made.allowInflightGrace made.since made.before).gracedVenueOrderIds

end MadeQuery

/-- The queries of a cycle, from a table. -/
def makeAll (lastSuccessAt : Option UtcTime) (allowInflightGrace : Bool) :
    FillTable → List Query → List MadeQuery
  | _, [] => []
  | table, query :: rest =>
      let made : MadeQuery := ⟨query, allowInflightGrace, lastSuccessAt, table⟩
      made :: makeAll lastSuccessAt allowInflightGrace made.after rest

/-- The table after the queries. -/
def tableAfter : FillTable → List MadeQuery → FillTable
  | table, [] => table
  | _, made :: rest => tableAfter made.after rest

/-- Every venue has a clean query. -/
def Succeeds (venues : List String) (made : List MadeQuery) : Prop :=
  ∀ venue ∈ venues, ∃ m ∈ made, m.query.venue = venue ∧ m.clean = true

instance decidableSucceeds (venues : List String) (made : List MadeQuery) :
    Decidable (Succeeds venues made) :=
  inferInstanceAs (Decidable (∀ _ ∈ venues, ∃ _ ∈ made, _))

namespace FillService

/-- The queries of a cycle. -/
def make (service : FillService) (cycle : FillCycle) : List MadeQuery :=
  makeAll service.lastSuccessAt cycle.allowInflightGrace service.fills cycle.queries

/-- The service after a cycle. -/
def afterCycle (service : FillService) (venues : List String) (cycle : FillCycle) :
    FillService where
  lastSuccessAt :=
    if Succeeds venues (service.make cycle) then some cycle.startedAt else service.lastSuccessAt
  fills := tableAfter service.fills (service.make cycle)

end FillService

/-- The queries made so far, oldest first, and the service. -/
inductive Reached (venues : List String) : List MadeQuery → FillService → Prop
  /-- A new service knows no success; the table is there. -/
  | start (fills : FillTable) : Reached venues [] { fills }
  | cycle {made : List MadeQuery} {service : FillService} (cycle : FillCycle) :
      Reached venues made service → cycle.WellTimed →
        Reached venues (made ++ service.make cycle) (service.afterCycle venues cycle)
  /-- A fill from elsewhere: of an execution, or of a query that outlives its cycle. -/
  | insert {made : List MadeQuery} {service : FillService} (row : FillRow) :
      Reached venues made service →
        Reached venues made { service with fills := insertFill row service.fills }

/-! ### The queries of a cycle -/

section MakeAll

variable {lastSuccessAt : Option UtcTime} {allowInflightGrace : Bool}

theorem of_mem_makeAll {m : MadeQuery} {queries : List Query} :
    ∀ {table : FillTable}, m ∈ makeAll lastSuccessAt allowInflightGrace table queries →
      m.query ∈ queries ∧ m.lastSuccessAt = lastSuccessAt := by
  induction queries with
  | nil => exact fun h => absurd h List.not_mem_nil
  | cons query rest ih =>
      intro table h
      rcases List.mem_cons.mp h with rfl | hrest
      · exact ⟨List.mem_cons_self, rfl⟩
      · obtain ⟨hquery, hlast⟩ := ih hrest
        exact ⟨List.mem_cons_of_mem _ hquery, hlast⟩

/-- The table only grows over the queries of a cycle. -/
theorem kept_tableAfter (queries : List Query) : ∀ table : FillTable,
    Kept table (tableAfter table (makeAll lastSuccessAt allowInflightGrace table queries)) := by
  induction queries with
  | nil => exact Kept.refl
  | cons query rest ih => exact fun table => (kept_after query _ _ table).trans (ih _)

/-- What a query of the cycle leaves is there at its end. -/
theorem kept_of_mem_makeAll {m : MadeQuery} {queries : List Query} :
    ∀ {table : FillTable}, m ∈ makeAll lastSuccessAt allowInflightGrace table queries →
      Kept m.after
        (tableAfter table (makeAll lastSuccessAt allowInflightGrace table queries)) := by
  induction queries with
  | nil => exact fun h => absurd h List.not_mem_nil
  | cons query rest ih =>
      intro table h
      rcases List.mem_cons.mp h with rfl | hrest
      · exact kept_tableAfter rest _
      · exact ih hrest

end MakeAll

/-! ### The invariant -/

/-- Before the watermark every venue has a clean query, none of which started before it. -/
def Watermarked (venues : List String) (made : List MadeQuery) (lastSuccessAt : Option UtcTime) :
    Prop :=
  ∀ watermark, lastSuccessAt = some watermark → ∀ venue ∈ venues, ∃ m ∈ made,
    m.query.venue = venue ∧ m.clean = true ∧ watermark ≤ m.query.startedAt

theorem Watermarked.append {venues : List String} {made : List MadeQuery}
    {lastSuccessAt : Option UtcTime} (h : Watermarked venues made lastSuccessAt)
    (more : List MadeQuery) : Watermarked venues (made ++ more) lastSuccessAt := by
  intro watermark hlast venue hvenue
  obtain ⟨m, hm, hrest⟩ := h watermark hlast venue hvenue
  exact ⟨m, List.mem_append_left _ hm, hrest⟩

/-- A cycle moves the watermark to its start, when each of its venues has a clean query. -/
theorem Watermarked.afterCycle {venues : List String} {made : List MadeQuery}
    {service : FillService} (h : Watermarked venues made service.lastSuccessAt)
    {cycle : FillCycle} (htimed : cycle.WellTimed) :
    Watermarked venues (made ++ service.make cycle)
      (service.afterCycle venues cycle).lastSuccessAt := by
  by_cases hsucceeds : Succeeds venues (service.make cycle)
  · intro watermark hlast venue hvenue
    rw [FillService.afterCycle, if_pos hsucceeds] at hlast
    cases hlast
    obtain ⟨m, hm, hname, hclean⟩ := hsucceeds venue hvenue
    exact ⟨m, List.mem_append_right _ hm, hname, hclean, htimed _ (of_mem_makeAll hm).1⟩
  · rw [FillService.afterCycle, if_neg hsucceeds]
    exact h.append _

/-- Every query was made from a watermark of the queries before it. -/
theorem Reached.watermarked {venues : List String} {made : List MadeQuery} {service : FillService}
    (h : Reached venues made service) :
    Watermarked venues made service.lastSuccessAt ∧
      ∀ earlier m later, made = earlier ++ m :: later →
        Watermarked venues earlier m.lastSuccessAt := by
  induction h with
  | start fills =>
      refine ⟨fun watermark hlast => ?_, fun earlier m later hsplit => ?_⟩
      · cases hlast
      · exact absurd (List.append_eq_nil_iff.mp hsplit.symm).2 (List.cons_ne_nil _ _)
  | insert row _ ih => exact ih
  | cycle cycle _ htimed ih =>
      refine ⟨ih.1.afterCycle htimed, fun earlier m later hsplit => ?_⟩
      rcases List.append_eq_append_iff.mp hsplit with ⟨more, hearlier, hmore⟩ | ⟨more, hmade, hmore⟩
      · have hm := (of_mem_makeAll (m := m) (hmore ▸ List.mem_append_right _ List.mem_cons_self)).2
        rw [hearlier, hm]
        exact ih.1.append _
      · cases more with
        | nil =>
            have hm := (of_mem_makeAll (m := m) (hmore ▸ List.mem_cons_self)).2
            rw [hm]
            simpa [hmade] using ih.1
        | cons first more =>
            cases hmore
            exact ih.2 earlier m more hmade

/-- What a query left is in the table for good. -/
theorem Reached.kept {venues : List String} {made : List MadeQuery} {service : FillService}
    (h : Reached venues made service) : ∀ m ∈ made, Kept m.after service.fills := by
  induction h with
  | start fills => exact fun m hm => absurd hm List.not_mem_nil
  | insert row _ ih => exact fun m hm => (ih m hm).trans (kept_insertFill row _)
  | cycle cycle _ _ ih =>
      intro m hm
      rcases List.mem_append.mp hm with hold | hnew
      · exact (ih m hold).trans (kept_tableAfter _ _)
      · exact kept_of_mem_makeAll hnew

/-! ### No fill is missed -/

section Missed

variable {venues : List String} {earlier later : List MadeQuery} {m : MadeQuery}
  {service : FillService} {occurredAt visibleAt : UtcTime}

/-- The fill is in the window of a query if no clean query of the venue before it could see it. -/
theorem since_le_occurredAt (h : Reached venues (earlier ++ m :: later) service)
    (hvenue : m.query.venue ∈ venues)
    (hlookback : initialFillSince m.query.startedAt m.query.capturedAt ≤ occurredAt)
    (hlag : visibleAt ≤ occurredAt + fillReconciliationOverlap)
    (hunseen : ∀ q ∈ earlier, q.query.venue = m.query.venue → q.clean = true →
      q.query.startedAt < visibleAt) :
    m.since ≤ occurredAt := by
  unfold MadeQuery.since
  cases hlast : m.lastSuccessAt with
  | none => exact hlookback
  | some watermark =>
      obtain ⟨q, hq, hname, hclean, hstart⟩ :=
        h.watermarked.2 earlier m later rfl watermark hlast _ hvenue
      have hbefore := hunseen q hq hname hclean
      exact max_le hlookback (sub_le_iff_le_add.mpr ((hstart.trans hbefore.le).trans hlag))

/-- A fill that becomes visible at most five minutes after it occurred is reconciled by the first
clean query of its venue that starts once it is visible, if the query is made within the lookback:
its row is in the table from then on, or it is in the baseline, or its venue order is one of those
that were passed over for submissions on their way. -/
theorem fill_is_reconciled (h : Reached venues (earlier ++ m :: later) service)
    (hvenue : m.query.venue ∈ venues) (hclean : m.clean = true) (fill : ListedRow)
    (hlookback : initialFillSince m.query.startedAt m.query.capturedAt ≤ fill.row.occurredAt)
    (hlag : visibleAt ≤ fill.row.occurredAt + fillReconciliationOverlap)
    (hunseen : ∀ q ∈ earlier, q.query.venue = m.query.venue → q.clean = true →
      q.query.startedAt < visibleAt)
    (hlisted : ∀ since exposures fills, since ≤ fill.row.occurredAt →
      m.query.listFills since = .ok (exposures, fills) → fill ∈ fills) :
    (∃ row, m.after.get? fill.row.fillId = some row ∧
        service.fills.get? fill.row.fillId = some row) ∨
      fill.ref ∈ m.query.coveredRefs ∨ fill.row.venueOrderId ∈ m.graced := by
  obtain ⟨exposures, fills, hlisting⟩ := exists_listing_of_clean hclean
  have hmem := hlisted m.since exposures fills
    (since_le_occurredAt h hvenue hlookback hlag hunseen) hlisting
  rcases settled_of_clean hclean hlisting hmem with ⟨row, hrow⟩ | hrest
  · have hkept := h.kept m (List.mem_append_right _ List.mem_cons_self)
    exact .inl ⟨row, hrow, hkept _ _ hrow⟩
  · exact .inr hrest

end Missed

namespace WatermarkExamples

def second : UtcTime := 10 ^ 6

/-- A fill of a known order, a hundred seconds before the first cycle. -/
def lateFill : ListedRow where
  row :=
    { fillId := "fill"
      clientOrderId := ""
      venueOrderId := "order"
      venue := "polymarket"
      quantity := 10
      price := 1 / 2
      fee := 0
      occurredAt := 900 * second }
  persisted := .ok (some "client")
  insert := .done

/-- A query of a venue that lists what is in the window. -/
def query (startedAt : UtcTime) (visible : List ListedRow) : Query where
  venue := "polymarket"
  startedAt := startedAt
  capturedAt := none
  full := false
  answers :=
    { baseline := .ok none
      fingerprint := none
      unresolved := .ok []
      openOrders := .ok []
      fillContexts := .ok ()
      fills := .ok ([], [])
      auditDeferred := .ok ()
      auditOpenOrders := .ok ()
      auditFills := .ok ()
      mismatches := .ok 0
      recordReconciliation := .ok ()
      isTransient := fun _ => false }
  listFills since := .ok ([], visible.filter fun fill => since ≤ fill.row.occurredAt)

/-- The first cycle cannot see the fill yet. -/
def firstCycle : FillCycle := ⟨1000 * second, true, [query (1001 * second) []]⟩

def secondCycle : FillCycle := ⟨1200 * second, true, [query (1201 * second) [lateFill]]⟩

def firstService : FillService := FillService.afterCycle {} ["polymarket"] firstCycle

def secondService : FillService := firstService.afterCycle ["polymarket"] secondCycle

def firstMade : MadeQuery := ⟨query (1001 * second) [], true, none, Lib.Dict.empty⟩

def secondMade : MadeQuery :=
  ⟨query (1201 * second) [lateFill], true, firstService.lastSuccessAt, firstService.fills⟩

theorem reached_secondService :
    Reached ["polymarket"] ([firstMade] ++ secondMade :: []) secondService :=
  ((Reached.start Lib.Dict.empty).cycle firstCycle (by
    intro query hquery
    rw [List.mem_singleton.mp hquery]
    decide)).cycle secondCycle (by
      intro query hquery
      rw [List.mem_singleton.mp hquery]
      decide)

/-- The fill occurred before the watermark of the first cycle and became visible after it; the
second cycle stores it under the client order id of its order. -/
theorem fill_is_reconciled_late :
    firstService.lastSuccessAt = some (1000 * second) ∧ lateFill.row.occurredAt < 1000 * second ∧
      secondService.fills.get? "fill" = some (lateFill.row.ofClient "client") ∧
      ((∃ row, secondMade.after.get? "fill" = some row ∧
          secondService.fills.get? "fill" = some row) ∨
        lateFill.ref ∈ secondMade.query.coveredRefs ∨ "order" ∈ secondMade.graced) := by
  refine ⟨by decide +kernel, by decide, by decide +kernel, fill_is_reconciled
    reached_secondService List.mem_cons_self (by decide +kernel)
    lateFill (by decide)
    (show 1100 * second ≤ lateFill.row.occurredAt + fillReconciliationOverlap by decide) ?_ ?_⟩
  · intro made hmade _ _
    rw [List.mem_singleton.mp hmade]
    decide
  · intro since exposures fills hsince hlisting
    cases hlisting
    exact List.mem_filter.mpr ⟨List.mem_cons_self, decide_eq_true hsince⟩

end WatermarkExamples

end ArbitrageEngine.Reconciliation
