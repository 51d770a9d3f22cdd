/-
# ArbitrageEngine.Reconciliation.TerminalIntents -- final order intents stay final

A status is stored whatever the row holds, and a cycle stores what it made of an older copy.  An
intent that was FILLED or CANCELLED is reopened where a cycle works on it beside its leg, where the
venue still lists an order that is over, and where a call raises after its final status was stored.
In runs without these the row of a final intent is never written again: the invariant is that a
cycle at work on the intent has it for itself, and that a leg whose intent is final is past its
updates.
-/
import ArbitrageEngine.Lib.Runs
import ArbitrageEngine.Reconciliation.IntentSteps

namespace ArbitrageEngine.Reconciliation

open Execution Lib.Effect Lib.Runs

/-! ## Final intents -/

/-- The statuses a final intent must not come back to. -/
def isReopened : OrderIntentStatus → Bool
  | .submitting | .acknowledged | .partlyFilled | .unknown => true
  | _ => false

/-- Is the stored intent final? -/
def isFinal (row : Option OrderIntent) : Bool := row.any fun intent => isTerminal intent.status

/-- In a history, newest first, no final intent is reopened later. -/
def FinalStays (states : List IntentState) : Prop :=
  states.Pairwise fun newer older =>
    isFinal older.row = true → newer.row.any (fun intent => isReopened intent.status) = false

instance (states : List IntentState) : Decidable (FinalStays states) :=
  inferInstanceAs (Decidable (List.Pairwise _ _))

/-! ## One at a time -/

/-- Is the leg inside its `try`, so that a handler takes what a call raises? -/
def LegPhase.inTry : LegPhase → Bool
  | .rejecting inTry => inTry
  | .guarding | .placing _ | .acknowledging _ | .waiting _ | .cancelling _ _ | .rereading _ _
  | .recording _ _ | .finishing _ => true
  | _ => false

/-- Is the cycle at work on the intent: will it write the row without asking for it again? -/
def CyclePhase.atWork : CyclePhase → Bool
  | .idle | .upserting | .listing | .openOrders | .exposures => false
  | _ => true

variable {call : LegCall} {routes : List String} {s s' : IntentState} {row : Option OrderIntent}

/-- A cycle takes the intent up only when the leg is over; neither an order that is still listed as
open nor an exposure is that of a final intent; and no call raises after its final status was
stored, where a handler would write the row again. -/
def oneAtATime (call : LegCall) (routes : List String) (s : IntentState) : IntentAct → Bool
  | .leg answer =>
      (answer.raised.isSome ∧ s.leg.inTry) → isFinal (call.row s.leg answer s.row) = false
  | .cycle (.read allowInflightGrace recent) =>
      (readCycle routes allowInflightGrace recent s.row).phase.atWork → s.leg = .over
  | .cycle (.order venueOrderId remoteClientOrderId canDefer) =>
      (reachOrder s.cycle s.row call.intent.clientOrderId venueOrderId remoteClientOrderId
        canDefer).atWork → s.leg = .over ∧ isFinal s.row = false
  | .cycle (.exposure orderId) =>
      (reachExposure s.cycle s.row orderId).atWork → s.leg = .over ∧ isFinal s.row = false
  | .cycle (.wrote (.failed committed exc)) =>
      (s.cycle.phase.afterFailure exc).atWork →
        isFinal (s.cycle.row (.wrote (.failed committed exc)) s.row) = false
  | .cycle _ => true

/-- A step of which `oneAtATime` holds. -/
def OneAtATime (call : LegCall) (routes : List String) (s : IntentState) (act : IntentAct) : Prop :=
  oneAtATime call routes s act = true

instance (act : IntentAct) : Decidable (OneAtATime call routes s act) :=
  inferInstanceAs (Decidable (oneAtATime call routes s act = true))

/-- A cycle at work on the intent has it for itself, and the leg of a final intent is past its
updates. -/
structure Apart (s : IntentState) : Prop where
  alone : s.cycle.phase.atWork = true → s.leg = .over
  unfinished : s.cycle.phase.atWork = true → isFinal s.row = false
  pastUpdates : isFinal s.row = true → s.leg = .over ∨ ∃ orderId, s.leg = .finishing orderId

/-! ## Steps of the leg -/

theorem not_isFinal_update {status : OrderIntentStatus} {venueOrderId : Option String}
    (h : isTerminal status = false) :
    isFinal ((IntentWrite.update status venueOrderId).apply row) = false := by
  cases row with
  | none => rfl
  | some intent => simpa [IntentWrite.apply, isFinal] using h

theorem isFinal_afterWrite {answer : WriteAnswer Exc} {write : IntentWrite}
    (h : isFinal (afterWrite answer write row) = true) :
    isFinal (write.apply row) = true ∨ isFinal row = true := by
  unfold afterWrite at h
  split at h
  · exact .inl h
  · exact .inr h

/-- The updates of a leg that may make the intent final. -/
def LegPhase.mayFinish : LegPhase → Bool
  | .rejecting _ | .recording _ _ | .recordingError _ _ => true
  | _ => false

/-- Another phase leaves the intent as final as it was. -/
theorem LegCall.isFinal_row {phase : LegPhase} {answer : LegAnswer}
    (h : isFinal (call.row phase answer row) = true) (hphase : phase.mayFinish = false) :
    isFinal row = true := by
  have hwrite : ∀ {write : IntentWrite} {answer : WriteAnswer Exc},
      isFinal (afterWrite answer write row) = true → isFinal (write.apply row) = false →
        isFinal row = true := by
    intro write answer hfinal hnot
    rcases isFinal_afterWrite hfinal with happly | hrow
    · rw [hnot] at happly
      cases happly
    · exact hrow
  have hupdate : ∀ {write : IntentWrite}, call.write phase = some write →
      isFinal (write.apply row) = false := by
    intro write hsome
    unfold LegCall.write at hsome
    split at hsome <;> cases hsome <;>
      first
        | rfl
        | exact not_isFinal_update rfl
        | cases hphase
  unfold LegCall.row at h
  split at h
  · split at h
    · exact h
    · exact hwrite h (not_isFinal_update rfl)
  · cases hsome : call.write phase with
    | none =>
        rw [hsome] at h
        exact h
    | some write =>
        rw [hsome] at h
        exact hwrite h (hupdate hsome)
  · exact h

/-- A write inside the `try` that is answered without raising was done. -/
theorem quiet_wrote {answer : WriteAnswer Exc} {ready : Bool}
    (hquiet : ¬ ((LegAnswer.wrote answer ready).raised.isSome ∧ true)) : answer = .done := by
  cases answer with
  | done => rfl
  | failed committed exc => exact absurd ⟨rfl, rfl⟩ hquiet

/-- A leg that makes its intent final, without raising in its `try`, has no update left. -/
theorem LegCall.next_of_mayFinish {phase phase' : LegPhase} {answer : LegAnswer}
    (hphase : phase.mayFinish = true) (hquiet : ¬ (answer.raised.isSome ∧ phase.inTry))
    (hnext : call.next phase answer = some phase') :
    phase' = .over ∨ ∃ orderId, phase' = .finishing orderId := by
  cases answer with
  | wrote answer ready =>
      cases phase with
      | rejecting inTry =>
          left
          cases hnext
          cases inTry with
          | true => rw [quiet_wrote hquiet, LegCall.afterRejection]
          | false => cases answer <;> rfl
      | recording orderId report =>
          rw [quiet_wrote hquiet] at hnext
          cases hnext
          unfold LegCall.afterRecording
          split
          · exact .inr ⟨orderId, rfl⟩
          · exact .inl rfl
      | recordingError orderId status =>
          left
          cases hnext
          rfl
      | _ => cases hphase
  | _ => cases phase <;> cases hphase <;> cases hnext

/-- A step of the leg. -/
theorem apart_leg {answer : LegAnswer} {phase : LegPhase} (h : Apart s)
    (hok : OneAtATime call routes s (.leg answer)) (hnext : call.next s.leg answer = some phase) :
    Apart { s with leg := phase, row := call.row s.leg answer s.row } ∧
      (isFinal s.row = true → call.row s.leg answer s.row = s.row) := by
  have hquiet : (answer.raised.isSome ∧ s.leg.inTry) →
      isFinal (call.row s.leg answer s.row) = false := of_decide_eq_true hok
  have hrunning : s.leg ≠ .over := by
    intro hover
    rw [hover] at hnext
    cases hnext
  have hidle : s.cycle.phase.atWork ≠ true := fun hwork => hrunning (h.alone hwork)
  -- a leg past its updates writes nothing, and it only goes on to its end
  have hpast : isFinal s.row = true →
      call.row s.leg answer s.row = s.row ∧ phase = .over := by
    intro hfinal
    obtain hover | ⟨orderId, hleg⟩ := h.pastUpdates hfinal
    · exact absurd hover hrunning
    · have hrow : call.row s.leg answer s.row = s.row := by
        rw [hleg]
        cases answer <;> rfl
      refine ⟨hrow, ?_⟩
      rw [hrow, hfinal, hleg] at hquiet
      rw [hleg] at hnext
      cases answer with
      | called answer =>
          cases answer with
          | ok _ =>
              cases hnext
              rfl
          | error exc => cases hquiet ⟨rfl, rfl⟩
      | _ => cases hnext
  refine ⟨⟨fun hwork => absurd hwork hidle, fun hwork => absurd hwork hidle, ?_⟩,
    fun hfinal => (hpast hfinal).1⟩
  intro hfinal
  by_cases hbefore : isFinal s.row = true
  · exact .inl (hpast hbefore).2
  · cases hphase : s.leg.mayFinish with
    | false => exact absurd (LegCall.isFinal_row hfinal hphase) hbefore
    | true =>
        refine LegCall.next_of_mayFinish hphase (fun hraised => ?_) hnext
        rw [hquiet hraised] at hfinal
        cases hfinal

/-! ## Steps of the cycle -/

theorem atWork_of_write {phase : CyclePhase} {write : IntentWrite}
    (h : phase.write = some write) : phase.atWork = true := by
  cases phase <;> first | rfl | cases h

/-- A call between the loops does not set the cycle to work. -/
theorem afterCall_rests {phase phase' : CyclePhase} (h : phase.atWork = false)
    (hcall : phase.afterCall = some phase') : phase'.atWork = false := by
  cases phase with
  | upserting | listing =>
      cases hcall
      rfl
  | idle | openOrders | exposures => cases hcall
  | _ => cases h

theorem afterError_rests {phase : CyclePhase} (h : phase.atWork = false) (exc : Exc) :
    (phase.afterError exc).atWork = false := by
  cases phase with
  | upserting | listing | idle | openOrders | exposures => rfl
  | _ => cases h

/-- A copy that the cycle has to work on was unresolved when it was read. -/
theorem readCycle_unfinished {allowInflightGrace recent : Bool}
    (h : (readCycle routes allowInflightGrace recent row).phase.atWork = true) :
    isFinal row = false := by
  unfold readCycle at h
  split at h
  · cases h
  · next copy hcopy =>
      obtain ⟨hrow, hopen⟩ := Option.filter_eq_some_iff.mp hcopy
      rw [hrow]
      exact (of_decide_eq_true hopen).1

/-- The row after a step of a cycle at work that leaves the cycle at work. -/
theorem unfinished_next {answer : CycleAnswer} {cycle : Cycle} {clientOrderId : String}
    (hrow : isFinal s.row = false) (hok : OneAtATime call routes s (.cycle answer))
    (hstep : s.cycle.step routes clientOrderId s.row answer = some cycle)
    (hwork : cycle.phase.atWork = true) : isFinal (s.cycle.row answer s.row) = false := by
  cases answer with
  | wrote answer =>
      unfold Cycle.step at hstep
      cases hwrite : s.cycle.phase.write with
      | none =>
          simp only [hwrite] at hstep
          cases hstep
      | some write =>
          cases answer with
          | failed committed exc =>
              simp only [hwrite] at hstep
              cases hstep
              exact of_decide_eq_true hok hwork
          | done =>
              simp only [hwrite] at hstep
              cases hstep
              -- only the mark before a cancellation leaves the cycle at work
              cases hphase : s.cycle.phase with
              | marking venueOrderId =>
                  unfold Cycle.row
                  rw [hphase]
                  exact not_isFinal_update rfl
              | storing status venueOrderId fromReport =>
                  rw [hphase] at hwork
                  cases fromReport <;> cases hwork
              | storingExposure venueOrderId fromFills =>
                  rw [hphase] at hwork
                  cases fromFills <;> cases hwork
              | _ =>
                  rw [hphase] at hwork
                  cases hwork
  | _ =>
      unfold Cycle.row
      split
      · next hanswer => cases hanswer
      · exact hrow

/-- A cycle that is not at work takes the intent up where `oneAtATime` admits it. -/
theorem taken_up {answer : CycleAnswer} {cycle : Cycle}
    (hidle : s.cycle.phase.atWork = false) (hok : OneAtATime call routes s (.cycle answer))
    (hstep : s.cycle.step routes call.intent.clientOrderId s.row answer = some cycle)
    (hwork : cycle.phase.atWork = true) : s.leg = .over ∧ isFinal s.row = false := by
  cases answer with
  | read allowInflightGrace recent =>
      simp only [Cycle.step] at hstep
      split at hstep
      · cases hstep
        exact ⟨of_decide_eq_true hok hwork, readCycle_unfinished hwork⟩
      · cases hstep
  | order venueOrderId remoteClientOrderId canDefer =>
      simp only [Cycle.step] at hstep
      split at hstep
      · cases hstep
        exact of_decide_eq_true hok hwork
      · cases hstep
  | exposure orderId =>
      simp only [Cycle.step] at hstep
      split at hstep
      · cases hstep
        exact of_decide_eq_true hok hwork
      · cases hstep
  | wrote answer =>
      simp only [Cycle.step] at hstep
      cases hwrite : s.cycle.phase.write with
      | none =>
          rw [hwrite] at hstep
          cases hstep
      | some write =>
          rw [atWork_of_write hwrite] at hidle
          cases hidle
  | reported answer notFound =>
      simp only [Cycle.step] at hstep
      split at hstep
      · next hphase =>
          rw [hphase] at hidle
          cases hidle
      · next hphase =>
          rw [hphase] at hidle
          cases hidle
      · next hphase =>
          rw [hphase] at hidle
          cases hidle
      · cases hstep
  | called answer =>
      cases answer with
      | ok _ =>
          obtain ⟨phase, hphase, rfl⟩ := Option.map_eq_some_iff.mp hstep
          rw [afterCall_rests hidle hphase] at hwork
          cases hwork
      | error exc =>
          obtain ⟨_, _, rfl⟩ := Option.map_eq_some_iff.mp hstep
          rw [afterError_rests hidle exc] at hwork
          cases hwork
  | through =>
      simp only [Cycle.step] at hstep
      split at hstep <;> cases hstep <;> cases hwork

/-- A step of the cycle. -/
theorem apart_cycle {answer : CycleAnswer} {cycle : Cycle} (h : Apart s)
    (hok : OneAtATime call routes s (.cycle answer))
    (hstep : s.cycle.step routes call.intent.clientOrderId s.row answer = some cycle) :
    Apart { s with cycle := cycle, row := s.cycle.row answer s.row } ∧
      (isFinal s.row = true → s.cycle.row answer s.row = s.row) := by
  cases hwork : s.cycle.phase.atWork with
  | true =>
      have hover := h.alone hwork
      have hrow := h.unfinished hwork
      refine ⟨⟨fun _ => hover, unfinished_next hrow hok hstep, fun _ => .inl hover⟩,
        fun hfinal => ?_⟩
      rw [hrow] at hfinal
      cases hfinal
  | false =>
      have hunwritten : s.cycle.row answer s.row = s.row := by
        unfold Cycle.row
        split
        · next hwrite =>
            rw [atWork_of_write hwrite] at hwork
            cases hwork
        · rfl
      have htaken := taken_up hwork hok hstep
      rw [hunwritten]
      exact ⟨⟨fun hnew => (htaken hnew).1, fun hnew => (htaken hnew).2, h.pastUpdates⟩,
        fun _ => rfl⟩

/-! ## Runs -/

/-- One step keeps the two apart and a final row as it is. -/
theorem apart_step {act : IntentAct} (h : Apart s) (hok : OneAtATime call routes s act)
    (hstep : intentStep call routes s act = some s') :
    Apart s' ∧ (isFinal s.row = true → s'.row = s.row) := by
  cases act with
  | leg answer =>
      obtain ⟨phase, hnext, rfl⟩ := Option.map_eq_some_iff.mp hstep
      exact apart_leg h hok hnext
  | cycle answer =>
      obtain ⟨cycle, hnext, rfl⟩ := Option.map_eq_some_iff.mp hstep
      exact apart_cycle h hok hnext

theorem not_isReopened_of_isFinal (h : isFinal row = true) :
    row.any (fun intent => isReopened intent.status) = false := by
  cases row with
  | none => rfl
  | some intent =>
      simp only [isFinal, Option.any_some] at h ⊢
      cases hstatus : intent.status <;> rw [hstatus] at h <;> first | rfl | cases h

/-- **A final intent stays final**: in every run in which leg and cycle work on the intent one at a
time, whatever they are answered and however else their steps interleave. -/
theorem final_intents_stay (call : LegCall) (routes : List String) {hist : List IntentState}
    {s : IntentState} (h : Run (intentStep call routes) (OneAtATime call routes) {} hist s) :
    FinalStays (s :: hist) := by
  have hinv := h.invariant
    (fun hist s => Apart s ∧ (∀ t ∈ hist, isFinal t.row = true → s.row = t.row) ∧
      FinalStays (s :: hist)) ?_ ?_
  · exact hinv.2.2
  · refine ⟨⟨fun hwork => ?_, fun hwork => ?_, fun hfinal => ?_⟩, fun _ hmem => ?_,
      List.pairwise_singleton _ _⟩
    · cases hwork
    · cases hwork
    · cases hfinal
    · cases hmem
  · rintro hist s act s' ⟨hapart, hsame, hstays⟩ hok hstep
    obtain ⟨hapart', hunchanged⟩ := apart_step hapart hok hstep
    -- a row that was ever final is the row now
    have hkept : ∀ t ∈ s :: hist, isFinal t.row = true → s'.row = t.row := by
      intro t hmem hfinal
      rcases List.mem_cons.mp hmem with rfl | hmem
      · exact hunchanged hfinal
      · have hrow := hsame t hmem hfinal
        rw [← hrow]
        exact hunchanged (hrow ▸ hfinal)
    refine ⟨hapart', hkept, List.pairwise_cons.mpr ⟨fun t hmem hfinal => ?_, hstays⟩⟩
    rw [hkept t hmem hfinal]
    exact not_isReopened_of_isFinal hfinal

/-! ## An intent that is filled -/

/-- The purchase of ten contracts. -/
def purchase : LegCall where
  isEntry := true
  intent :=
    { clientOrderId := "client-1"
      route := "polymarket_sx"
      marketKey := "market"
      venue := "SX Bet"
      tokenId := "token"
      binarySide := .yes
      action := "BUY"
      quantity := 10
      limitPrice := 1 / 2 }

/-- The report of all ten. -/
def tenFilled : ExecutionReport := ⟨"order-1", .filled, 10, 10, 0, 1 / 2⟩

/-- The purchase until the venue acknowledged it. -/
def acknowledgedPurchase : List IntentAct :=
  [.leg (.wrote .done true), .leg (.wrote .done true), .leg (.guarded (.ok true) true),
    .leg (.persisted "order-1" .done), .leg (.placed (.ok "order-1")), .leg (.wrote .done true)]

/-- The purchase is filled, and its status is stored. -/
def filledPurchase : List IntentAct := [.leg (.reported (.ok tenFilled)), .leg (.wrote .done true)]

/-- A purchase that is filled, and a cycle after it. -/
theorem final_intents_stay_filled :
    ∃ hist s, s.row.any (fun intent => intent.status = .filled) = true ∧ FinalStays (s :: hist) := by
  have hexec : (exec (intentStep purchase []) (OneAtATime purchase []) {}
      (acknowledgedPurchase ++ filledPurchase ++
        [.leg (.called (.ok ())), .cycle (.read true true), .cycle (.called (.ok ())),
          .cycle .through, .cycle .through])).any
        (fun s => s.row.any fun intent => intent.status = .filled) := by
    decide +kernel
  obtain ⟨s, hexec, hfilled⟩ := (Option.any_eq_true _ _).mp hexec
  obtain ⟨hist, hrun⟩ := Run.of_exec hexec
  exact ⟨hist, s, hfilled, final_intents_stay purchase [] hrun⟩

/-- A cycle reads the acknowledged intent and is told that the order is open; the purchase is filled
before the cycle stores that. -/
theorem stale_report_reopens :
    ∃ hist s, Run (intentStep purchase []) anyAction {} hist s ∧ ¬ FinalStays (s :: hist) := by
  have hexec : (exec (intentStep purchase []) anyAction {}
      (acknowledgedPurchase ++
        [.cycle (.read true true),
          .cycle (.reported (.ok ⟨"order-1", .stillOpen, 10, 0, 10, 0⟩) false)] ++
        filledPurchase)).any (fun s => isFinal s.row ∧
          (intentStep purchase [] s (.cycle (.wrote .done))).any fun s' =>
            s'.row.any fun intent => intent.status = .acknowledged) := by
    decide +kernel
  obtain ⟨s, hexec, hs⟩ := (Option.any_eq_true _ _).mp hexec
  obtain ⟨hfinal, hnext⟩ := of_decide_eq_true hs
  obtain ⟨s', hstep, hstatus⟩ := (Option.any_eq_true _ _).mp hnext
  obtain ⟨hist, hrun⟩ := Run.of_exec hexec
  refine ⟨s :: hist, s', hrun.next trivial hstep, fun hstays => ?_⟩
  have hclosed := (List.pairwise_cons.mp hstays).1 s List.mem_cons_self hfinal
  cases hrow : s'.row with
  | none =>
      rw [hrow] at hstatus
      cases hstatus
  | some intent =>
      rw [hrow, Option.any_some] at hstatus hclosed
      rw [of_decide_eq_true hstatus] at hclosed
      cases hclosed

end ArbitrageEngine.Reconciliation
