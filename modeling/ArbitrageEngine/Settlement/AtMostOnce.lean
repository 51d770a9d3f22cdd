/-
# ArbitrageEngine.Settlement.AtMostOnce -- no redemption is submitted twice

Any number of passes, each ending wherever its environment ends it, over whatever ledger the rest of
the process or a restart leaves.  The invariant is that a key whose redemption was submitted has a
row that is not PENDING: the UNKNOWN marker is committed before the submission, and only a PENDING
row is submitted.  A CONFIRMED row stays CONFIRMED, so what the first leg established still holds
when the position is removed after the second.

One write breaks the invariant: a report whose status is PENDING goes into the row as it is, and
only the `_mark_unknown` that follows takes it out again.  `leavesPending` says when it does not get
that far.
-/
import ArbitrageEngine.Lib.Runs
import ArbitrageEngine.Settlement.Invariant

namespace ArbitrageEngine.Settlement

open Lib.Effect Lib.Runs

/-! ## Passes as steps -/

/-- What happens to the tables and the ledger. -/
inductive Action
  /-- One `run_once`, whatever it ends with. -/
  | runOnce (now : Time) (answers : ℕ → PositionAnswers)
  /-- A restart, or the rest of the process: any ledger and any positions. -/
  | tradeOn (positions : Lib.Dict String OpenPosition) (ledger : PositionLedger)

/-- One step of the system. -/
def step (service : Service) (w : World) : Action → Option World
  | .runOnce now answers => some (finalState (runOnce service now answers) w)
  | .tradeOn positions ledger => some { w with positions := positions, ledger := ledger }

/-- The connector answers the submission of this leg with a PENDING report that stays in the row:
its write commits, and the update to UNKNOWN after it is not reached or does not commit. -/
def LegAnswers.leavesPending (answers : LegAnswers) : Bool :=
  match answers.redeem with
  | .error _ => false
  | .ok report =>
      report.status = .pending && answers.record.commits &&
        !(answers.record = .done && answers.markUnknown.commits)

/-- No leg of the pass leaves a submitted row PENDING. -/
def NeverLeavesPending (w : World) : Action → Prop
  | .runOnce _ answers =>
      ∀ i < w.ledger.values.length,
        (answers i).first.leavesPending = false ∧ (answers i).second.leavesPending = false
  | .tradeOn _ _ => True

instance (w : World) : ∀ a, Decidable (NeverLeavesPending w a)
  | .runOnce _ answers =>
      inferInstanceAs (Decidable (∀ i < w.ledger.values.length,
        (answers i).first.leavesPending = false ∧ (answers i).second.leavesPending = false))
  | .tradeOn _ _ => inferInstanceAs (Decidable True)

/-! ## One redemption -/

section Leg

variable {service : Service} {position : OpenPosition} {exempt : Option RedemptionKey}
  {known : List RedemptionKey} {key : RedemptionKey} {redemptionId : String}

/-- A manual review touches neither the intents nor the two logs. -/
theorem manualReview_keeps (answers : ManualReviewAnswers) (reason : String) :
    Keeps (Inv exempt known) (manualReview service answers position reason) := by
  have hsame : ∀ {w w' : World}, w'.intents = w.intents → w'.redeemed = w.redeemed →
      w'.removed = w.removed → Inv exempt known w → Inv exempt known w' := by
    rintro w w' hi hr hm ⟨h1, h2, h3, h4⟩
    exact ⟨hr ▸ h1, by rw [hr, hi]; exact h2, by rw [hi]; exact h3, by rw [hm]; exact h4⟩
  have hrest : Keeps (Inv exempt known) (do
      modify fun w => { w with ledger := w.ledger.add { position with status := "manual_review" } }
      await answers.pause
      await answers.sendHtml : Effect Unit) :=
    Keeps.bind (Keeps.modify fun _ => hsame rfl rfl rfl) fun _ =>
      Keeps.bind (Keeps.await _) fun _ => Keeps.await _
  unfold manualReview
  refine Keeps.ite ?_ hrest
  exact Keeps.bind (Keeps.transact fun _ => hsame rfl rfl rfl) fun _ =>
    Keeps.bind (Keeps.transact fun _ => hsame rfl rfl rfl) fun _ => hrest

/-- An update of the row being worked on: it is done, or it raises after or before its commit. -/
theorem updateRedemptionIntent_spec {P : World → Prop} {answer : WriteAnswer Fault} {now : Time}
    {status : RedemptionIntentStatus} {txHash error : Option String}
    {Q : RedemptionIntent → World → Prop} {E : Fault → World → Prop}
    (hwork : ∀ w, P w → w.intents.Working key redemptionId)
    (hdone : answer = .done → ∀ intent w, intent.redemptionId = redemptionId → P w →
      Q intent (w.updated redemptionId status txHash error now))
    (hcommitted : ∀ e, answer = .failed true e → ∀ w, P w →
      E e (w.updated redemptionId status txHash error now))
    (hlost : answer.commits = false → ∀ e w, P w → E e w) :
    Spec P (updateRedemptionIntent answer now redemptionId status txHash error) Q E := by
  refine Spec.bind (R := fun w s => P s ∧ w = s) ?_ fun w => ?_
  · exact Spec.get fun s hs => ⟨hs, rfl⟩
  · cases hrow : w.intents.byId redemptionId with
    | none =>
        rintro s ⟨hs, rfl⟩
        obtain ⟨row, hmem, hid, _⟩ := hwork w hs
        have hnone := List.find?_eq_none.mp hrow row hmem
        exact absurd hid (by simpa using hnone)
    | some row =>
        have hid := (RedemptionTable.mem_of_byId hrow).2
        refine Spec.bind (R := fun _ => Q (row.updated status txHash error now)) ?_ fun _ =>
          Spec.pure fun _ hs => hs
        refine Spec.transact ?_ ?_ ?_
        · exact fun h s hs => hdone h _ s hid hs.1
        · exact fun e h s hs => hcommitted e h s hs.1
        · exact fun e h s hs => hlost (by rw [h]; rfl) e s hs.1

/-- `_mark_unknown` settles the row it works on.  If the row needed an exemption, its update has to
commit. -/
theorem markUnknown_spec {answers : LegAnswers} {intent : RedemptionIntent} {reason : String}
    (hid : intent.redemptionId = redemptionId)
    (hexempt : exempt = none ∨ exempt = some key ∧ answers.markUnknown.commits = true) :
    Spec (fun w => Inv exempt known w ∧ w.intents.Working key redemptionId)
      (markUnknown service answers position intent reason)
      (fun confirmed w => confirmed = false ∧ Inv none known w) (fun _ => Inv none known) := by
  subst hid
  have hkey : exempt = none ∨ exempt = some key := hexempt.imp_right And.left
  have hsettle : ∀ w : World,
      Inv exempt known w ∧ w.intents.Working key intent.redemptionId →
        Inv none known (w.updated intent.redemptionId .unknown intent.txHash (some reason)
          answers.writtenAt) := by
    rintro w ⟨hinv, hwork⟩
    exact hinv.settle hkey hwork (by decide) _ _ _
  refine Spec.bind (R := fun _ => Inv none known) ?_ fun _ => ?_
  · refine updateRedemptionIntent_spec (fun _ h => h.2) ?_ ?_ ?_
    · exact fun _ _ w _ h => hsettle w h
    · exact fun _ _ w h => hsettle w h
    · intro hcommits _ w h
      rcases hexempt with rfl | ⟨_, hc⟩
      · exact h.1
      · exact absurd hc (by rw [hcommits]; decide)
  · exact Spec.bind (manualReview_keeps _ _) fun _ => Spec.pure fun _ h => ⟨rfl, h⟩

/-- What the passes need of one leg: the invariant, and CONFIRMED where the leg says so. -/
def LegSpec (known : List RedemptionKey) (key : RedemptionKey) (P : World → Prop)
    (m : Effect Bool) : Prop :=
  Spec P m (fun confirmed w => Inv none (bif confirmed then key :: known else known) w)
    (fun _ => Inv none known)

theorem markUnknown_legSpec {answers : LegAnswers} {intent : RedemptionIntent} {reason : String}
    (hid : intent.redemptionId = redemptionId)
    (hexempt : exempt = none ∨ exempt = some key ∧ answers.markUnknown.commits = true) :
    LegSpec known key (fun w => Inv exempt known w ∧ w.intents.Working key redemptionId)
      (markUnknown service answers position intent reason) := by
  refine (markUnknown_spec hid hexempt).conseq (fun _ h => h) ?_ fun _ _ h => h
  rintro confirmed w ⟨rfl, h⟩
  exact h

theorem review_legSpec {answers : ManualReviewAnswers} {reason : String} :
    LegSpec known key (Inv none known) (do
      manualReview service answers position reason
      pure false) :=
  Spec.bind (manualReview_keeps _ _) fun _ => Spec.pure fun _ h => h

/-- A CONFIRMED report of the connector confirms the row. -/
theorem confirm_legSpec {answer : WriteAnswer Fault} {now : Time} {txHash error : Option String} :
    LegSpec known key (fun w => Inv none known w ∧ w.intents.Working key redemptionId) (do
      let _ ← updateRedemptionIntent answer now redemptionId .confirmed txHash error
      pure true) := by
  have hsettle : ∀ w : World, Inv none known w ∧ w.intents.Working key redemptionId →
      Inv none known (w.updated redemptionId .confirmed txHash error now) := by
    rintro w ⟨hinv, hwork⟩
    exact hinv.settle (.inl rfl) hwork (by decide) _ _ _
  refine Spec.bind (R := fun _ => Inv none (key :: known)) ?_ fun _ => Spec.pure fun _ h => h
  refine updateRedemptionIntent_spec (fun _ h => h.2) ?_ ?_ ?_
  · intro _ _ w _ h
    obtain ⟨row, hrow, _, hkey, hstatus⟩ := h.2.updated .confirmed txHash error now
    exact (hsettle w h).learn ⟨row, hrow, hkey, hstatus⟩
  · exact fun _ _ w h => hsettle w h
  · exact fun _ _ w h => h.1

theorem reconcileSubmitted_legSpec {answers : LegAnswers} {intent : RedemptionIntent} :
    LegSpec known key (fun w => Inv none known w ∧ w.intents.Working key intent.redemptionId)
      (reconcileSubmitted service answers position intent) := by
  unfold reconcileSubmitted
  split
  · exact markUnknown_legSpec rfl (.inl rfl)
  · refine Spec.bind (R := fun _ w =>
      Inv none known w ∧ w.intents.Working key intent.redemptionId) ?_ fun answer => ?_
    · exact Spec.conseq (Keeps.attempt (Keeps.await answers.reconcile)) (fun _ h => h)
        (fun _ _ h => h) fun _ _ h => h.1
    · cases answer with
      | error exc => exact markUnknown_legSpec rfl (.inl rfl)
      | ok report =>
          show LegSpec _ _ _ (ite _ _ _)
          split
          · exact confirm_legSpec
          · split
            · exact Spec.pure fun _ h => h.1
            · exact markUnknown_legSpec rfl (.inl rfl)

/-- What `leavesPending` excludes. -/
theorem record_of_pending {answers : LegAnswers} (h : answers.leavesPending = false)
    {report : RedemptionReport} (hredeem : answers.redeem = .ok report)
    (hpending : report.status = .pending) :
    answers.record.commits = false ∨
      answers.record = .done ∧ answers.markUnknown.commits = true := by
  simp only [LegAnswers.leavesPending, hredeem, hpending, decide_true, Bool.true_and] at h
  cases hcommits : answers.record.commits with
  | false => exact .inl rfl
  | true =>
      rw [hcommits] at h
      exact .inr (by simpa using h)

/-- The report of a submission: CONFIRMED confirms, PENDING is taken out again by
`_mark_unknown`, and anything else settles the row. -/
theorem recordReport_legSpec {answers : LegAnswers} {request : SettlementRequest}
    {intent : RedemptionIntent} {report : RedemptionReport}
    (hpending : report.status = .pending → answers.record.commits = false ∨
      answers.record = .done ∧ answers.markUnknown.commits = true) :
    LegSpec known key (fun w => Inv none known w ∧ w.intents.Working key intent.redemptionId)
      (recordReport service answers position request intent report) := by
  refine Spec.bind (R := fun _ w =>
    (report.status ≠ .pending → Inv none known w) ∧
      (report.status = .pending →
        answers.markUnknown.commits = true ∧ Inv (some key) known w) ∧
      (report.status = .confirmed → w.intents.Confirmed key) ∧
      (report.status ≠ .confirmed → w.intents.Working key intent.redemptionId)) ?_ fun _ => ?_
  · refine updateRedemptionIntent_spec (fun _ h => h.2) ?_ ?_ ?_
    · rintro hdone _ w _ ⟨hinv, hwork⟩
      obtain ⟨row, hrow, hid, hkey, hstatus⟩ :=
        hwork.updated report.status report.txHash report.error answers.writtenAt
      refine ⟨fun hp => hinv.settle (.inl rfl) hwork hp _ _ _, fun hp => ⟨?_, ?_⟩,
        fun hc => ⟨row, hrow, hkey, hstatus.trans hc⟩,
        fun hc => ⟨row, hrow, hid, hkey, hstatus ▸ hc⟩⟩
      · rcases hpending hp with hlost | ⟨_, hmark⟩
        · rw [hdone] at hlost
          exact absurd hlost (by decide)
        · exact hmark
      · exact hinv.update (.inl rfl) hwork _ _ _ _
    · rintro e hfailed w ⟨hinv, hwork⟩
      refine hinv.settle (.inl rfl) hwork ?_ _ _ _
      intro hp
      rw [hfailed] at hpending
      rcases hpending hp with hlost | ⟨hdone, _⟩
      · exact absurd hlost Bool.noConfusion
      · cases hdone
    · exact fun _ _ w h => h.1
  · show LegSpec known key _ (ite _ _ _)
    split
    · next hconfirmed =>
        refine Spec.pure ?_
        rintro w ⟨hinv, _, hc, _⟩
        exact (hinv (by rw [hconfirmed]; decide)).learn (hc hconfirmed)
    · next hconfirmed =>
        split
        · next hsubmitted =>
            refine Spec.pure ?_
            rintro w ⟨hinv, _⟩
            exact hinv (by rw [hsubmitted.1]; decide)
        · split
          · next hfinal =>
              refine Spec.conseq review_legSpec ?_ (fun _ _ h => h) fun _ _ h => h
              rintro w ⟨hinv, _⟩
              rcases hfinal with hs | hs <;> exact hinv (by rw [hs]; decide)
          · by_cases hp : report.status = .pending
            · refine Spec.conseq (P := fun w => answers.markUnknown.commits = true ∧
                  (Inv (some key) known w ∧ w.intents.Working key intent.redemptionId))
                (Spec.assume fun hmark => markUnknown_legSpec rfl (.inr ⟨rfl, hmark⟩)) ?_
                (fun _ _ h => h) fun _ _ h => h
              rintro w ⟨_, hexempt, _, hwork⟩
              exact ⟨(hexempt hp).1, (hexempt hp).2, hwork hconfirmed⟩
            · refine Spec.conseq
                (markUnknown_legSpec rfl (.inl rfl)) ?_
                (fun _ _ h => h) fun _ _ h => h
              rintro w ⟨hinv, _, _, hwork⟩
              exact ⟨hinv hp, hwork hconfirmed⟩

/-- A PENDING row is submitted once: its marker is committed first. -/
theorem submitRedemption_legSpec {answers : LegAnswers} {request : SettlementRequest}
    {intent : RedemptionIntent} (hkey : intent.key = request.key)
    (hpending : intent.status = .pending) (hanswers : answers.leavesPending = false) :
    LegSpec known request.key (fun w => Inv none known w ∧ intent ∈ w.intents.rows)
      (submitRedemption service answers position request intent) := by
  have hwork : ∀ w : World, intent ∈ w.intents.rows →
      w.intents.Working request.key intent.redemptionId := fun w hrow =>
    ⟨intent, hrow, rfl, hkey, by rw [hpending]; decide⟩
  refine Spec.bind (R := fun marked w => marked.redemptionId = intent.redemptionId ∧
    (Inv none known w ∧ w.intents.Working request.key intent.redemptionId ∧
      w.intents.Guarded request.key ∧ request.key ∉ w.redeemed)) ?_ fun marked => ?_
  · refine updateRedemptionIntent_spec (fun w h => hwork w h.2) ?_ ?_ ?_
    · rintro _ row w hid ⟨hinv, hrow⟩
      obtain ⟨row', hrow', hid', hkey', hstatus'⟩ := (hwork w hrow).updated .unknown none
        (some "submission entered ambiguity window; blind retry is forbidden") answers.writtenAt
      refine ⟨hid, hinv.settle (.inl rfl) (hwork w hrow) (by decide) _ _ _,
        ⟨row', hrow', hid', hkey', by rw [hstatus']; decide⟩,
        ⟨row', hrow', hkey', by rw [hstatus']; decide⟩, ?_⟩
      show request.key ∉ w.redeemed
      rw [← hkey]
      exact not_redeemed_of_pending hinv hrow hpending
    · rintro _ _ w ⟨hinv, hrow⟩
      exact hinv.settle (.inl rfl) (hwork w hrow) (by decide) _ _ _
    · exact fun _ _ w h => h.1
  · refine Spec.assume fun hid => ?_
    refine Spec.bind (R := fun _ w => Inv none known w ∧
      w.intents.Working request.key marked.redemptionId) ?_ fun _ => ?_
    · refine Spec.modify ?_
      rintro w ⟨hinv, hworking, hguard, hnew⟩
      rw [hid]
      exact ⟨hinv.submit hnew hguard, hworking⟩
    · refine Spec.bind (R := fun answer w =>
        (∀ report, answer = .ok report → answers.redeem = .ok report) ∧
          (Inv none known w ∧ w.intents.Working request.key marked.redemptionId)) ?_
        fun answer => Spec.assume fun hanswer => ?_
      · refine Spec.attempt (R := fun _ w => Inv none known w ∧
          w.intents.Working request.key marked.redemptionId) ?_ ?_ fun _ _ _ h => h.1
        · refine Spec.await ?_ fun _ _ _ h => h
          intro report hreport w h
          exact ⟨fun report' hr => by cases hr; exact hreport, h⟩
        · exact fun _ _ w _ h => ⟨fun _ hr => (by cases hr), h⟩
      · cases answer with
        | error exc => exact markUnknown_legSpec rfl (.inl rfl)
        | ok report =>
            exact recordReport_legSpec fun hp =>
              record_of_pending hanswers (hanswer report rfl) hp

theorem intentFor_spec {answers : LegAnswers} {request : SettlementRequest} :
    Spec (Inv none known) (intentFor service answers position request)
      (fun found w => Inv none known w ∧
        ∀ intent, found = some intent → intent ∈ w.intents.rows ∧ intent.key = request.key)
      (fun _ => Inv none known) := by
  -- What either read returns is a row of the table it was read from.
  have hread : ∀ {f : World → Effect (Option RedemptionIntent)} {Q : _ → World → Prop}
      {E : Fault → World → Prop},
      (∀ w, Inv none known w → Spec (fun s => s = w) (f w) Q E) →
        Spec (Inv none known) (do let w ← get; f w) Q E := by
    intro f Q E hf
    refine Spec.bind (R := fun w s => Inv none known w ∧ s = w) ?_ fun w =>
      Spec.assume (hf w)
    exact Spec.get fun s hs => ⟨hs, rfl⟩
  have hsome : ∀ {w : World} {intent : RedemptionIntent}, Inv none known w →
      w.intents.lookup request.key = some intent →
      Spec (fun s => s = w) (pure (some intent) : Effect (Option RedemptionIntent))
        (fun found w => Inv none known w ∧
          ∀ intent, found = some intent → intent ∈ w.intents.rows ∧ intent.key = request.key)
        (fun _ => Inv none known) := by
    intro w intent hinv hlookup
    refine Spec.pure ?_
    rintro s rfl
    refine ⟨hinv, ?_⟩
    rintro intent' hintent
    cases hintent
    exact RedemptionTable.mem_of_lookup hlookup
  refine Spec.bind (Keeps.await answers.lookup) fun _ => hread fun w hinv => ?_
  cases hlookup : w.intents.lookup request.key with
  | some intent => exact hsome hinv hlookup
  | none =>
      refine Spec.conseq (P := Inv none known) ?_ (fun s hs => hs ▸ hinv) (fun _ _ h => h)
        fun _ _ h => h
      refine Spec.bind (Keeps.transact fun _ h => h.create _) fun _ =>
        Spec.bind (Keeps.await answers.reread) fun _ => hread fun w hinv => ?_
      cases hlookup : w.intents.lookup request.key with
      | some intent => exact hsome hinv hlookup
      | none =>
          refine Spec.conseq (P := Inv none known) ?_ (fun s hs => hs ▸ hinv) (fun _ _ h => h)
            fun _ _ h => h
          refine Spec.bind (manualReview_keeps _ _) fun _ => Spec.pure fun _ h => ⟨h, ?_⟩
          intro _ hsome
          cases hsome

theorem processRedemption_legSpec {answers : LegAnswers} {request : SettlementRequest}
    (hanswers : answers.leavesPending = false) :
    LegSpec known request.key (Inv none known)
      (processRedemption service answers position request) := by
  refine Spec.bind intentFor_spec fun found => ?_
  cases found with
  | none => exact Spec.pure fun _ h => h.1
  | some intent =>
      refine Spec.conseq (P := fun w => intent.key = request.key ∧
          (Inv none known w ∧ intent ∈ w.intents.rows)) ?_
        (fun w h => ⟨(h.2 intent rfl).2, h.1, (h.2 intent rfl).1⟩) (fun _ _ h => h)
        fun _ _ h => h
      refine Spec.assume fun hkey => ?_
      have hreconcile : intent.status ≠ .confirmed →
          LegSpec known request.key (fun w => Inv none known w ∧ intent ∈ w.intents.rows)
            (reconcileSubmitted service answers position intent) := by
        intro hstatus
        refine Spec.conseq reconcileSubmitted_legSpec ?_ (fun _ _ h => h) fun _ _ h => h
        exact fun w h => ⟨h.1, intent, h.2, rfl, hkey, hstatus⟩
      have hreview : ∀ reason,
          LegSpec known request.key (fun w => Inv none known w ∧ intent ∈ w.intents.rows) (do
            manualReview service answers.manualReview position reason
            pure false) := fun reason =>
        Spec.conseq review_legSpec (fun _ h => h.1) (fun _ _ h => h) fun _ _ h => h
      dsimp only
      cases hstatus : intent.status with
      | confirmed =>
          exact Spec.pure fun w h => h.1.learn ⟨intent, h.2, hkey, hstatus⟩
      | failed => exact hreview _
      | manualReview => exact hreview _
      | submitted => exact hreconcile (by rw [hstatus]; decide)
      | unknown => exact hreconcile (by rw [hstatus]; decide)
      | pending => exact submitRedemption_legSpec hkey hstatus hanswers

end Leg

/-! ## One pass -/

section Pass

variable {service : Service} {position : OpenPosition} {answers : PositionAnswers}

/-- A prepared request still names the intent of its leg. -/
theorem prepareRequest_confirmed {venue : String} {contracts : Dec} {request : SettlementRequest}
    (h : prepareRequest service position venue contracts = .ok request) {table : RedemptionTable}
    (hconfirmed : table.Confirmed request.key) : LegConfirmed table position venue contracts := by
  unfold prepareRequest at h
  split at h
  · next prepare raw _ hraw =>
      split at h
      · cases h
        exact ⟨raw, hraw, hconfirmed⟩
      · cases h
  · cases h

theorem prepareRequests_confirmed {first second : SettlementRequest}
    (h : prepareRequests service position = .ok (first, second)) {table : RedemptionTable}
    (hfirst : table.Confirmed first.key) (hsecond : table.Confirmed second.key) :
    BothConfirmed table position := by
  unfold prepareRequests at h
  cases ha : prepareRequest service position position.market.venueALabel
      position.polymarketContracts with
  | error reason =>
      rw [ha] at h
      cases h
  | ok a =>
      rw [ha] at h
      cases hb : prepareRequest service position position.market.venueBLabel
          position.predictFunContracts with
      | error reason =>
          rw [hb] at h
          cases h
      | ok b =>
          rw [hb] at h
          cases h
          exact ⟨prepareRequest_confirmed ha hfirst, prepareRequest_confirmed hb hsecond⟩

/-- The removal of a position whose two intents are known to be CONFIRMED. -/
theorem removeConfirmed_keeps {first second : SettlementRequest} {event : AuditEvent}
    (hboth : ∀ table : RedemptionTable, table.Confirmed first.key → table.Confirmed second.key →
      BothConfirmed table position) :
    Keeps (Inv none [second.key, first.key]) (do
      transact answers.audit fun w => { w with audits := w.audits ++ [event] }
      removePosition answers position) := by
  refine Keeps.bind (Keeps.transact fun _ ⟨h1, h2, h3, h4⟩ => ⟨h1, h2, h3, h4⟩) fun _ => ?_
  refine Keeps.bind (Keeps.transact ?_) fun _ =>
    Keeps.modify fun _ ⟨h1, h2, h3, h4⟩ => ⟨h1, h2, h3, h4⟩
  rintro w ⟨h1, h2, h3, h4⟩
  refine ⟨h1, h2, h3, ?_⟩
  intro entry hentry
  rcases List.mem_append.mp hentry with hold | hlast
  · exact h4 entry hold
  · rw [List.mem_singleton.mp hlast]
    exact hboth w.intents (h3 first.key (by simp)) (h3 second.key (by simp))

/-- The position is removed only over the two rows the legs found or made CONFIRMED. -/
theorem redeemBoth_keeps {first second : SettlementRequest}
    (hboth : ∀ table : RedemptionTable, table.Confirmed first.key → table.Confirmed second.key →
      BothConfirmed table position)
    (hfirst : answers.first.leavesPending = false)
    (hsecond : answers.second.leavesPending = false) :
    Keeps (Inv none []) (redeemBoth service answers position first second) := by
  have hforget : ∀ {α : Type} {known : List RedemptionKey} {m : Effect α},
      Keeps (Inv none known) m →
        Spec (Inv none known) m (fun _ => Inv none []) (fun _ => Inv none []) := fun h =>
    h.conseq (fun _ h => h) (fun _ _ h => h.forget) fun _ _ h => h.forget
  refine Spec.bind (processRedemption_legSpec hfirst) fun firstConfirmed => ?_
  split
  · exact hforget (Keeps.pure _)
  · refine Spec.bind (R := fun secondConfirmed => Inv none
        (bif secondConfirmed then second.key :: (bif firstConfirmed then [first.key] else [])
          else (bif firstConfirmed then [first.key] else []))) ?_ fun secondConfirmed => ?_
    · exact (processRedemption_legSpec hsecond).conseq (fun _ h => h) (fun _ _ h => h)
        fun _ _ h => h.forget
    · split
      · exact hforget (Keeps.pure _)
      · split
        · next hconfirmed =>
            obtain ⟨rfl, rfl⟩ := hconfirmed
            exact hforget (removeConfirmed_keeps hboth)
        · exact hforget (Keeps.pure _)

/-- A position that is not due is not touched; one that is goes through `redeemBoth` at most. -/
theorem reconcilePosition_keeps (hfirst : answers.first.leavesPending = false)
    (hsecond : answers.second.leavesPending = false) :
    Keeps (Inv none []) (reconcilePosition service answers position) := by
  unfold reconcilePosition
  refine Keeps.ite (manualReview_keeps _ _) ?_
  cases hrequests : prepareRequests service position with
  | error reason => exact manualReview_keeps _ _
  | ok requests =>
      obtain ⟨first, second⟩ := requests
      have hstatuses : Keeps (Inv none []) (settlementStatuses answers) :=
        Keeps.bind (Keeps.await _) fun _ => Keeps.bind (Keeps.await _) fun _ => Keeps.pure _
      refine Keeps.bind (Keeps.attempt hstatuses) fun statuses => ?_
      cases statuses with
      | error exc => exact manualReview_keeps _ _
      | ok pair =>
          refine Keeps.ite (Keeps.pure _) (Keeps.ite (manualReview_keeps _ _) ?_)
          exact redeemBoth_keeps (fun _ => prepareRequests_confirmed hrequests) hfirst hsecond

end Pass

/-! ## Every run -/

/-- One step keeps the invariant. -/
theorem inv_step {service : Service} {w : World} {a : Action} {w' : World}
    (hinv : Inv none [] w) (ha : NeverLeavesPending w a) (hstep : step service w a = some w') :
    Inv none [] w' := by
  cases a with
  | tradeOn positions ledger =>
      cases hstep
      exact ⟨hinv.redeemed_nodup, hinv.redeemed_guarded, hinv.known_confirmed,
        hinv.removed_confirmed⟩
  | runOnce now answers =>
      have hpass : Keeps (Inv none []) (reconcileAll service now answers w.ledger.values) := by
        refine Keeps.forM _ ?_
        rintro ⟨position, i⟩ hmem
        have hi : i < w.ledger.values.length := (List.mem_zipIdx' hmem).1
        exact Keeps.ite (reconcilePosition_keeps (ha i hi).1 (ha i hi).2) (Keeps.pure _)
      cases hstep
      exact Spec.finalState hpass hinv

/-- **At-most-once redemption.**  In every run of passes, each ended by its environment at any
await, over any ledgers, in which no submitted row is left PENDING: no redemption is submitted
twice, and every position that was removed had the intents of both its venues CONFIRMED. -/
theorem redemption_at_most_once {service : Service} {intents : RedemptionTable}
    {positions : Lib.Dict String OpenPosition} {ledger : PositionLedger} {hist : List World}
    {w : World}
    (hrun : Run (step service) NeverLeavesPending (World.initial intents positions ledger) hist w) :
    (∀ key, w.redeemed.count key ≤ 1) ∧
      ∀ position table, (position, table) ∈ w.removed → BothConfirmed table position := by
  have hinv : Inv none [] w :=
    hrun.state_invariant (Inv none []) (inv_initial intents positions ledger) fun _ _ _ hinv ha h =>
      inv_step hinv ha h
  refine ⟨fun key => List.nodup_iff_count_le_one.mp hinv.redeemed_nodup key, ?_⟩
  intro position table hmem
  exact hinv.removed_confirmed (position, table) hmem

/-! ## A settled position, and a PENDING report -/

/-- A service whose two clients take a request as it is. -/
def plainService : Service where
  repository := true
  clients := fun _ => some fun request => .ok request.collateralToken

/-- An expired Polymarket / Predict.fun position. -/
def expiredPosition : OpenPosition where
  market :=
    { symbol := "BTC"
      targetLabel := "100k"
      polymarketTokenId := "1"
      polymarketSide := .yes
      predictFunTokenId := "2"
      predictFunSide := .no
      expiresAt := some 0
      conditionId := some "0xc"
      predictFunMarketId := some "7" }
  polymarketContracts := 10
  polymarketEntryPrice := 1 / 2
  predictFunContracts := 10
  predictFunEntryPrice := 1 / 4
  polymarketOrderId := "0xa"
  predictFunOrderId := "0xb"

/-- The ledger that holds this position alone. -/
def expiredLedger : PositionLedger := PositionLedger.add Lib.Dict.empty expiredPosition

/-- A manual review without failures. -/
def reviewDone : ManualReviewAnswers where
  savePosition := .done
  audit := .done
  pause := .ok ()
  sendHtml := .ok ()

/-- A leg without failures: the submission is reported as `report` and found CONFIRMED later. -/
def legDone (redemptionId : String) (report : RedemptionReport) : LegAnswers where
  settlementStatus := .ok .resolved
  lookup := .ok ()
  redemptionId := redemptionId
  createdAt := 0
  create := .done
  reread := .ok ()
  reconcile := .ok { status := .confirmed, txHash := report.txHash }
  checkedAt := 0
  confirm := .done
  marker := .done
  redeem := .ok report
  record := .done
  markUnknown := .done
  writtenAt := 0
  manualReview := reviewDone
  isPaused := false

/-- A position without failures. -/
def positionDone (first : LegAnswers) : PositionAnswers where
  first := first
  second := legDone "r2" { status := .submitted, txHash := some "0x2" }
  manualReview := reviewDone
  audit := .done
  removePosition := .done

/-- One pass submits both redemptions and the next one confirms them and removes the position. -/
theorem redemption_at_most_once_settled :
    ∃ w hist, Run (step plainService) NeverLeavesPending
        (World.initial .empty .empty expiredLedger) hist w ∧
      w.redeemed.length = 2 ∧ w.removed.length = 1 ∧
      (∀ key, w.redeemed.count key ≤ 1) ∧
      ∀ position table, (position, table) ∈ w.removed → BothConfirmed table position := by
  let answers : ℕ → PositionAnswers := fun _ =>
    positionDone (legDone "r1" { status := .submitted, txHash := some "0x1" })
  have hexec : (exec (step plainService) NeverLeavesPending
      (World.initial .empty .empty expiredLedger) [.runOnce 1 answers, .runOnce 2 answers]).map
        (fun w => (w.redeemed.length, w.removed.length)) = some (2, 1) := by decide +kernel
  obtain ⟨w, hw, hlengths⟩ := Option.map_eq_some_iff.mp hexec
  obtain ⟨hist, hrun⟩ := Run.of_exec hw
  exact ⟨w, hist, hrun, congrArg Prod.fst hlengths, congrArg Prod.snd hlengths,
    redemption_at_most_once hrun⟩

/-- A PENDING report is written, the process dies before it is marked UNKNOWN, and the pass after
the restart submits the same redemption again. -/
theorem pending_report_redeems_twice :
    ∃ w hist, Run (step plainService) anyAction
        (World.initial .empty .empty expiredLedger) hist w ∧
      w.redeemed.count ⟨positionKey expiredPosition.market, "Polymarket", "0xc"⟩ = 2 := by
  let crashed : ℕ → PositionAnswers := fun _ =>
    positionDone { legDone "r1" { status := .pending } with markUnknown := .failed false .crash }
  have hexec : (exec (step plainService) anyAction (World.initial .empty .empty expiredLedger)
      [.runOnce 1 crashed, .tradeOn .empty expiredLedger, .runOnce 2 crashed]).map
        (fun w => w.redeemed.count ⟨positionKey expiredPosition.market, "Polymarket", "0xc"⟩) =
      some 2 := by decide +kernel
  obtain ⟨w, hw, hcount⟩ := Option.map_eq_some_iff.mp hexec
  obtain ⟨hist, hrun⟩ := Run.of_exec hw
  exact ⟨w, hist, hrun, hcount⟩

end ArbitrageEngine.Settlement
