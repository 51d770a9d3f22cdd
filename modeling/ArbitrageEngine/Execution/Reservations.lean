/-
# ArbitrageEngine.Execution.Reservations -- capital is reserved and released in full

What the reservations say in every state of the machine: they are what the entries under way have
reserved, unless a pause cleared it.  Two saves stand between a reservation and its release, and the
source does not survive the failure of either: an entry whose reservation could not be saved leaves
the reservation behind, and an entry whose release could not be saved leaves its market pending.
-/
import ArbitrageEngine.Execution.SignalHandling
import ArbitrageEngine.Lib.ListSums

namespace ArbitrageEngine.Execution.SignalHandling

open Lib Lib.Runs

/-! ## One venue -/

theorem sub_nonpos_of_le {a b : Dec} (h : a ≤ b) : Dec.sub a b ≤ 0 := by
  have hle : Dec.ctx (a - b) ≤ Dec.ctx 0 := Dec.ctx_mono (sub_nonpos.mpr h)
  rwa [Dec.ctx_zero] at hle

/-- A release of at least what is reserved leaves nothing. -/
theorem reserved_release_eq_zero {balances : Balances} {label : String} {amount : Dec}
    (h : balances.reserved label ≤ amount) :
    (balances.releaseReservation label amount).reserved label = 0 := by
  rw [Balances.reserved_releaseReservation_self, max_eq_left (sub_nonpos_of_le h),
    if_pos Dec.epsilon_pos.le]

/-- What is added to an empty reservation is the reservation. -/
theorem reserved_add_of_zero {balances : Balances} (leg : LegCapital)
    (h : balances.reserved leg.venueLabel = 0) :
    (balances.addReservation leg.venueLabel leg.required).reserved leg.venueLabel =
      leg.required := by
  have hexact : Dec.ctx leg.required = leg.required := Dec.exact_ctx _
  rw [Balances.reserved_addReservation_self, h]
  simpa [Dec.add] using hexact

theorem exact_effectiveBalance (balances : Balances) (label : String) :
    Dec.Exact (balances.effectiveBalance label) := by
  unfold Balances.effectiveBalance
  rcases max_choice 0 (Dec.sub (balances.cached label) (balances.debits label)) with h | h
  · rw [h]
    exact Dec.ctx_zero
  · rw [h]
    exact Dec.exact_ctx _

/-- Where nothing is reserved, all of the effective balance is available. -/
theorem available_of_zero {balances : Balances} {label : String}
    (h : balances.reserved label = 0) :
    balances.available label = balances.effectiveBalance label := by
  have hexact : Dec.ctx (balances.effectiveBalance label) = balances.effectiveBalance label :=
    exact_effectiveBalance balances label
  simpa [Balances.available, Dec.sub, h] using hexact

/-! ## What the entries hold -/

theorem venueLabels_ne (route : ExecutionRoute) : route.venueLabels.1 ≠ route.venueLabels.2 := by
  cases route <;> decide

theorem required_nonneg_first (entry : PreparedEntry) (labels : String × String) :
    0 ≤ (entry.signal.firstCapital labels).required :=
  Dec.add_nonneg entry.capital_nonneg.1 entry.fee_nonneg.1

theorem required_nonneg_second (entry : PreparedEntry) (labels : String × String) :
    0 ≤ (entry.signal.secondCapital labels).required :=
  Dec.add_nonneg entry.capital_nonneg.2 entry.fee_nonneg.2

namespace Task

variable (task : Task) (entry : PreparedEntry)

theorem requiredAt_first :
    task.requiredAt entry task.route.venueLabels.1 =
      (entry.signal.firstCapital task.route.venueLabels).required := by
  simp [requiredAt]

theorem requiredAt_second :
    task.requiredAt entry task.route.venueLabels.2 =
      (entry.signal.secondCapital task.route.venueLabels).required := by
  simp [requiredAt, venueLabels_ne task.route]

theorem requiredAt_of_ne {label : String} (hfirst : label ≠ task.route.venueLabels.1)
    (hsecond : label ≠ task.route.venueLabels.2) : task.requiredAt entry label = 0 := by
  simp [requiredAt, hfirst.symm, hsecond.symm]

theorem requiredAt_nonneg (label : String) : 0 ≤ task.requiredAt entry label := by
  unfold requiredAt
  dsimp only
  split
  · exact required_nonneg_first _ _
  · split
    · exact required_nonneg_second _ _
    · exact le_rfl

theorem heldAt_nonneg (label : String) : 0 ≤ task.heldAt label := by
  unfold heldAt
  split
  · exact task.requiredAt_nonneg _ _
  · exact task.requiredAt_nonneg _ _
  · exact le_rfl

theorem heldAt_cleared (hphase : task.phase.locksCapacity = false) (label : String) :
    task.cleared.heldAt label = 0 := by
  unfold cleared heldAt
  cases hp : task.phase with
  | reserving entry => simp [hp, Phase.locksCapacity] at hphase
  | holding entry kept => rfl
  | admitted | prepared entry | unsaved entry | leaving entry => simp [hp]

end Task

/-! ## Reserving and releasing a signal -/

section Signal

variable {balances balances' : Balances} {task : Task} {entry : PreparedEntry}

/-- A granted reservation, where nothing was reserved: the entry holds what it needs, and each venue
has it. -/
theorem reserved_of_granted (hzero : ∀ label, balances.reserved label = 0)
    (h : balances.reserveSignalCapital (entry.signal.firstCapital task.route.venueLabels)
      (entry.signal.secondCapital task.route.venueLabels) = some balances') :
    (∀ label, balances'.reserved label = task.requiredAt entry label) ∧
      ∀ leg ∈ task.legs entry,
        balances'.reserved leg.venueLabel ≤ balances'.effectiveBalance leg.venueLabel := by
  have hne := venueLabels_ne task.route
  obtain ⟨hroom, h⟩ := Option.ite_none_left_eq_some.mp h
  obtain ⟨hfirst, hsecond⟩ := not_or.mp hroom
  rw [not_lt, available_of_zero (hzero _)] at hfirst hsecond
  cases h
  have hreserved : ∀ label, (((balances.addReservation task.route.venueLabels.1
      (entry.signal.firstCapital task.route.venueLabels).required).addReservation
        task.route.venueLabels.2 (entry.signal.secondCapital
          task.route.venueLabels).required).reserved label) = task.requiredAt entry label := by
    intro label
    by_cases hsecondLabel : label = task.route.venueLabels.2
    · subst hsecondLabel
      rw [task.requiredAt_second]
      refine reserved_add_of_zero (entry.signal.secondCapital task.route.venueLabels) ?_
      exact (Balances.reserved_addReservation_of_ne _ _ _ hne.symm).trans (hzero _)
    · rw [Balances.reserved_addReservation_of_ne _ _ _ hsecondLabel]
      by_cases hfirstLabel : label = task.route.venueLabels.1
      · subst hfirstLabel
        rw [task.requiredAt_first]
        exact reserved_add_of_zero (entry.signal.firstCapital task.route.venueLabels) (hzero _)
      · rw [Balances.reserved_addReservation_of_ne _ _ _ hfirstLabel,
          task.requiredAt_of_ne entry hfirstLabel hsecondLabel]
        exact hzero label
  refine ⟨hreserved, ?_⟩
  intro leg hleg
  rcases List.mem_pair.mp hleg with rfl | rfl
  · refine (hreserved _).trans_le ?_
    exact (task.requiredAt_first entry).trans_le hfirst
  · refine (hreserved _).trans_le ?_
    exact (task.requiredAt_second entry).trans_le hsecond

/-- A release leaves nothing of what the entry holds, cleared or not. -/
theorem reserved_of_released (h : ∀ label, balances.reserved label ≤ task.requiredAt entry label)
    (hnonneg : ∀ label, 0 ≤ balances.reserved label) (label : String) :
    (balances.releaseSignalCapital (entry.signal.firstCapital task.route.venueLabels)
      (entry.signal.secondCapital task.route.venueLabels)).reserved label = 0 := by
  have hne := venueLabels_ne task.route
  unfold Balances.releaseSignalCapital
  by_cases hsecondLabel : label = task.route.venueLabels.2
  · subst hsecondLabel
    refine reserved_release_eq_zero ?_
    refine (Balances.reserved_releaseReservation_of_ne _ _ _ hne.symm).trans_le ?_
    exact (h _).trans_eq (task.requiredAt_second entry)
  · refine (Balances.reserved_releaseReservation_of_ne _ _ _ hsecondLabel).trans ?_
    by_cases hfirstLabel : label = task.route.venueLabels.1
    · subst hfirstLabel
      exact reserved_release_eq_zero ((h _).trans_eq (task.requiredAt_first entry))
    · refine (Balances.reserved_releaseReservation_of_ne _ _ _ hfirstLabel).trans ?_
      have hzero := task.requiredAt_of_ne entry hfirstLabel hsecondLabel
      exact le_antisymm ((h label).trans_eq hzero) (hnonneg label)

end Signal

/-! ## The property -/

namespace Engine

/-- What the entries under way have reserved on a venue. -/
def held (engine : Engine) (label : String) : Dec :=
  (engine.tasks.map fun task => task.heldAt label).sum

/-- **The reservations are in order**: not negative, at least what the entries under way have
reserved, and gone with the last of them, as are the pending markets. -/
structure Accounted (engine : Engine) : Prop where
  nonneg : ∀ label, 0 ≤ engine.balances.reserved label
  kept : ∀ label, engine.held label ≤ engine.balances.reserved label
  idle : engine.tasks = [] →
    (∀ label, engine.balances.reserved label = 0) ∧ engine.pendingMarkets = ∅

/-- A call that has just reserved: on both its venues the reservations fit the effective balance. -/
def Granted (engine : Engine) (i : ℕ) : Prop :=
  ∃ task entry, engine.tasks[i]? = some task ∧ task.phase = .reserving entry ∧
    ∀ leg ∈ task.legs entry,
      engine.balances.reserved leg.venueLabel ≤ engine.balances.effectiveBalance leg.venueLabel

/-- The condition: no save of the balance state fails inside a reservation or a release. -/
def SavesSucceed (_ : Engine) : Event → Prop
  | .reservationSaved _ saved | .releaseSaved _ saved => saved = true
  | _ => True

/-! ## The invariant -/

variable {settings : Settings} {engine engine' : Engine}

/-- The reservations are what is held, and a pending market belongs to a call. -/
structure Sound (settings : Settings) (engine : Engine) : Prop where
  phases : Phases settings engine
  reserved_eq : ∀ label, engine.balances.reserved label = engine.held label
  pending : ∀ marketKey ∈ engine.pendingMarkets, ∃ task ∈ engine.tasks, task.marketKey = marketKey

theorem held_nonneg (engine : Engine) (label : String) : 0 ≤ engine.held label := by
  refine List.sum_nonneg ?_
  simp only [List.mem_map, forall_exists_index, and_imp, forall_apply_eq_imp_iff₂]
  exact fun task _ => task.heldAt_nonneg label

theorem Sound.accounted (h : engine.Sound settings) : engine.Accounted where
  nonneg := fun label => (held_nonneg engine label).trans_eq (h.reserved_eq label).symm
  kept := fun label => (h.reserved_eq label).ge
  idle := by
    intro hidle
    constructor
    · intro label
      rw [h.reserved_eq, held, hidle]
      rfl
    · refine Finset.eq_empty_of_forall_notMem fun marketKey hpending => ?_
      obtain ⟨task, htask, _⟩ := h.pending marketKey hpending
      simp [hidle] at htask

theorem sound_start (ledger : PositionLedger) (balanceCache debits : Lib.Dict String Dec) :
    (start ledger balanceCache debits).Sound settings where
  phases := phases_start ledger balanceCache debits
  reserved_eq := fun _ => rfl
  pending := by simp [start]

/-- The only call, and what it holds, is all there is. -/
theorem held_of_tasks_eq {task : Task} (h : engine.tasks = [task]) (label : String) :
    engine.held label = task.heldAt label := by
  simp [held, h]

/-- What a call on its own turns into. -/
theorem Sound.goOn {i : ℕ} {task : Task} {phase : Phase} {balances : Balances}
    (h : engine.Sound settings) (htask : engine.tasks[i]? = some task)
    (htasks : engine.tasks = [task]) (hfunded : settings.submitsOrders = true)
    (hreserved : ∀ label, balances.reserved label = { task with phase }.heldAt label) :
    ({ engine with balances }.goOn i task phase).Sound settings := by
  obtain ⟨hi, _⟩ := List.getElem?_eq_some_iff.mp htask
  have hzero : i = 0 := by
    rw [htasks, List.length_singleton] at hi
    omega
  subst hzero
  have hone : ({ engine with balances }.goOn 0 task phase).tasks = [{ task with phase }] := by
    simp [Engine.goOn, htasks]
  refine ⟨h.phases.goOn 0 task phase hfunded balances, ?_, ?_⟩
  · intro label
    rw [held_of_tasks_eq hone]
    exact hreserved label
  · intro marketKey hpending
    obtain ⟨before, hbefore, hkey⟩ := h.pending marketKey hpending
    rw [htasks, List.mem_singleton] at hbefore
    exact ⟨_, hone ▸ List.mem_singleton_self _, hbefore ▸ hkey⟩

/-- A call that holds nothing ends, and its market is discarded. -/
theorem Sound.finish {i : ℕ} {task : Task} (h : engine.Sound settings)
    (htask : engine.tasks[i]? = some task) (hheld : ∀ label, task.heldAt label = 0) :
    ((engine.discard task.marketKey).finish i).Sound settings where
  phases := h.phases.finish rfl
  reserved_eq := by
    intro label
    have hsum := sum_map_eraseIdx (fun task : Task => task.heldAt label) htask
    rw [hheld label, sub_zero] at hsum
    exact (h.reserved_eq label).trans hsum.symm
  pending := by
    intro marketKey hpending
    obtain ⟨hne, hpending⟩ := Finset.mem_erase.mp hpending
    obtain ⟨other, hother, hkey⟩ := h.pending marketKey hpending
    obtain ⟨j, hj⟩ := List.mem_iff_getElem?.mp hother
    -- The other call is not the one that ends: its market is another one.
    have hji : j ≠ i := by
      rintro rfl
      rw [hj, Option.some_inj] at htask
      exact hne (htask ▸ hkey.symm)
    exact ⟨other, List.mem_eraseIdx_iff_getElem?.mpr ⟨j, hji, hj⟩, hkey⟩

/-- Nothing was reserved before a reservation, and the entry's capital is after it. -/
theorem Sound.reserve {i : ℕ} {task : Task} {entry : PreparedEntry} {balances : Balances}
    (h : engine.Sound settings) (htask : engine.tasks[i]? = some task)
    (hphase : task.phase = .prepared entry)
    (hreserve : engine.balances.reserveSignalCapital
      (entry.signal.firstCapital task.route.venueLabels)
      (entry.signal.secondCapital task.route.venueLabels) = some balances) :
    (∀ label, balances.reserved label = task.requiredAt entry label) ∧
      ∀ leg ∈ task.legs entry,
        balances.reserved leg.venueLabel ≤ balances.effectiveBalance leg.venueLabel := by
  have hne : task.phase ≠ .admitted := by simp [hphase]
  obtain ⟨_, htasks, _⟩ := h.phases.tasks_eq htask hne
  refine reserved_of_granted (fun label => ?_) hreserve
  rw [h.reserved_eq label, held_of_tasks_eq htasks, Task.heldAt, hphase]

/-- Every step whose save succeeds keeps the invariant. -/
theorem Sound.step {event : Event} (h : engine.Sound settings) (hok : SavesSucceed engine event)
    (hs : engine.Steps settings event engine') : engine'.Sound settings := by
  have hphases := h.phases.step hs
  cases hs with
  | @admitSignal route signal _ _ _ =>
      refine ⟨hphases, ?_, ?_⟩
      · intro label
        have hnew : (⟨route, signal, .admitted⟩ : Task).heldAt label = 0 := rfl
        rw [held, List.map_cons, List.sum_cons, hnew, zero_add]
        exact h.reserved_eq label
      · intro marketKey hpending
        rcases Finset.mem_insert.mp hpending with rfl | hpending
        · exact ⟨_, List.mem_cons_self, rfl⟩
        · obtain ⟨task, htask, hkey⟩ := h.pending marketKey hpending
          exact ⟨task, List.mem_cons_of_mem _ htask, hkey⟩
  | prepare htask hphase hfunded _ _ =>
      obtain ⟨htasks, _⟩ := h.phases.tasks_eq_of_funded hfunded htask
      refine h.goOn htask htasks hfunded fun label => ?_
      rw [h.reserved_eq label, held_of_tasks_eq htasks, Task.heldAt, hphase]
      rfl
  | @reserve i task entry balances htask hphase hreserve =>
      have hne : task.phase ≠ .admitted := by simp [hphase]
      obtain ⟨hfunded, htasks, _⟩ := h.phases.tasks_eq htask hne
      exact h.goOn htask htasks hfunded (h.reserve htask hphase hreserve).1
  | @reservationSaved i task entry saved htask hphase =>
      have hne : task.phase ≠ .admitted := by simp [hphase]
      obtain ⟨hfunded, htasks, _⟩ := h.phases.tasks_eq htask hne
      have hsaved : saved = true := hok
      subst hsaved
      refine h.goOn htask htasks hfunded fun label => ?_
      rw [h.reserved_eq label, held_of_tasks_eq htasks, Task.heldAt, hphase]
      rfl
  | saveEntryPending _ _ | removeEntry _ _ | settle _ _ =>
      exact ⟨hphases, h.reserved_eq, h.pending⟩
  | giveUp htask hphase =>
      refine h.finish htask fun label => ?_
      unfold Task.heldAt
      split
      · next hp => simp [hp, Phase.holdsCapital] at hphase
      · next hp => simp [hp, Phase.holdsCapital] at hphase
      · rfl
  | @release i task entry kept htask hphase =>
      have hne : task.phase ≠ .admitted := by simp [hphase]
      obtain ⟨hfunded, htasks, _⟩ := h.phases.tasks_eq htask hne
      have hle : ∀ label, engine.balances.reserved label ≤ task.requiredAt entry label := by
        intro label
        rw [h.reserved_eq label, held_of_tasks_eq htasks, Task.heldAt, hphase]
        cases kept
        · exact task.requiredAt_nonneg entry label
        · exact le_rfl
      exact h.goOn htask htasks hfunded (reserved_of_released hle h.accounted.nonneg)
  | releaseSaved htask hphase =>
      have hsaved : _ = true := hok
      subst hsaved
      exact h.finish htask fun label => by rw [Task.heldAt, hphase]
  | clear hfree =>
      refine ⟨hphases, ?_, ?_⟩
      · intro label
        refine Eq.symm (List.sum_eq_zero ?_)
        intro x hx
        obtain ⟨task', htask', rfl⟩ := List.mem_map.mp hx
        obtain ⟨task, htask, rfl⟩ := List.mem_map.mp htask'
        have hlock := List.all_eq_true.mp hfree task htask
        exact task.heldAt_cleared (by simpa using hlock) label
      · simp [cleared]
  | refresh =>
      refine ⟨hphases, fun label => ?_, h.pending⟩
      exact (Balances.reserved_applyBalanceRefresh _ _ _ _).trans (h.reserved_eq label)
  | debit | exitUpdate _ _ _ | exitRemove => exact ⟨hphases, h.reserved_eq, h.pending⟩

/-- **Capital is reserved within the balance and released in full**, in every run in which no save
of the balance state fails. -/
theorem reservations_accounted {ledger : PositionLedger}
    {balanceCache debits : Lib.Dict String Dec} {hist : List Engine}
    (h : Run (Engine.step settings) SavesSucceed (start ledger balanceCache debits) hist engine) :
    engine.Accounted ∧
      ∀ i engine', engine.step settings (.reserve i) = some engine' → engine'.Granted i := by
  have hsound : engine.Sound settings :=
    h.state_invariant (Engine.Sound settings) (sound_start ledger balanceCache debits)
      fun _ _ _ hsound hok hstep => hsound.step hok (steps_of_step hstep)
  refine ⟨hsound.accounted, fun i engine' hstep => ?_⟩
  cases steps_of_step hstep with
  | @reserve i task entry balances htask hphase hreserve =>
      obtain ⟨hi, _⟩ := List.getElem?_eq_some_iff.mp htask
      exact ⟨_, entry, List.getElem?_set_self hi, rfl, (hsound.reserve htask hphase hreserve).2⟩

/-! ## Runs -/

/-- A market of Polymarket and Predict.fun. -/
def sampleMarket : MarketSpec where
  symbol := "m"
  targetLabel := "t"
  polymarketTokenId := "p"
  polymarketSide := .yes
  predictFunTokenId := "q"
  predictFunSide := .no

/-- Ten contracts for 4 and 5 dollars. -/
def samplePlan : PositionPlan where
  polymarketContracts := 10
  polymarketCapitalUsd := 4
  predictFunContracts := 10
  predictFunCapitalUsd := 5
  totalCostUsd := 9

def sampleSignal : EntrySignal where
  market := sampleMarket
  plan := samplePlan
  fixedChainCostUsd := 0
  polymarketPrice := 2 / 5
  predictFunPrice := 1 / 2

def sampleEntry : PreparedEntry where
  signal := sampleSignal
  allInCostUsd := 9
  capital_nonneg := by decide +kernel
  fee_nonneg := by decide +kernel

def sampleSettings : Settings where
  limits :=
    { maxOpenPositions := 5
      maxTotalNotionalUsd := 500
      maxMarketExposureUsd := 100
      maxVenueExposureUsd := 300
      maxUnresolvedExposureUsd := 0 }
  submitsOrders := true

/-- Both balances are read, and a signal is handled up to the reservation of its capital. -/
def upToReservation : List Event :=
  [.refresh "Polymarket" 100, .refresh "Predict.fun" 100, .admitSignal .polymarketPredict sampleSignal,
    .prepare 0 sampleEntry, .reserve 0]

instance : ∀ (engine : Engine) (event : Event), Decidable (SavesSucceed engine event)
  | _, .reservationSaved _ saved | _, .releaseSaved _ saved =>
      inferInstanceAs (Decidable (saved = true))
  | _, .admitSignal _ _ | _, .prepare _ _ | _, .reserve _ | _, .saveEntryPending _ | _, .removeEntry _
  | _, .settle _ _ | _, .giveUp _ | _, .release _ | _, .clear | _, .refresh _ _ | _, .debit _ _
  | _, .exitUpdate _ _ | _, .exitRemove _ => inferInstanceAs (Decidable True)

/-- A pause clears the reservation of an entry, which releases it all the same. -/
theorem reservations_accounted_pause : ∃ hist engine,
    Run (Engine.step sampleSettings) SavesSucceed (start .empty .empty .empty) hist engine ∧
      engine.tasks = [] ∧ engine.Accounted := by
  have hsome : (exec (Engine.step sampleSettings) SavesSucceed (start .empty .empty .empty)
      (upToReservation ++ [.reservationSaved 0 true, .clear, .release 0, .releaseSaved 0 true])).any
      (fun engine => engine.tasks.isEmpty) = true := by decide +kernel
  obtain ⟨engine, hexec, hidle⟩ := (Option.any_eq_true _ _).mp hsome
  obtain ⟨hist, hrun⟩ := Run.of_exec hexec
  exact ⟨hist, engine, hrun, List.isEmpty_iff.mp hidle, (reservations_accounted hrun).1⟩

/-- **A failed save leaves a reservation, or a pending market, behind.** -/
theorem failed_saves_leave_capital :
    (∃ hist engine, Run (Engine.step sampleSettings) anyAction (start .empty .empty .empty) hist
        engine ∧ engine.tasks = [] ∧ engine.balances.reserved "Polymarket" = 4) ∧
      ∃ hist engine, Run (Engine.step sampleSettings) anyAction (start .empty .empty .empty) hist
        engine ∧ engine.tasks = [] ∧ "m" ∈ engine.pendingMarkets := by
  have hreserve : (exec (Engine.step sampleSettings) anyAction (start .empty .empty .empty)
      (upToReservation ++ [.reservationSaved 0 false, .giveUp 0])).any
      (fun engine => engine.tasks.isEmpty && decide (engine.balances.reserved "Polymarket" = 4)) =
        true := by decide +kernel
  have hrelease : (exec (Engine.step sampleSettings) anyAction (start .empty .empty .empty)
      (upToReservation ++ [.reservationSaved 0 true, .release 0, .releaseSaved 0 false])).any
      (fun engine => engine.tasks.isEmpty && decide ("m" ∈ engine.pendingMarkets)) =
        true := by decide +kernel
  constructor
  · obtain ⟨engine, hexec, h⟩ := (Option.any_eq_true _ _).mp hreserve
    obtain ⟨hist, hrun⟩ := Run.of_exec hexec
    obtain ⟨hidle, hleft⟩ := Bool.and_eq_true_iff.mp h
    exact ⟨hist, engine, hrun, List.isEmpty_iff.mp hidle, of_decide_eq_true hleft⟩
  · obtain ⟨engine, hexec, h⟩ := (Option.any_eq_true _ _).mp hrelease
    obtain ⟨hist, hrun⟩ := Run.of_exec hexec
    obtain ⟨hidle, hleft⟩ := Bool.and_eq_true_iff.mp h
    exact ⟨hist, engine, hrun, List.isEmpty_iff.mp hidle, of_decide_eq_true hleft⟩

end Engine

end ArbitrageEngine.Execution.SignalHandling
