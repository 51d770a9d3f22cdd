/-
# ArbitrageEngine.Engine.Selection -- when a cycle uses every slot

The loop that interleaves the routes has no check for progress, so it ends only if every route
delivers as many evaluations as it has slots.  A choice of `count` out of a window takes the
evaluations that come first and fills up with the rest of the window; what it leaves out are
evaluations whose targets an evaluation before them has.

`RoomForRepeated` says that there is room to leave these out.  Under it every call ends, after every
history, and what it returns is as the slots say.  Without room the call may never return.
-/
import ArbitrageEngine.Engine.Windows
import ArbitrageEngine.Lib.Runs
import Mathlib.Algebra.BigOperators.Group.Finset.Piecewise
import Mathlib.Algebra.Order.BigOperators.Group.Finset
import Mathlib.Data.List.Perm.Subperm

namespace ArbitrageEngine.Engine

open Lib.Loops Lib.Runs

/-! ## Routes -/

theorem nodup_routesOf (evaluations : List PlannedEvaluation) : (routesOf evaluations).Nodup := by
  induction evaluations with
  | nil => exact List.nodup_nil
  | cons evaluation rest ih =>
      refine List.nodup_cons.mpr ⟨?_, ih.filter _⟩
      simp

/-! ## Slots -/

/-- A grant stays below both limits and counts what it gives. -/
theorem grantSlots_spec (routeLimit count : ℕ) :
    ∀ weight slots allocated : ℕ, slots ≤ routeLimit → allocated < count →
      (grantSlots routeLimit count weight slots allocated).1 ≤ routeLimit ∧
        (grantSlots routeLimit count weight slots allocated).2 ≤ count ∧
        allocated ≤ (grantSlots routeLimit count weight slots allocated).2 ∧
        (grantSlots routeLimit count weight slots allocated).2 + slots =
          allocated + (grantSlots routeLimit count weight slots allocated).1 := by
  intro weight
  induction weight with
  | zero =>
      intro slots allocated hslots hallocated
      exact ⟨hslots, hallocated.le, le_rfl, rfl⟩
  | succ weight ih =>
      intro slots allocated hslots hallocated
      simp only [grantSlots]
      split
      · exact ⟨hslots, hallocated.le, le_rfl, rfl⟩
      · split
        · dsimp only
          omega
        · have h := ih (slots + 1) (allocated + 1) (by omega) (by omega)
          omega

/-- The slots add up, and no route has more than it can use. -/
structure Fair (limitOf : String → ℕ) (routes : List String) (count : ℕ)
    (allocation : Allocation) : Prop where
  sum : ∑ route ∈ routes.toFinset, allocation.slotsByRoute route = allocation.allocated
  le_limit : ∀ route, allocation.slotsByRoute route ≤ limitOf route
  le_count : allocation.allocated ≤ count

theorem sum_update_add {routes : Finset String} {route : String} (h : route ∈ routes)
    (f : String → ℕ) (value : ℕ) :
    ∑ r ∈ routes, Function.update f route value r + f route = ∑ r ∈ routes, f r + value := by
  rw [Finset.sum_update_of_mem h, Finset.sum_eq_add_sum_sdiff_singleton_of_mem h f]
  omega

variable {config : WindowConfig} {evaluations : List PlannedEvaluation} {count : ℕ}
  {routes : List String}

/-- Granting slots to one route keeps them fair. -/
theorem Fair.grant {allocation : Allocation} {limitOf : String → ℕ} {route : String} (weight : ℕ)
    (hroute : route ∈ routes) (hlt : allocation.allocated < count)
    (h : Fair limitOf routes count allocation) :
    Fair limitOf routes count
      ⟨Function.update allocation.slotsByRoute route
          (grantSlots (limitOf route) count weight (allocation.slotsByRoute route)
            allocation.allocated).1,
        (grantSlots (limitOf route) count weight (allocation.slotsByRoute route)
          allocation.allocated).2⟩ := by
  obtain ⟨hlimit, hcount, _, hgiven⟩ := grantSlots_spec (limitOf route) count weight _ _
    (h.le_limit route) hlt
  refine ⟨?_, fun other => ?_, hcount⟩
  · have hsum := sum_update_add (List.mem_toFinset.mpr hroute) allocation.slotsByRoute
      (grantSlots (limitOf route) count weight (allocation.slotsByRoute route)
        allocation.allocated).1
    rw [h.sum] at hsum
    show ∑ r ∈ routes.toFinset, Function.update allocation.slotsByRoute route _ r =
      (grantSlots (limitOf route) count weight (allocation.slotsByRoute route)
        allocation.allocated).2
    omega
  · by_cases hother : other = route
    · rw [hother]
      simpa using hlimit
    · simpa [hother] using h.le_limit other

/-- A pass keeps the slots fair and takes none back. -/
theorem allocationPass_fair (rest : List String) (hrest : rest ⊆ routes) :
    ∀ allocation : Allocation, allocation.allocated < count →
      Fair (routeLimit config evaluations) routes count allocation →
      Fair (routeLimit config evaluations) routes count
          (allocationPass config evaluations count rest allocation) ∧
        allocation.allocated ≤
          (allocationPass config evaluations count rest allocation).allocated := by
  induction rest with
  | nil => exact fun allocation _ hfair => ⟨hfair, le_rfl⟩
  | cons route rest ih =>
      intro allocation hlt hfair
      have hgranted := hfair.grant (config.marketEvaluationWeightFor route)
        (hrest List.mem_cons_self) hlt
      have hmono := (grantSlots_spec (routeLimit config evaluations route) count
        (config.marketEvaluationWeightFor route) _ _ (hfair.le_limit route) hlt).2.2.1
      simp only [allocationPass]
      split
      · exact ⟨hgranted, hmono⟩
      · next hcount =>
          have hstill := lt_of_le_of_ne hgranted.le_count hcount
          obtain ⟨hrestFair, hrestMono⟩ :=
            ih (List.subset_of_cons_subset hrest) _ hstill hgranted
          exact ⟨hrestFair, hmono.trans hrestMono⟩

/-- The slots are given out, in fair shares. -/
theorem allocation_ends (config : WindowConfig) (evaluations : List PlannedEvaluation)
    (routes : List String) (count fuel : ℕ) (hfuel : count < fuel) :
    ∃ allocation, loop (allocationStep config evaluations count routes) fuel ⟨fun _ => 0, 0⟩ =
        some allocation ∧ Fair (routeLimit config evaluations) routes count allocation := by
  refine loop_ends (Fair (routeLimit config evaluations) routes count)
    (fun allocation => count - allocation.allocated) ?_ ?_ fuel _ ?_ ?_
  · intro allocation next hfair hstep
    simp only [allocationStep] at hstep
    split at hstep
    · cases hstep
    · next hlt =>
        split at hstep
        · cases hstep
        · next hprogress =>
            cases hstep
            obtain ⟨hnext, hmono⟩ :=
              allocationPass_fair routes (List.Subset.refl _) allocation (by omega) hfair
            exact ⟨hnext, by have := hnext.le_count; omega⟩
  · intro allocation result hfair hstep
    simp only [allocationStep] at hstep
    split at hstep
    · cases hstep
      exact hfair
    · next hlt =>
        split at hstep
        · cases hstep
          exact (allocationPass_fair routes (List.Subset.refl _) allocation (by omega) hfair).1
        · cases hstep
  · exact ⟨by simp, fun _ => Nat.zero_le _, Nat.zero_le _⟩
  · simpa using hfuel

/-! ## Choosing from a window -/

/-- The exploration takes what is not excluded, in order. -/
theorem explore_fst (excluded : List Targets) (window : List PlannedEvaluation) (count : ℕ) :
    (explore excluded window count).1 =
      (window.filter fun evaluation => evaluation.targets ∉ excluded).take count := by
  fun_induction explore excluded window count with
  | case1 => simp
  | case2 => simp
  | case3 evaluation rest count h selected examined hrest ih => simpa [h, hrest] using ih
  | case4 evaluation rest count h selected examined hrest ih => simpa [h, hrest] using ih

theorem selectRotatingExploration_spec (route : String) (window : List PlannedEvaluation)
    (excluded : List Targets) (count : ℕ) (cursors : Lib.Dict String ℕ) :
    (selectRotatingExploration route window excluded count cursors).1.Subperm
        (others excluded window) ∧
      (selectRotatingExploration route window excluded count cursors).1.length =
        min count (others excluded window).length := by
  unfold selectRotatingExploration
  split
  · next h =>
      refine ⟨List.nil_subperm, ?_⟩
      rcases h with rfl | rfl
      · simp
      · simp [others]
  · dsimp only
    rw [explore_fst]
    set cursor := (cursors.get? route).getD 0 % window.length
    have hperm : (others excluded (window.drop cursor ++ window.take cursor)).Perm
        (others excluded window) := by
      refine List.Perm.filter _ ?_
      exact List.perm_append_comm.trans (List.Perm.of_eq (List.take_append_drop _ _))
    refine ⟨((List.take_sublist _ _).subperm).trans hperm.subperm, ?_⟩
    rw [List.length_take]
    exact congrArg (min count) hperm.length_eq

variable {s : Windows} {route : String} {now : ℚ} {window : List PlannedEvaluation}

/-- The recently executable part of a window. -/
def recentPart (config : WindowConfig) (s : Windows) (now : ℚ) (route : String)
    (window : List PlannedEvaluation) : List PlannedEvaluation :=
  window.filter fun evaluation => isRecent config s now route evaluation.targets

theorem recentExecutableCandidates_perm :
    (recentExecutableCandidates config s route window now).Perm
      (recentPart config s now route window) :=
  List.perm_insertionSort _ _

theorem priority_subperm :
    (priority config s route window count now).Subperm (recentPart config s now route window) :=
  (List.take_sublist _ _).subperm.trans recentExecutableCandidates_perm.subperm

theorem priority_length_le : (priority config s route window count now).length ≤ count := by
  simp only [priority, List.length_take]
  omega

/-- What is taken from the excluded part and what from the rest is taken from the window. -/
theorem append_others_subperm {first added : List PlannedEvaluation} (hfirst : first.Subperm window)
    (hadded : added.Subperm (others (first.map PlannedEvaluation.targets) window)) :
    (first ++ added).Subperm window := by
  set excluded := first.map PlannedEvaluation.targets with hexcluded
  have hall : first.filter (fun evaluation => evaluation.targets ∈ excluded) = first := by
    refine List.filter_eq_self.mpr fun evaluation h => decide_eq_true ?_
    rw [hexcluded]
    exact List.mem_map_of_mem h
  have hpart : first.Subperm (window.filter fun evaluation => evaluation.targets ∈ excluded) := by
    rw [← hall]
    exact hfirst.filter _
  have hsplit := List.filter_append_perm
    (fun evaluation : PlannedEvaluation => decide (evaluation.targets ∈ excluded)) window
  refine (hpart.append hadded).trans (List.Perm.subperm ?_)
  simpa [others] using hsplit

/-- A choice takes no evaluation of the window twice. -/
theorem prioritized_subperm (cursors : Lib.Dict String ℕ) :
    (prioritized config s route window count now cursors).1.Subperm window :=
  append_others_subperm (priority_subperm.trans List.filter_sublist.subperm)
    (selectRotatingExploration_spec route window _ _ cursors).1

theorem prioritized_length (cursors : Lib.Dict String ℕ) :
    (prioritized config s route window count now cursors).1.length =
      (priority config s route window count now).length +
        min (count - (priority config s route window count now).length)
          (others ((priority config s route window count now).map PlannedEvaluation.targets)
            window).length := by
  simp only [prioritized, List.length_append,
    (selectRotatingExploration_spec route window _ _ cursors).2]

theorem prioritized_length_le (cursors : Lib.Dict String ℕ) :
    (prioritized config s route window count now cursors).1.length ≤ count := by
  have hle : (priority config s route window count now).length ≤ count := priority_length_le
  rw [prioritized_length]
  omega

/-! ## Repeated targets -/

/-- How many evaluations have targets that an earlier one has. -/
def repeated (window : List PlannedEvaluation) : ℕ :=
  window.length - (window.map PlannedEvaluation.targets).toFinset.card

/-- What is repeated in a part is repeated in the whole. -/
theorem repeated_mono {part whole : List PlannedEvaluation} (h : part.Subperm whole) :
    repeated part ≤ repeated whole := by
  obtain ⟨middle, hpart, hmiddle⟩ := h
  obtain ⟨rest, hrest⟩ := hmiddle.exists_perm_append
  have hperm : whole.Perm (part ++ rest) := hrest.trans (hpart.append_right rest)
  have hlength : whole.length = part.length + rest.length := by
    rw [hperm.length_eq, List.length_append]
  have hcard : (whole.map PlannedEvaluation.targets).toFinset.card ≤
      (part.map PlannedEvaluation.targets).toFinset.card + rest.length := by
    rw [List.toFinset_eq_of_perm _ _ (hperm.map _), List.map_append, List.toFinset_append]
    refine (Finset.card_union_le _ _).trans (Nat.add_le_add_left ?_ _)
    exact (List.toFinset_card_le _).trans (List.length_map _).le
  unfold repeated
  omega

theorem repeated_lt (h : window ≠ []) : repeated window < window.length := by
  obtain ⟨evaluation, rest, rfl⟩ := List.exists_cons_of_ne_nil h
  have hpos : 0 < ((evaluation :: rest).map PlannedEvaluation.targets).toFinset.card :=
    Finset.card_pos.mpr ⟨evaluation.targets, by simp⟩
  have hlength : 0 < (evaluation :: rest).length := Nat.succ_pos _
  unfold repeated
  omega

theorem recentPart_repeated_lt (h : 0 < window.length) :
    repeated (recentPart config s now route window) < window.length :=
  (repeated_mono List.filter_sublist.subperm).trans_lt
    (repeated_lt (List.ne_nil_of_length_pos h))

/-- The evaluations of the window with the targets of its first ones are these and repeated ones. -/
theorem excluded_length_le (window first : List PlannedEvaluation) {P : PlannedEvaluation → Bool}
    (htargets : ∀ a b : PlannedEvaluation, a.targets = b.targets → P a = P b)
    (hfirst : ∀ evaluation ∈ first, P evaluation = true) :
    (window.filter fun evaluation =>
        evaluation.targets ∈ first.map PlannedEvaluation.targets).length ≤
      first.length + repeated (window.filter P) := by
  set excluded := window.filter fun evaluation =>
    evaluation.targets ∈ first.map PlannedEvaluation.targets with hexcluded
  have hsub : excluded.Subperm (window.filter P) := by
    refine List.Sublist.subperm (List.monotone_filter_right _ fun evaluation h => ?_)
    obtain ⟨leader, hleader, heq⟩ := List.mem_map.mp (of_decide_eq_true h)
    rw [← htargets _ _ heq]
    exact hfirst leader hleader
  have hmono := repeated_mono hsub
  have hcard : (excluded.map PlannedEvaluation.targets).toFinset.card ≤ first.length := by
    refine (Finset.card_le_card fun targets h => ?_).trans
      ((List.toFinset_card_le _).trans (List.length_map PlannedEvaluation.targets).le)
    obtain ⟨evaluation, hmem, rfl⟩ := List.mem_map.mp (List.mem_toFinset.mp h)
    exact List.mem_toFinset.mpr (of_decide_eq_true (List.mem_filter.mp hmem).2)
  unfold repeated at hmono
  unfold repeated
  omega

/-- A choice falls short of the window only by repeated recently executable evaluations. -/
theorem prioritized_length_ge (cursors : Lib.Dict String ℕ) :
    min count (window.length - repeated (recentPart config s now route window)) ≤
      (prioritized config s route window count now cursors).1.length := by
  set first := priority config s route window count now with hfirst
  have hexcluded := excluded_length_le window first
    (P := fun evaluation => isRecent config s now route evaluation.targets)
    (fun a b h => by simp only [h])
    (fun evaluation h => (List.mem_filter.mp (priority_subperm.subset h)).2)
  have hsplit := (List.filter_append_perm (fun evaluation : PlannedEvaluation =>
    decide (evaluation.targets ∈ first.map PlannedEvaluation.targets)) window).length_eq
  have hothers : (others (first.map PlannedEvaluation.targets) window).length =
      (window.filter fun evaluation : PlannedEvaluation =>
        !decide (evaluation.targets ∈ first.map PlannedEvaluation.targets)).length := by
    simp only [others, decide_not]
  rw [List.length_append] at hsplit
  rw [prioritized_length, ← hfirst, hothers]
  show min count (_ - repeated (window.filter _)) ≤ _
  omega

/-- Where is no choice between what comes first and the rest? -/
def OneKind (config : WindowConfig) (s : Windows) (now : ℚ) (route : String)
    (window : List PlannedEvaluation) : Prop :=
  config.mixesExploration route = false ∨ recentPart config s now route window = window

theorem OneKind.mono {part : List PlannedEvaluation} (h : OneKind config s now route window)
    (hpart : part.Subperm window) : OneKind config s now route part := by
  refine h.imp_right fun hall => List.filter_eq_self.mpr fun evaluation hmem => ?_
  exact List.filter_eq_self.mp hall evaluation (hpart.subset hmem)

/-- A choice without such a mixture is complete, whatever is repeated. -/
theorem prioritized_length_eq (cursors : Lib.Dict String ℕ)
    (h : OneKind config s now route window) (hcount : count ≤ window.length) :
    (prioritized config s route window count now cursors).1.length = count := by
  set recent := recentExecutableCandidates config s route window now with hrecent
  have hnothing : priority config s route window count now = [] →
      (prioritized config s route window count now cursors).1.length = count := by
    intro hfirst
    rw [prioritized_length, hfirst]
    simp [others, hcount]
  by_cases hreserve : recent ≠ [] ∧ recent.length < window.length
  · rcases h with hfraction | hall
    · -- Exploration takes every slot.
      apply hnothing
      have hceil := config.le_explorationCeil route count hfraction
      have hexploration : explorationCount config route count = count := by
        simp only [explorationCount, hfraction]
        simp
        omega
      simp [priority, ← hrecent, hreserve, hexploration]
    · have hlength : (recentExecutableCandidates config s route window now).length =
          (recentPart config s now route window).length := recentExecutableCandidates_perm.length_eq
      rw [hall, ← hrecent] at hlength
      omega
  · by_cases hempty : recent = []
    · apply hnothing
      simp only [priority, ← hrecent, hempty]
      simp
    · -- Everything comes first.
      have hall : window.length ≤ recent.length := by
        by_contra hlt
        exact hreserve ⟨hempty, by omega⟩
      have hfirst : (priority config s route window count now).length = count := by
        simp only [priority, ← hrecent, hreserve]
        simp
        omega
      rw [prioritized_length, hfirst]
      simp

/-! ## Held windows -/

theorem find?_perm_eraseP {P : PlannedEvaluation → Bool} {evaluation : PlannedEvaluation} :
    ∀ {evaluations : List PlannedEvaluation}, evaluations.find? P = some evaluation →
      (evaluation :: evaluations.eraseP P).Perm evaluations := by
  intro evaluations
  induction evaluations with
  | nil => intro h; cases h
  | cons head rest ih =>
      intro h
      by_cases hhead : P head = true
      · rw [List.find?_cons_of_pos hhead] at h
        cases h
        rw [List.eraseP_cons_of_pos hhead]
      · rw [List.find?_cons_of_neg hhead] at h
        rw [List.eraseP_cons_of_neg hhead]
        exact (List.Perm.swap _ _ _).trans ((ih h).cons head)

/-- Matched evaluations are evaluations of the plan, each at most once. -/
theorem matchKeys_subperm : ∀ (keys : List Targets) (evaluations held : List PlannedEvaluation),
    matchKeys keys evaluations = some held → held.Subperm evaluations := by
  intro keys
  induction keys with
  | nil =>
      intro evaluations held h
      cases h
      exact List.nil_subperm
  | cons key keys ih =>
      intro evaluations held h
      simp only [matchKeys, Option.bind_eq_bind, Option.bind_eq_some_iff] at h
      obtain ⟨matched, hmatched, rest, hrest, heq⟩ := h
      cases heq
      have htail := ih _ _ hrest
      exact ((List.subperm_cons matched).mpr htail).trans (find?_perm_eraseP hmatched).subperm

/-- What the windows know about the plan and about executable spreads stays. -/
def SameObservations (s s' : Windows) : Prop :=
  s'.planned = s.planned ∧ s'.recentExecutable = s.recentExecutable

/-- Every held window is a part of the plan. -/
def HeldOf (plan : List PlannedEvaluation) (s : Windows) : Prop :=
  ∀ route held, s.heldEvaluations.get? route = some held → held.Subperm (onRoute plan route)

theorem HeldOf.set {plan held : List PlannedEvaluation} (h : HeldOf plan s)
    (hheld : held.Subperm (onRoute plan route)) :
    HeldOf plan { s with heldEvaluations := s.heldEvaluations.set route held } := by
  intro other window hget
  rw [Lib.Dict.get?_set] at hget
  split at hget
  · next heq =>
      cases hget
      rw [heq]
      exact hheld
  · exact h other window hget

theorem HeldOf.erase {plan : List PlannedEvaluation} (h : HeldOf plan s) (route : String) :
    HeldOf plan { s with heldEvaluations := s.heldEvaluations.erase route } := by
  intro other window hget
  by_cases heq : other = route
  · rw [heq, Lib.Dict.get?_erase_self] at hget
    cases hget
  · rw [Lib.Dict.get?_erase_of_ne _ heq] at hget
    exact h other window hget

theorem HeldOf.congr {plan : List PlannedEvaluation} {s' : Windows} (h : HeldOf plan s)
    (heq : s'.heldEvaluations = s.heldEvaluations) : HeldOf plan s' := by
  intro route held hget
  rw [heq] at hget
  exact h route held hget

/-- A resized window is a part of the plan of the new size. -/
theorem resizeWindow_spec (s : Windows) (route : String) {held : List PlannedEvaluation}
    (expectedCount : ℕ)
    (hheld : held.Subperm window) :
    (∀ resized, (resizeWindow route window held expectedCount s).1 = some resized →
        resized.Subperm window ∧ resized.length = expectedCount) ∧
      SameObservations s (resizeWindow route window held expectedCount s).2 ∧
      (resizeWindow route window held expectedCount s).2.heldEvaluations = s.heldEvaluations := by
  unfold resizeWindow
  split
  · next hlength =>
      refine ⟨fun resized h => ?_, ⟨rfl, rfl⟩, rfl⟩
      cases h
      exact ⟨hheld, hlength⟩
  · dsimp only
    split
    · exact ⟨fun resized h => (by cases h), ⟨rfl, rfl⟩, rfl⟩
    · next hlength =>
        refine ⟨fun resized h => ?_, ⟨rfl, rfl⟩, rfl⟩
        cases h
        exact ⟨append_others_subperm ((List.take_sublist _ _).subperm.trans hheld)
          (selectRotatingExploration_spec route window _ _ _).1, not_not.mp hlength⟩

variable {plan : List PlannedEvaluation} {reuse : Bool}

/-- A restored window is a part of the plan of the expected size. -/
theorem restoreHeldRouteWindow_spec (now : ℚ) (expectedCount : ℕ) (hplan : HeldOf plan s)
    (hwindow : reuse = true → onRoute plan route = window) :
    (∀ held, (restoreHeldRouteWindow route window expectedCount now reuse s).1 = some held →
        held.Subperm window ∧ held.length = expectedCount) ∧
      SameObservations s (restoreHeldRouteWindow route window expectedCount now reuse s).2 ∧
      HeldOf plan (restoreHeldRouteWindow route window expectedCount now reuse s).2 := by
  unfold restoreHeldRouteWindow
  dsimp only
  split
  · exact ⟨fun held h => (by cases h), ⟨rfl, rfl⟩, hplan.erase route⟩
  · split
    · exact ⟨fun held h => (by cases h), ⟨rfl, rfl⟩, hplan⟩
    · next held hheld =>
        have hsub : held.Subperm window := by
          rcases Option.or_eq_some_iff.mp hheld with hcached | ⟨_, hmatched⟩
          · split at hcached
            · next hreuse =>
                rw [← hwindow hreuse]
                exact hplan route held hcached
            · cases hcached
          · exact matchKeys_subperm _ _ _ hmatched
        obtain ⟨hresized, hsame, hkept⟩ :=
          resizeWindow_spec s route expectedCount hsub
        split
        · next moved hresize =>
            rw [hresize] at hsame hkept
            exact ⟨fun held h => (by cases h), hsame, hplan.congr hkept⟩
        · next resized moved hresize =>
            rw [hresize] at hresized hsame hkept
            refine ⟨fun held h => ?_, ?_, ?_⟩
            · cases h
              exact hresized _ rfl
            · split
              · exact hsame
              · exact hsame
            · have hmoved := hplan.congr hkept
              split
              · next hreuse =>
                  refine hmoved.set ?_
                  rw [hwindow hreuse]
                  exact (hresized _ rfl).1
              · exact hmoved

theorem isRecent_congr {s' : Windows} (h : SameObservations s s') :
    isRecent config s' = isRecent config s := by
  unfold isRecent
  rw [h.2]

theorem recentPart_congr {s' : Windows} (h : SameObservations s s') :
    recentPart config s' now route window = recentPart config s now route window := by
  unfold recentPart
  rw [isRecent_congr h]

theorem SameObservations.trans {s₁ s₂ s₃ : Windows} (h : SameObservations s₁ s₂)
    (h' : SameObservations s₂ s₃) : SameObservations s₁ s₃ :=
  ⟨h'.1.trans h.1, h'.2.trans h.2⟩

/-- A window from which a route is served: a part of the route, and all of it that was asked for
but for repeated evaluations. -/
structure Serving (config : WindowConfig) (s : Windows) (now : ℚ) (route : String)
    (evaluations : List PlannedEvaluation) (count : ℕ) (held : List PlannedEvaluation) : Prop where
  subperm : held.Subperm evaluations
  length_ge : min count (evaluations.length - repeated (recentPart config s now route evaluations))
    ≤ held.length
  length_eq : OneKind config s now route evaluations → held.length = count

theorem openWindow_spec (config : WindowConfig) (now : ℚ) (hplan : HeldOf plan s)
    (hwindow : reuse = true → onRoute plan route = window) (hcount : count ≤ window.length) :
    Serving config s now route window count (openWindow config route window count now reuse s).1 ∧
      SameObservations s (openWindow config route window count now reuse s).2 ∧
      HeldOf plan (openWindow config route window count now reuse s).2 := by
  have hsub : (openWindow config route window count now reuse s).1.Subperm window :=
    prioritized_subperm _
  refine ⟨⟨hsub, prioritized_length_ge _, fun h => prioritized_length_eq _ h hcount⟩,
    ⟨rfl, rfl⟩, ?_⟩
  cases reuse with
  | true =>
      have hheld : (openWindow config route window count now true s).1.Subperm
          (onRoute plan route) := by
        rw [hwindow rfl]
        exact hsub
      exact (hplan.set hheld).congr rfl
  | false => exact (hplan.erase route).congr rfl

theorem heldWindow_spec (config : WindowConfig) (now : ℚ) (count : ℕ) (hplan : HeldOf plan s)
    (hwindow : reuse = true → onRoute plan route = window) (hcount : count ≤ window.length) :
    Serving config s now route window count (heldWindow config route window count now reuse s).1 ∧
      SameObservations s (heldWindow config route window count now reuse s).2 ∧
      HeldOf plan (heldWindow config route window count now reuse s).2 := by
  obtain ⟨hrestored, hsame, hkept⟩ :=
    restoreHeldRouteWindow_spec now count hplan hwindow
  unfold heldWindow
  split
  · next held restored heq =>
      rw [heq] at hrestored hsame hkept
      obtain ⟨hsub, hlength⟩ := hrestored held rfl
      exact ⟨⟨hsub, (min_le_left _ _).trans hlength.ge, fun _ => hlength⟩, hsame, hkept⟩
  · next restored heq =>
      rw [heq] at hsame hkept
      obtain ⟨⟨hsub, hge, hall⟩, hopened, hheld⟩ :=
        openWindow_spec config now hkept hwindow hcount
      rw [recentPart_congr hsame] at hge
      refine ⟨⟨hsub, hge, fun h => hall ?_⟩, hsame.trans hopened, hheld⟩
      exact h.imp_right fun heq => by rw [recentPart_congr hsame, heq]

/-- Is there room for the repeated evaluations of a route with this many slots? -/
def HasRoom (config : WindowConfig) (s : Windows) (now : ℚ) (route : String)
    (evaluations : List PlannedEvaluation) (slots : ℕ) : Prop :=
  slots ≤ 1 ∨ OneKind config s now route evaluations ∨
    slots + 2 * repeated (recentPart config s now route evaluations) ≤ evaluations.length ∧
      repeated (recentPart config s now route evaluations) ≤
        2 * (config.marketDataPrefetchMultiplierFor route - 1)

/-- A route with room for its repeated evaluations delivers as many as it has slots. -/
theorem Serving.delivers {s' : Windows} {held : List PlannedEvaluation} {slots : ℕ}
    (cursors : Lib.Dict String ℕ)
    (h : Serving config s now route window
      (min window.length (slots * config.marketDataPrefetchMultiplierFor route)) held)
    (hsame : SameObservations s s') (hslots : slots ≤ window.length)
    (hroom : HasRoom config s now route window slots) :
    (prioritized config s' route held slots now cursors).1.length = slots := by
  have hle : (prioritized config s' route held slots now cursors).1.length ≤ slots :=
    prioritized_length_le cursors
  have hge : min slots (held.length - repeated (recentPart config s' now route held)) ≤
      (prioritized config s' route held slots now cursors).1.length := prioritized_length_ge cursors
  have hprefetch := config.prefetch_pos route
  have hasked : slots ≤ slots * config.marketDataPrefetchMultiplierFor route :=
    Nat.le_mul_of_pos_right _ hprefetch
  obtain ⟨hsub, hheld, hall⟩ := h
  rcases Nat.lt_or_ge slots 2 with hfew | hmany
  · -- One slot needs only some evaluation of the window, and the window only some of the route.
    rcases Nat.eq_zero_or_pos slots with hzero | hpos
    · omega
    · have hwindow : 0 < window.length := by omega
      have hpart : repeated (recentPart config s now route window) < window.length :=
        recentPart_repeated_lt hwindow
      have hheldPart : repeated (recentPart config s' now route held) < held.length :=
        recentPart_repeated_lt (by omega)
      omega
  · rcases hroom with hone | hkind | ⟨hfit, htwo⟩
    · omega
    · have hkind' : OneKind config s' now route held := by
        refine OneKind.mono ?_ hsub
        exact hkind.imp_right fun heq => by rw [recentPart_congr hsame, heq]
      have hlength := hall hkind
      exact prioritized_length_eq cursors hkind' (by omega)
    · have hfewer : repeated (recentPart config s' now route held) ≤
          repeated (recentPart config s now route window) := by
        rw [recentPart_congr hsame]
        exact repeated_mono (hsub.filter _)
      -- The prefetched evaluations beyond the slots make up for the repeated ones.
      have hspare : 2 * (config.marketDataPrefetchMultiplierFor route - 1) ≤
          slots * (config.marketDataPrefetchMultiplierFor route - 1) :=
        Nat.mul_le_mul_right _ hmany
      have hproduct : slots * (config.marketDataPrefetchMultiplierFor route - 1) + slots =
          slots * config.marketDataPrefetchMultiplierFor route := by
        rw [← Nat.mul_succ, Nat.succ_eq_add_one, Nat.sub_add_cancel hprefetch]
      omega

/-- What a route contributes to a selection. -/
structure Contributes (evaluations : List PlannedEvaluation) (slots : ℕ) (w : RouteWindow) :
    Prop where
  held_subperm : w.held.Subperm evaluations
  active_subperm : w.active.Subperm w.held
  active_length : w.active.length = slots

theorem routeWindow_keeps (config : WindowConfig) (now : ℚ) (route : String) (slots : ℕ)
    (hplan : HeldOf plan s)
    (hreuse : reuse = true → evaluations = plan) :
    SameObservations s (routeWindow config evaluations reuse slots now route s).2 ∧
      HeldOf plan (routeWindow config evaluations reuse slots now route s).2 := by
  unfold routeWindow
  split
  · exact ⟨⟨rfl, rfl⟩, (hplan.erase route).congr rfl⟩
  · obtain ⟨_, hsame, hkept⟩ := heldWindow_spec config now
      (min (onRoute evaluations route).length
        (slots * config.marketDataPrefetchMultiplierFor route))
      hplan (fun h => by rw [hreuse h]) (min_le_left _ _)
    dsimp only
    -- Only the cursors of the active evaluations change after the window is held.
    generalize heldWindow config route (onRoute evaluations route) _ now reuse s = held
      at hsame hkept ⊢
    exact ⟨hsame, hkept.congr rfl⟩

theorem routeWindow_contributes {slots : ℕ} (hplan : HeldOf plan s)
    (hreuse : reuse = true → evaluations = plan)
    (hslots : slots ≤ (onRoute evaluations route).length)
    (hroom : HasRoom config s now route (onRoute evaluations route) slots) :
    Contributes (onRoute evaluations route) slots
      (routeWindow config evaluations reuse slots now route s).1 := by
  unfold routeWindow
  split
  · next hzero => exact ⟨List.nil_subperm, List.nil_subperm, hzero.symm⟩
  · obtain ⟨hserving, hsame, _⟩ := heldWindow_spec config now
      (min (onRoute evaluations route).length
        (slots * config.marketDataPrefetchMultiplierFor route))
      hplan (fun h => by rw [hreuse h]) (min_le_left _ _)
    dsimp only
    generalize heldWindow config route (onRoute evaluations route) _ now reuse s = held
      at hserving hsame ⊢
    exact ⟨hserving.subperm, prioritized_subperm _, hserving.delivers _ hsame hslots hroom⟩

theorem routeWindows_keeps (config : WindowConfig) (now : ℚ) (slots : String → ℕ)
    (hreuse : reuse = true → evaluations = plan) :
    ∀ (rest : List String) (s : Windows), HeldOf plan s →
      SameObservations s (routeWindows config evaluations reuse slots now rest s).2 ∧
        HeldOf plan (routeWindows config evaluations reuse slots now rest s).2 := by
  intro rest
  induction rest with
  | nil => exact fun s hplan => ⟨⟨rfl, rfl⟩, hplan⟩
  | cons route rest ih =>
      intro s hplan
      obtain ⟨hsame, hkept⟩ := routeWindow_keeps config now route (slots route) hplan hreuse
      obtain ⟨hsameRest, hkeptRest⟩ := ih _ hkept
      exact ⟨hsame.trans hsameRest, hkeptRest⟩

/-- Every route contributes, whatever the routes before it did. -/
theorem routeWindows_contribute {slots : String → ℕ} (hreuse : reuse = true → evaluations = plan)
    (hslots : ∀ route, slots route ≤ (onRoute evaluations route).length) :
    ∀ (rest : List String) (s : Windows), rest.Nodup → HeldOf plan s →
      (∀ route ∈ rest, HasRoom config s now route (onRoute evaluations route) (slots route)) →
      (∀ route ∈ rest, Contributes (onRoute evaluations route) (slots route)
          ((routeWindows config evaluations reuse slots now rest s).1 route)) ∧
        ∀ route ∉ rest, (routeWindows config evaluations reuse slots now rest s).1 route = {} := by
  intro rest
  induction rest with
  | nil => exact fun s _ _ _ => ⟨fun route h => absurd h List.not_mem_nil, fun _ _ => rfl⟩
  | cons route rest ih =>
      intro s hnodup hplan hroom
      obtain ⟨hfresh, hrestNodup⟩ := List.nodup_cons.mp hnodup
      have hfirst :=
        routeWindow_contributes hplan hreuse (hslots route) (hroom route List.mem_cons_self)
      obtain ⟨hsame, hkept⟩ := routeWindow_keeps config now route (slots route) hplan hreuse
      have hroomRest : ∀ other ∈ rest, HasRoom config
          (routeWindow config evaluations reuse (slots route) now route s).2 now other
          (onRoute evaluations other) (slots other) := by
        intro other hother
        have hthere := hroom other (List.mem_cons_of_mem _ hother)
        unfold HasRoom OneKind at hthere ⊢
        rwa [recentPart_congr hsame]
      obtain ⟨hrest, hothers⟩ := ih _ hrestNodup hkept hroomRest
      refine ⟨fun other hother => ?_, fun other hother => ?_⟩
      · by_cases heq : other = route
        · rw [heq]
          simpa only [routeWindows, Function.update_self] using hfirst
        · simpa only [routeWindows, Function.update_of_ne heq] using
            hrest other (List.mem_of_ne_of_mem heq hother)
      · rw [List.mem_cons, not_or] at hother
        simpa only [routeWindows, Function.update_of_ne hother.1] using hothers other hother.2

/-! ## Interleaving -/

theorem onRoute_append (a b : List PlannedEvaluation) (route : String) :
    onRoute (a ++ b) route = onRoute a route ++ onRoute b route :=
  List.filter_append _ _

theorem sum_length_onRoute_le (routes : Finset String) (evaluations : List PlannedEvaluation) :
    ∑ route ∈ routes, (onRoute evaluations route).length ≤ evaluations.length := by
  induction evaluations with
  | nil => simp [onRoute]
  | cons evaluation rest ih =>
      have hone : ∀ route, (onRoute (evaluation :: rest) route).length =
          (onRoute rest route).length + if evaluation.route = route then 1 else 0 := by
        intro route
        by_cases h : evaluation.route = route <;> simp [onRoute, h]
      have hind : ∑ route ∈ routes, (if evaluation.route = route then 1 else 0) ≤ 1 := by
        rw [Finset.sum_ite_eq]
        split <;> omega
      simp only [hone, Finset.sum_add_distrib, List.length_cons]
      omega

variable {activeByRoute : String → List PlannedEvaluation} {allocated : ℕ}

/-- What has been interleaved so far: of each route the first evaluations, in order. -/
structure Interleaved (activeByRoute : String → List PlannedEvaluation) (allocated : ℕ)
    (state : Interleaving) : Prop where
  onRoute_eq : ∀ route, onRoute state.active route =
    (activeByRoute route).take (state.consumedByRoute route)
  le_length : ∀ route, state.consumedByRoute route ≤ (activeByRoute route).length
  le_allocated : state.active.length ≤ allocated

/-- The next evaluation of a route. -/
theorem Interleaved.next {state : Interleaving} {evaluation : PlannedEvaluation}
    (h : Interleaved activeByRoute allocated state) (hlt : state.active.length < allocated)
    (hroute : evaluation.route = route)
    (hget : (activeByRoute route)[state.consumedByRoute route]? = some evaluation) :
    Interleaved activeByRoute allocated
      ⟨state.active ++ [evaluation],
        Function.update state.consumedByRoute route (state.consumedByRoute route + 1)⟩ := by
  refine ⟨fun other => ?_, fun other => ?_, ?_⟩
  · show onRoute (state.active ++ [evaluation]) other = (activeByRoute other).take
      (Function.update state.consumedByRoute route (state.consumedByRoute route + 1) other)
    rw [onRoute_append, h.onRoute_eq other]
    by_cases heq : other = route
    · subst heq
      rw [Function.update_self, List.take_add_one, hget]
      simp [onRoute, hroute]
    · have hne : ¬ evaluation.route = other := fun h => heq (h.symm.trans hroute)
      rw [Function.update_of_ne heq]
      simp [onRoute, hne]
  · show Function.update state.consumedByRoute route (state.consumedByRoute route + 1) other ≤ _
    by_cases heq : other = route
    · subst heq
      rw [Function.update_self]
      exact (List.getElem?_eq_some_iff.mp hget).1
    · rw [Function.update_of_ne heq]
      exact h.le_length other
  · show (state.active ++ [evaluation]).length ≤ allocated
    rw [List.length_append]
    exact hlt

/-- A pass takes at least one evaluation while some route has one left. -/
theorem interleavePass_spec (hroute : ∀ route, ∀ evaluation ∈ activeByRoute route,
      evaluation.route = route) :
    ∀ (rest : List String) (state : Interleaving), Interleaved activeByRoute allocated state →
      state.active.length < allocated →
      Interleaved activeByRoute allocated (interleavePass activeByRoute allocated rest state) ∧
        state.active.length ≤
          (interleavePass activeByRoute allocated rest state).active.length ∧
        ((∃ route ∈ rest, state.consumedByRoute route < (activeByRoute route).length) →
          state.active.length <
            (interleavePass activeByRoute allocated rest state).active.length) := by
  intro rest
  induction rest with
  | nil =>
      intro state h _
      exact ⟨h, le_rfl, fun ⟨route, hmem, _⟩ => absurd hmem List.not_mem_nil⟩
  | cons route rest ih =>
      intro state h hlt
      simp only [interleavePass]
      split
      · next hnone =>
          obtain ⟨hrest, hmono, hprogress⟩ := ih state h hlt
          refine ⟨hrest, hmono, fun ⟨other, hmem, hleft⟩ => hprogress ⟨other, ?_, hleft⟩⟩
          refine List.mem_of_ne_of_mem ?_ hmem
          rintro rfl
          have hover := List.getElem?_eq_none_iff.mp hnone
          omega
      · next evaluation hsome =>
          have hnext := h.next hlt (hroute route evaluation (List.mem_of_getElem? hsome)) hsome
          have hlonger : (state.active ++ [evaluation]).length = state.active.length + 1 := by
            rw [List.length_append, List.length_singleton]
          split
          · exact ⟨hnext, by dsimp only; omega, fun _ => by dsimp only; omega⟩
          · next hmore =>
              have hstill : (state.active ++ [evaluation]).length < allocated :=
                lt_of_le_of_ne hnext.le_allocated hmore
              obtain ⟨hrest, hmono, _⟩ := ih _ hnext hstill
              dsimp only at hmono
              exact ⟨hrest, by omega, fun _ => by omega⟩

/-- The interleaving ends with every slot used if the routes deliver as many evaluations. -/
theorem interleaving_ends (routes : List String) {slots : String → ℕ} (fuel : ℕ)
    (hroute : ∀ route, ∀ evaluation ∈ activeByRoute route, evaluation.route = route)
    (hslots : ∀ route ∈ routes, slots route = (activeByRoute route).length)
    (hsum : ∑ route ∈ routes.toFinset, slots route = allocated) (hfuel : allocated < fuel) :
    ∃ active consumed, loop (interleaveStep activeByRoute allocated routes) fuel ⟨[], fun _ => 0⟩ =
        some active ∧ active.length = allocated ∧
      Interleaved activeByRoute allocated ⟨active, consumed⟩ := by
  suffices hends : ∃ active, loop (interleaveStep activeByRoute allocated routes) fuel
        ⟨[], fun _ => 0⟩ = some active ∧ active.length = allocated ∧
      ∃ consumed, Interleaved activeByRoute allocated ⟨active, consumed⟩ by
    obtain ⟨active, hloop, hlength, consumed, hinter⟩ := hends
    exact ⟨active, consumed, hloop, hlength, hinter⟩
  refine loop_ends (Interleaved activeByRoute allocated)
    (fun state => allocated - state.active.length) ?_ ?_ fuel _ ?_ ?_
  · intro state next h hstep
    unfold interleaveStep at hstep
    split at hstep
    · next hlt =>
        cases hstep
        obtain ⟨hnext, _, hprogress⟩ := interleavePass_spec hroute routes state h hlt
        refine ⟨hnext, ?_⟩
        -- Were no evaluation left, the routes would have filled every slot.
        have hleft : ∃ route ∈ routes,
            state.consumedByRoute route < (activeByRoute route).length := by
          by_contra hnone
          push Not at hnone
          have hall : ∀ route ∈ routes.toFinset,
              slots route = (onRoute state.active route).length := by
            intro route hmem
            have hmem' := List.mem_toFinset.mp hmem
            rw [hslots route hmem', h.onRoute_eq route, List.take_of_length_le (hnone route hmem')]
          have hfull := sum_length_onRoute_le routes.toFinset state.active
          rw [← Finset.sum_congr rfl hall, hsum] at hfull
          omega
        have hgrown := hprogress hleft
        have hbound := hnext.le_allocated
        omega
    · cases hstep
  · intro state active h hstep
    unfold interleaveStep at hstep
    split at hstep
    · cases hstep
    · next hfull =>
        cases hstep
        exact ⟨le_antisymm h.le_allocated (not_lt.mp hfull), state.consumedByRoute, h⟩
  · exact ⟨fun route => by simp [onRoute], fun _ => Nat.zero_le _, Nat.zero_le _⟩
  · simpa using hfuel

/-! ## The selection -/

theorem HeldOf.forget (h : HeldOf plan s) (routes : List String) :
    HeldOf plan (forgetOtherRoutes routes s) := by
  intro route held hget
  rw [forgetOtherRoutes, Lib.Dict.get?_filter, Option.filter_eq_some_iff] at hget
  exact h route held hget.1

/-- Pruning forgets nothing that is recent and planned. -/
theorem isRecent_prune {evaluation : PlannedEvaluation} (hmem : evaluation ∈ evaluations) :
    isRecent config (pruneRecentExecutable config evaluations now s) now evaluation.route
        evaluation.targets =
      isRecent config s now evaluation.route evaluation.targets := by
  have hplanned : (evaluation.route, evaluation.targets) ∈
      evaluations.map fun evaluation => (evaluation.route, evaluation.targets) :=
    List.mem_map.mpr ⟨evaluation, hmem, rfl⟩
  cases hrecent : isRecent config s now evaluation.route evaluation.targets with
  | true =>
      rw [← hrecent]
      unfold isRecent pruneRecentExecutable
      simp only [Lib.Dict.get?_filter, hrecent, hplanned]
      cases s.recentExecutable.get? (evaluation.route, evaluation.targets) <;> rfl
  | false =>
      unfold isRecent pruneRecentExecutable
      simp only [Lib.Dict.get?_filter, hrecent]
      simp

theorem recentPart_prune (route : String) :
    recentPart config (pruneRecentExecutable config evaluations now s) now route
        (onRoute evaluations route) =
      recentPart config s now route (onRoute evaluations route) := by
  refine List.filter_congr fun evaluation hmem => ?_
  obtain ⟨hplanned, hroute⟩ := List.mem_filter.mp hmem
  rw [← of_decide_eq_true hroute]
  exact isRecent_prune hplanned

theorem HasRoom.mono {slots most : ℕ} (h : HasRoom config s now route window most)
    (hle : slots ≤ most) : HasRoom config s now route window slots := by
  rcases h with hone | hkind | ⟨hfit, htwo⟩
  · exact .inl (hle.trans hone)
  · exact .inr (.inl hkind)
  · exact .inr (.inr ⟨by omega, htwo⟩)

/-- Has every route room for its repeated evaluations, with as many slots as it may get? -/
def RoomForRepeated (config : WindowConfig) (s : Windows) (evaluations : List PlannedEvaluation)
    (limit : ℤ) (now : ℚ) : Prop :=
  ∀ route, HasRoom config s now route (onRoute evaluations route)
    (min (routeLimit config evaluations route) (max 1 limit).toNat)

/-- A selection as the slots say. -/
structure Right (config : WindowConfig) (evaluations : List PlannedEvaluation)
    (selection : Selection) : Prop where
  active_length : selection.active.length = selection.allocated
  onRoute_le : ∀ route, (onRoute selection.active route).length ≤
    config.maxConcurrentMarketEvaluationsFor route
  mem_targets : ∀ evaluation ∈ selection.active, evaluation ∈ selection.targets
  count_le : ∀ evaluation, selection.active.count evaluation ≤ evaluations.count evaluation

/-- What is interleaved from the contributions of the routes is a selection as the slots say. -/
theorem Interleaved.right {windows : String → RouteWindow} {slots : String → ℕ}
    {routes orderedRoutes : List String} {active : List PlannedEvaluation}
    {consumed : String → ℕ} (hroutes : ∀ route, route ∈ routes ↔ route ∈ orderedRoutes)
    (hslots : ∀ route, slots route ≤ config.maxConcurrentMarketEvaluationsFor route)
    (hin : ∀ route ∈ routes, Contributes (onRoute evaluations route) (slots route) (windows route))
    (hout : ∀ route ∉ routes, windows route = {})
    (h : Interleaved (fun route => (windows route).active) allocated ⟨active, consumed⟩)
    (hlength : active.length = allocated) :
    Right config evaluations
      ⟨active, orderedRoutes.flatMap fun route => (windows route).held, allocated⟩ := by
  have hsub : ∀ route, (onRoute active route).Sublist (windows route).active := by
    intro route
    rw [show onRoute active route = _ from h.onRoute_eq route]
    exact List.take_sublist _ _
  refine ⟨hlength, fun route => (hsub route).length_le.trans ?_, fun evaluation hmem => ?_,
    fun evaluation => ?_⟩
  · by_cases hroute : route ∈ routes
    · rw [(hin route hroute).active_length]
      exact hslots route
    · rw [hout route hroute]
      exact Nat.zero_le _
  · have hactive : evaluation ∈ (windows evaluation.route).active :=
      (hsub evaluation.route).subset (List.mem_filter.mpr ⟨hmem, by simp⟩)
    by_cases hroute : evaluation.route ∈ routes
    · exact List.mem_flatMap.mpr ⟨evaluation.route, (hroutes _).mp hroute,
        (hin _ hroute).active_subperm.subset hactive⟩
    · rw [hout _ hroute] at hactive
      exact absurd hactive List.not_mem_nil
  · have hcount : ∀ l : List PlannedEvaluation,
        (onRoute l evaluation.route).count evaluation = l.count evaluation :=
      fun l => List.count_filter (by simp)
    rw [← hcount active, ← hcount evaluations]
    by_cases hroute : evaluation.route ∈ routes
    · have hcontributes := hin _ hroute
      calc (onRoute active evaluation.route).count evaluation
          ≤ (windows evaluation.route).active.count evaluation := (hsub _).count_le _
        _ ≤ (windows evaluation.route).held.count evaluation :=
            hcontributes.active_subperm.count_le _
        _ ≤ (onRoute evaluations evaluation.route).count evaluation :=
            hcontributes.held_subperm.count_le _
    · have hnone := (hsub evaluation.route).count_le evaluation
      rw [hout _ hroute] at hnone
      exact hnone.trans (Nat.zero_le _)

theorem orderedRoutes_perm (evaluations : List PlannedEvaluation) (s : Windows) :
    (orderedRoutes evaluations s).Perm (routesOf evaluations) :=
  List.perm_append_comm.trans (List.Perm.of_eq (List.take_append_drop _ _))

theorem HeldOf.prepare (h : HeldOf plan s) (config : WindowConfig)
    (evaluations : List PlannedEvaluation) (now : ℚ) :
    HeldOf plan (prepareWindows config evaluations now s) := by
  unfold prepareWindows
  have hmoved : HeldOf plan { s with routeEvaluationCursor := _ } := h.congr rfl
  exact (hmoved.forget (routesOf evaluations)).congr rfl

/-- A call ends, with a selection as the slots say. -/
theorem selectEvaluationWindow_right {limit : ℤ} {fuel : ℕ} (hplan : HeldOf plan s)
    (hreuse : reuse = true → evaluations = plan) (hnonempty : evaluations ≠ [])
    (hroom : RoomForRepeated config s evaluations limit now) (hfuel : evaluations.length < fuel) :
    ∃ selection s', selectEvaluationWindow config fuel evaluations reuse limit now s =
      some (selection, s') ∧ Right config evaluations selection := by
  have hperm := orderedRoutes_perm evaluations s
  obtain ⟨allocation, hallocation, hfair⟩ := allocation_ends config evaluations
    (orderedRoutes evaluations s) (min (max 1 limit).toNat evaluations.length) fuel (by omega)
  have hslots := hfair.le_limit
  have hcount := hfair.le_count
  have hroomThere : ∀ route ∈ routesOf evaluations,
      HasRoom config (prepareWindows config evaluations now s) now route
        (onRoute evaluations route) (allocation.slotsByRoute route) := by
    intro route hroute
    have hsum := Finset.single_le_sum (f := allocation.slotsByRoute) (fun _ _ => Nat.zero_le _)
      (List.mem_toFinset.mpr (hperm.mem_iff.mpr hroute))
    rw [hfair.sum] at hsum
    have hmost := hslots route
    have hthere : HasRoom config s now route (onRoute evaluations route)
        (allocation.slotsByRoute route) := (hroom route).mono (by omega)
    have hsame : recentPart config (prepareWindows config evaluations now s) now route
        (onRoute evaluations route) = recentPart config s now route (onRoute evaluations route) :=
      recentPart_prune route
    unfold HasRoom OneKind at hthere ⊢
    rwa [hsame]
  obtain ⟨hin, hout⟩ := routeWindows_contribute hreuse
    (fun route => (hslots route).trans (min_le_left _ _)) (routesOf evaluations) _
    (nodup_routesOf _) (hplan.prepare config evaluations now) hroomThere
  set windows := (routeWindows config evaluations reuse allocation.slotsByRoute now
    (routesOf evaluations) (prepareWindows config evaluations now s)).1 with hwindows
  have hroute : ∀ route, ∀ evaluation ∈ (windows route).active, evaluation.route = route := by
    intro route evaluation hmem
    by_cases hmemRoute : route ∈ routesOf evaluations
    · have hsub := (hin route hmemRoute).active_subperm.trans (hin route hmemRoute).held_subperm
      exact of_decide_eq_true (List.mem_filter.mp (hsub.subset hmem)).2
    · rw [hout route hmemRoute] at hmem
      exact absurd hmem List.not_mem_nil
  obtain ⟨active, consumed, hloop, hlength, hinter⟩ := interleaving_ends
    (orderedRoutes evaluations s) fuel hroute
    (fun route hmem => ((hin route (hperm.mem_iff.mp hmem)).active_length).symm) hfair.sum
    (by omega)
  have hright := hinter.right (fun route => hperm.mem_iff.symm)
    (fun route => (hslots route).trans (min_le_right _ _)) hin hout hlength
  refine ⟨_, (routeWindows config evaluations reuse allocation.slotsByRoute now
    (routesOf evaluations) (prepareWindows config evaluations now s)).2, ?_, hright⟩
  unfold selectEvaluationWindow
  rw [if_neg hnonempty]
  simp only [hallocation, Option.bind_eq_bind, Option.bind_some, ← hwindows, hloop]
  rfl

/-- Without room, a route still contributes evaluations of its own, those it runs from its window. -/
theorem routeWindow_subperm (slots : ℕ) (hplan : HeldOf plan s)
    (hreuse : reuse = true → evaluations = plan) :
    (routeWindow config evaluations reuse slots now route s).1.held.Subperm
        (onRoute evaluations route) ∧
      (routeWindow config evaluations reuse slots now route s).1.active.Subperm
        (routeWindow config evaluations reuse slots now route s).1.held := by
  unfold routeWindow
  split
  · exact ⟨List.nil_subperm, List.nil_subperm⟩
  · obtain ⟨hserving, _, _⟩ := heldWindow_spec config now
      (min (onRoute evaluations route).length
        (slots * config.marketDataPrefetchMultiplierFor route))
      hplan (fun h => by rw [hreuse h]) (min_le_left _ _)
    exact ⟨hserving.subperm, prioritized_subperm _⟩

theorem routeWindows_subperm {slots : String → ℕ} (hreuse : reuse = true → evaluations = plan) :
    ∀ (rest : List String) (s : Windows), HeldOf plan s → ∀ route,
      ((routeWindows config evaluations reuse slots now rest s).1 route).held.Subperm
          (onRoute evaluations route) ∧
        ((routeWindows config evaluations reuse slots now rest s).1 route).active.Subperm
          ((routeWindows config evaluations reuse slots now rest s).1 route).held := by
  intro rest
  induction rest with
  | nil => exact fun s _ route => ⟨List.nil_subperm, List.nil_subperm⟩
  | cons first rest ih =>
      intro s hplan route
      obtain ⟨_, hkept⟩ := routeWindow_keeps config now first (slots first) hplan hreuse
      by_cases heq : route = first
      · rw [heq]
        simpa only [routeWindows, Function.update_self] using
          routeWindow_subperm (slots first) hplan hreuse
      · simpa only [routeWindows, Function.update_of_ne heq] using ih _ hkept route

/-- A pass takes what it adds from the routes. -/
theorem interleavePass_mem : ∀ (rest : List String) (state : Interleaving) (evaluation),
    evaluation ∈ (interleavePass activeByRoute allocated rest state).active →
      evaluation ∈ state.active ∨ ∃ route ∈ rest, evaluation ∈ activeByRoute route := by
  intro rest
  induction rest with
  | nil => exact fun state evaluation hmem => .inl hmem
  | cons route rest ih =>
      intro state evaluation hmem
      simp only [interleavePass] at hmem
      have hlater : ∀ {next : Interleaving},
          evaluation ∈ (interleavePass activeByRoute allocated rest next).active →
            evaluation ∈ next.active ∨ ∃ route' ∈ route :: rest, evaluation ∈ activeByRoute route' :=
        fun h => (ih _ _ h).imp_right fun ⟨other, hother, hin⟩ =>
          ⟨other, List.mem_cons_of_mem _ hother, hin⟩
      split at hmem
      · exact hlater hmem
      · next taken htaken =>
          have hnext : evaluation ∈ state.active ++ [taken] ∨
              ∃ route' ∈ route :: rest, evaluation ∈ activeByRoute route' := by
            split at hmem
            · exact .inl hmem
            · exact hlater hmem
          refine hnext.elim (fun hin => ?_) .inr
          rcases List.mem_append.mp hin with hold | hnew
          · exact .inl hold
          · rw [List.mem_singleton.mp hnew]
            exact .inr ⟨route, List.mem_cons_self, List.mem_of_getElem? htaken⟩

/-- The interleaving takes everything from the routes. -/
theorem interleaving_mem {routes : List String} {fuel : ℕ} {active : List PlannedEvaluation}
    (h : loop (interleaveStep activeByRoute allocated routes) fuel ⟨[], fun _ => 0⟩ = some active) :
    ∀ evaluation ∈ active, ∃ route ∈ routes, evaluation ∈ activeByRoute route := by
  let FromRoutes (taken : List PlannedEvaluation) : Prop :=
    ∀ evaluation ∈ taken, ∃ route ∈ routes, evaluation ∈ activeByRoute route
  refine loop_returns (Q := FromRoutes) (fun state => FromRoutes state.active) ?_ ?_ fuel _ active
    ?_ h
  · intro state next hstate hstep
    unfold interleaveStep at hstep
    split at hstep
    · cases hstep
      intro evaluation hmem
      exact (interleavePass_mem _ _ _ hmem).elim (hstate evaluation) id
    · cases hstep
  · intro state result hstate hstep
    unfold interleaveStep at hstep
    split at hstep
    · cases hstep
    · cases hstep
      exact hstate
  · exact fun evaluation hmem => absurd hmem List.not_mem_nil

/-- Whatever a call returns, it runs evaluations of the returned targets, which are planned. -/
theorem selectEvaluationWindow_mem {limit : ℤ} {fuel : ℕ} {selection : Selection} {s' : Windows}
    (hplan : HeldOf plan s) (hreuse : reuse = true → evaluations = plan)
    (h : selectEvaluationWindow config fuel evaluations reuse limit now s = some (selection, s')) :
    selection.active ⊆ selection.targets ∧ selection.targets ⊆ evaluations := by
  unfold selectEvaluationWindow at h
  split at h
  · cases h
    exact ⟨List.Subset.refl _, List.nil_subset _⟩
  · simp only [Option.bind_eq_bind, Option.bind_eq_some_iff] at h
    obtain ⟨allocation, _, active, hactive, heq⟩ := h
    cases heq
    have hparts := @routeWindows_subperm config evaluations now plan reuse
      allocation.slotsByRoute hreuse (routesOf evaluations) _ (hplan.prepare config evaluations now)
    refine ⟨fun evaluation hmem => ?_, fun evaluation hmem => ?_⟩
    · obtain ⟨route, hroute, hin⟩ := interleaving_mem hactive evaluation hmem
      exact List.mem_flatMap.mpr ⟨route, hroute, (hparts route).2.subset hin⟩
    · obtain ⟨route, _, hheld⟩ := List.mem_flatMap.mp hmem
      exact (List.mem_filter.mp ((hparts route).1.subset hheld)).1

/-- A call leaves the plan as it is. -/
theorem selectEvaluationWindow_planned {limit : ℤ} {fuel : ℕ} {selection : Selection}
    {s' : Windows} (hplan : HeldOf plan s) (hreuse : reuse = true → evaluations = plan)
    (h : selectEvaluationWindow config fuel evaluations reuse limit now s = some (selection, s')) :
    s'.planned = s.planned := by
  unfold selectEvaluationWindow at h
  split at h
  · cases h
    rfl
  · simp only [Option.bind_eq_bind, Option.bind_eq_some_iff] at h
    obtain ⟨allocation, _, active, _, heq⟩ := h
    cases heq
    exact (routeWindows_keeps config now allocation.slotsByRoute hreuse (routesOf evaluations) _
      (hplan.prepare config evaluations now)).1.1

/-- A call keeps the held windows parts of the plan. -/
theorem selectEvaluationWindow_keeps {limit : ℤ} {fuel : ℕ} {selection : Selection} {s' : Windows}
    (hplan : HeldOf s.planned s) (hreuse : reuse = true → evaluations = s.planned)
    (h : selectEvaluationWindow config fuel evaluations reuse limit now s = some (selection, s')) :
    HeldOf s'.planned s' := by
  unfold selectEvaluationWindow at h
  split at h
  · cases h
    intro route held hget
    cases hget
  · simp only [Option.bind_eq_bind, Option.bind_eq_some_iff] at h
    obtain ⟨allocation, _, active, _, heq⟩ := h
    cases heq
    obtain ⟨hsame, hkept⟩ := routeWindows_keeps config now
      allocation.slotsByRoute hreuse (routesOf evaluations) _
      (hplan.prepare config evaluations now)
    rw [hsame.1]
    exact hkept

/-- What every history keeps. -/
theorem step_keeps {a : Action} {s' : Windows} (hplan : HeldOf s.planned s)
    (h : step config s a = some s') : HeldOf s'.planned s' := by
  cases a with
  | setPlannedEvaluations evaluations =>
      cases h
      intro route held hget
      cases hget
  | markRecentExecutable route targets netSpread now =>
      cases h
      exact hplan.congr rfl
  | selectPlanned limit now fuel =>
      obtain ⟨⟨selection, s'⟩, hselect, rfl⟩ := Option.map_eq_some_iff.mp h
      exact selectEvaluationWindow_keeps hplan (fun _ => rfl) hselect
  | selectOther evaluations limit now fuel =>
      obtain ⟨⟨selection, s'⟩, hselect, rfl⟩ := Option.map_eq_some_iff.mp h
      exact selectEvaluationWindow_keeps hplan (fun h => absurd h Bool.false_ne_true) hselect

/-- **The selection ends.**  After every history, a call for a plan with room for its repeated
evaluations ends, and uses as many slots as it has given out, no route beyond its cap, with
evaluations of the returned targets, each as often as planned at most. -/
theorem selection_ends {hist : List Windows}
    (hrun : Run (step config) anyAction {} hist s) (hnonempty : evaluations ≠ [])
    (hreuse : reuse = true → evaluations = s.planned) (limit : ℤ) (now : ℚ)
    (hroom : RoomForRepeated config s evaluations limit now) {fuel : ℕ}
    (hfuel : evaluations.length < fuel) :
    ∃ selection s', selectEvaluationWindow config fuel evaluations reuse limit now s =
      some (selection, s') ∧ Right config evaluations selection := by
  refine selectEvaluationWindow_right (hrun.state_invariant (fun s => HeldOf s.planned s) ?_ ?_)
    hreuse hnonempty hroom hfuel
  · intro route held hget
    cases hget
  · exact fun s a s' hplan _ hstep => step_keeps hplan hstep

/-- One route of three slots, nothing prefetched, exploration at three quarters. -/
def oneRouteConfig : WindowConfig where
  marketEvaluationWeightFor _ := 3
  maxConcurrentMarketEvaluationsFor _ := 3
  marketDataPrefetchMultiplierFor _ := 1
  marketDataTargetHoldFor _ := 60
  marketDataExecutablePriorityFor _ := 60
  mixesExploration _ := true
  explorationCeil _ count := (3 * count + 3) / 4
  weight_pos _ := by decide
  cap_pos _ := by decide
  prefetch_pos _ := by decide
  le_explorationCeil _ _ h := by cases h

def firstEvaluation : PlannedEvaluation := ⟨"polymarket_sx", 0, [("Polymarket", "a")]⟩

/-- Another evaluation of the same targets. -/
def sameTargets : PlannedEvaluation := { firstEvaluation with run := 1 }

def otherTargets : PlannedEvaluation := ⟨"polymarket_sx", 2, [("Polymarket", "b")]⟩

/-- A plan without repetition, with one of its targets executable. -/
def distinctState : Windows :=
  { planned := [firstEvaluation, otherTargets]
    recentExecutable := Lib.Dict.empty.set ("polymarket_sx", firstEvaluation.targets) ⟨0, 1 / 100⟩ }

theorem distinctState_room : RoomForRepeated oneRouteConfig distinctState distinctState.planned 2 1 := by
  intro route
  by_cases h : route = "polymarket_sx"
  · subst h
    right
    right
    decide +kernel
  · left
    have hnone : onRoute distinctState.planned route = [] := by
      have h' : ¬ "polymarket_sx" = route := fun heq => h heq.symm
      simp [onRoute, distinctState, firstEvaluation, otherTargets, h']
    simp [routeLimit, hnone]

theorem selection_ends_two_targets :
    ∃ selection s', selectEvaluationWindow oneRouteConfig 3 distinctState.planned true 2 1
      distinctState = some (selection, s') ∧ Right oneRouteConfig distinctState.planned selection := by
  have hexec : exec (step oneRouteConfig) anyAction {}
      [.setPlannedEvaluations [firstEvaluation, otherTargets],
        .markRecentExecutable "polymarket_sx" firstEvaluation.targets (1 / 100) 0] =
      some distinctState := by decide +kernel
  obtain ⟨hist, hrun⟩ := Run.of_exec hexec
  exact selection_ends hrun (by decide) (fun _ => rfl) 2 1 distinctState_room (by decide)

/-! ## Repeated targets without room -/

/-- The plan is set, and its repeated targets turn out to be executable. -/
def repeatedHistory : List Action :=
  [.setPlannedEvaluations [firstEvaluation, sameTargets, otherTargets],
    .markRecentExecutable "polymarket_sx" firstEvaluation.targets (1 / 100) 0]

def repeatedState : Windows :=
  { planned := [firstEvaluation, sameTargets, otherTargets]
    recentExecutable := Lib.Dict.empty.set ("polymarket_sx", firstEvaluation.targets) ⟨0, 1 / 100⟩ }

theorem interleaving_diverges (activeByRoute : String → List PlannedEvaluation)
    (h : activeByRoute "polymarket_sx" = [firstEvaluation, otherTargets])
    (fuel : ℕ) :
    loop (interleaveStep activeByRoute 3 ["polymarket_sx"]) fuel ⟨[], fun _ => 0⟩ = none := by
  have hfirst : interleaveStep activeByRoute 3 ["polymarket_sx"] ⟨[], fun _ => 0⟩ =
      .inl ⟨[firstEvaluation], Function.update (fun _ => 0) "polymarket_sx" 1⟩ := by
    simp [interleaveStep, interleavePass, h]
  have hsecond : interleaveStep activeByRoute 3 ["polymarket_sx"]
        ⟨[firstEvaluation], Function.update (fun _ => 0) "polymarket_sx" 1⟩ =
      .inl ⟨[firstEvaluation, otherTargets], Function.update (fun _ => 0) "polymarket_sx" 2⟩ := by
    simp [interleaveStep, interleavePass, h]
  have hstuck : interleaveStep activeByRoute 3 ["polymarket_sx"]
        ⟨[firstEvaluation, otherTargets], Function.update (fun _ => 0) "polymarket_sx" 2⟩ =
      .inl ⟨[firstEvaluation, otherTargets], Function.update (fun _ => 0) "polymarket_sx" 2⟩ := by
    simp [interleaveStep, interleavePass, h]
  exact loop_diverges hfirst (loop_diverges hsecond (loop_stuck hstuck)) fuel

/-- The repeated evaluation is left out by its targets, so that two evaluations stand for three
slots and the call never returns. -/
theorem repeated_targets_never_selected :
    (∃ hist, Run (step oneRouteConfig) anyAction {} hist repeatedState) ∧
      ∀ fuel, selectEvaluationWindow oneRouteConfig fuel repeatedState.planned true 3 1
        repeatedState = none := by
  have hexec : exec (step oneRouteConfig) anyAction {} repeatedHistory = some repeatedState := by
    decide +kernel
  refine ⟨Run.of_exec hexec, fun fuel => ?_⟩
  unfold selectEvaluationWindow
  rw [if_neg (by decide)]
  match fuel with
  | 0 => rfl
  | 1 => rfl
  | fuel + 2 =>
      have hactive : ((routeWindows oneRouteConfig repeatedState.planned true
          (Function.update (fun _ => 0) "polymarket_sx" 3) 1 ["polymarket_sx"]
          (prepareWindows oneRouteConfig repeatedState.planned 1 repeatedState)).1
            "polymarket_sx").active = [firstEvaluation, otherTargets] := by
        decide +kernel
      have hdiverges := interleaving_diverges (fun route =>
        ((routeWindows oneRouteConfig repeatedState.planned true
          (Function.update (fun _ => 0) "polymarket_sx" 3) 1 ["polymarket_sx"]
          (prepareWindows oneRouteConfig repeatedState.planned 1 repeatedState)).1 route).active)
        hactive (fuel + 2)
      have hallocation : loop (allocationStep oneRouteConfig repeatedState.planned 3
          ["polymarket_sx"]) (fuel + 2) ⟨fun _ => 0, 0⟩ =
            some ⟨Function.update (fun _ => 0) "polymarket_sx" 3, 3⟩ := rfl
      have hroutes : routesOf repeatedState.planned = ["polymarket_sx"] := by decide +kernel
      have hordered : orderedRoutes repeatedState.planned repeatedState = ["polymarket_sx"] := by
        decide +kernel
      have hcount : min (max 1 (3 : ℤ)).toNat repeatedState.planned.length = 3 := by decide
      simp only [hcount, hordered, hroutes, hallocation, Option.bind_eq_bind, Option.bind_some,
        hdiverges, Option.bind_none]

end ArbitrageEngine.Engine
