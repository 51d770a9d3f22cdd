/-
# ArbitrageEngine.Execution.UnwindConservation -- an unmatched quantity is sold once

The unmatched contracts of an entry are sold at once, and what is left of them again and again by
the position manager, until nothing is left.  Each attempt starts from what the ledger says is still
unmatched, so the ledger must know what every attempt before it has sold.

An attempt counts as nothing sold if anything raises in it, also after the venue has reported a
fill.  `LegAnswers.Tells` says of an attempt that this does not happen; then the unmatched contracts in
the ledger are always those that were unmatched at the start less those that were sold.
-/
import ArbitrageEngine.Execution.Entry
import ArbitrageEngine.Execution.SalesLog
import ArbitrageEngine.Execution.SoldAmounts
import ArbitrageEngine.Lib.Runs

namespace ArbitrageEngine.Execution

open Lib.Effect Lib.Runs

/-! ## The property -/

/-- The contracts of a leg that the ledger marks as unmatched. -/
def World.marked (w : World) (key : String) (leg : Leg) : Dec :=
  match w.ledger.get? key with
  | none => 0
  | some position => unmatchedContracts position leg

/-- Of what was unmatched in `w₀`, what has not been sold since. -/
def World.unsold (w₀ w : World) (market : MarketSpec) (unmatched : Leg → Dec) (leg : Leg) : Dec :=
  unmatched leg - (w.sold (positionKey market) leg - w₀.sold (positionKey market) leg)

/-- No more was sold than was unmatched, and the ledger knows what is left. -/
def Conserves (market : MarketSpec) (unmatched : Leg → Dec) (w₀ w : World) : Prop :=
  ∀ leg, w.sold (positionKey market) leg - w₀.sold (positionKey market) leg ≤ unmatched leg ∧
    |w.marked (positionKey market) leg - World.unsold w₀ w market unmatched leg| ≤ Dec.epsilon

/-! ## What an attempt keeps -/

/-- What the ledger says of a position and what is left of it. -/
def PositionTracks (market : MarketSpec) (rest : Leg → Dec) (position : OpenPosition) : Prop :=
  position.market = market ∧
    if position.status = "unwind_pending" then
      ∀ leg, unmatchedContracts position leg = rest leg ∧ Dec.Exact (rest leg)
    else ∀ leg, unmatchedContracts position leg = 0 ∧ rest leg ≤ Dec.epsilon

/-- The ledger knows exactly what is left while an unwind is pending; after it at most the tolerance
is left. -/
def LedgerTracks (market : MarketSpec) (rest : Leg → Dec) (ledger : PositionLedger) : Prop :=
  (∀ leg, 0 ≤ rest leg) ∧
    match ledger.get? (positionKey market) with
    | none => ∀ leg, rest leg ≤ Dec.epsilon
    | some position => PositionTracks market rest position

/-- The invariant of the attempts. -/
def Tracks (market : MarketSpec) (unmatched : Leg → Dec) (w₀ w : World) : Prop :=
  LedgerTracks market (World.unsold w₀ w market unmatched) w.ledger

variable {market : MarketSpec} {unmatched : Leg → Dec} {w₀ w : World}

theorem Tracks.conserves (h : Tracks market unmatched w₀ w) : Conserves market unmatched w₀ w := by
  intro leg
  obtain ⟨hnonneg, hledger⟩ := h
  have hrest := hnonneg leg
  have heps := Dec.epsilon_pos
  refine ⟨sub_nonneg.mp hrest, ?_⟩
  have hsmall : World.unsold w₀ w market unmatched leg ≤ Dec.epsilon →
      |0 - World.unsold w₀ w market unmatched leg| ≤ Dec.epsilon := by
    intro hle
    rwa [zero_sub, abs_neg, abs_of_nonneg hrest]
  unfold World.marked
  cases hget : w.ledger.get? (positionKey market) with
  | none =>
      rw [hget] at hledger
      exact hsmall (hledger leg)
  | some position =>
      rw [hget] at hledger
      obtain ⟨_, hstatus⟩ := hledger
      dsimp only
      split at hstatus
      · rw [(hstatus leg).1, sub_self, abs_zero]
        exact heps.le
      · rw [(hstatus leg).1]
        exact hsmall (hstatus leg).2

/-! ## Two unwinds at once -/

theorem attemptAny_spec {P : World → Prop} {α : Type} {m : Effect α} {Q : α → World → Prop}
    (h : Spec P m Q fun _ _ => False) :
    Spec P (attempt Exc.any m)
      (fun outcome w => ∃ a, outcome = .ok a ∧ Q a w) fun _ _ => False :=
  Spec.attempt (Spec.conseq h (fun _ h => h) (fun a _ h => ⟨a, rfl, h⟩) fun _ _ h => h)
    (fun _ _ _ _ h => h.elim) fun _ _ _ h => h

/-- Two effects that do not raise, one after the other. -/
theorem gather_total {P : World → Prop} {α β : Type} {first : Effect α} {second : Effect β}
    {R : α → World → Prop} {Q : α × β → World → Prop}
    (hfirst : Spec P first R fun _ _ => False)
    (hsecond : ∀ a, Spec (R a) second (fun b => Q (a, b)) fun _ _ => False) :
    Spec P (gather first second) Q fun _ _ => False := by
  refine Spec.bind (attemptAny_spec hfirst) fun a => ?_
  cases a with
  | error _ => exact fun _ ⟨_, h, _⟩ => nomatch h
  | ok a =>
      refine Spec.bind (R := fun b w => ∃ b', b = .ok b' ∧ Q (a, b') w) ?_ fun b => ?_
      · refine Spec.conseq (attemptAny_spec (hsecond a)) ?_ (fun _ _ h => h) fun _ _ h => h
        rintro w ⟨a', ha, h⟩
        cases ha
        exact h
      · cases b with
        | error _ => exact fun _ ⟨_, h, _⟩ => nomatch h
        | ok b =>
            refine Spec.pure ?_
            rintro w ⟨b', hb, h⟩
            cases hb
            exact h

/-- The amount of a leg. -/
def byLeg (first second : Dec) : Leg → Dec
  | .first => first
  | .second => second

/-- Since `w₀` these amounts of both legs were sold, and no position has changed. -/
structure SoldBoth (w₀ : World) (market : MarketSpec) (amount : Leg → Dec) (w : World) : Prop where
  ledger : w.ledger = w₀.ledger
  sold : ∀ leg, w.sold (positionKey market) leg = w₀.sold (positionKey market) leg + amount leg

variable {router : Router} {config : Config} {pending : Leg → Dec}

/-- The unwinds of both legs tell of what they sell. -/
def LegsTell (router : Router) (config : Config) (market : MarketSpec) (pending : Leg → Dec)
    (answers : Leg → LegAnswers) : Prop :=
  ∀ leg, Dec.epsilon < pending leg → (answers leg).Tells router config market leg (pending leg)

/-- Nothing is sold of either leg. -/
def LegsUnsold (pending : Leg → Dec) (answers : Leg → LegAnswers) : Prop :=
  ∀ leg, Dec.epsilon < pending leg → (answers leg).sell.Unsold

/-- These amounts were sold of what was pending, and they are known. -/
def BothUnwound (market : MarketSpec) (pending : Leg → Dec) (answers : Leg → LegAnswers)
    (w₀ : World) (unwound : Dec × Dec) (w : World) : Prop :=
  SoldBoth w₀ market (byLeg unwound.1 unwound.2) w ∧
    (∀ leg, PartOf (pending leg) (byLeg unwound.1 unwound.2 leg)) ∧
    (LegsUnsold pending answers → unwound = (0, 0))

variable (w₀) in
/-- The unwinds of both legs return what they sell. -/
theorem gather_told {answers : Leg → LegAnswers} (price : Leg → Dec)
    (hpending : ∀ leg, 0 ≤ pending leg ∧ Dec.Exact (pending leg))
    (h : LegsTell router config market pending answers) :
    Spec (fun w => w = w₀)
      (gather (router.unwindUnmatched config (answers .first) market .first (price .first)
          (pending .first))
        (router.unwindUnmatched config (answers .second) market .second (price .second)
          (pending .second)))
      (BothUnwound market pending answers w₀) fun _ _ => False := by
  have hleg : ∀ leg w₁, Spec (NoSale w₁)
      (router.unwindUnmatched config (answers leg) market leg (price leg) (pending leg))
      (Router.Unwinds market leg (pending leg) (answers leg) w₁) fun _ _ => False :=
    fun leg w₁ => Router.unwindUnmatched_told (hpending leg).1 (hpending leg).2 (h leg)
  refine gather_total (R := Router.Unwinds market .first (pending .first) (answers .first) w₀) ?_
    fun first => ?_
  · exact Spec.conseq (hleg .first w₀) (fun w hw => ⟨by rw [hw], by rw [hw]⟩) (fun _ _ h => h)
      fun _ _ h => h
  refine Spec.of_state fun w₁ ⟨hfirst, hpart, hzero⟩ => ?_
  refine Spec.conseq (hleg .second w₁) (fun w hw => ⟨by rw [hw], by rw [hw]⟩) ?_ fun _ _ h => h
  rintro second w ⟨hsecond, hpart', hzero'⟩
  refine ⟨⟨hsecond.ledger.trans hfirst.ledger, fun leg => ?_⟩, fun leg => ?_, fun hunsold => ?_⟩
  · rw [hsecond.sold, hfirst.sold]
    cases leg <;> simp [byLeg]
  · cases leg
    · exact hpart
    · exact hpart'
  · rw [hzero (hunsold .first), hzero' (hunsold .second)]

/-! ## Writes -/

theorem addPosition_spec {P Q : World → Prop} {repository : Bool} {answer : WriteAnswer Exc}
    {position : OpenPosition}
    (htable : ∀ w positions, P w → P { w with positions := positions })
    (hledger : ∀ w, P w → Q { w with ledger := w.ledger.add position }) :
    Spec P (addPosition repository answer position) (fun _ => Q)
      fun exc w => exc ∈ failedBy answer ∧ repository = true ∧ P w := by
  refine Spec.bind (R := fun _ => P) ?_ fun _ => Spec.modify hledger
  refine Spec.whenever (fun hrepository => ?_) fun _ _ h => h
  refine Spec.transact (fun _ w h => htable w _ h) ?_ ?_
  · rintro exc rfl w h
    exact ⟨List.mem_singleton_self _, hrepository, htable w _ h⟩
  · rintro exc rfl w h
    exact ⟨List.mem_singleton_self _, hrepository, h⟩

theorem removePosition_spec {P Q : World → Prop} {repository : Bool} {answer : WriteAnswer Exc}
    {key : String} (htable : ∀ w positions, P w → P { w with positions := positions })
    (hledger : ∀ w, P w → Q { w with ledger := w.ledger.erase key }) :
    Spec P (removePosition repository answer key) (fun _ => Q)
      fun exc w => exc ∈ failedBy answer ∧ repository = true ∧ P w := by
  refine Spec.bind (R := fun _ => P) ?_ fun _ => Spec.modify hledger
  refine Spec.whenever (fun hrepository => ?_) fun _ _ h => h
  refine Spec.transact (fun _ w h => htable w _ h) ?_ ?_
  · rintro exc rfl w h
    exact ⟨List.mem_singleton_self _, hrepository, htable w _ h⟩
  · rintro exc rfl w h
    exact ⟨List.mem_singleton_self _, hrepository, h⟩

/-- This is what is left in a world whose positions are still those of before. -/
def Left (market : MarketSpec) (unmatched : Leg → Dec) (w₀ : World) (ledger : PositionLedger)
    (rest : Leg → Dec) (w : World) : Prop :=
  w.ledger = ledger ∧ World.unsold w₀ w market unmatched = rest

variable {ledger : PositionLedger} {rest : Leg → Dec}

theorem Left.tracks (h : Left market unmatched w₀ ledger rest w)
    (hledger : LedgerTracks market rest ledger) : Tracks market unmatched w₀ w := by
  unfold Tracks
  rw [h.2, h.1]
  exact hledger

/-- Booking what is left. -/
theorem addPosition_tracks {position : OpenPosition} {repository : Bool}
    (answer : WriteAnswer Exc) (hrest : ∀ leg, 0 ≤ rest leg)
    (hposition : PositionTracks market rest position) :
    Spec (Left market unmatched w₀ ledger rest) (addPosition repository answer position)
      (fun _ => Tracks market unmatched w₀)
      fun exc w => exc ∈ failedBy answer ∧ repository = true ∧
        Left market unmatched w₀ ledger rest w := by
  refine addPosition_spec (fun _ _ h => h) fun w h => ?_
  have hledger : LedgerTracks market rest (w.ledger.add position) := by
    refine ⟨hrest, ?_⟩
    rw [PositionLedger.add, hposition.1, Lib.Dict.get?_set_self]
    exact hposition
  exact Left.tracks ⟨rfl, h.2⟩ hledger

theorem removePosition_tracks {repository : Bool} (answer : WriteAnswer Exc)
    (hrest : ∀ leg, 0 ≤ rest leg) (hsmall : ∀ leg, rest leg ≤ Dec.epsilon) :
    Spec (Left market unmatched w₀ ledger rest)
      (removePosition repository answer (positionKey market))
      (fun _ => Tracks market unmatched w₀)
      fun exc w => exc ∈ failedBy answer ∧ repository = true ∧
        Left market unmatched w₀ ledger rest w := by
  refine removePosition_spec (fun _ _ h => h) fun w h => ?_
  have hledger : LedgerTracks market rest (w.ledger.erase (positionKey market)) := by
    refine ⟨hrest, ?_⟩
    rw [Lib.Dict.get?_erase_self]
    exact hsmall
  exact Left.tracks ⟨rfl, h.2⟩ hledger

/-! ## Attempts -/

/-- Where there is a store, its writes succeed. -/
def Saved (router : Router) (answers : List (WriteAnswer Exc)) : Prop :=
  router.repository = true → ∀ answer ∈ answers, answer = .done

/-- A write that fails is one that may fail. -/
theorem tracks_of_failed {writes : List (WriteAnswer Exc)} {answer : WriteAnswer Exc} {exc : Exc}
    (hsaved : Saved router writes ∨ LedgerTracks market rest ledger) (hanswer : answer ∈ writes)
    (h : exc ∈ failedBy answer ∧ router.repository = true ∧
      Left market unmatched w₀ ledger rest w) : Tracks market unmatched w₀ w := by
  obtain ⟨hexc, hrepository, hleft⟩ := h
  rcases hsaved with hdone | hledger
  · rw [hdone hrepository answer hanswer] at hexc
    exact absurd hexc List.not_mem_nil
  · exact hleft.tracks hledger

theorem unmatchedContracts_afterUnwind (position : OpenPosition) (first second : Dec) (leg : Leg) :
    unmatchedContracts (Router.afterUnwind position first second) leg =
      max 0 (Dec.sub (unmatchedContracts position leg) (byLeg first second leg)) := by
  cases leg <;> rfl

/-- A retry books what is left after it. -/
theorem settleUnwind_tracks {answers : PositionAnswers} {position : OpenPosition}
    {first second : Dec} (hmarket : position.market = market)
    (hstatus : position.status = "unwind_pending")
    (hpart : ∀ leg, PartOf (unmatchedContracts position leg) (byLeg first second leg))
    (hrest : ∀ leg, rest leg = unmatchedContracts position leg - byLeg first second leg)
    (hsaved : Saved router [answers.savePosition, answers.removePosition] ∨
      LedgerTracks market rest ledger) :
    Spec (Left market unmatched w₀ ledger rest) (router.settleUnwind answers position first second)
      (fun _ => Tracks market unmatched w₀) fun _ => Tracks market unmatched w₀ := by
  set after := Router.afterUnwind position first second with hafter
  have hunmatched : ∀ leg, unmatchedContracts after leg = rest leg := by
    intro leg
    rw [hafter, unmatchedContracts_afterUnwind, (hpart leg).rest, hrest leg]
  have hnonneg : ∀ leg, 0 ≤ rest leg := fun leg => by
    rw [hrest leg]
    exact sub_nonneg.mpr (hpart leg).2.1
  have hexact : ∀ leg, Dec.Exact (rest leg) := fun leg => hrest leg ▸ (hpart leg).2.2
  have hadd : ∀ {next : OpenPosition}, PositionTracks market rest next →
      Spec (Left market unmatched w₀ ledger rest)
        (addPosition router.repository answers.savePosition next)
        (fun _ => Tracks market unmatched w₀) fun _ => Tracks market unmatched w₀ := by
    intro next hnext
    exact Spec.conseq (addPosition_tracks _ hnonneg hnext) (fun _ h => h) (fun _ _ h => h)
      fun _ _ h => tracks_of_failed hsaved (by simp) h
  show Spec _ (ite _ _ _) _ _
  split
  · next hdone =>
      have hsmall : ∀ leg, rest leg ≤ Dec.epsilon := by
        intro leg
        rw [← hunmatched leg]
        cases leg
        · exact hdone.1
        · exact hdone.2
      refine Spec.bind (R := fun _ => Tracks market unmatched w₀) ?_ fun _ => Keeps.await _
      show Spec _ (ite _ _ _) _ _
      split
      · refine hadd ⟨hmarket, ?_⟩
        show if "open" = "unwind_pending" then _ else _
        rw [if_neg (by decide)]
        intro leg
        exact ⟨by cases leg <;> rfl, hsmall leg⟩
      · have hkey : positionKey after.market = positionKey market := congrArg positionKey hmarket
        rw [hkey]
        exact Spec.conseq (removePosition_tracks _ hnonneg hsmall) (fun _ h => h) (fun _ _ h => h)
          fun _ _ h => tracks_of_failed hsaved (by simp) h
  · refine hadd ⟨hmarket, ?_⟩
    rw [if_pos (show after.status = "unwind_pending" from hstatus)]
    exact fun leg => ⟨hunmatched leg, hexact leg⟩

/-- After the gather the ledger is as before, and this much less is left. -/
theorem BothUnwound.left {answers : Leg → LegAnswers} {w₁ : World} {unwound : Dec × Dec}
    (h : BothUnwound market pending answers w₁ unwound w) :
    Left market unmatched w₀ w₁.ledger
      (fun leg => World.unsold w₀ w₁ market unmatched leg - byLeg unwound.1 unwound.2 leg) w := by
  refine ⟨h.1.ledger, funext fun leg => ?_⟩
  unfold World.unsold
  rw [h.1.sold]
  ring

/-- A retry of the position the ledger has for the market. -/
def retryUnwind (router : Router) (config : Config) (market : MarketSpec) (w : World)
    (answers : PositionAnswers) : Option World :=
  (w.ledger.get? (positionKey market)).map fun position =>
    finalState (router.retryPendingUnwind config answers position) w

/-- The retry tells the ledger of everything it sells: nothing in it raises after a fill, and the
position is saved, unless nothing was sold. -/
def RetryTells (router : Router) (config : Config) (market : MarketSpec) (w : World)
    (answers : PositionAnswers) : Prop :=
  ∀ position, w.ledger.get? (positionKey market) = some position →
    position.status = "unwind_pending" →
    LegsTell router config market (unmatchedContracts position) answers.leg ∧
      (Saved router [answers.savePosition, answers.removePosition] ∨
        LegsUnsold (unmatchedContracts position) answers.leg)

/-- A retry keeps the ledger true. -/
theorem retryUnwind_tracks {answers : PositionAnswers} {w' : World}
    (h : Tracks market unmatched w₀ w) (htells : RetryTells router config market w answers)
    (hstep : retryUnwind router config market w answers = some w') :
    Tracks market unmatched w₀ w' := by
  obtain ⟨position, hposition, rfl⟩ := Option.map_eq_some_iff.mp hstep
  obtain ⟨hnonneg, hledger⟩ := id h
  rw [hposition] at hledger
  obtain ⟨hmarket, hpending⟩ := hledger
  have hround : Spec (fun t => t = w) (router.retryPendingUnwind config answers position)
      (fun _ => Tracks market unmatched w₀) fun _ => Tracks market unmatched w₀ := by
    show Spec _ (ite _ _ _) _ _
    split
    · exact Spec.pure fun t ht => ht ▸ h
    · next hstatus =>
        have hstatus : position.status = "unwind_pending" := not_not.mp hstatus
        rw [if_pos hstatus] at hpending
        obtain ⟨hlegs, hsaved⟩ := htells position hposition hstatus
        have hamounts : ∀ leg, 0 ≤ unmatchedContracts position leg ∧
            Dec.Exact (unmatchedContracts position leg) := fun leg => by
          rw [(hpending leg).1]
          exact ⟨hnonneg leg, (hpending leg).2⟩
        rw [hmarket]
        have hgather := gather_told w (byLeg (config.floatText position.polymarketEntryPrice) 0)
          hamounts hlegs
        refine Spec.bind (Spec.conseq hgather (fun _ h => h) (fun _ _ h => h)
          fun _ _ h => h.elim) fun unwound => ?_
        refine Spec.of_state fun t hunwound => ?_
        have hleft : Left market unmatched w₀ w.ledger (fun leg =>
            World.unsold w₀ w market unmatched leg - byLeg unwound.1 unwound.2 leg) t :=
          hunwound.left
        have hrest : ∀ leg, World.unsold w₀ w market unmatched leg -
            byLeg unwound.1 unwound.2 leg =
              unmatchedContracts position leg - byLeg unwound.1 unwound.2 leg := fun leg => by
          rw [(hpending leg).1]
        refine Spec.conseq (settleUnwind_tracks hmarket hstatus hunwound.2.1 hrest ?_)
          (fun _ ht => ht ▸ hleft) (fun _ _ h => h) fun _ _ h => h
        refine hsaved.imp_right fun hunsold => ?_
        have hzero : (fun leg => World.unsold w₀ w market unmatched leg -
            byLeg unwound.1 unwound.2 leg) = World.unsold w₀ w market unmatched := by
          funext leg
          rw [hunwound.2.2 hunsold]
          cases leg <;> exact sub_zero _
        rw [hzero]
        exact h
  exact Spec.finalState hround rfl

/-! ## The immediate unwind -/

/-- What an entry leaves unmatched is a decimal of the context. -/
theorem unmatchedAmount_exact (first second : EntryLegResult) (leg : Leg) :
    0 ≤ Router.unmatchedAmount first second leg ∧
      Dec.Exact (Router.unmatchedAmount first second leg) := by
  have hmax : ∀ x : Dec, 0 ≤ max 0 (Dec.ctx x) ∧ Dec.Exact (max 0 (Dec.ctx x)) := by
    intro x
    refine ⟨le_max_left _ _, ?_⟩
    rcases max_choice 0 (Dec.ctx x) with h | h
    · rw [h]
      exact Dec.ctx_zero
    · rw [h]
      exact Dec.exact_ctx x
  cases leg with
  | first => exact hmax _
  | second => exact hmax _

/-- The unwind of an entry tells the ledger of everything it sells: nothing in it raises after a
fill, the message about it is sent, and the position is saved. -/
structure EntryTells (router : Router) (config : Config) (market : MarketSpec)
    (unmatched : Leg → Dec) (legAnswers : Leg → LegAnswers) (answers : SettleAnswers) : Prop where
  legs : LegsTell router config market unmatched legAnswers
  announced : raisedBy answers.sendImbalance = []
  saved : Saved router [answers.saveUnwindPending, answers.removeUnmatched, answers.savePosition]

/-- The end of an entry books what is left of its unmatched contracts. -/
theorem bookEntry_tracks {answers : SettleAnswers} {signal : ArbitrageSignal}
    {first second : EntryLegResult} (hnonneg : ∀ leg, 0 ≤ rest leg)
    (hexact : ∀ leg, Dec.Exact (rest leg))
    (hsaved : Saved router
      [answers.saveUnwindPending, answers.removeUnmatched, answers.savePosition]) :
    Spec (Left signal.market unmatched w₀ ledger rest)
      (router.bookEntry answers signal first second (rest .first) (rest .second))
      (fun _ => Tracks signal.market unmatched w₀) fun _ => Tracks signal.market unmatched w₀ := by
  have hfailed : ∀ {answer : WriteAnswer Exc}, answer ∈
      [answers.saveUnwindPending, answers.removeUnmatched, answers.savePosition] →
      ∀ exc w, exc ∈ failedBy answer ∧ router.repository = true ∧
        Left signal.market unmatched w₀ ledger rest w → Tracks signal.market unmatched w₀ w :=
    fun hmem _ _ h => tracks_of_failed (.inl hsaved) hmem h
  show Spec _ (ite _ _ _) _ _
  split
  · refine Spec.conseq (addPosition_tracks _ hnonneg ⟨rfl, ?_⟩) (fun _ h => h) (fun _ _ h => h)
      (hfailed (by simp))
    rw [if_pos rfl]
    intro leg
    exact ⟨by cases leg <;> rfl, hexact leg⟩
  · next hdone =>
      rw [not_or, not_lt, not_lt] at hdone
      have hsmall : ∀ leg, rest leg ≤ Dec.epsilon := by
        intro leg
        cases leg
        · exact hdone.1
        · exact hdone.2
      split
      · exact Spec.conseq (removePosition_tracks _ hnonneg hsmall) (fun _ h => h)
          (fun _ _ h => h) (hfailed (by simp))
      · refine Spec.bind (R := fun _ => Tracks signal.market unmatched w₀) ?_ fun _ => Keeps.await _
        refine Spec.conseq (addPosition_tracks _ hnonneg ⟨rfl, ?_⟩) (fun _ h => h)
          (fun _ _ h => h) (hfailed (by simp))
        show if "open" = "unwind_pending" then _ else _
        rw [if_neg (by decide)]
        intro leg
        exact ⟨by cases leg <;> rfl, hsmall leg⟩

/-- The immediate unwind leaves the ledger true. -/
theorem unwindAndBook_tracks {legAnswers : Leg → LegAnswers} {answers : SettleAnswers}
    {signal : ArbitrageSignal} {first second : EntryLegResult}
    (htells : EntryTells router config signal.market (Router.unmatchedAmount first second)
      legAnswers answers) :
    Tracks signal.market (Router.unmatchedAmount first second) w₀
      (finalState (router.unwindAndBook (router.unwindEntry config legAnswers signal) answers signal
        first second) w₀) := by
  refine Spec.finalState (P := fun t => t = w₀) ?_ rfl
  have hgather := gather_told w₀ (byLeg signal.polymarketPrice signal.predictFunPrice)
    (unmatchedAmount_exact first second) htells.legs
  refine Spec.bind (Spec.conseq hgather (fun _ h => h) (fun _ _ h => h)
    fun _ _ h => h.elim) fun unwound => ?_
  refine Spec.bind (R := fun _ => BothUnwound signal.market (Router.unmatchedAmount first second)
    legAnswers w₀ unwound) ?_ fun _ => ?_
  · refine Spec.whenever (fun _ => ?_) fun _ _ h => h
    refine Spec.conseq (await_spec answers.sendImbalance) (fun _ h => h) (fun _ _ h => h.2)
      fun _ _ h => ?_
    rw [htells.announced] at h
    exact absurd h.1 List.not_mem_nil
  refine Spec.of_state fun t hunwound => ?_
  have hfirst : max 0 (Dec.sub (Router.unmatchedAmount first second .first) unwound.1) =
      Router.unmatchedAmount first second .first - unwound.1 := (hunwound.2.1 .first).rest
  have hsecond : max 0 (Dec.sub (Router.unmatchedAmount first second .second) unwound.2) =
      Router.unmatchedAmount first second .second - unwound.2 := (hunwound.2.1 .second).rest
  have hleft : Left signal.market (Router.unmatchedAmount first second) w₀ w₀.ledger (fun leg =>
      World.unsold w₀ w₀ signal.market (Router.unmatchedAmount first second) leg -
        byLeg unwound.1 unwound.2 leg) t := hunwound.left
  have hstart : (fun leg => World.unsold w₀ w₀ signal.market
        (Router.unmatchedAmount first second) leg - byLeg unwound.1 unwound.2 leg) =
      fun leg => Router.unmatchedAmount first second leg - byLeg unwound.1 unwound.2 leg := by
    funext leg
    rw [World.unsold, sub_self, sub_zero]
  rw [hstart] at hleft
  have hbook : Spec (Left signal.market (Router.unmatchedAmount first second) w₀ w₀.ledger
        fun leg => Router.unmatchedAmount first second leg - byLeg unwound.1 unwound.2 leg)
      (router.bookEntry answers signal first second
        (Router.unmatchedAmount first second .first - unwound.1)
        (Router.unmatchedAmount first second .second - unwound.2))
      (fun _ => Tracks signal.market (Router.unmatchedAmount first second) w₀)
      fun _ => Tracks signal.market (Router.unmatchedAmount first second) w₀ :=
    bookEntry_tracks (fun leg => sub_nonneg.mpr (hunwound.2.1 leg).2.1)
      (fun leg => (hunwound.2.1 leg).2.2) htells.saved
  rw [hfirst, hsecond]
  exact Spec.bind (Spec.conseq hbook (fun _ ht => ht ▸ hleft) (fun _ _ h => h) fun _ _ h => h)
    fun _ => Keeps.pure _

/-- **Conservation.**  In every run of an entry's unwind and its retries, in each of which nothing
raises between a reported fill and the save of the position, the venue reports no more of a leg sold
than was unmatched, and the ledger marks what is left. -/
theorem unwind_conserves (router : Router) (config : Config) (legAnswers : Leg → LegAnswers)
    (answers : SettleAnswers) (signal : ArbitrageSignal) (first second : EntryLegResult)
    (w₀ : World)
    (htells : EntryTells router config signal.market (Router.unmatchedAmount first second)
      legAnswers answers) {hist : List World} {w : World}
    (hrun : Run (retryUnwind router config signal.market)
      (RetryTells router config signal.market)
      (finalState (router.unwindAndBook (router.unwindEntry config legAnswers signal) answers signal
        first second) w₀) hist w) :
    ∀ t ∈ w :: hist, Conserves signal.market (Router.unmatchedAmount first second) w₀ t := by
  intro t ht
  have hstart : Tracks signal.market (Router.unmatchedAmount first second) w₀
      (finalState (router.unwindAndBook (router.unwindEntry config legAnswers signal) answers signal
        first second) w₀) := unwindAndBook_tracks htells
  have htracks := hrun.visited_invariant _ hstart
    (fun _ _ _ h hok hstep => retryUnwind_tracks h hok hstep) t ht
  exact htracks.conserves

/-! ## A fill that is sold twice -/

/-- The configuration of the examples: no fees. -/
def noFees : Config where
  autoCloseEnabled := true
  exitSpreadPct := 1 / 100
  submitsOrders := true
  polymarketTradingFeePct := 0
  predictFunFeeRateBps := 0
  sxBetTakerFeeBps := 0
  myriadTradingFeePct := 0
  floatText := id
  unwindPrice := fun bid => max (1 / 100) (bid - 1 / 100)

/-- A market between Polymarket and another venue. -/
def unwindMarket (venueB : String) : MarketSpec where
  symbol := "BTC"
  targetLabel := "up"
  polymarketTokenId := "first-token"
  polymarketSide := .yes
  predictFunTokenId := "second-token"
  predictFunSide := .no
  venueBLabel := venueB

/-- The venue reports all of this sale filled, at one half. -/
def soldAtHalf (clientOrderId : String) (contracts : Dec) : SellAnswers :=
  let report : ExecutionReport := ⟨"order", .filled, contracts, contracts, 0, 1 / 2⟩
  { clientOrderId := clientOrderId
    createIntent := .done
    submitting := .done
    persisted := [("order", .done)]
    sell := .ok "order"
    acknowledged := .done
    waitFilled := .ok report
    cancelOrder := .ok ()
    reconcile := .ok report
    recordStatus := .done
    pause := .ok ()
    sendTimeout := .ok ()
    cancelAfterError := .ok ()
    waitAfterError := .ok report
    recordError := .done
    pauseAfterError := .ok () }

/-- The answers to the unwind of a leg that sells all of it. -/
def unwoundAtHalf (clientOrderId : String) (contracts : Dec) : LegAnswers where
  book := .ok [1 / 2]
  sell := soldAtHalf clientOrderId contracts
  pnl := ⟨.ok false, .ok ()⟩

/-- The answers to a retry that sells this much of both legs. -/
def retryAnswers (clientOrderId : String) (contracts : Dec) : PositionAnswers where
  first := unwoundAtHalf clientOrderId contracts
  second := unwoundAtHalf clientOrderId contracts
  savePosition := .done
  removePosition := .done
  sendHtml := .ok ()
  closePnl := ⟨.ok false, .ok ()⟩
  sendExit := .ok ()

/-- No store and no message fails. -/
def settledWell : SettleAnswers where
  recordApiError := .ok ()
  saveUnpriced := .done
  pauseUnpriced := .ok ()
  sendUnpriced := .ok ()
  sendImbalance := .ok ()
  saveUnwindPending := .done
  removeUnmatched := .done
  savePosition := .done
  sendOpened := .ok ()

/-- An entry that bought ten contracts of the second leg and nothing of the first. -/
def secondLegSignal (venueB : String) : ArbitrageSignal where
  market := unwindMarket venueB
  polymarketContracts := 10
  predictFunContracts := 10
  polymarketCapitalUsd := 5
  predictFunCapitalUsd := 5
  polymarketPrice := 1 / 2
  predictFunPrice := 1 / 2

/-- The result of the first leg. -/
def nothingBought : EntryLegResult := ⟨"first", some (nothingFilled "first" 10), none⟩

/-- The result of the second leg. -/
def tenBought : EntryLegResult := ⟨"second", some ⟨"second", .filled, 10, 10, 0, 1 / 2⟩, none⟩

/-- The state before the unwind. -/
def beforeUnwind : World := ⟨.empty, .empty, .empty, [], [], .empty, []⟩

/-- The immediate unwind of that entry sells this much of its second leg. -/
def afterImmediateUnwind (route : ExecutionRoute) (venueB : String) (contracts : Dec) : World :=
  let router : Router := ⟨route, true⟩
  finalState (router.unwindAndBook
    (router.unwindEntry noFees (fun _ => unwoundAtHalf "unwind" contracts) (secondLegSignal venueB))
    settledWell (secondLegSignal venueB) nothingBought tenBought) beforeUnwind

theorem reports_soldAtHalf {clientOrderId : String} {contracts : Dec} {report : ExecutionReport}
    (h : report ∈ (soldAtHalf clientOrderId contracts).reports) :
    report.amountFilled = contracts := by
  simp only [soldAtHalf, SellAnswers.reports, SellAnswers.exceptions, reportsOf, failedBy, raisedBy,
    List.append_nil, List.flatMap_nil, List.mem_append, List.mem_singleton, or_self] at h
  rw [h]

/-- On a market with a fee nothing of such an unwind is lost. -/
theorem unwoundAtHalf_tells {router : Router} {market : MarketSpec} {leg : Leg}
    {clientOrderId : String} {contracts pending : Dec} (hnonneg : 0 ≤ contracts)
    (hle : contracts ≤ pending) (hexact : Dec.Exact (pending - contracts))
    (hfee : raisedBy (venueFeePct noFees (router.label leg) market) = []) :
    (unwoundAtHalf clientOrderId contracts).Tells router noFees market leg pending where
  sale :=
    { nonneg := fun _ h => (reports_soldAtHalf h).symm ▸ hnonneg
      uncancelled := List.not_mem_nil
      kept := .inr ⟨rfl, rfl, rfl, rfl⟩ }
  within _ h := by
    rw [reports_soldAtHalf h]
    exact ⟨hle, hexact⟩
  book := List.not_mem_nil
  booked := .inr ⟨hfee, rfl, rfl⟩

/-- Six contracts are sold at once and the other four by a retry. -/
theorem unwind_conserves_two_attempts :
    ∃ hist w, w.sold (positionKey (unwindMarket "Predict.fun")) .second = 10 ∧
      w.ledger.get? (positionKey (unwindMarket "Predict.fun")) = none ∧
      ∀ t ∈ w :: hist, Conserves (unwindMarket "Predict.fun")
        (Router.unmatchedAmount nothingBought tenBought) beforeUnwind t := by
  have hretry : (retryUnwind ⟨.polymarketPredict, true⟩ noFees (unwindMarket "Predict.fun")
      (afterImmediateUnwind .polymarketPredict "Predict.fun" 6) (retryAnswers "retry" 4)).map
        (fun w => (w.sold (positionKey (unwindMarket "Predict.fun")) .second,
          w.ledger.get? (positionKey (unwindMarket "Predict.fun")))) = some (10, none) := by
    decide +kernel
  obtain ⟨w, hw, hsold⟩ := Option.map_eq_some_iff.mp hretry
  obtain ⟨hsold, hledger⟩ := Prod.mk.inj hsold
  refine ⟨_, w, hsold, hledger, unwind_conserves ⟨.polymarketPredict, true⟩ noFees
    (fun _ => unwoundAtHalf "unwind" 6) settledWell (secondLegSignal "Predict.fun") nothingBought
    tenBought beforeUnwind ⟨?_, rfl, fun _ => by decide⟩ (.next .start ?_ hw)⟩
  · intro leg hleg
    cases leg with
    | first => exact absurd hleg (by decide +kernel)
    | second =>
        refine unwoundAtHalf_tells ?_ ?_ ?_ rfl <;> decide +kernel
  · intro position hposition _
    have hpending : ((afterImmediateUnwind .polymarketPredict "Predict.fun" 6).ledger.get?
        (positionKey (unwindMarket "Predict.fun"))).map (fun position =>
          (unmatchedContracts position .first, unmatchedContracts position .second)) =
        some (0, 4) := by decide +kernel
    have hposition : (afterImmediateUnwind .polymarketPredict "Predict.fun" 6).ledger.get?
        (positionKey (unwindMarket "Predict.fun")) = some position := hposition
    rw [hposition] at hpending
    obtain ⟨hfirst, hsecond⟩ := Prod.mk.inj (Option.some.inj hpending)
    refine ⟨fun leg hleg => ?_, .inl fun _ => by decide⟩
    cases leg with
    | first => exact absurd hleg (by rw [hfirst]; decide +kernel)
    | second =>
        rw [hsecond]
        refine unwoundAtHalf_tells ?_ ?_ ?_ rfl <;> decide +kernel

/-- Ten contracts of an Opinion leg are unmatched, and all of them are sold at once; the fee of the
venue is not known, so a retry sells ten again. -/
theorem opinion_fill_sold_twice :
    ∃ w, retryUnwind ⟨.polymarketOpinion, true⟩ noFees (unwindMarket "Opinion")
        (afterImmediateUnwind .polymarketOpinion "Opinion" 10) (retryAnswers "retry" 10) = some w ∧
      w.sold (positionKey (unwindMarket "Opinion")) .second = 20 ∧
      ¬ Conserves (unwindMarket "Opinion") (Router.unmatchedAmount nothingBought tenBought)
        beforeUnwind w := by
  have hretry : (retryUnwind ⟨.polymarketOpinion, true⟩ noFees (unwindMarket "Opinion")
      (afterImmediateUnwind .polymarketOpinion "Opinion" 10) (retryAnswers "retry" 10)).map
        (fun w => w.sold (positionKey (unwindMarket "Opinion")) .second) = some 20 := by
    decide +kernel
  obtain ⟨w, hw, hsold⟩ := Option.map_eq_some_iff.mp hretry
  refine ⟨w, hw, hsold, fun h => ?_⟩
  have hle := (h .second).1
  rw [hsold] at hle
  exact absurd hle (by decide +kernel)

end ArbitrageEngine.Execution
