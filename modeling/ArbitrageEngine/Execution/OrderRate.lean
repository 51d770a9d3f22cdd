/-
# ArbitrageEngine.Execution.OrderRate -- the order attempts of a minute

All routers share one `EntrySubmissionCoordinator`, which grants them a bounded number of order
attempts in a minute.  It keeps the times of its grants in a queue and reads the clock before it
takes its lock.

Tasks run one at a time and give way only where they wait.  Nothing is awaited while the lock is
held, so it is free whenever a call reaches it: a call runs from its clock reading to its end in one
turn, and the queue is in the order of the clock.
-/
import ArbitrageEngine.Lib.SlidingWindow
import Mathlib.Algebra.Order.Field.Rat

namespace ArbitrageEngine.Execution

open Lib.SlidingWindow

/-! ## The coordinator -/

/-- A call of `reserve_order_attempts`: how many attempts, and what its clock reading is. -/
structure Reservation where
  count : ℤ
  now : ℚ
deriving DecidableEq

/-- How a call ends. -/
inductive ReservationOutcome
  | raised (message : String)
  | refused
  | granted
deriving DecidableEq

/-- `EntrySubmissionCoordinator`, as far as its rate goes. -/
structure EntrySubmissionCoordinator where
  orderTimestamps : List ℚ := []
  /-- Is `_rate_lock` held between two turns? -/
  rateLocked : Bool := false
  /-- The calls that wait for the lock. -/
  waiting : List Reservation := []

/-- The window of the queue, in seconds. -/
def rateWindow : ℚ := 60

/-- A call that has ended. -/
abbrev EndedReservation : Type := Reservation × ReservationOutcome

namespace EntrySubmissionCoordinator

variable (maxOrdersPerMinute : ℤ)

/-- What is done under the lock. -/
def reserve (s : EntrySubmissionCoordinator) (call : Reservation) :
    EntrySubmissionCoordinator × ReservationOutcome :=
  let live := expire rateWindow call.now s.orderTimestamps
  if maxOrdersPerMinute < live.length + call.count then
    ({ s with orderTimestamps := live, rateLocked := false }, .refused)
  else
    ({ s with
        orderTimestamps := live ++ List.replicate call.count.toNat call.now
        rateLocked := false }, .granted)

/-- What a task does until it gives way. -/
inductive Turn
  /-- `reserve_order_attempts` is called. -/
  | call (reservation : Reservation)
  /-- The first call that waits gets the lock. -/
  | resume

/-- A turn, with the call that ended in it. -/
def turn (s : EntrySubmissionCoordinator) :
    Turn → EntrySubmissionCoordinator × Option EndedReservation
  | .call reservation =>
      if reservation.count ≤ 0 then
        (s, some (reservation, .raised "count must be positive"))
      else if maxOrdersPerMinute ≤ 0 then
        (s, some (reservation, .raised "max_orders_per_minute must be positive"))
      else if s.rateLocked = true ∨ s.waiting ≠ [] then
        ({ s with waiting := s.waiting ++ [reservation] }, none)
      else
        let ended := s.reserve maxOrdersPerMinute reservation
        (ended.1, some (reservation, ended.2))
  | .resume =>
      match s.waiting with
      | [] => (s, none)
      | reservation :: rest =>
          if s.rateLocked = true then (s, none)
          else
            let ended := { s with waiting := rest }.reserve maxOrdersPerMinute reservation
            (ended.1, some (reservation, ended.2))

/-- The turns of a run, with the calls that have ended, in their order. -/
def run (s : EntrySubmissionCoordinator) :
    List Turn → EntrySubmissionCoordinator × List EndedReservation
  | [] => (s, [])
  | first :: rest =>
      let ended := s.turn maxOrdersPerMinute first
      let later := run ended.1 rest
      (later.1, ended.2.toList ++ later.2)

end EntrySubmissionCoordinator

/-- The times of the attempts that were granted. -/
def grantedAttempts (ended : List EndedReservation) : List ℚ :=
  ended.flatMap fun call =>
    if call.2 = .granted then List.replicate call.1.count.toNat call.1.now else []

/-- The calls of a run. -/
def callsOf (turns : List EntrySubmissionCoordinator.Turn) : List Reservation :=
  turns.filterMap fun
    | .call reservation => some reservation
    | .resume => none

/-! ## What a run keeps -/

open EntrySubmissionCoordinator

variable {maxOrdersPerMinute : ℤ}

/-- Between two turns the lock is free, the queue is what was left of the grants when it was last
looked at, and no window has more of them than is allowed. -/
structure Regulated (maxOrdersPerMinute : ℤ) (now : ℚ) (s : EntrySubmissionCoordinator)
    (ended : List EndedReservation) : Prop where
  unlocked : s.rateLocked = false
  nobody_waits : s.waiting = []
  kept : ∃ last ≤ now, Kept rateWindow last s.orderTimestamps (grantedAttempts ended)
  bounded : Bounded rateWindow maxOrdersPerMinute.toNat (grantedAttempts ended)

/-- A call is refused only where its attempts would exceed the limit in the window that ends with
it. -/
def RefusedForRoom (maxOrdersPerMinute : ℤ) (earlier : List EndedReservation)
    (call : EndedReservation) : Prop :=
  call.2 = .refused →
    maxOrdersPerMinute <
      (recent rateWindow call.1.now (grantedAttempts earlier)).length + call.1.count

theorem grantedAttempts_concat (ended : List EndedReservation) (call : Reservation)
    (outcome : ReservationOutcome) :
    grantedAttempts (ended ++ [(call, outcome)]) =
      grantedAttempts ended ++
        if outcome = .granted then List.replicate call.count.toNat call.now else [] := by
  simp [grantedAttempts]

theorem regulated_start (now : ℚ) : Regulated maxOrdersPerMinute now {} [] where
  unlocked := rfl
  nobody_waits := rfl
  kept := ⟨now, le_rfl, .nil _ _⟩
  bounded := by
    intro window _
    show 0 ≤ _
    omega

variable {now : ℚ} {s : EntrySubmissionCoordinator} {ended : List EndedReservation}

/-- A call that is decided under the lock. -/
theorem Regulated.reserve (h : Regulated maxOrdersPerMinute now s ended) {call : Reservation}
    (hcount : 0 < call.count) (hlater : now ≤ call.now) :
    let decided := s.reserve maxOrdersPerMinute call
    Regulated maxOrdersPerMinute call.now decided.1 (ended ++ [(call, decided.2)]) ∧
      RefusedForRoom maxOrdersPerMinute ended (call, decided.2) := by
  obtain ⟨last, hlast, hkept⟩ := h.kept
  have hlive := hkept.expired (hlast.trans hlater)
  unfold EntrySubmissionCoordinator.reserve
  dsimp only
  split
  · next hfull =>
      have hsame : grantedAttempts (ended ++ [(call, .refused)]) = grantedAttempts ended := by
        rw [grantedAttempts_concat, if_neg (by decide), List.append_nil]
      refine ⟨⟨rfl, h.nobody_waits, ⟨call.now, le_rfl, ?_⟩, ?_⟩, fun _ => ?_⟩
      · rw [hsame]
        exact hlive
      · rw [hsame]
        exact h.bounded
      · rw [hlive.queue_eq] at hfull
        exact hfull
  · next hroom =>
      have hadded : grantedAttempts (ended ++ [(call, .granted)]) =
          grantedAttempts ended ++ List.replicate call.count.toNat call.now := by
        rw [grantedAttempts_concat, if_pos rfl]
      refine ⟨⟨rfl, h.nobody_waits, ⟨call.now, le_rfl, ?_⟩, ?_⟩, fun hrefused => by cases hrefused⟩
      · rw [hadded]
        exact hlive.admit (by norm_num [rateWindow]) _
      · rw [hadded]
        refine h.bounded.admit hlive ?_
        omega

/-- A turn of a call ends it, and keeps what is said between two turns. -/
theorem Regulated.call (h : Regulated maxOrdersPerMinute now s ended) {call : Reservation}
    (hlater : now ≤ call.now) :
    ∃ s' outcome, s.turn maxOrdersPerMinute (.call call) = (s', some (call, outcome)) ∧
      Regulated maxOrdersPerMinute call.now s' (ended ++ [(call, outcome)]) ∧
        RefusedForRoom maxOrdersPerMinute ended (call, outcome) := by
  -- a call that raises leaves everything as it is
  have hraised (message : String) :
      Regulated maxOrdersPerMinute call.now s (ended ++ [(call, .raised message)]) := by
    obtain ⟨last, hlast, hkept⟩ := h.kept
    have hsame : grantedAttempts (ended ++ [(call, .raised message)]) = grantedAttempts ended := by
      rw [grantedAttempts_concat, if_neg (by simp), List.append_nil]
    refine ⟨h.unlocked, h.nobody_waits, ⟨last, hlast.trans hlater, ?_⟩, ?_⟩
    · rw [hsame]
      exact hkept
    · rw [hsame]
      exact h.bounded
  unfold turn
  dsimp only
  split
  · exact ⟨_, _, rfl, hraised _, fun hrefused => by cases hrefused⟩
  · next hcount =>
    split
    · exact ⟨_, _, rfl, hraised _, fun hrefused => by cases hrefused⟩
    · rw [if_neg (by simp [h.unlocked, h.nobody_waits])]
      obtain ⟨hkeeps, hroom⟩ := h.reserve (not_le.mp hcount) hlater
      exact ⟨_, _, rfl, hkeeps, hroom⟩

/-- There is nobody to resume. -/
theorem Regulated.resume (h : Regulated maxOrdersPerMinute now s ended) :
    s.turn maxOrdersPerMinute .resume = (s, none) := by
  simp only [turn, h.nobody_waits]

/-- A run keeps it, ends each of its calls in the turn it was made in, and refuses for want of room
only. -/
theorem Regulated.run {turns : List Turn} (h : Regulated maxOrdersPerMinute now s ended)
    (hclock : (callsOf turns).Pairwise fun call later => call.now ≤ later.now)
    (hlater : ∀ call ∈ callsOf turns, now ≤ call.now) :
    let log := (s.run maxOrdersPerMinute turns).2
    Bounded rateWindow maxOrdersPerMinute.toNat (grantedAttempts (ended ++ log)) ∧
      log.map Prod.fst = callsOf turns ∧
      ∀ before call after, log = before ++ call :: after →
        RefusedForRoom maxOrdersPerMinute (ended ++ before) call := by
  induction turns generalizing now s ended with
  | nil =>
    refine ⟨?_, rfl, fun before call after hsplit => ?_⟩
    · show Bounded _ _ (grantedAttempts (ended ++ []))
      rw [List.append_nil]
      exact h.bounded
    · have hsplit : [] = before ++ call :: after := hsplit
      simp at hsplit
  | cons first rest ih =>
    cases first with
    | resume =>
      have hlog : (s.run maxOrdersPerMinute (.resume :: rest)).2 =
          (s.run maxOrdersPerMinute rest).2 := by
        rw [EntrySubmissionCoordinator.run, h.resume]
        rfl
      dsimp only
      rw [hlog]
      exact ih h hclock hlater
    | call call =>
      have hcalls : callsOf (.call call :: rest) = call :: callsOf rest := rfl
      rw [hcalls] at hclock hlater ⊢
      obtain ⟨hfirst, hrest⟩ := List.pairwise_cons.mp hclock
      obtain ⟨s', outcome, hturn, hkeeps, hroom⟩ := h.call (hlater call List.mem_cons_self)
      have hlog : (s.run maxOrdersPerMinute (.call call :: rest)).2 =
          (call, outcome) :: (s'.run maxOrdersPerMinute rest).2 := by
        rw [EntrySubmissionCoordinator.run, hturn]
        rfl
      obtain ⟨hbounded, hends, hrefused⟩ := ih hkeeps hrest hfirst
      dsimp only
      rw [hlog]
      refine ⟨?_, ?_, fun before other after hsplit => ?_⟩
      · rwa [List.append_assoc] at hbounded
      · rw [List.map_cons, hends]
      · cases before with
        | nil =>
          cases hsplit
          rw [List.append_nil]
          exact hroom
        | cons earlier before =>
          obtain ⟨hhead, htail⟩ := List.cons.inj hsplit
          have hother := hrefused before other after htail
          subst hhead
          rwa [List.append_assoc] at hother

/-! ## The limit -/

end ArbitrageEngine.Execution
