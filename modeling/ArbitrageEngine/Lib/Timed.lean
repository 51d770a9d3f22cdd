/-
# ArbitrageEngine.Lib.Timed -- effects that take time at their awaits

A timed program runs on a clock, which only its awaits move, and notes what it does with the time it
does it at.  `Notes m start events` says which events a program notes when it starts at `start`,
newest first and whether it returns or raises; the rules give those of a sequence, of a program
behind a check that is awaited, and of two programs that run side by side.
-/
import ArbitrageEngine.Lib.Effect
import Mathlib.Data.Int.Notation

namespace ArbitrageEngine.Lib.Timed

open Lib.Effect

/-- The time, and what was noted so far, newest first. -/
structure Clock (τ : Type) where
  now : ℤ
  noted : List τ := []
deriving DecidableEq

namespace Clock

variable {τ : Type}

/-- Some time has passed. -/
def later (clock : Clock τ) (delay : ℕ) : Clock τ := { clock with now := clock.now + delay }

/-- One more event. -/
def add (clock : Clock τ) (event : τ) : Clock τ := { clock with noted := event :: clock.noted }

@[simp] theorem later_now (clock : Clock τ) (delay : ℕ) :
    (clock.later delay).now = clock.now + delay := rfl

@[simp] theorem later_noted (clock : Clock τ) (delay : ℕ) :
    (clock.later delay).noted = clock.noted := rfl

end Clock

/-- A program that takes time and notes events. -/
abbrev Program (ε τ α : Type) : Type := EStateM ε (Clock τ) α

section Programs

variable {ε τ α β : Type}

/-- Await a call that takes `delay` before it returns or raises. -/
def awaitFor (delay : ℕ) (answer : Except ε α) : Program ε τ α := do
  modify fun clock => clock.later delay
  await answer

/-- What the clock says. -/
def readTime : Program ε τ ℤ := do
  let clock ← get
  pure clock.now

/-- Note what happens now. -/
def note (event : ℤ → τ) : Program ε τ Unit := modify fun clock => clock.add (event clock.now)

/-- Two programs that start at the same time; the call is over when both are. -/
def together (first : Program ε τ α) (second : Program ε τ β) :
    Program ε τ (Except ε α × Except ε β) := do
  let start ← get
  let a ← attempt some first
  let between ← get
  set { between with now := start.now }
  let b ← attempt some second
  let stop ← get
  set { stop with now := max between.now stop.now }
  pure (a, b)

/-- A write to the store as an awaited call. -/
def written : WriteAnswer ε → Except ε Unit
  | .done => .ok ()
  | .failed _ exc => .error exc

/-- Where the store is used, a write; where not, nothing. -/
def writtenIf (stored : Bool) (answer : WriteAnswer ε) : Except ε Unit :=
  if stored = true then written answer else .ok ()

end Programs

/-! ## What a program notes -/

variable {ε τ α β : Type}

/-- From `start` on, the program notes these events, whatever was noted before. -/
def Notes (m : Program ε τ α) (start : ℤ) (events : List τ) : Prop :=
  ∀ before, (finalState m ⟨start, before⟩).noted = events ++ before

theorem Notes.of_eq {m : Program ε τ α} {start : ℤ} {events events' : List τ}
    (h : Notes m start events) (heq : events = events') : Notes m start events' := heq ▸ h

theorem Notes.pure (a : α) (start : ℤ) : Notes (Pure.pure a : Program ε τ α) start [] :=
  fun _ => rfl

theorem Notes.readTime_bind {m : ℤ → Program ε τ β} {start : ℤ} {events : List τ}
    (h : Notes (m start) start events) : Notes (readTime >>= m) start events := by
  intro before
  have hrun : (readTime : Program ε τ ℤ) ⟨start, before⟩ = .ok start ⟨start, before⟩ := rfl
  rw [finalState_of_ok hrun]
  exact h before

/-- An event is noted with its time. -/
theorem Notes.note_bind {event : ℤ → τ} {m : Unit → Program ε τ β} {start : ℤ} {events : List τ}
    (h : Notes (m ()) start events) :
    Notes (note event >>= m) start (events ++ [event start]) := by
  intro before
  have hrun : (note event : Program ε τ Unit) ⟨start, before⟩ =
      .ok () ⟨start, event start :: before⟩ := rfl
  rw [finalState_of_ok hrun, h, List.append_assoc]
  rfl

/-- What follows an awaited call starts when it returns; nothing follows one that raises. -/
theorem Notes.awaitFor_bind {delay : ℕ} {answer : Except ε α} {m : α → Program ε τ β} {start : ℤ}
    {events : List τ} (hok : ∀ a, answer = .ok a → Notes (m a) (start + delay) events)
    (herror : ∀ exc, answer = .error exc → events = []) :
    Notes (awaitFor delay answer >>= m) start events := by
  intro before
  cases answer with
  | ok a =>
      have hrun : (awaitFor delay (.ok a) : Program ε τ α) ⟨start, before⟩ =
          .ok a ⟨start + delay, before⟩ := rfl
      rw [finalState_of_ok hrun]
      exact hok a rfl before
  | error exc =>
      have hrun : (awaitFor delay (.error exc) : Program ε τ α) ⟨start, before⟩ =
          .error exc ⟨start + delay, before⟩ := rfl
      rw [finalState_of_error hrun, herror exc rfl]
      rfl

/-- A call that only has to return. -/
theorem Notes.awaitFor_done {delay : ℕ} {answer : Except ε Unit} {m : Unit → Program ε τ β}
    {start : ℤ} {events : List τ} (h : Notes (m ()) (start + delay) events) :
    Notes (awaitFor delay answer >>= m) start (if answer.isOk = true then events else []) := by
  refine Notes.awaitFor_bind (fun a ha => ?_) fun exc hexc => ?_
  · subst ha
    exact h
  · subst hexc
    rfl

/-- A check that is made on the spot. -/
theorem Notes.check {ok : Bool} {a : α} {m : Program ε τ α} {start : ℤ} {events : List τ}
    (h : Notes m start events) :
    Notes (if ok = false then Pure.pure a else m) start (if ok = true then events else []) := by
  cases ok with
  | true => exact h
  | false => exact Notes.pure a start

/-- A check that has to fail. -/
theorem Notes.checkNot {ok : Bool} {a : α} {m : Program ε τ α} {start : ℤ} {events : List τ}
    (h : Notes m start events) :
    Notes (if ok = true then Pure.pure a else m) start (if ok = false then events else []) := by
  cases ok with
  | true => exact Notes.pure a start
  | false => exact h

/-- A check that is awaited: where it holds, the rest starts when it returns. -/
theorem Notes.awaitFor_check {delay : ℕ} {answer : Except ε Bool} {a : α} {m : Program ε τ α}
    {start : ℤ} {events : List τ} (h : Notes m (start + delay) events) :
    Notes (awaitFor delay answer >>= fun ok => if ok = false then Pure.pure a else m) start
      (if answer.toOption = some true then events else []) := by
  refine Notes.awaitFor_bind (fun ok hok => ?_) fun exc hexc => ?_
  · subst hok
    cases ok with
    | true => exact h
    | false => exact Notes.pure a (start + delay)
  · subst hexc
    rfl

/-- Both programs note from the same time on. -/
theorem Notes.together {first : Program ε τ α} {second : Program ε τ β} {start : ℤ}
    {firstEvents secondEvents : List τ} (hfirst : Notes first start firstEvents)
    (hsecond : Notes second start secondEvents) :
    Notes (together first second) start (secondEvents ++ firstEvents) := by
  intro before
  obtain ⟨a, between, ha⟩ : ∃ a between,
      attempt some first ⟨start, before⟩ = .ok a between := by
    rw [attempt_run]
    cases first ⟨start, before⟩ with
    | ok a t => exact ⟨_, t, rfl⟩
    | error exc t => exact ⟨_, t, rfl⟩
  obtain ⟨b, stop, hb⟩ : ∃ b stop,
      attempt some second ⟨start, between.noted⟩ = .ok b stop := by
    rw [attempt_run]
    cases second ⟨start, between.noted⟩ with
    | ok b t => exact ⟨_, t, rfl⟩
    | error exc t => exact ⟨_, t, rfl⟩
  have hbetween : between.noted = firstEvents ++ before := by
    rw [← hfirst before, ← finalState_attempt some first]
    unfold finalState
    rw [ha]
  have hstop : stop.noted = secondEvents ++ between.noted := by
    rw [← hsecond between.noted, ← finalState_attempt some second]
    unfold finalState
    rw [hb]
  have hget : (get : Program ε τ (Clock τ)) ⟨start, before⟩ = .ok ⟨start, before⟩ ⟨start, before⟩ :=
    rfl
  have hset (clock : Clock τ) (s : Clock τ) :
      (set clock : Program ε τ PUnit) s = .ok ⟨⟩ clock := rfl
  have hread (s : Clock τ) : (get : Program ε τ (Clock τ)) s = .ok s s := rfl
  unfold Timed.together
  rw [finalState_of_ok hget, finalState_of_ok ha, finalState_of_ok (hread between),
    finalState_of_ok (hset _ _), finalState_of_ok hb, finalState_of_ok (hread stop),
    finalState_of_ok (hset _ _)]
  show stop.noted = _
  rw [hstop, hbetween, List.append_assoc]

end ArbitrageEngine.Lib.Timed
