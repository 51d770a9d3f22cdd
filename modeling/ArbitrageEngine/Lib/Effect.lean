/-
# ArbitrageEngine.Lib.Effect -- pre- and postconditions for effects that survive an exception

Programs that write to a store while they may raise are `EStateM` programs: an exception keeps the
state it was raised in, and a handler runs from there.  `Spec P m Q E` says that from a state in `P`
the program either returns with `Q` or raises with `E`; `Keeps I m` is the special case of an
invariant that holds however the program ends.

`await`, `attempt` and `transact` are the awaited calls: a call answered by the environment, a
handler that sees some of the exceptions, and one write to a transactional store, which may be
applied or not before it fails.
-/
import Mathlib.Tactic.Common

namespace ArbitrageEngine.Lib.Effect

universe u

variable {ε σ α β : Type u}

/-! ## Specifications -/

/-- From `P`, the program returns with `Q` or raises with `E`. -/
def Spec (P : σ → Prop) (m : EStateM ε σ α) (Q : α → σ → Prop) (E : ε → σ → Prop) : Prop :=
  ∀ s, P s →
    match m s with
    | .ok a t => Q a t
    | .error e t => E e t

/-- The program keeps `I`, whether it returns or raises. -/
def Keeps (I : σ → Prop) (m : EStateM ε σ α) : Prop := Spec I m (fun _ => I) (fun _ => I)

theorem Spec.conseq {P P' : σ → Prop} {m : EStateM ε σ α} {Q Q' : α → σ → Prop}
    {E E' : ε → σ → Prop} (h : Spec P m Q E) (hP : ∀ s, P' s → P s)
    (hQ : ∀ a s, Q a s → Q' a s) (hE : ∀ e s, E e s → E' e s) : Spec P' m Q' E' := by
  intro s hs
  have hm := h s (hP s hs)
  cases hrun : m s with
  | ok a t =>
      rw [hrun] at hm
      exact hQ a t hm
  | error e t =>
      rw [hrun] at hm
      exact hE e t hm

/-- A fact that does not depend on the state may be moved out of the precondition. -/
theorem Spec.assume {p : Prop} {P : σ → Prop} {m : EStateM ε σ α} {Q : α → σ → Prop}
    {E : ε → σ → Prop} (h : p → Spec P m Q E) : Spec (fun s => p ∧ P s) m Q E :=
  fun s hs => h hs.1 s hs.2

/-- A postcondition may speak of the state the program started in. -/
theorem Spec.of_state {P : σ → Prop} {m : EStateM ε σ α} {Q : α → σ → Prop} {E : ε → σ → Prop}
    (h : ∀ s, P s → Spec (fun t => t = s) m Q E) : Spec P m Q E :=
  fun s hs => h s hs s rfl

theorem Spec.pure {P : σ → Prop} {a : α} {Q : α → σ → Prop} {E : ε → σ → Prop}
    (h : ∀ s, P s → Q a s) : Spec P (Pure.pure a : EStateM ε σ α) Q E := h

theorem Spec.throw {P : σ → Prop} {e : ε} {Q : α → σ → Prop} {E : ε → σ → Prop}
    (h : ∀ s, P s → E e s) : Spec P (throw e : EStateM ε σ α) Q E := h

theorem Spec.get {P : σ → Prop} {Q : σ → σ → Prop} {E : ε → σ → Prop}
    (h : ∀ s, P s → Q s s) : Spec P (MonadState.get : EStateM ε σ σ) Q E := h

theorem Spec.modify {P : σ → Prop} {f : σ → σ} {Q : PUnit → σ → Prop} {E : ε → σ → Prop}
    (h : ∀ s, P s → Q ⟨⟩ (f s)) : Spec P (modify f : EStateM ε σ PUnit) Q E := h

theorem Spec.bind {P : σ → Prop} {m : EStateM ε σ α} {f : α → EStateM ε σ β}
    {R : α → σ → Prop} {Q : β → σ → Prop} {E : ε → σ → Prop} (hm : Spec P m R E)
    (hf : ∀ a, Spec (R a) (f a) Q E) : Spec P (m >>= f) Q E := by
  intro s hs
  have hms := hm s hs
  show match EStateM.bind m f s with
    | .ok a t => Q a t
    | .error e t => E e t
  unfold EStateM.bind
  cases hrun : m s with
  | ok a t =>
      rw [hrun] at hms
      exact hf a t hms
  | error e t =>
      rw [hrun] at hms
      exact hms

theorem Spec.tryCatch {P : σ → Prop} {m : EStateM ε σ α} {handler : ε → EStateM ε σ α}
    {R : ε → σ → Prop} {Q : α → σ → Prop} {E : ε → σ → Prop} (hm : Spec P m Q R)
    (hh : ∀ e, Spec (R e) (handler e) Q E) : Spec P (tryCatch m handler) Q E := by
  intro s hs
  have hms := hm s hs
  show match EStateM.tryCatch m handler s with
    | .ok a t => Q a t
    | .error e t => E e t
  unfold EStateM.tryCatch
  cases hrun : m s with
  | ok a t =>
      rw [hrun] at hms
      exact hms
  | error e t =>
      rw [hrun] at hms
      exact hh e t hms

/-! ## Invariants -/

theorem Keeps.pure {I : σ → Prop} (a : α) : Keeps I (Pure.pure a : EStateM ε σ α) :=
  fun _ hs => hs

theorem Keeps.throw {I : σ → Prop} (e : ε) : Keeps I (throw e : EStateM ε σ α) := fun _ hs => hs

theorem Keeps.modify {I : σ → Prop} {f : σ → σ} (h : ∀ s, I s → I (f s)) :
    Keeps I (modify f : EStateM ε σ PUnit) := h

theorem Keeps.bind {I : σ → Prop} {m : EStateM ε σ α} {f : α → EStateM ε σ β} (hm : Keeps I m)
    (hf : ∀ a, Keeps I (f a)) : Keeps I (m >>= f) := Spec.bind hm hf

theorem Keeps.ite {I : σ → Prop} {c : Prop} [Decidable c] {m m' : EStateM ε σ α}
    (h : Keeps I m) (h' : Keeps I m') : Keeps I (if c then m else m') := by
  split
  · exact h
  · exact h'

/-- A step that is taken only if the condition holds. -/
def whenever (c : Prop) [Decidable c] (m : EStateM ε σ PUnit) : EStateM ε σ PUnit :=
  if c then m else pure ⟨⟩

theorem Spec.whenever {P : σ → Prop} {c : Prop} [Decidable c] {m : EStateM ε σ PUnit}
    {Q : PUnit → σ → Prop} {E : ε → σ → Prop} (hm : c → Spec P m Q E)
    (hskip : ¬c → ∀ s, P s → Q ⟨⟩ s) : Spec P (whenever c m) Q E := by
  unfold Effect.whenever
  split
  · next h => exact hm h
  · next h => exact Spec.pure (hskip h)

theorem Keeps.whenever {I : σ → Prop} {c : Prop} [Decidable c] {m : EStateM ε σ PUnit}
    (hm : Keeps I m) : Keeps I (whenever c m) :=
  Spec.whenever (fun _ => hm) fun _ _ hs => hs

/-- A loop keeps what each of its rounds keeps. -/
theorem Keeps.forM {γ : Type u} {I : σ → Prop} {body : γ → EStateM ε σ PUnit} :
    ∀ xs : List γ, (∀ x ∈ xs, Keeps I (body x)) → Keeps I (xs.forM body)
  | [], _ => Keeps.pure _
  | x :: xs, h =>
      Keeps.bind (h x List.mem_cons_self) fun _ =>
        Keeps.forM xs fun y hy => h y (List.mem_cons_of_mem x hy)

/-- A loop reaches what one of its rounds reaches, if the rounds before keep the precondition and do
not raise, and the rounds after it keep what it reached. -/
theorem Spec.forM_of_round {γ : Type u} {P J : σ → Prop} {body : γ → EStateM ε σ PUnit} {x : γ}
    {after : List γ} (hx : Spec P (body x) (fun _ => J) fun _ => J)
    (hafter : ∀ y ∈ after, Keeps J (body y)) :
    ∀ before : List γ, (∀ y ∈ before, Spec P (body y) (fun _ => P) fun _ _ => False) →
      Spec P ((before ++ x :: after).forM body) (fun _ => J) fun _ => J
  | [], _ => Spec.bind hx fun _ => Keeps.forM after hafter
  | y :: before, h =>
      Spec.bind (Spec.conseq (h y List.mem_cons_self) (fun _ hs => hs) (fun _ _ hs => hs)
        fun _ _ hs => hs.elim) fun _ =>
          Spec.forM_of_round hx hafter before fun z hz => h z (List.mem_cons_of_mem y hz)

/-- Nothing is promised of any program. -/
theorem Spec.trivial (m : EStateM ε σ α) :
    Spec (fun _ => True) m (fun _ _ => True) fun _ _ => True := by
  intro s _
  cases m s <;> exact True.intro

/-- An invariant holds of a program that returns. -/
theorem Spec.returns {J : σ → Prop} {m : EStateM ε σ α} (h : Keeps J m) :
    Spec J m (fun _ => J) fun _ _ => True :=
  Spec.conseq h (fun _ hs => hs) (fun _ _ hs => hs) fun _ _ _ => True.intro

/-- A loop that returns has reached what one of its rounds reaches, if all rounds keep it. -/
theorem Spec.forM_of_mem {γ : Type u} {J : σ → Prop} {body : γ → EStateM ε σ PUnit} {x : γ}
    (hx : Spec (fun _ => True) (body x) (fun _ => J) fun _ _ => True) :
    ∀ xs : List γ, x ∈ xs → (∀ y ∈ xs, Keeps J (body y)) →
      Spec (fun _ => True) (xs.forM body) (fun _ => J) fun _ _ => True
  | [], hmem, _ => absurd hmem List.not_mem_nil
  | y :: rest, hmem, hkeeps => by
      rcases List.mem_cons.mp hmem with rfl | hmem
      · exact Spec.bind hx fun _ =>
          Spec.returns (Keeps.forM rest fun z hz => hkeeps z (List.mem_cons_of_mem _ hz))
      · exact Spec.bind (Spec.trivial (body y)) fun _ =>
          Spec.forM_of_mem hx rest hmem fun z hz => hkeeps z (List.mem_cons_of_mem _ hz)

/-- The state a program ends in, also when it raises. -/
def finalState (m : EStateM ε σ α) (s : σ) : σ :=
  match m s with
  | .ok _ t => t
  | .error _ t => t

/-- The exception a program raises. -/
def raised (m : EStateM ε σ α) (s : σ) : Option ε :=
  match m s with
  | .ok _ _ => none
  | .error e _ => some e

theorem Spec.finalState {P J : σ → Prop} {m : EStateM ε σ α} (h : Spec P m (fun _ => J) fun _ => J)
    {s : σ} (hs : P s) : J (finalState m s) := by
  have hm := h s hs
  unfold Effect.finalState
  cases hrun : m s with
  | ok _ t =>
      rw [hrun] at hm
      exact hm
  | error _ t =>
      rw [hrun] at hm
      exact hm

/-- What a program promises when it returns, where it does not raise. -/
theorem Spec.of_returns {P J : σ → Prop} {m : EStateM ε σ α} {E : ε → σ → Prop}
    (h : Spec P m (fun _ => J) E) {s : σ} (hs : P s) (hreturns : raised m s = none) :
    J (Effect.finalState m s) := by
  have hm := h s hs
  unfold Effect.finalState
  unfold raised at hreturns
  cases hrun : m s with
  | ok _ t =>
      rw [hrun] at hm
      exact hm
  | error _ t =>
      rw [hrun] at hreturns
      cases hreturns

/-- What a program promises of the exception it raises, if it raises one. -/
theorem Spec.of_raised {P : σ → Prop} {m : EStateM ε σ α} {Q : Prop} {E : ε → Prop}
    (h : Spec P m (fun _ _ => Q) fun exc _ => E exc) {s : σ} (hs : P s) :
    match raised m s with
    | none => Q
    | some exc => E exc := by
  have hm := h s hs
  unfold raised
  cases hrun : m s with
  | ok _ t =>
      rw [hrun] at hm
      exact hm
  | error _ t =>
      rw [hrun] at hm
      exact hm

/-! ## Awaited calls -/

variable {ε σ : Type} {α χ : Type}

/-- A sequence that returns has a first part that returns. -/
theorem exists_of_bind_ok {β : Type} {first : Except ε α} {next : α → Except ε β} {result : β}
    (h : (first >>= next) = .ok result) : ∃ value, first = .ok value ∧ next value = .ok result := by
  cases first with
  | error fault => cases h
  | ok value => exact ⟨value, rfl, h⟩

/-- To translate what a sequence raises is to translate what its parts raise. -/
theorem mapError_bind {β : Type} (translate : ε → χ) (first : Except ε α)
    (next : α → Except ε β) :
    (first >>= next).mapError translate =
      first.mapError translate >>= fun value => (next value).mapError translate := by
  cases first <;> rfl

/-- Await a call that returns a value or raises. -/
def await (answer : Except ε α) : EStateM ε σ α :=
  match answer with
  | .ok a => pure a
  | .error exc => throw exc

/-- `try: m  except ...`: what the handler sees as a value.  An exception that `caught` does not
take goes on. -/
def attempt (caught : ε → Option χ) (m : EStateM ε σ α) : EStateM ε σ (Except χ α) :=
  tryCatch (m >>= fun a => pure (.ok a)) fun exc =>
    match caught exc with
    | some seen => pure (.error seen)
    | none => throw exc

/-- The outcome of a write: done, or failed with the transaction committed or not. -/
inductive WriteAnswer (ε : Type)
  | done
  | failed (committed : Bool) (exc : ε)
deriving DecidableEq

/-- Did the store apply the write? -/
def WriteAnswer.commits : WriteAnswer ε → Bool
  | .done => true
  | .failed committed _ => committed

/-- One transaction that applies `f`. -/
def transact (answer : WriteAnswer ε) (f : σ → σ) : EStateM ε σ Unit :=
  match answer with
  | .done => modify f
  | .failed committed exc => do
      if committed then modify f
      throw exc

theorem Spec.await {P : σ → Prop} {answer : Except ε α} {Q : α → σ → Prop}
    {E : ε → σ → Prop} (hok : ∀ a, answer = .ok a → ∀ s, P s → Q a s)
    (herr : ∀ exc, answer = .error exc → ∀ s, P s → E exc s) : Spec P (await answer) Q E := by
  cases answer with
  | ok a => exact hok a rfl
  | error exc => exact herr exc rfl

/-- A call that returned is the value it returned. -/
theorem await_bind {answer : Except ε α} {a : α} (h : answer = .ok a) (f : α → EStateM ε σ χ) :
    (await answer >>= f) = f a := by
  rw [h]
  rfl

theorem Spec.transact {P : σ → Prop} {answer : WriteAnswer ε} {f : σ → σ} {Q : Unit → σ → Prop}
    {E : ε → σ → Prop} (hdone : answer = .done → ∀ s, P s → Q () (f s))
    (hcommitted : ∀ exc, answer = .failed true exc → ∀ s, P s → E exc (f s))
    (hlost : ∀ exc, answer = .failed false exc → ∀ s, P s → E exc s) :
    Spec P (transact answer f) Q E := by
  cases answer with
  | done => exact hdone rfl
  | failed committed exc =>
      cases committed with
      | true => exact hcommitted exc rfl
      | false => exact hlost exc rfl

theorem Spec.attempt {P : σ → Prop} {caught : ε → Option χ} {m : EStateM ε σ α}
    {R : ε → σ → Prop} {Q : Except χ α → σ → Prop} {E : ε → σ → Prop}
    (hm : Spec P m (fun a s => Q (.ok a) s) R)
    (hcaught : ∀ exc seen s, caught exc = some seen → R exc s → Q (.error seen) s)
    (hthrough : ∀ exc s, caught exc = none → R exc s → E exc s) :
    Spec P (attempt caught m) Q E := by
  refine Spec.tryCatch (Spec.bind hm fun a => Spec.pure fun _ hs => hs) fun exc => ?_
  cases hseen : caught exc with
  | some seen => exact Spec.pure fun s hs => hcaught exc seen s hseen hs
  | none => exact Spec.throw fun s hs => hthrough exc s hseen hs

theorem Keeps.await {I : σ → Prop} (answer : Except ε α) :
    Keeps I (await answer : EStateM ε σ α) :=
  Spec.await (fun _ _ _ hs => hs) fun _ _ _ hs => hs

/-- A handler promises what returning and raising promise; what it lets through promises it too. -/
theorem Spec.attempted {P J : σ → Prop} {caught : ε → Option χ} {m : EStateM ε σ α}
    {E : ε → σ → Prop} (h : Spec P m (fun _ => J) fun _ => J)
    (hthrough : ∀ exc s, caught exc = none → J s → E exc s) :
    Spec P (Effect.attempt caught m) (fun _ => J) E :=
  Spec.attempt h (fun _ _ _ _ hs => hs) hthrough

theorem Keeps.attempt {I : σ → Prop} {caught : ε → Option χ} {m : EStateM ε σ α}
    (h : Keeps I m) : Keeps I (attempt caught m) := Spec.attempted h fun _ _ _ hs => hs

theorem Keeps.transact {I : σ → Prop} {answer : WriteAnswer ε} {f : σ → σ}
    (h : ∀ s, I s → I (f s)) : Keeps I (transact answer f) :=
  Spec.transact (fun _ => h) (fun _ _ => h) fun _ _ _ hs => hs

/-- A list of calls that returned has the value of each. -/
theorem exists_of_mapM {γ : Type} {f : γ → Except ε α} {x : γ} :
    ∀ {xs : List γ} {values : List α}, xs.mapM f = .ok values → x ∈ xs →
      ∃ value ∈ values, f x = .ok value
  | [], _, _, hmem => absurd hmem List.not_mem_nil
  | y :: rest, values, h, hmem => by
      rw [List.mapM_cons] at h
      cases hy : f y with
      | error exc =>
          rw [hy] at h
          cases h
      | ok first =>
          cases hrest : rest.mapM f with
          | error exc =>
              rw [hy, hrest] at h
              cases h
          | ok others =>
              rw [hy, hrest] at h
              cases h
              rcases List.mem_cons.mp hmem with rfl | hmem
              · exact ⟨first, List.mem_cons_self, hy⟩
              · obtain ⟨value, hvalue, hx⟩ := exists_of_mapM hrest hmem
                exact ⟨value, List.mem_cons_of_mem _ hvalue, hx⟩

/-! ### The final state, step by step -/

theorem finalState_of_ok {m : EStateM ε σ α} {f : α → EStateM ε σ χ} {s t : σ} {a : α}
    (h : m s = .ok a t) : finalState (m >>= f) s = finalState (f a) t := by
  unfold finalState
  show (match EStateM.bind m f s with
    | .ok _ u => u
    | .error _ u => u) = _
  unfold EStateM.bind
  rw [h]
  rfl

theorem finalState_of_error {m : EStateM ε σ α} {f : α → EStateM ε σ χ} {s t : σ} {exc : ε}
    (h : m s = .error exc t) : finalState (m >>= f) s = t := by
  unfold finalState
  show (match EStateM.bind m f s with
    | .ok _ u => u
    | .error _ u => u) = _
  unfold EStateM.bind
  rw [h]

/-- What comes after `m` and changes nothing leaves the final state of `m`. -/
theorem finalState_bind_same {m : EStateM ε σ α} {f : α → EStateM ε σ χ} {s : σ}
    (h : ∀ a t, m s = .ok a t → finalState (f a) t = t) : finalState (m >>= f) s = finalState m s := by
  cases hrun : m s with
  | ok a t =>
      rw [finalState_of_ok hrun, h a t hrun]
      unfold finalState
      rw [hrun]
  | error exc t =>
      rw [finalState_of_error hrun]
      unfold finalState
      rw [hrun]

/-- What holds after `m` and is kept by what follows holds at the end. -/
theorem finalState_bind_keeps {I : σ → Prop} {m : EStateM ε σ α} {f : α → EStateM ε σ χ} {s : σ}
    (hf : ∀ a, Keeps I (f a)) (hI : I (finalState m s)) : I (finalState (m >>= f) s) := by
  unfold finalState at hI
  cases hrun : m s with
  | ok a t =>
      rw [hrun] at hI
      rw [finalState_of_ok hrun]
      exact Spec.finalState (hf a) hI
  | error exc t =>
      rw [hrun] at hI
      rw [finalState_of_error hrun]
      exact hI

/-- A handler that only looks at the exception changes no state. -/
theorem attempt_run (caught : ε → Option χ) (m : EStateM ε σ α) (s : σ) :
    attempt caught m s =
      match m s with
      | .ok a t => .ok (.ok a) t
      | .error exc t =>
          match caught exc with
          | some seen => .ok (.error seen) t
          | none => .error exc t := by
  let handler (exc : ε) : EStateM ε σ (Except χ α) :=
    match caught exc with
    | some seen => pure (.error seen)
    | none => throw exc
  show EStateM.tryCatch (EStateM.bind m fun a => pure (.ok a)) handler s = _
  unfold EStateM.tryCatch EStateM.bind
  cases m s with
  | ok a t => rfl
  | error exc t =>
      show handler exc t = match caught exc with
        | some seen => .ok (.error seen) t
        | none => .error exc t
      unfold handler
      cases caught exc with
      | some seen => rfl
      | none => rfl

theorem finalState_attempt (caught : ε → Option χ) (m : EStateM ε σ α) (s : σ) :
    finalState (attempt caught m) s = finalState m s := by
  unfold finalState
  rw [attempt_run]
  cases m s with
  | ok a t => rfl
  | error exc t =>
      dsimp only
      cases caught exc with
      | some seen => rfl
      | none => rfl

/-! ## Faults of a process that may die -/

/-- How an awaited call fails where the process may die in it: by an exception, or not at all as
far as the program can tell. -/
inductive Fault
  | crash
  | raised (reason : String)
deriving DecidableEq

/-- `except Exception as exc`: a handler sees the text of an exception, and nothing of a crash. -/
def Fault.caught : Fault → Option String
  | .crash => none
  | .raised reason => some reason

end ArbitrageEngine.Lib.Effect
