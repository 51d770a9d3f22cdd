/-
# ArbitrageEngine.Lib.Runs -- guarded runs of a partial step function, with their history

A machine is a partial function `step : σ → α → Option σ`: `none` means the action is not enabled.
`Run step ok s₀ hist s` says that the machine can go from `s₀` to `s` by actions that each satisfy
the guard `ok` in the state they are taken in, and that `hist` are the states it has left behind,
newest first.  Keeping the history in the relation lets a safety statement speak about what was
true *earlier* in the run without adding ghost fields to the machine.

Two rules carry the inductions: `Run.invariant` for properties of the history and the current
state, and `Run.state_invariant` for properties of the current state alone.
-/
import Mathlib.Data.List.Basic

namespace ArbitrageEngine.Lib.Runs

universe u v

variable {σ : Type u} {α : Type v}

/-! ## Runs -/

/-- A run of `step` from `s₀` whose actions all satisfy `ok`, with the states left behind. -/
inductive Run (step : σ → α → Option σ) (ok : σ → α → Prop) (s₀ : σ) : List σ → σ → Prop
  | start : Run step ok s₀ [] s₀
  | next {hist : List σ} {s : σ} {a : α} {s' : σ} :
      Run step ok s₀ hist s → ok s a → step s a = some s' → Run step ok s₀ (s :: hist) s'

/-- The guard that admits every action. -/
def anyAction (_ : σ) (_ : α) : Prop := True

variable {step : σ → α → Option σ} {ok : σ → α → Prop} {s₀ : σ}

/-- What holds initially and is kept by every guarded step, along with the history, holds of every
run. -/
theorem Run.invariant (I : List σ → σ → Prop) (hstart : I [] s₀)
    (hnext : ∀ hist s a s', I hist s → ok s a → step s a = some s' → I (s :: hist) s')
    {hist : List σ} {s : σ} (h : Run step ok s₀ hist s) : I hist s := by
  induction h with
  | start => exact hstart
  | next _ hok hstep ih => exact hnext _ _ _ _ ih hok hstep

/-- The rule for an invariant of the current state alone. -/
theorem Run.state_invariant (I : σ → Prop) (hstart : I s₀)
    (hnext : ∀ s a s', I s → ok s a → step s a = some s' → I s')
    {hist : List σ} {s : σ} (h : Run step ok s₀ hist s) : I s :=
  h.invariant (fun _ t => I t) hstart (fun _ s a s' => hnext s a s')

/-- A state invariant holds of every state the run went through. -/
theorem Run.visited_invariant (I : σ → Prop) (hstart : I s₀)
    (hnext : ∀ s a s', I s → ok s a → step s a = some s' → I s')
    {hist : List σ} {s : σ} (h : Run step ok s₀ hist s) : ∀ t ∈ s :: hist, I t := by
  induction h with
  | start => simpa using hstart
  | @next hist s a s' _ hok hstep ih =>
      intro t ht
      rcases List.mem_cons.mp ht with rfl | ht
      · exact hnext s a t (ih s (by simp)) hok hstep
      · exact ih t ht

/-! ## Executable runs -/

instance (s : σ) (a : α) : Decidable (anyAction s a) := inferInstanceAs (Decidable True)

/-- Run a list of actions, failing at the first one that is not admitted or not enabled. -/
def exec (step : σ → α → Option σ) (ok : σ → α → Prop) [∀ s a, Decidable (ok s a)] :
    σ → List α → Option σ
  | s, [] => some s
  | s, a :: rest => if ok s a then (step s a).bind fun s' => exec step ok s' rest else none

variable [∀ s a, Decidable (ok s a)]

/-- What executes extends a run, which keeps its history. -/
theorem Run.append_exec {hist : List σ} {s : σ} (h : Run step ok s₀ hist s) :
    ∀ {acts : List α} {s' : σ}, exec step ok s acts = some s' →
      ∃ hist', Run step ok s₀ hist' s' ∧ ∀ t ∈ s :: hist, t ∈ s' :: hist' := by
  intro acts
  induction acts generalizing hist s with
  | nil =>
      intro s' hs
      cases hs
      exact ⟨hist, h, fun t ht => ht⟩
  | cons a rest ih =>
      intro s' hs
      simp only [exec, Option.ite_none_right_eq_some] at hs
      obtain ⟨hok, hs⟩ := hs
      obtain ⟨s₁, hs₁, hrest⟩ := Option.bind_eq_some_iff.mp hs
      obtain ⟨hist', hrun, hmem⟩ := ih (h.next hok hs₁) hrest
      exact ⟨hist', hrun, fun t ht => hmem t (List.mem_cons_of_mem _ ht)⟩

/-- What executes is a run. -/
theorem Run.of_exec {acts : List α} {s' : σ} (hs : exec step ok s₀ acts = some s') :
    ∃ hist, Run step ok s₀ hist s' := by
  obtain ⟨hist, hrun, _⟩ := Run.append_exec (.start : Run step ok s₀ [] s₀) hs
  exact ⟨hist, hrun⟩

end ArbitrageEngine.Lib.Runs
