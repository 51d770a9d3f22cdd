/-
# ArbitrageEngine.Lib.Loops -- loops with fuel, and when they end

`loop step fuel s` takes steps from `s` until one yields a result, at most `fuel` many.  A loop ends
if an invariant comes with a variant: `loop_ends` gives the result for every large enough fuel, so a
program that is proved to end is proved to return, and not only to be right when it returns.  A loop
whose step stands still never ends.
-/
import Mathlib.Tactic.Common

namespace ArbitrageEngine.Lib.Loops

universe u v

variable {σ : Type u} {ρ : Type v}

/-- Take steps until one yields a result, at most `fuel` many. -/
def loop (step : σ → σ ⊕ ρ) : ℕ → σ → Option ρ
  | 0, _ => none
  | fuel + 1, s =>
      match step s with
      | .inl s' => loop step fuel s'
      | .inr r => some r

variable {step : σ → σ ⊕ ρ}

/-- A loop whose steps keep the invariant and lower the variant ends with what its last step
promises. -/
theorem loop_ends (I : σ → Prop) (variant : σ → ℕ) {Q : ρ → Prop}
    (hnext : ∀ s s', I s → step s = .inl s' → I s' ∧ variant s' < variant s)
    (hdone : ∀ s r, I s → step s = .inr r → Q r) :
    ∀ (fuel : ℕ) (s : σ), I s → variant s < fuel → ∃ r, loop step fuel s = some r ∧ Q r := by
  intro fuel
  induction fuel with
  | zero => intro s _ h; omega
  | succ fuel ih =>
      intro s hs hfuel
      cases hstep : step s with
      | inl s' =>
          obtain ⟨hs', hlt⟩ := hnext s s' hs hstep
          obtain ⟨r, hr, hq⟩ := ih s' hs' (by omega)
          exact ⟨r, by simp only [loop, hstep, hr], hq⟩
      | inr r => exact ⟨r, by simp only [loop, hstep], hdone s r hs hstep⟩

/-- What a loop returns is what its last step promises, whether or not it comes with a variant. -/
theorem loop_returns (I : σ → Prop) {Q : ρ → Prop} (hnext : ∀ s s', I s → step s = .inl s' → I s')
    (hdone : ∀ s r, I s → step s = .inr r → Q r) :
    ∀ (fuel : ℕ) (s : σ) (r : ρ), I s → loop step fuel s = some r → Q r := by
  intro fuel
  induction fuel with
  | zero => intro s r _ h; cases h
  | succ fuel ih =>
      intro s r hs h
      cases hstep : step s with
      | inl s' =>
          simp only [loop, hstep] at h
          exact ih s' r (hnext s s' hs hstep) h
      | inr result =>
          simp only [loop, hstep, Option.some.injEq] at h
          rw [← h]
          exact hdone s result hs hstep

/-- A loop that stands still never ends. -/
theorem loop_stuck {s : σ} (h : step s = .inl s) : ∀ fuel, loop step fuel s = none := by
  intro fuel
  induction fuel with
  | zero => rfl
  | succ fuel ih => simp only [loop, h, ih]

/-- A loop never ends if it never ends after a step. -/
theorem loop_diverges {s s' : σ} (hstep : step s = .inl s') (h : ∀ fuel, loop step fuel s' = none) :
    ∀ fuel, loop step fuel s = none := by
  intro fuel
  cases fuel with
  | zero => rfl
  | succ fuel => simp only [loop, hstep, h]

end ArbitrageEngine.Lib.Loops
