/-
# ArbitrageEngine.Lib.LatestStarts -- the latest schedule that keeps a distance

Jobs in a fixed order have to start at least `gap` apart, each no later than a bound of its own.
`latestStarts` goes through them from the last to the first and starts each as late as its bound and
the next start allow.  The result is a schedule (`latestStarts_spaced`, `latestStarts_le`), and no
schedule starts any job later (`le_latestStarts`).
-/
import Mathlib.Algebra.Order.Group.Basic
import Mathlib.Algebra.Order.Group.MinMax
import Mathlib.Data.List.Basic

namespace ArbitrageEngine.Lib.LatestStarts

variable {ι α : Type} [AddCommGroup α] [LinearOrder α]

/-- As late as the bound and the next start allow. -/
def startBefore (gap bound : α) : Option α → α
  | none => bound
  | some next => min bound (next - gap)

theorem startBefore_le (gap bound : α) (next : Option α) : startBefore gap bound next ≤ bound := by
  cases next with
  | none => exact le_refl bound
  | some next => exact min_le_left _ _

/-- The jobs with their starts, in their order. -/
def latestStarts (gap : α) (bound : ι → α) : List ι → List (ι × α)
  | [] => []
  | i :: rest =>
      let later := latestStarts gap bound rest
      (i, startBefore gap (bound i) (later.head?.map Prod.snd)) :: later

variable {gap : α} {bound : ι → α}

theorem keys_latestStarts (jobs : List ι) :
    (latestStarts gap bound jobs).map Prod.fst = jobs := by
  induction jobs with
  | nil => rfl
  | cons i rest ih => rw [latestStarts, List.map_cons, ih]

theorem latestStarts_le (jobs : List ι) : ∀ p ∈ latestStarts gap bound jobs, p.2 ≤ bound p.1 := by
  induction jobs with
  | nil => intro p hp; cases hp
  | cons i rest ih =>
      intro p hp
      rcases List.mem_cons.mp hp with rfl | hp
      · exact startBefore_le _ _ _
      · exact ih p hp

variable [IsOrderedAddMonoid α]

theorem latestStarts_spaced (hgap : 0 ≤ gap) (jobs : List ι) :
    (latestStarts gap bound jobs).Pairwise fun p q => p.2 + gap ≤ q.2 := by
  induction jobs with
  | nil => exact .nil
  | cons i rest ih =>
      rw [latestStarts]
      refine .cons ?_ ih
      cases hlater : latestStarts gap bound rest with
      | nil => intro q hq; cases hq
      | cons first later =>
          rw [hlater] at ih
          have hfirst : startBefore gap (bound i) (some first.2) + gap ≤ first.2 :=
            le_sub_iff_add_le.mp (min_le_right _ _)
          intro q hq
          show startBefore gap (bound i) (some first.2) + gap ≤ q.2
          rcases List.mem_cons.mp hq with rfl | hq
          · exact hfirst
          · have hnext : first.2 + gap ≤ q.2 := List.rel_of_pairwise_cons ih hq
            exact hfirst.trans ((le_add_of_nonneg_right hgap).trans hnext)

omit [IsOrderedAddMonoid α] in
theorem mem_keys_of_mem {jobs : List ι} {p : ι × α} (h : p ∈ latestStarts gap bound jobs) :
    p.1 ∈ jobs := by
  have hkeys : (latestStarts gap bound jobs).map Prod.fst = jobs := keys_latestStarts jobs
  rw [← hkeys]
  exact List.mem_map_of_mem h

/-- Whatever keeps the distance, the order and the bounds starts no job later. -/
theorem le_latestStarts {jobs : List ι} {s : ι → α} (hbound : ∀ i ∈ jobs, s i ≤ bound i)
    (hspaced : jobs.Pairwise fun i j => s i + gap ≤ s j) :
    ∀ p ∈ latestStarts gap bound jobs, s p.1 ≤ p.2 := by
  induction jobs with
  | nil => intro p hp; cases hp
  | cons i rest ih =>
      obtain ⟨hhead, htail⟩ := List.pairwise_cons.mp hspaced
      have hrest := ih (fun j hj => hbound j (List.mem_cons_of_mem _ hj)) htail
      intro p hp
      rcases List.mem_cons.mp hp with rfl | hp
      · show s i ≤ startBefore gap (bound i) ((latestStarts gap bound rest).head?.map Prod.snd)
        cases hlater : latestStarts gap bound rest with
        | nil => exact hbound i List.mem_cons_self
        | cons first later =>
            have hmem : first ∈ latestStarts gap bound rest := by
              rw [hlater]
              exact List.mem_cons_self
            have hnext : s i + gap ≤ first.2 :=
              (hhead first.1 (mem_keys_of_mem hmem)).trans (hrest first hmem)
            exact le_min (hbound i List.mem_cons_self) (le_sub_iff_add_le.mpr hnext)
      · exact hrest p hp

end ArbitrageEngine.Lib.LatestStarts
