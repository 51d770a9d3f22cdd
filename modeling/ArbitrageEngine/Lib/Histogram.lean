/-
# ArbitrageEngine.Lib.Histogram -- cumulative histograms

A cumulative histogram counts, for each of its bounds, the values that are not above it.  Values
that are recorded later only add to the counts, so the difference of two histograms of one recording
is the histogram of what was recorded in between.  The first bound in order that reaches a target is
the least one that does.
-/
import ArbitrageEngine.Lib.Dict
import Mathlib.Data.List.Induction
import Mathlib.Data.List.Sort
import Mathlib.Order.BoundedOrder.Basic

namespace ArbitrageEngine.Lib

/-! ## Counts -/

section Counts

variable {α : Type} [LinearOrder α]

/-- The number of values that are not above a bound. -/
def atMost (values : List α) (bound : α) : ℕ := values.countP fun x => x ≤ bound

theorem atMost_append (values later : List α) (bound : α) :
    atMost (values ++ later) bound = atMost values bound + atMost later bound :=
  List.countP_append

theorem atMost_top [OrderTop α] (values : List α) : atMost values ⊤ = values.length := by
  unfold atMost
  rw [List.countP_eq_length]
  intro x _
  exact decide_eq_true le_top

theorem atMost_mono (values : List α) {bound other : α} (h : bound ≤ other) :
    atMost values bound ≤ atMost values other := by
  apply List.countP_mono_left
  intro x _ hx
  simp only [decide_eq_true_eq] at hx ⊢
  exact hx.trans h

/-- The first of the bounds, in their order, that passes a test. -/
def firstBound (bounds : List α) (passes : α → Bool) : Option α :=
  (bounds.insertionSort (· ≤ ·)).find? passes

/-- **The first bound that passes is the least one that does.** -/
theorem firstBound_eq_some {bounds : List α} {passes : α → Bool} {bound : α}
    (h : firstBound bounds passes = some bound) :
    bound ∈ bounds ∧ passes bound = true ∧
      ∀ other ∈ bounds, other < bound → passes other = false := by
  have hperm := List.perm_insertionSort (· ≤ ·) bounds
  have hsorted : (bounds.insertionSort (· ≤ ·)).Pairwise (· ≤ ·) :=
    List.pairwise_insertionSort (· ≤ ·) bounds
  obtain ⟨hpasses, before, after, hsplit, hbefore⟩ := List.find?_eq_some_iff_append.mp h
  refine ⟨hperm.mem_iff.mp ?_, hpasses, ?_⟩
  · rw [hsplit]
    exact List.mem_append_right _ List.mem_cons_self
  · intro other hother hlt
    have hmem := hperm.mem_iff.mpr hother
    rw [hsplit] at hmem hsorted
    rcases List.mem_append.mp hmem with hmem | hmem
    · simpa using hbefore other hmem
    · -- What stands behind the bound is not below it.
      rcases List.mem_cons.mp hmem with rfl | hmem
      · exact absurd hlt (lt_irrefl _)
      · have hle := List.rel_of_pairwise_cons (List.pairwise_append.mp hsorted).2.1 hmem
        exact absurd hlt (not_lt.mpr hle)

end Counts

/-! ## Readings -/

section Readings

variable {σ α κ ν : Type} {step : σ → α → σ} (look : σ → κ → Option ν) (gives : α → κ → Prop)
  (value : α → ν)

/-- What is found under a key after some lines were read: the value of a line that gives one, and
nothing where no line does. -/
theorem look_foldl (hgives : ∀ s a k, gives a k → look (step s a) k = some (value a))
    (hother : ∀ s a k, ¬ gives a k → look (step s a) k = look s k) {start : σ} {k : κ}
    (hstart : look start k = none) (lines : List α) :
    (∃ a ∈ lines, gives a k ∧ look (lines.foldl step start) k = some (value a)) ∨
      (∀ a ∈ lines, ¬ gives a k) ∧ look (lines.foldl step start) k = none := by
  induction lines using List.reverseRecOn with
  | nil => exact .inr ⟨fun a h => absurd h List.not_mem_nil, hstart⟩
  | append_singleton lines last ih =>
      rw [List.foldl_append]
      by_cases hlast : gives last k
      · refine .inl ⟨last, List.mem_append_right _ (List.mem_singleton_self _), hlast, ?_⟩
        exact hgives _ _ _ hlast
      · rcases ih with ⟨a, hmem, hline, hlook⟩ | ⟨hnone, hlook⟩
        · refine .inl ⟨a, List.mem_append_left _ hmem, hline, ?_⟩
          exact (hother _ _ _ hlast).trans hlook
        · refine .inr ⟨?_, (hother _ _ _ hlast).trans hlook⟩
          intro a hmem
          rcases List.mem_append.mp hmem with hmem | hmem
          · exact hnone a hmem
          · rw [List.mem_singleton.mp hmem]
            exact hlast

/-- **A count is read as it is** where every line under its key has it and, unless it is zero, there
is one. -/
theorem getD_look_foldl [Zero ν] (hgives : ∀ s a k, gives a k → look (step s a) k = some (value a))
    (hother : ∀ s a k, ¬ gives a k → look (step s a) k = look s k) {start : σ} {k : κ}
    (hstart : look start k = none) {lines : List α} {count : ν}
    (hvalue : ∀ a ∈ lines, gives a k → value a = count)
    (hlisted : count ≠ 0 → ∃ a ∈ lines, gives a k) :
    (look (lines.foldl step start) k).getD 0 = count := by
  rcases look_foldl look gives value hgives hother hstart lines with ⟨a, hmem, hline, hlook⟩ | ⟨hnone, hlook⟩
  · rw [hlook]
    exact hvalue a hmem hline
  · rw [hlook]
    by_contra hzero
    obtain ⟨a, hmem, hline⟩ := hlisted (Ne.symm hzero)
    exact hnone a hmem hline

end Readings

/-! ## Differences -/

namespace Dict

variable {κ ν : Type} [DecidableEq κ] [Sub ν] [Zero ν]

/-- What was counted since an earlier reading, which counts as zero where it has nothing. -/
def since (later earlier : Dict κ ν) : Dict κ ν where
  entries := later.entries.map fun e => (e.1, e.2 - (earlier.get? e.1).getD 0)
  nodup := by
    rw [List.map_map]
    exact later.nodup

theorem keys_since (later earlier : Dict κ ν) : (later.since earlier).keys = later.keys := by
  unfold keys since
  rw [List.map_map]
  rfl

theorem get?_since (later earlier : Dict κ ν) (k : κ) :
    (later.since earlier).get? k = (later.get? k).map fun v => v - (earlier.get? k).getD 0 := by
  ext v
  rw [get?_eq_some_iff, Option.map_eq_some_iff]
  unfold since
  rw [List.mem_map]
  constructor
  · rintro ⟨e, hmem, he⟩
    obtain ⟨rfl, rfl⟩ := Prod.mk.inj he
    exact ⟨e.2, get?_eq_some_iff.mpr hmem, rfl⟩
  · rintro ⟨count, hget, rfl⟩
    exact ⟨(k, count), get?_eq_some_iff.mp hget, rfl⟩

end Dict

end ArbitrageEngine.Lib
