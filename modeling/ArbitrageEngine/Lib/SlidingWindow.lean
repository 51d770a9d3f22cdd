/-
# ArbitrageEngine.Lib.SlidingWindow -- a queue of times that admits a bounded number in any window

A limiter keeps the times it admitted in a queue, drops those at the front that are a width old, and
admits new ones while the queue has room.  If the clock never goes back, the queue is what is left
of the whole history in the window that ends now, so the bound on the queue is a bound on every
window of the width, wherever it lies.
-/
import Mathlib.Algebra.Order.Group.Defs
import Mathlib.Algebra.Order.Sub.Basic
import Mathlib.Data.List.Sort
import Mathlib.Tactic.Linarith

namespace ArbitrageEngine.Lib.SlidingWindow

variable {T : Type*} [AddCommGroup T] [LinearOrder T] [IsOrderedAddMonoid T]

/-! ## The queue -/

/-- What is a width old is dropped from the front. -/
def expire (width now : T) (queue : List T) : List T :=
  queue.dropWhile fun time => width ≤ now - time

/-- The times of a history in the window of the width that ends now. -/
def recent (width now : T) (history : List T) : List T :=
  history.filter fun time => now - time < width

/-- Dropping from the front of a sorted queue drops all that is old. -/
theorem expire_eq_recent {width now : T} {queue : List T} (hsorted : queue.Pairwise (· ≤ ·)) :
    expire width now queue = recent width now queue := by
  induction queue with
  | nil => rfl
  | cons time rest ih =>
    obtain ⟨hfirst, hrest⟩ := List.pairwise_cons.mp hsorted
    by_cases hold : width ≤ now - time
    · have hdrop : expire width now (time :: rest) = expire width now rest :=
        List.dropWhile_cons_of_pos (by simpa using hold)
      have hskip : recent width now (time :: rest) = recent width now rest :=
        List.filter_cons_of_neg (by simpa using hold)
      rw [hdrop, hskip, ih hrest]
    · -- what comes after a time that is not old is not old either
      have hkeep : expire width now (time :: rest) = time :: rest :=
        List.dropWhile_cons_of_neg (by simpa using hold)
      rw [hkeep, eq_comm, recent, List.filter_eq_self]
      intro later hlater
      have hle : time ≤ later := by
        rcases List.mem_cons.mp hlater with rfl | hmem
        · exact le_rfl
        · exact hfirst later hmem
      have hyounger : now - later ≤ now - time := sub_le_sub_left hle now
      simpa using hyounger.trans_lt (not_le.mp hold)

/-- What is recent later was recent before. -/
theorem recent_recent {width before now : T} (hle : before ≤ now) (history : List T) :
    recent width now (recent width before history) = recent width now history := by
  unfold recent
  rw [List.filter_filter]
  apply List.filter_congr
  intro time _
  have holder : before - time ≤ now - time := sub_le_sub_right hle time
  by_cases hrecent : now - time < width
  · simp [hrecent, holder.trans_lt hrecent]
  · simp [hrecent]

/-! ## The limiter -/

/-- The queue of a limiter, with everything it ever admitted. -/
structure Kept (width last : T) (queue history : List T) : Prop where
  sorted : history.Pairwise (· ≤ ·)
  past : ∀ time ∈ history, time ≤ last
  queue_eq : queue = recent width last history

omit [IsOrderedAddMonoid T] in
/-- The empty queue of a limiter that has not admitted anything. -/
theorem Kept.nil (width last : T) : Kept width last [] [] where
  sorted := .nil
  past := fun _ hmem => absurd hmem List.not_mem_nil
  queue_eq := rfl

/-- Once the queue has expired it is the window that ends now. -/
theorem Kept.expired {width last now : T} {queue history : List T}
    (h : Kept width last queue history) (hle : last ≤ now) :
    Kept width now (expire width now queue) history where
  sorted := h.sorted
  past := fun time hmem => (h.past time hmem).trans hle
  queue_eq := by
    have hsorted : queue.Pairwise (· ≤ ·) := by
      rw [h.queue_eq]
      exact h.sorted.filter _
    rw [expire_eq_recent hsorted, h.queue_eq, recent_recent hle]

omit [IsOrderedAddMonoid T] in
/-- New times are added to the end. -/
theorem Kept.admit {width now : T} {queue history : List T} (h : Kept width now queue history)
    (hwidth : 0 < width) (count : ℕ) :
    Kept width now (queue ++ List.replicate count now) (history ++ List.replicate count now) where
  sorted := by
    rw [List.pairwise_append]
    refine ⟨h.sorted, ?_, fun time hmem added hadded => ?_⟩
    · rw [List.pairwise_replicate]
      exact .inr le_rfl
    · rw [List.eq_of_mem_replicate hadded]
      exact h.past time hmem
  past := by
    intro time hmem
    rcases List.mem_append.mp hmem with hmem | hmem
    · exact h.past time hmem
    · exact (List.eq_of_mem_replicate hmem).le
  queue_eq := by
    have hadded : recent width now (List.replicate count now) = List.replicate count now := by
      rw [recent, List.filter_eq_self]
      intro time hmem
      rw [List.eq_of_mem_replicate hmem]
      simpa using hwidth
    have hsplit : recent width now (history ++ List.replicate count now) =
        recent width now history ++ recent width now (List.replicate count now) :=
      List.filter_append ..
    rw [hsplit, hadded, ← h.queue_eq]

/-! ## Windows -/

/-- A window of the width: no two of its times are a width apart.  Half-open intervals are, at
either end. -/
def Window (width : T) (window : T → Bool) : Prop :=
  ∀ time later, window time → window later → later - time < width

theorem window_Ioc (width start : T) :
    Window width fun time => start < time ∧ time ≤ start + width := by
  intro time later htime hlater
  simp only [decide_eq_true_eq] at htime hlater
  calc later - time < later - start := sub_lt_sub_left htime.1 later
    _ ≤ width := sub_le_iff_le_add'.mpr hlater.2

theorem window_Ico (width start : T) :
    Window width fun time => start ≤ time ∧ time < start + width := by
  intro time later htime hlater
  simp only [decide_eq_true_eq] at htime hlater
  calc later - time ≤ later - start := sub_le_sub_left htime.1 later
    _ < width := sub_lt_iff_lt_add'.mpr hlater.2

/-- No window of the width has more than the limit. -/
def Bounded (width : T) (limit : ℕ) (history : List T) : Prop :=
  ∀ window, Window width window → (history.filter window).length ≤ limit

omit [IsOrderedAddMonoid T] in
/-- What the queue has room for keeps the bound of every window. -/
theorem Bounded.admit {width now : T} {limit count : ℕ} {queue history : List T}
    (h : Bounded width limit history) (hkept : Kept width now queue history)
    (hroom : queue.length + count ≤ limit) :
    Bounded width limit (history ++ List.replicate count now) := by
  intro window hwindow
  rw [List.filter_append, List.length_append]
  by_cases hnow : window now = true
  · -- the window lies within the one that ends now
    have hqueue : (history.filter window).length ≤ queue.length := by
      rw [hkept.queue_eq]
      apply List.Sublist.length_le
      apply List.monotone_filter_right
      intro time htime
      simpa using hwindow time now htime hnow
    have hadded : ((List.replicate count now).filter window).length ≤ count := by
      simpa using List.length_filter_le window (List.replicate count now)
    omega
  · have hnone : (List.replicate count now).filter window = [] := by
      rw [List.filter_eq_nil_iff]
      intro time hmem
      rw [List.eq_of_mem_replicate hmem]
      exact hnow
    rw [hnone, List.length_nil, Nat.add_zero]
    exact h window hwindow

end ArbitrageEngine.Lib.SlidingWindow
