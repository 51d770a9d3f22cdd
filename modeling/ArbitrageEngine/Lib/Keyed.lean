/-
# ArbitrageEngine.Lib.Keyed -- lists whose members have keys

A list of records with a key each, as a store keeps them: the first record of a key, the list with a
record replaced, and sums with one term for each key.
-/
import Mathlib.Algebra.BigOperators.Group.List.Basic
import Mathlib.Data.List.Nodup
import Mathlib.Tactic.Abel

namespace ArbitrageEngine.Lib.Keyed

variable {α κ : Type} [DecidableEq κ] (key : α → κ)

/-- The first record of a key. -/
def lookup (k : κ) (l : List α) : Option α := l.find? fun item => key item = k

/-- The list with every record of the key of `new` replaced by it. -/
def replace (new : α) (l : List α) : List α :=
  l.map fun item => if key item = key new then new else item

theorem key_of_lookup {k : κ} {l : List α} {a : α} (h : lookup key k l = some a) : key a = k := by
  simpa [lookup] using List.find?_some h

theorem lookup_append_singleton (k : κ) (l : List α) (new : α) :
    lookup key k (l ++ [new]) = (lookup key k l).or (if key new = k then some new else none) := by
  unfold lookup
  rw [List.find?_append]
  by_cases h : key new = k
  · simp [h]
  · simp [h]

theorem lookup_replace (k : κ) (l : List α) (new : α) :
    lookup key k (replace key new l) =
      if k = key new then (lookup key k l).map fun _ => new else lookup key k l := by
  unfold lookup replace
  induction l with
  | nil => simp
  | cons item rest ih =>
      rw [List.map_cons, List.find?_cons, List.find?_cons]
      by_cases hitem : key item = key new
      · by_cases hk : k = key new
        · simp [hitem, hk]
        · have hne : ¬ key new = k := fun h => hk h.symm
          simp only [hitem, if_true, hne, decide_false]
          rw [ih, if_neg hk]
      · by_cases hk : k = key new
        · have hne : ¬ key item = k := fun h => hitem (h.trans hk)
          simp only [hitem, if_false, hne, decide_false]
          rw [ih]
        · by_cases hitemk : key item = k
          · simp [hitemk, hk]
          · simp only [hitem, if_false, hitemk, decide_false]
            rw [ih]

/-! ## Sums -/

variable {M : Type} [AddCommGroup M]

omit [DecidableEq κ] in
/-- Changing the term of one key changes the sum by as much. -/
theorem sum_map_change {l : List α} (hnodup : (l.map key).Nodup) {a : α} (ha : a ∈ l) {f g : α → M}
    (h : ∀ b ∈ l, key b ≠ key a → g b = f b) : (l.map g).sum = (l.map f).sum + (g a - f a) := by
  induction l with
  | nil => exact absurd ha List.not_mem_nil
  | cons b rest ih =>
      rw [List.map_cons, List.nodup_cons] at hnodup
      rw [List.map_cons, List.map_cons, List.sum_cons, List.sum_cons]
      rcases List.mem_cons.mp ha with rfl | hrest
      · -- the other records have other keys
        have htail : rest.map g = rest.map f := by
          apply List.map_congr_left
          intro c hc
          apply h c (List.mem_cons_of_mem _ hc)
          intro heq
          exact hnodup.1 (heq ▸ List.mem_map_of_mem hc)
        rw [htail]
        abel
      · have hb : key b ≠ key a := fun heq => hnodup.1 (heq ▸ List.mem_map_of_mem hrest)
        rw [h b List.mem_cons_self hb,
          ih hnodup.2 hrest fun c hc => h c (List.mem_cons_of_mem _ hc)]
        abel

end ArbitrageEngine.Lib.Keyed
