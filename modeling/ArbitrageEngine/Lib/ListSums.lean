/-
# ArbitrageEngine.Lib.ListSums -- sums over a list of which one element changes

A total over a list after one of its elements was replaced or removed, in terms of the total before.
-/
import Mathlib.Algebra.BigOperators.Group.List.Basic
import Mathlib.Tactic.Abel

namespace ArbitrageEngine.Lib

universe u v

variable {α : Type u} {M : Type v} [AddCommGroup M] {l : List α} {i : ℕ} {x : α}

theorem sum_map_set (f : α → M) (h : l[i]? = some x) (y : α) :
    ((l.set i y).map f).sum = (l.map f).sum - f x + f y := by
  obtain ⟨hi, hx⟩ := List.getElem?_eq_some_iff.mp h
  rw [List.map_set, List.sum_set', dif_pos (by simpa using hi), List.getElem_map, hx]
  abel

theorem sum_map_eraseIdx (f : α → M) (h : l[i]? = some x) :
    ((l.eraseIdx i).map f).sum = (l.map f).sum - f x := by
  obtain ⟨hi, hx⟩ := List.getElem?_eq_some_iff.mp h
  have hsum := List.add_sum_eraseIdx (l := l.map f) (i := i) (by simpa using hi)
    (fun other _ => AddCommute.all _ other)
  rw [List.getElem_map, hx, List.eraseIdx_map] at hsum
  rw [← hsum]
  abel

end ArbitrageEngine.Lib
