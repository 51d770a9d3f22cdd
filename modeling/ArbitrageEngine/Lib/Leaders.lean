/-
# ArbitrageEngine.Lib.Leaders -- who comes first in a stable sort

A list is sorted by a score, the highest first, and equal scores keep their order.  The member that
comes first leads: those before it in the list have a lower score, those after it none that is
higher.  What is left of the sort is the sort of what is left, so the second is who leads the rest.
-/
import Mathlib.Data.List.Sort
import Mathlib.Algebra.Order.Ring.Rat

namespace ArbitrageEngine.Lib

variable {α : Type} (score : α → ℚ)

/-- `sorted(items, key=score, reverse=True)`. -/
def byScore (l : List α) : List α := l.insertionSort fun a b => score b ≤ score a

/-- A member leads a list of which the rest is left. -/
def Leads (l : List α) (a : α) (rest : List α) : Prop :=
  ∃ before after, l = before ++ a :: after ∧ rest = before ++ after ∧
    (∀ b ∈ before, score b < score a) ∧ ∀ b ∈ after, score b ≤ score a

variable {score}

theorem Leads.mem {l rest : List α} {a : α} (h : Leads score l a rest) : a ∈ l := by
  obtain ⟨before, after, rfl, -⟩ := h
  exact List.mem_append_right _ List.mem_cons_self

/-- Who leads comes first in the sort, and the rest is sorted behind. -/
theorem byScore_of_leads {l rest : List α} {a : α} (h : Leads score l a rest) :
    byScore score l = a :: byScore score rest := by
  obtain ⟨before, after, rfl, rfl, hbefore, hafter⟩ := h
  induction before with
  | nil => exact List.insertionSort_cons_of_forall_rel _ hafter
  | cons b before ih =>
      obtain ⟨hb, hbefore⟩ := List.forall_mem_cons.mp hbefore
      have hsorted := ih hbefore
      show List.orderedInsert _ b (byScore score (before ++ a :: after)) = _
      rw [hsorted, List.orderedInsert_cons, if_neg (not_le.mpr hb)]
      rfl

/-- Someone leads a list that is not empty. -/
theorem exists_leads {l : List α} (h : l ≠ []) : ∃ a rest, Leads score l a rest := by
  induction l with
  | nil => exact absurd rfl h
  | cons b l ih =>
      by_cases hl : l = []
      · subst hl
        exact ⟨b, [], [], [], rfl, rfl, by simp, by simp⟩
      · obtain ⟨a, rest, hleads⟩ := ih hl
        by_cases hab : score a ≤ score b
        · -- The new member stands before all that are not higher.
          refine ⟨b, l, [], l, rfl, rfl, by simp, ?_⟩
          intro c hc
          obtain ⟨before, after, rfl, -, hbefore, hafter⟩ := hleads
          rcases List.mem_append.mp hc with hc | hc
          · exact (hbefore c hc).le.trans hab
          · rcases List.mem_cons.mp hc with rfl | hc
            · exact hab
            · exact (hafter c hc).trans hab
        · obtain ⟨before, after, rfl, rfl, hbefore, hafter⟩ := hleads
          refine ⟨a, b :: (before ++ after), b :: before, after, rfl, rfl, ?_, hafter⟩
          intro c hc
          rcases List.mem_cons.mp hc with rfl | hc
          · exact not_le.mp hab
          · exact hbefore c hc

/-- **Who comes first**: the sort begins with a member if and only if it leads. -/
theorem byScore_eq_cons_iff {l sorted : List α} {a : α} :
    byScore score l = a :: sorted ↔ ∃ rest, Leads score l a rest ∧ sorted = byScore score rest := by
  constructor
  · intro h
    have hne : l ≠ [] := by
      rintro rfl
      cases h
    obtain ⟨a', rest, hleads⟩ := @exists_leads _ score l hne
    rw [byScore_of_leads hleads] at h
    cases h
    exact ⟨rest, hleads, rfl⟩
  · rintro ⟨rest, hleads, rfl⟩
    exact byScore_of_leads hleads

theorem byScore_eq_nil_iff {l : List α} : byScore score l = [] ↔ l = [] := by
  unfold byScore
  rw [← List.length_eq_zero_iff, List.length_insertionSort, List.length_eq_zero_iff]

end ArbitrageEngine.Lib
