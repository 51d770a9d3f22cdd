/-
# ArbitrageEngine.Lib.Paging -- records that are handed out page by page

A list of records is asked for by page number (`slice`), or by cursors: every page but the last
names a cursor, and the cursor leads to the page after it (`Linked`).  The pages of either kind, one
after another, are the records, each once.
-/
import Mathlib.Data.List.Basic
import Mathlib.Logic.Function.Basic

namespace ArbitrageEngine.Lib

universe u

variable {ρ : Type u}

/-! ## Pages by number -/

/-- The records of a page, counted from one. -/
def slice (records : List ρ) (limit page : ℕ) : List ρ :=
  (records.drop ((page - 1) * limit)).take limit

theorem take_append_slice (records : List ρ) (limit page : ℕ) :
    records.take (page * limit) ++ slice records limit (page + 1) =
      records.take ((page + 1) * limit) := by
  unfold slice
  rw [Nat.add_sub_cancel, Nat.succ_mul, List.take_add]

theorem slice_one (records : List ρ) (limit : ℕ) : slice records limit 1 = records.take limit := by
  simp [slice]

/-- A page that is not full is the last. -/
theorem take_of_slice_short {records : List ρ} {limit page : ℕ}
    (h : (slice records limit (page + 1)).length < limit) :
    records.take ((page + 1) * limit) = records := by
  apply List.take_of_length_le
  unfold slice at h
  rw [List.length_take, List.length_drop, Nat.add_sub_cancel] at h
  rw [Nat.succ_mul]
  omega

/-! ## Pages by cursor -/

/-- Pages with a cursor for each. -/
structure Linked (ρ : Type u) where
  pages : List (List ρ)
  cursor : ℕ → String
  cursor_ne_empty : ∀ i, cursor i ≠ ""
  cursor_injective : Function.Injective cursor

namespace Linked

variable (linked : Linked ρ)

/-- All records. -/
def records : List ρ := linked.pages.flatten

/-- The page a request asks for: without a cursor the first. -/
def index : Option String → ℕ
  | none => 0
  | some key =>
      ((List.range linked.pages.length).find? fun i => linked.cursor i = key).getD
        linked.pages.length

/-- The records of a page, and the cursor of the next, empty on the last. -/
def page (i : ℕ) : List ρ × String :=
  (linked.pages.getD i [], if i + 1 < linked.pages.length then linked.cursor (i + 1) else "")

@[simp]
theorem index_none : linked.index none = 0 := rfl

theorem index_cursor {i : ℕ} (h : i < linked.pages.length) :
    linked.index (some (linked.cursor i)) = i := by
  have hfind : (List.range linked.pages.length).find? (fun j => linked.cursor j = linked.cursor i) =
      some i := by
    cases hfound : (List.range linked.pages.length).find?
        (fun j => linked.cursor j = linked.cursor i) with
    | none =>
      have hnot := List.find?_eq_none.mp hfound i (List.mem_range.mpr h)
      simp at hnot
    | some j =>
      have hsame := List.find?_some hfound
      rw [decide_eq_true_iff] at hsame
      rw [linked.cursor_injective hsame]
  show (List.find? _ _).getD linked.pages.length = i
  rw [hfind]
  rfl

/-- The next cursor leads to the next page, and without one there is none. -/
theorem index_next (i : ℕ) :
    if (linked.page i).2 = "" then linked.pages.length ≤ i + 1
    else linked.index (some (linked.page i).2) = i + 1 := by
  unfold page
  by_cases hlast : i + 1 < linked.pages.length
  · rw [if_pos hlast, if_neg (linked.cursor_ne_empty _)]
    exact linked.index_cursor hlast
  · rw [if_neg hlast, if_pos rfl]
    omega

/-- A page and the pages after it. -/
theorem flatten_drop (i : ℕ) :
    (linked.pages.drop i).flatten = (linked.page i).1 ++ (linked.pages.drop (i + 1)).flatten := by
  unfold page
  by_cases h : i < linked.pages.length
  · rw [List.drop_eq_getElem_cons h, List.flatten_cons]
    simp [List.getD, List.getElem?_eq_getElem h]
  · rw [List.drop_eq_nil_of_le (by omega), List.drop_eq_nil_of_le (by omega)]
    simp [List.getD, List.getElem?_eq_none (Nat.le_of_not_lt h)]

end Linked

end ArbitrageEngine.Lib
