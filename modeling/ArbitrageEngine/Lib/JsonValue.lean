/-
# ArbitrageEngine.Lib.JsonValue -- JSON values, as a dynamically typed language reads them

A decoded document is a tree of values.  An object is what is found under its keys; a key that is
not there gives `missing`, which most readers treat as `null`.  Which values count as true, and what
`a or b` chooses, is the language's.
-/
import Mathlib.Data.List.Nodup
import Mathlib.Data.Rat.Defs

namespace ArbitrageEngine.Lib

/-- A JSON value, or its absence. -/
inductive Json
  | missing
  | null
  | bool (b : Bool)
  | int (n : ℤ)
  | float (q : ℚ)
  | text (s : String)
  | array (items : List Json)
  | object (isEmpty : Bool) (fields : String → Json)

namespace Json

instance : Inhabited Json := ⟨missing⟩

/-- `bool(value)`. -/
def truth : Json → Bool
  | missing | null => false
  | bool b => b
  | int n => n ≠ 0
  | float q => q ≠ 0
  | text s => s ≠ ""
  | array items => !items.isEmpty
  | object isEmpty _ => !isEmpty

/-- `value in (None, "")`. -/
def isBlank : Json → Bool
  | missing | null => true
  | text s => s = ""
  | _ => false

/-- `value is None`. -/
def isNone : Json → Bool
  | missing | null => true
  | _ => false

/-- Is there a value under the key? -/
def isPresent : Json → Bool
  | missing => false
  | _ => true

def isObject : Json → Bool
  | object .. => true
  | _ => false

/-- `value.get(key)`. -/
def get (key : String) : Json → Json
  | object _ fields => fields key
  | _ => missing

theorem get_of_not_object {value : Json} (h : ¬ value.isObject = true) (key : String) :
    value.get key = missing := by
  cases value with
  | object isEmpty fields => exact absurd rfl h
  | _ => rfl

/-- `value.get(key)`, written under a key: a missing value becomes `null`. -/
def orNull : Json → Json
  | missing => null
  | value => value

/-- `a or b or c`. -/
def orChain : List Json → Json
  | [] => missing
  | [value] => value
  | value :: rest => if value.truth then value else orChain rest

/-- The value of the first key that is there, be it `null`. -/
def firstPresent (keys : List String) (value : Json) : Json :=
  ((keys.map fun key => value.get key).find? isPresent).getD missing

/-- An object with these fields. -/
def ofFields (fields : List (String × Json)) : Json :=
  object fields.isEmpty fun key =>
    ((fields.find? fun field => field.1 = key).map (·.2)).getD missing

/-- What is found in an object with these fields. -/
theorem get_ofFields {fields : List (String × Json)} (hkeys : (fields.map Prod.fst).Nodup) :
    ∀ field ∈ fields, (ofFields fields).get field.1 = field.2 := by
  intro field hmem
  show ((fields.find? fun other => other.1 = field.1).map (·.2)).getD missing = field.2
  cases hfind : fields.find? fun other => other.1 = field.1 with
  | none =>
    have hnot := List.find?_eq_none.mp hfind field hmem
    simp at hnot
  | some other =>
    have hkey : other.1 = field.1 := by simpa using List.find?_some hfind
    have hsame := List.inj_on_of_nodup_map hkeys (List.mem_of_find?_eq_some hfind) hmem hkey
    rw [hsame]
    rfl

end Json

/-- What is read from a list is read from its items. -/
theorem exists_of_mapM_eq_some {α β : Type} {f : α → Option β} {items : List α} {results : List β}
    (h : items.mapM f = some results) :
    ∀ result ∈ results, ∃ item ∈ items, f item = some result := by
  induction items generalizing results with
  | nil =>
      cases h
      exact fun result hmem => absurd hmem List.not_mem_nil
  | cons item rest ih =>
      rw [List.mapM_cons] at h
      obtain ⟨first, hfirst, h⟩ := Option.bind_eq_some_iff.mp h
      obtain ⟨others, hothers, h⟩ := Option.bind_eq_some_iff.mp h
      cases h
      intro result hmem
      rcases List.mem_cons.mp hmem with rfl | hmem
      · exact ⟨item, List.mem_cons_self, hfirst⟩
      · obtain ⟨other, hother, hread⟩ := ih hothers result hmem
        exact ⟨other, List.mem_cons_of_mem _ hother, hread⟩

/-- What the items give is in the list that is read. -/
theorem mem_of_mapM_eq_some {α β : Type} {f : α → Option β} {items : List α} {results : List β}
    (h : items.mapM f = some results) :
    ∀ item ∈ items, ∀ result, f item = some result → result ∈ results := by
  induction items generalizing results with
  | nil => exact fun item hmem => absurd hmem List.not_mem_nil
  | cons item rest ih =>
      rw [List.mapM_cons] at h
      obtain ⟨first, hfirst, h⟩ := Option.bind_eq_some_iff.mp h
      obtain ⟨others, hothers, h⟩ := Option.bind_eq_some_iff.mp h
      cases h
      intro other hmem result hresult
      rcases List.mem_cons.mp hmem with rfl | hmem
      · rw [hfirst] at hresult
        cases hresult
        exact List.mem_cons_self
      · exact List.mem_cons_of_mem _ (ih hothers other hmem result hresult)

/-- What is read of a list stands where the items stood. -/
theorem getElem_of_mapM_eq_some {α β : Type} {f : α → Option β} {items : List α} {results : List β}
    (h : items.mapM f = some results) :
    items.length = results.length ∧
      ∀ (i : ℕ) (hi : i < items.length) (hi' : i < results.length),
        f items[i] = some results[i] := by
  induction items generalizing results with
  | nil =>
      cases h
      exact ⟨rfl, fun i hi => absurd hi (Nat.not_lt_zero i)⟩
  | cons item rest ih =>
      rw [List.mapM_cons] at h
      obtain ⟨first, hfirst, h⟩ := Option.bind_eq_some_iff.mp h
      obtain ⟨others, hothers, h⟩ := Option.bind_eq_some_iff.mp h
      cases h
      obtain ⟨hlength, hread⟩ := ih hothers
      refine ⟨by rw [List.length_cons, List.length_cons, hlength], ?_⟩
      intro i hi hi'
      cases i with
      | zero => exact hfirst
      | succ i => exact hread i (Nat.lt_of_succ_lt_succ hi) (Nat.lt_of_succ_lt_succ hi')

/-- Lists that are read of items are all empty together if each is empty on a condition. -/
theorem exists_flatten_of_mapM {α β : Type} {f : α → Option (List β)} {p : α → Prop}
    {items : List α} (h : ∀ item ∈ items, ∃ found, f item = some found ∧ (found = [] ↔ p item)) :
    ∃ results, items.mapM f = some results ∧ (results.flatten = [] ↔ ∀ item ∈ items, p item) := by
  induction items with
  | nil => exact ⟨[], rfl, by simp⟩
  | cons item rest ih =>
      obtain ⟨found, hfound, hempty⟩ := h item List.mem_cons_self
      obtain ⟨results, hresults, hall⟩ := ih fun other hmem => h other (List.mem_cons_of_mem _ hmem)
      refine ⟨found :: results, ?_, ?_⟩
      · rw [List.mapM_cons, hfound, hresults]
        rfl
      · rw [List.flatten_cons, List.append_eq_nil_iff, hempty, hall, List.forall_mem_cons]

/-- How the language writes values and reads whole numbers. -/
structure Texts where
  /-- `str(value)` of a value that is not a text. -/
  render : Json → String
  /-- `int(s)`, where it does not raise. -/
  parseInt : String → Option ℤ

namespace Texts

variable (texts : Texts)

/-- `str(value)`. -/
def str : Json → String
  | .text s => s
  | value => texts.render value

/-- `int(str(value))`, where it does not raise. -/
def int (value : Json) : Option ℤ := texts.parseInt (texts.str value)

end Texts

end ArbitrageEngine.Lib
