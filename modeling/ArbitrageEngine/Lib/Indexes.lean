/-
# ArbitrageEngine.Lib.Indexes -- lists filed under keys

An index files the members of a list under their keys, one or more for each, and keeps their order.
What it has under a key are the members that have it.  A dictionary that is written member by member
has under a key what the last one of that key wrote.
-/
import ArbitrageEngine.Lib.Dict
import Mathlib.Data.List.Induction

namespace ArbitrageEngine.Lib.Dict

variable {κ α : Type} [DecidableEq κ]

/-! ## Keys after a write -/

theorem keys_set_of_mem {d : Dict κ α} {k : κ} (h : k ∈ d.keys) (v : α) :
    (d.set k v).keys = d.keys := by
  have hmem : k ∈ d.entries.map Prod.fst := h
  show (d.set k v).entries.map Prod.fst = d.entries.map Prod.fst
  rw [entries_set, if_pos hmem, keys_rewrite]

theorem keys_set_of_not_mem {d : Dict κ α} {k : κ} (h : k ∉ d.keys) (v : α) :
    (d.set k v).keys = d.keys ++ [k] := by
  have hmem : k ∉ d.entries.map Prod.fst := h
  show (d.set k v).entries.map Prod.fst = d.entries.map Prod.fst ++ [k]
  rw [entries_set, if_neg hmem, List.map_append]
  rfl

/-! ## Writing a list -/

variable {β : Type}

/-- Every member written under its key. -/
def setAll (key : β → κ) (value : β → α) (l : List β) (d : Dict κ α) : Dict κ α :=
  l.foldl (fun d b => d.set (key b) (value b)) d

theorem get?_setAll_of_not_mem {key : β → κ} {value : β → α} {k : κ} (l : List β) :
    ∀ d : Dict κ α, (∀ b ∈ l, key b ≠ k) → (setAll key value l d).get? k = d.get? k := by
  induction l with
  | nil => intro d _; rfl
  | cons b rest ih =>
      intro d hl
      have hb : k ≠ key b := (hl b List.mem_cons_self).symm
      have hrest := ih (d.set (key b) (value b)) fun x hx => hl x (List.mem_cons_of_mem _ hx)
      rw [get?_set_of_ne _ hb] at hrest
      exact hrest

/-- Where only one value is written under a key, it is found. -/
theorem get?_setAll {key : β → κ} {value : β → α} {a : α} {k : κ} (l : List β) :
    ∀ d : Dict κ α, (∃ b ∈ l, key b = k) → (∀ b ∈ l, key b = k → value b = a) →
      (setAll key value l d).get? k = some a := by
  induction l with
  | nil =>
      rintro d ⟨b, hb, -⟩
      cases hb
  | cons first rest ih =>
      rintro d ⟨b, hb, hkey⟩ hvalue
      show (setAll key value rest (d.set (key first) (value first))).get? k = some a
      by_cases hrest : ∃ b ∈ rest, key b = k
      · exact ih _ hrest fun x hx => hvalue x (List.mem_cons_of_mem _ hx)
      · have hnone : ∀ x ∈ rest, key x ≠ k := fun x hx hk => hrest ⟨x, hx, hk⟩
        rw [get?_setAll_of_not_mem rest _ hnone]
        rcases List.mem_cons.mp hb with rfl | hb
        · rw [← hkey, get?_set_self, hvalue b List.mem_cons_self hkey]
        · exact absurd hkey (hnone b hb)

/-! ## Filing -/

/-- `d.setdefault(k, []).append(a)`. -/
def push (d : Dict κ (List α)) (k : κ) (a : α) : Dict κ (List α) :=
  d.set k ((d.get? k).getD [] ++ [a])

/-- `d.get(k, ())`. -/
def listAt (d : Dict κ (List α)) (k : κ) : List α := (d.get? k).getD []

theorem listAt_push (d : Dict κ (List α)) (k k' : κ) (a : α) :
    (d.push k a).listAt k' = if k' = k then d.listAt k' ++ [a] else d.listAt k' := by
  by_cases hk : k' = k
  · subst hk
    simp [push, listAt]
  · simp [push, listAt, hk]

/-- The keys of a member, none twice. -/
theorem listAt_pushAll (keys : List κ) (hkeys : keys.Nodup) (a : α) (k : κ) :
    ∀ d : Dict κ (List α), (keys.foldl (fun d key => d.push key a) d).listAt k =
      if k ∈ keys then d.listAt k ++ [a] else d.listAt k := by
  induction keys with
  | nil => intro d; simp
  | cons first rest ih =>
      intro d
      obtain ⟨hfirst, hrest⟩ := List.nodup_cons.mp hkeys
      rw [List.foldl_cons, ih hrest, listAt_push]
      by_cases hk : k = first
      · subst hk
        simp [hfirst]
      · simp [hk]

/-- The index of a list. -/
def index (keys : α → List κ) (l : List α) : Dict κ (List α) :=
  l.foldl (fun d a => (keys a).foldl (fun d key => d.push key a) d) .empty

/-- **What is filed under a key**: the members that have it, in their order. -/
theorem listAt_index (keys : α → List κ) (hkeys : ∀ a, (keys a).Nodup) (k : κ) (l : List α) :
    (index keys l).listAt k = l.filter fun a => k ∈ keys a := by
  induction l using List.reverseRecOn with
  | nil => rfl
  | append_singleton l a ih =>
      have hstep : index keys (l ++ [a]) =
          (keys a).foldl (fun d key => d.push key a) (index keys l) := by
        simp [index]
      rw [hstep, listAt_pushAll (keys a) (hkeys a), ih, List.filter_append]
      by_cases hk : k ∈ keys a
      · simp [hk]
      · simp [hk]

/-- The groups of an index, where something is filed. -/
theorem mem_entries_index (keys : α → List κ) (hkeys : ∀ a, (keys a).Nodup) {k : κ} {group : List α}
    (hgroup : group ≠ []) (l : List α) :
    (k, group) ∈ (index keys l).entries ↔ (l.filter fun a => k ∈ keys a) = group := by
  rw [← get?_eq_some_iff, ← listAt_index keys hkeys]
  unfold listAt
  cases hget : (index keys l).get? k with
  | none => simp [hgroup.symm]
  | some found => simp

/-- Nothing else is filed under a key of a member where it is the only one that has it. -/
theorem length_listAt_le_one_iff (keys : α → List κ) (hkeys : ∀ a, (keys a).Nodup) {l : List α}
    (hl : l.Nodup) {a : α} (ha : a ∈ l) {k : κ} (hk : k ∈ keys a) :
    ((index keys l).listAt k).length ≤ 1 ↔ ∀ b ∈ l, k ∈ keys b → b = a := by
  rw [listAt_index keys hkeys]
  have hmem : a ∈ l.filter fun a => k ∈ keys a := List.mem_filter.mpr ⟨ha, by simpa using hk⟩
  constructor
  · intro hlength b hb hkb
    have hmemb : b ∈ l.filter fun a => k ∈ keys a := List.mem_filter.mpr ⟨hb, by simpa using hkb⟩
    cases hfilter : l.filter fun a => k ∈ keys a with
    | nil =>
        rw [hfilter] at hmem
        cases hmem
    | cons c rest =>
        -- There is no room for a second one.
        rw [hfilter] at hmem hmemb hlength
        have hrest : rest = [] := by simpa using hlength
        subst hrest
        rw [List.mem_singleton.mp hmem, List.mem_singleton.mp hmemb]
  · intro hsame
    have hall : ∀ b ∈ l.filter fun a => k ∈ keys a, b = a := by
      intro b hb
      obtain ⟨hbl, hkb⟩ := List.mem_filter.mp hb
      exact hsame b hbl (by simpa using hkb)
    have hreplicate := List.eq_replicate_of_mem hall
    have hnodup := hl.filter fun a => decide (k ∈ keys a)
    rw [hreplicate] at hnodup
    exact List.nodup_replicate.mp hnodup

end ArbitrageEngine.Lib.Dict
