/-
# ArbitrageEngine.Lib.KeyedMerge -- merging records that share a key

A list of records is folded into a dictionary.  The first record of a key is stored as it is; a
later one is merged into what is stored when the two agree, and makes its key ambiguous when they do
not.  What is left at the end are the keys that are not ambiguous.

The merge is greedy, and what is stored depends on the order.  Which keys are left does not: a
merged record agrees with a third one exactly when both of its parts do, so a key is left exactly
when all records that have it agree with each other.
-/
import ArbitrageEngine.Lib.Dict
import Mathlib.Data.List.Perm.Basic
import Mathlib.Data.List.Pairwise

namespace ArbitrageEngine.Lib

/-- What is stored for each key, and the keys that had records that do not agree. -/
structure KeyedMerge (κ α : Type) where
  merged : Dict κ α := .empty
  ambiguous : List κ := []

namespace KeyedMerge

variable {κ α : Type} [DecidableEq κ]
variable (key : α → κ) (agree : α → α → Prop) [DecidableRel agree] (merge : α → α → α)

/-- One round of the fold. -/
def add (s : KeyedMerge κ α) (a : α) : KeyedMerge κ α :=
  match s.merged.get? (key a) with
  | none => { s with merged := s.merged.set (key a) a }
  | some existing =>
      if agree existing a then { s with merged := s.merged.set (key a) (merge existing a) }
      else { s with ambiguous := key a :: s.ambiguous }

/-- The fold. -/
def collect (l : List α) : KeyedMerge κ α := l.foldl (add key agree merge) {}

/-- The entries whose key is not ambiguous. -/
def kept (l : List α) : List (κ × α) :=
  let s := collect key agree merge l
  s.merged.entries.filter fun e => e.1 ∉ s.ambiguous

/-! ## One key at a time -/

/-- What a key's records come to: the merged record, and whether all agreed. -/
@[ext]
structure Cell (α : Type) where
  stored : Option α := none
  clear : Bool := true

/-- A round of the fold, as the key of the record sees it. -/
def Cell.add (c : Cell α) (a : α) : Cell α :=
  match c.stored with
  | none => { c with stored := some a }
  | some existing =>
      if agree existing a then { c with stored := some (merge existing a) }
      else { c with clear := false }

/-- The records of a key. -/
def group (k : κ) (l : List α) : List α := l.filter fun a => key a = k

/-- What the state says about a key. -/
def cell (s : KeyedMerge κ α) (k : κ) : Cell α := ⟨s.merged.get? k, k ∉ s.ambiguous⟩

variable {key agree merge}

theorem cell_add_self (s : KeyedMerge κ α) (a : α) :
    (s.add key agree merge a).cell (key a) = (s.cell (key a)).add agree merge a := by
  unfold add Cell.add cell
  cases hstored : s.merged.get? (key a) with
  | none => simp
  | some existing =>
      by_cases hagree : agree existing a
      · simp [hagree]
      · simp [hagree, hstored]

theorem cell_add_of_ne (s : KeyedMerge κ α) {a : α} {k : κ} (hk : key a ≠ k) :
    (s.add key agree merge a).cell k = s.cell k := by
  unfold add cell
  cases hstored : s.merged.get? (key a) with
  | none => simp [Dict.get?_set_of_ne _ hk.symm]
  | some existing =>
      by_cases hagree : agree existing a
      · simp [hagree, Dict.get?_set_of_ne _ hk.symm]
      · simp [hagree, hk.symm]

/-- A key sees its own records only. -/
theorem cell_foldl (k : κ) (l : List α) :
    ∀ s : KeyedMerge κ α, (l.foldl (add key agree merge) s).cell k =
      (group key k l).foldl (Cell.add agree merge) (s.cell k) := by
  induction l with
  | nil => intro s; rfl
  | cons a rest ih =>
      intro s
      rw [List.foldl_cons, ih]
      by_cases hk : key a = k
      · subst hk
        simp [group, cell_add_self]
      · rw [cell_add_of_ne s hk]
        simp [group, hk]

theorem cell_collect (k : κ) (l : List α) :
    (collect key agree merge l).cell k = (group key k l).foldl (Cell.add agree merge) {} := by
  have hempty : ({} : KeyedMerge κ α).cell k = {} := by simp [cell]
  rw [collect, cell_foldl, hempty]

/-! ## Records that agree -/

/-- A merged record agrees with what both of its parts agree with. -/
structure Merges (agree : α → α → Prop) (merge : α → α → α) : Prop where
  symm : ∀ {a b}, agree a b → agree b a
  merge_iff : ∀ {a b c}, agree a b → (agree (merge a b) c ↔ agree a c ∧ agree b c)

omit [DecidableRel agree] in
/-- A record and a list that agree, one record of the list later. -/
theorem Merges.pairwise_cons_cons (h : Merges agree merge) {a b : α} (hab : agree a b)
    {rest : List α} :
    (a :: b :: rest).Pairwise agree ↔ (merge a b :: rest).Pairwise agree := by
  simp only [List.pairwise_cons, List.mem_cons, forall_eq_or_imp]
  constructor
  · rintro ⟨⟨-, ha⟩, hb, hrest⟩
    exact ⟨fun c hc => (h.merge_iff hab).mpr ⟨ha c hc, hb c hc⟩, hrest⟩
  · rintro ⟨hmerged, hrest⟩
    have hboth : ∀ c ∈ rest, agree a c ∧ agree b c := by
      intro c hc
      exact (h.merge_iff hab).mp (hmerged c hc)
    exact ⟨⟨hab, fun c hc => (hboth c hc).1⟩, fun c hc => (hboth c hc).2, hrest⟩

theorem clear_foldl_of_not_clear (l : List α) :
    ∀ c : Cell α, c.clear = false → (l.foldl (Cell.add agree merge) c).clear = false := by
  induction l with
  | nil => intro c hc; exact hc
  | cons a rest ih =>
      intro c hc
      apply ih
      unfold Cell.add
      split
      · exact hc
      · split
        · exact hc
        · rfl

/-- The cell of a record and of those after it is clear exactly when all agree. -/
theorem clear_foldl_iff (h : Merges agree merge) (l : List α) :
    ∀ a : α, (l.foldl (Cell.add agree merge) ⟨some a, true⟩).clear = true ↔
      (a :: l).Pairwise agree := by
  induction l with
  | nil => intro a; simp
  | cons b rest ih =>
      intro a
      rw [List.foldl_cons]
      by_cases hab : agree a b
      · have hadd : Cell.add agree merge ⟨some a, true⟩ b = ⟨some (merge a b), true⟩ := by
          simp [Cell.add, hab]
        rw [hadd, ih, h.pairwise_cons_cons hab]
      · have hadd : Cell.add agree merge ⟨some a, true⟩ b = ⟨some a, false⟩ := by
          simp [Cell.add, hab]
        rw [hadd, clear_foldl_of_not_clear rest _ rfl]
        constructor
        · intro hfalse
          cases hfalse
        · intro hall
          exact absurd ((List.pairwise_cons.mp hall).1 b List.mem_cons_self) hab

/-- What is stored is merged from the first record and records after it that all agree. -/
theorem stored_foldl (h : Merges agree merge) (l : List α) :
    ∀ (a : α) (flag : Bool), ∃ parts, parts.Sublist l ∧ (a :: parts).Pairwise agree ∧
      (l.foldl (Cell.add agree merge) ⟨some a, flag⟩).stored = some (parts.foldl merge a) := by
  induction l with
  | nil => intro a flag; exact ⟨[], List.Sublist.slnil, by simp, rfl⟩
  | cons b rest ih =>
      intro a flag
      rw [List.foldl_cons]
      by_cases hab : agree a b
      · have hadd : Cell.add agree merge ⟨some a, flag⟩ b = ⟨some (merge a b), flag⟩ := by
          simp [Cell.add, hab]
        rw [hadd]
        obtain ⟨parts, hsub, hagree, hstored⟩ := ih (merge a b) flag
        exact ⟨b :: parts, hsub.cons_cons b, (h.pairwise_cons_cons hab).mpr hagree, hstored⟩
      · have hadd : Cell.add agree merge ⟨some a, flag⟩ b = ⟨some a, false⟩ := by
          simp [Cell.add, hab]
        rw [hadd]
        obtain ⟨parts, hsub, hagree, hstored⟩ := ih a false
        exact ⟨parts, hsub.cons b, hagree, hstored⟩

/-- While all agree, everything is merged. -/
theorem stored_foldl_of_pairwise (h : Merges agree merge) (l : List α) :
    ∀ (a : α), (a :: l).Pairwise agree →
      (l.foldl (Cell.add agree merge) ⟨some a, true⟩).stored = some (l.foldl merge a) := by
  induction l with
  | nil => intro a _; rfl
  | cons b rest ih =>
      intro a hall
      have hab : agree a b := (List.pairwise_cons.mp hall).1 b List.mem_cons_self
      have hadd : Cell.add agree merge ⟨some a, true⟩ b = ⟨some (merge a b), true⟩ := by
        simp [Cell.add, hab]
      rw [List.foldl_cons, hadd]
      exact ih (merge a b) ((h.pairwise_cons_cons hab).mp hall)

/-! ## What is kept -/

theorem mem_kept_iff_cell {l : List α} {k : κ} {v : α} :
    (k, v) ∈ kept key agree merge l ↔ (collect key agree merge l).cell k = ⟨some v, true⟩ := by
  simp [kept, cell, List.mem_filter, Dict.get?_eq_some_iff]

/-- **What is kept**: the keys whose records all agree, with these merged in their order. -/
theorem mem_kept_iff (h : Merges agree merge) {l : List α} {k : κ} {v : α} :
    (k, v) ∈ kept key agree merge l ↔
      ∃ a rest, group key k l = a :: rest ∧ (a :: rest).Pairwise agree ∧
        v = rest.foldl merge a := by
  rw [mem_kept_iff_cell, cell_collect]
  cases hgroup : group key k l with
  | nil => simp
  | cons a rest =>
      have hfirst : Cell.add agree merge {} a = ⟨some a, true⟩ := rfl
      rw [List.foldl_cons, hfirst]
      constructor
      · intro hcell
        have hall : (a :: rest).Pairwise agree := by
          rw [← clear_foldl_iff h, hcell]
        have hstored := stored_foldl_of_pairwise h rest a hall
        rw [hcell] at hstored
        exact ⟨a, rest, rfl, hall, Option.some.inj hstored⟩
      · rintro ⟨a', rest', heq, hall, rfl⟩
        obtain ⟨rfl, rfl⟩ := List.cons.inj heq
        have hstored := stored_foldl_of_pairwise h rest a hall
        have hclear := (clear_foldl_iff h rest a).mpr hall
        exact Cell.ext hstored hclear

/-- Every stored record, kept or not, is merged from records of its key that all agree. -/
theorem stored_collect (h : Merges agree merge) {l : List α} {k : κ} {v : α}
    (hstored : (collect key agree merge l).merged.get? k = some v) :
    ∃ a parts, (a :: parts).Sublist (group key k l) ∧ (a :: parts).Pairwise agree ∧
      v = parts.foldl merge a := by
  have hcell : ((group key k l).foldl (Cell.add agree merge) {}).stored = some v := by
    rw [← cell_collect]
    exact hstored
  cases hgroup : group key k l with
  | nil =>
      rw [hgroup] at hcell
      cases hcell
  | cons a rest =>
      rw [hgroup, List.foldl_cons] at hcell
      obtain ⟨parts, hsub, hagree, hparts⟩ := stored_foldl h rest a true
      have hfirst : Cell.add agree merge {} a = ⟨some a, true⟩ := rfl
      rw [hfirst, hparts] at hcell
      exact ⟨a, parts, hsub.cons_cons a, hagree, (Option.some.inj hcell).symm⟩

theorem nodup_keys_kept (l : List α) : ((kept key agree merge l).map Prod.fst).Nodup :=
  (collect key agree merge l).merged.nodup.sublist (List.Sublist.map _ List.filter_sublist)

theorem mem_keys_kept_iff (h : Merges agree merge) {l : List α} {k : κ} :
    k ∈ (kept key agree merge l).map Prod.fst ↔
      group key k l ≠ [] ∧ (group key k l).Pairwise agree := by
  constructor
  · intro hk
    obtain ⟨⟨k', v⟩, hmem, rfl⟩ := List.mem_map.mp hk
    obtain ⟨a, rest, hgroup, hall, -⟩ := (mem_kept_iff h).mp hmem
    rw [hgroup]
    exact ⟨List.cons_ne_nil a rest, hall⟩
  · rintro ⟨hne, hall⟩
    obtain ⟨a, rest, hgroup⟩ := List.exists_cons_of_ne_nil hne
    refine List.mem_map.mpr ⟨(k, rest.foldl merge a), ?_, rfl⟩
    exact (mem_kept_iff h).mpr ⟨a, rest, hgroup, hgroup ▸ hall, rfl⟩

/-- **The kept keys do not depend on the order of the records.** -/
theorem keys_kept_perm (h : Merges agree merge) {l l' : List α} (hperm : l.Perm l') :
    ((kept key agree merge l).map Prod.fst).Perm ((kept key agree merge l').map Prod.fst) := by
  apply (List.perm_ext_iff_of_nodup (nodup_keys_kept l) (nodup_keys_kept l')).mpr
  intro k
  have hgroup : (group key k l).Perm (group key k l') := hperm.filter _
  have hpairwise : (group key k l).Pairwise agree ↔ (group key k l').Pairwise agree :=
    hgroup.pairwise_iff h.symm
  have hnil : group key k l = [] ↔ group key k l' = [] := by
    constructor
    · intro hnil
      exact (hnil ▸ hgroup).nil_eq.symm
    · intro hnil
      exact (hnil ▸ hgroup).eq_nil
  rw [mem_keys_kept_iff h, mem_keys_kept_iff h, hpairwise, ne_eq, ne_eq, hnil]

end KeyedMerge

end ArbitrageEngine.Lib
