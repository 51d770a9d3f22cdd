/-
# ArbitrageEngine.Lib.Dict -- insertion-ordered dictionaries

A `Dict` is a list of entries with pairwise different keys.  Writing an existing key keeps its place,
writing a new key appends it, as the dictionaries of the modelled language do; iteration order is
part of the value, because loops over a dictionary run in that order.
-/
import Mathlib.Data.List.Nodup

namespace ArbitrageEngine.Lib

/-- Entries in insertion order, one for each key. -/
structure Dict (κ ν : Type) where
  entries : List (κ × ν)
  nodup : (entries.map Prod.fst).Nodup
deriving DecidableEq

namespace Dict

variable {κ ν : Type} [DecidableEq κ]

/-! ## Operations -/

/-- The dictionary without entries. -/
def empty : Dict κ ν := ⟨[], List.nodup_nil⟩

/-- The keys, in insertion order. -/
def keys (d : Dict κ ν) : List κ := d.entries.map Prod.fst

/-- The values, in insertion order. -/
def values (d : Dict κ ν) : List ν := d.entries.map Prod.snd

/-- `d.get(k)`. -/
def get? (d : Dict κ ν) (k : κ) : Option ν := (d.entries.find? fun e => e.1 = k).map Prod.snd

/-- The entries with the value of `k` replaced. -/
def rewrite (k : κ) (v : ν) (entries : List (κ × ν)) : List (κ × ν) :=
  entries.map fun e => if e.1 = k then (e.1, v) else e

theorem keys_rewrite (k : κ) (v : ν) (entries : List (κ × ν)) :
    (rewrite k v entries).map Prod.fst = entries.map Prod.fst := by
  rw [rewrite, List.map_map]
  refine List.map_congr_left fun e _ => ?_
  show (if e.1 = k then (e.1, v) else e).1 = e.1
  split <;> rfl

/-- `d[k] = v`. -/
def set (d : Dict κ ν) (k : κ) (v : ν) : Dict κ ν :=
  if h : k ∈ d.entries.map Prod.fst then
    ⟨rewrite k v d.entries, by rw [keys_rewrite]; exact d.nodup⟩
  else
    ⟨d.entries ++ [(k, v)], by
      rw [List.map_append, List.nodup_append]
      refine ⟨d.nodup, List.nodup_singleton _, ?_⟩
      intro a ha b hb hab
      have hbk : b = k := List.mem_singleton.mp hb
      exact h (hbk ▸ hab ▸ ha)⟩

/-- `d.pop(k, None)`. -/
def erase (d : Dict κ ν) (k : κ) : Dict κ ν :=
  ⟨d.entries.filter fun e => e.1 ≠ k,
    d.nodup.sublist (List.Sublist.map _ List.filter_sublist)⟩

/-- The entries that satisfy `keep`. -/
def filter (d : Dict κ ν) (keep : κ × ν → Bool) : Dict κ ν :=
  ⟨d.entries.filter keep, d.nodup.sublist (List.Sublist.map _ List.filter_sublist)⟩

theorem entries_set (d : Dict κ ν) (k : κ) (v : ν) :
    (d.set k v).entries =
      if k ∈ d.entries.map Prod.fst then rewrite k v d.entries else d.entries ++ [(k, v)] := by
  unfold set
  split <;> rfl

theorem rewrite_append (k : κ) (v : ν) (entries others : List (κ × ν)) :
    rewrite k v (entries ++ others) = rewrite k v entries ++ rewrite k v others :=
  List.map_append

theorem rewrite_of_not_mem {k : κ} {v : ν} {entries : List (κ × ν)}
    (h : k ∉ entries.map Prod.fst) : rewrite k v entries = entries := by
  have hsame : ∀ e ∈ entries, (if e.1 = k then (e.1, v) else e) = id e := by
    intro e he
    have hne : e.1 ≠ k := fun heq => h (heq ▸ List.mem_map_of_mem he)
    exact if_neg hne
  rw [rewrite, List.map_congr_left hsame, List.map_id]

/-- Every entry after a write is the written one or was there before. -/
theorem mem_entries_set {d : Dict κ ν} {k : κ} {v : ν} {e : κ × ν}
    (h : e ∈ (d.set k v).entries) : e = (k, v) ∨ e ∈ d.entries := by
  unfold set at h
  split at h
  · obtain ⟨e', he', heq⟩ := List.mem_map.mp h
    by_cases hk : e'.1 = k
    · rw [if_pos hk] at heq
      exact .inl (by rw [← heq, hk])
    · rw [if_neg hk] at heq
      exact .inr (heq ▸ he')
  · rcases List.mem_append.mp h with hold | hlast
    · exact .inr hold
    · exact .inl (List.mem_singleton.mp hlast)

/-! ## Lookups -/

theorem get?_eq_some_iff {d : Dict κ ν} {k : κ} {v : ν} :
    d.get? k = some v ↔ (k, v) ∈ d.entries := by
  unfold get?
  rw [Option.map_eq_some_iff]
  constructor
  · rintro ⟨e, he, rfl⟩
    have hkey : e.1 = k := by simpa using List.find?_some he
    exact hkey ▸ List.mem_of_find?_eq_some he
  · intro hmem
    have hsome : (d.entries.find? fun e => decide (e.1 = k)).isSome :=
      List.find?_isSome.mpr ⟨(k, v), hmem, by simp⟩
    obtain ⟨e, he⟩ := Option.isSome_iff_exists.mp hsome
    have hkey : e.1 = k := by simpa using List.find?_some he
    -- Two entries with one key are the same entry.
    have heq : e = (k, v) :=
      List.inj_on_of_nodup_map d.nodup (List.mem_of_find?_eq_some he) hmem hkey
    exact ⟨e, he, heq ▸ rfl⟩

theorem mem_keys_iff {d : Dict κ ν} {k : κ} : k ∈ d.keys ↔ (d.get? k).isSome := by
  rw [Option.isSome_iff_exists]
  constructor
  · intro h
    obtain ⟨e, he, rfl⟩ := List.mem_map.mp h
    exact ⟨e.2, get?_eq_some_iff.mpr he⟩
  · rintro ⟨v, hv⟩
    exact List.mem_map.mpr ⟨(k, v), get?_eq_some_iff.mp hv, rfl⟩

/-- A filtered dictionary finds what was there before and is kept. -/
theorem get?_filter (d : Dict κ ν) (keep : κ × ν → Bool) (k : κ) :
    (d.filter keep).get? k = (d.get? k).filter fun v => keep (k, v) := by
  ext v
  rw [get?_eq_some_iff, Option.filter_eq_some_iff,
    get?_eq_some_iff]
  exact List.mem_filter

theorem find?_rewrite_self (k : κ) (v : ν) :
    ∀ entries : List (κ × ν), k ∈ entries.map Prod.fst →
      (rewrite k v entries).find? (fun e => e.1 = k) = some (k, v)
  | [], h => absurd h (List.not_mem_nil)
  | e :: rest, h => by
      rw [rewrite, List.map_cons]
      by_cases he : e.1 = k
      · simp [he]
      · have hrest : k ∈ rest.map Prod.fst := by
          rcases List.mem_cons.mp h with hk | hk
          · exact absurd hk.symm he
          · exact hk
        have ih := find?_rewrite_self k v rest hrest
        rw [rewrite] at ih
        simp [he, ih]

theorem find?_rewrite_of_ne {k k' : κ} (hk : k' ≠ k) (v : ν) :
    ∀ entries : List (κ × ν),
      (rewrite k v entries).find? (fun e => e.1 = k') = entries.find? (fun e => e.1 = k')
  | [] => rfl
  | e :: rest => by
      have ih := find?_rewrite_of_ne hk v rest
      rw [rewrite] at ih ⊢
      rw [List.map_cons]
      by_cases he : e.1 = k
      · have hek : e.1 ≠ k' := fun h => hk (h ▸ he)
        simp [he, hk.symm, ih]
      · by_cases hek : e.1 = k' <;> simp [he, hek, hk, ih]

@[simp]
theorem get?_empty (k : κ) : (empty : Dict κ ν).get? k = none := rfl

@[simp]
theorem get?_set_self (d : Dict κ ν) (k : κ) (v : ν) : (d.set k v).get? k = some v := by
  unfold set get?
  split
  · next h => simp [find?_rewrite_self k v d.entries h]
  · next h =>
      have hnone : d.entries.find? (fun e => decide (e.1 = k)) = none := by
        refine List.find?_eq_none.mpr fun e he hek => h ?_
        exact List.mem_map.mpr ⟨e, he, by simpa using hek⟩
      simp [List.find?_append, hnone]

@[simp]
theorem get?_set_of_ne (d : Dict κ ν) {k k' : κ} (hk : k' ≠ k) (v : ν) :
    (d.set k v).get? k' = d.get? k' := by
  unfold set get?
  split
  · simp [find?_rewrite_of_ne hk v d.entries]
  · simp [List.find?_append, hk.symm]

theorem get?_set (d : Dict κ ν) (k k' : κ) (v : ν) :
    (d.set k v).get? k' = if k' = k then some v else d.get? k' := by
  split
  · next h => rw [h, get?_set_self]
  · next h => exact get?_set_of_ne d h v

@[simp]
theorem get?_erase_self (d : Dict κ ν) (k : κ) : (d.erase k).get? k = none := by
  unfold erase get?
  rw [List.find?_filter]
  simp

@[simp]
theorem get?_erase_of_ne (d : Dict κ ν) {k k' : κ} (hk : k' ≠ k) :
    (d.erase k).get? k' = d.get? k' := by
  unfold erase get?
  rw [List.find?_filter]
  congr 2
  funext e
  by_cases he : e.1 = k'
  · simp [he, hk]
  · simp [he]

end Dict

end ArbitrageEngine.Lib
