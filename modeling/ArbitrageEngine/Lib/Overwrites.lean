/-
# ArbitrageEngine.Lib.Overwrites -- dictionaries filled entry by entry

A dictionary that is filled from a list holds the entries that no later one of the same key
overwrites.  Changing every value changes neither the keys nor which entries stand.
-/
import ArbitrageEngine.Lib.Dict

namespace ArbitrageEngine.Lib.Dict

variable {κ ν : Type} [DecidableEq κ]

/-! ## Values changed -/

/-- The dictionary with every value changed. -/
def mapValues {μ : Type} (f : κ → ν → μ) (d : Dict κ ν) : Dict κ μ :=
  ⟨d.entries.map fun e => (e.1, f e.1 e.2), by
    rw [List.map_map]
    exact d.nodup⟩

omit [DecidableEq κ] in
theorem keys_mapValues {μ : Type} (f : κ → ν → μ) (d : Dict κ ν) :
    (d.mapValues f).keys = d.keys := by
  unfold keys mapValues
  rw [List.map_map]
  rfl

/-- A changed value is written as the value is. -/
theorem mapValues_set {μ : Type} (f : κ → ν → μ) (d : Dict κ ν) (k : κ) (v : ν) :
    (d.set k v).mapValues f = (d.mapValues f).set k (f k v) := by
  have hentries : ((d.set k v).mapValues f).entries = ((d.mapValues f).set k (f k v)).entries := by
    have hkeys : (d.mapValues f).entries.map Prod.fst = d.entries.map Prod.fst :=
      keys_mapValues f d
    show (d.set k v).entries.map _ = _
    rw [entries_set, entries_set, hkeys]
    split
    · unfold rewrite mapValues
      rw [List.map_map, List.map_map]
      apply List.map_congr_left
      intro e _
      dsimp only [Function.comp_apply]
      split
      · next hk => rw [hk]
      · rfl
    · rw [List.map_append]
      rfl
  cases hleft : (d.set k v).mapValues f
  cases hright : (d.mapValues f).set k (f k v)
  rw [hleft, hright] at hentries
  simpa using hentries

/-! ## Entries overwritten -/

/-- What is written, entry by entry. -/
def ofPairs (l : List (κ × ν)) : Dict κ ν := l.foldl (fun d e => d.set e.1 e.2) empty

/-- The entries that no later one overwrites. -/
def standing : List (κ × ν) → List (κ × ν)
  | [] => []
  | e :: rest => if e.1 ∈ rest.map Prod.fst then standing rest else e :: standing rest

theorem standing_cons (e : κ × ν) (rest : List (κ × ν)) :
    standing (e :: rest) =
      if e.1 ∈ rest.map Prod.fst then standing rest else e :: standing rest := rfl

theorem mem_entries_set_iff {d : Dict κ ν} {k : κ} {v : ν} {e : κ × ν} :
    e ∈ (d.set k v).entries ↔ e = (k, v) ∨ e.1 ≠ k ∧ e ∈ d.entries := by
  obtain ⟨k', v'⟩ := e
  rw [← get?_eq_some_iff, ← get?_eq_some_iff, get?_set]
  by_cases hk : k' = k
  · simp [hk, eq_comm]
  · simp [hk]

theorem mem_entries_foldl_set {l : List (κ × ν)} {d : Dict κ ν} {e : κ × ν} :
    e ∈ (l.foldl (fun d e => d.set e.1 e.2) d).entries ↔
      e ∈ standing l ∨ e.1 ∉ l.map Prod.fst ∧ e ∈ d.entries := by
  induction l generalizing d with
  | nil => simp [standing]
  | cons first rest ih =>
      rw [List.foldl_cons, ih, mem_entries_set_iff, List.map_cons, List.mem_cons, not_or,
        standing_cons]
      by_cases hover : first.1 ∈ rest.map Prod.fst
      · rw [if_pos hover]
        constructor
        · rintro (h | ⟨hnot, rfl | ⟨hne, h⟩⟩)
          · exact .inl h
          · exact absurd hover hnot
          · exact .inr ⟨⟨hne, hnot⟩, h⟩
        · rintro (h | ⟨⟨hne, hnot⟩, h⟩)
          · exact .inl h
          · exact .inr ⟨hnot, .inr ⟨hne, h⟩⟩
      · rw [if_neg hover, List.mem_cons]
        constructor
        · rintro (h | ⟨hnot, rfl | ⟨hne, h⟩⟩)
          · exact .inl (.inr h)
          · exact .inl (.inl rfl)
          · exact .inr ⟨⟨hne, hnot⟩, h⟩
        · rintro ((rfl | h) | ⟨⟨hne, hnot⟩, h⟩)
          · exact .inr ⟨hover, .inl rfl⟩
          · exact .inl h
          · exact .inr ⟨hnot, .inr ⟨hne, h⟩⟩

/-- **What is left of the writes** are the entries that no later one overwrites. -/
theorem mem_entries_ofPairs {l : List (κ × ν)} {e : κ × ν} :
    e ∈ (ofPairs l).entries ↔ e ∈ standing l := by
  unfold ofPairs
  rw [mem_entries_foldl_set]
  exact or_iff_left fun h => absurd h.2 List.not_mem_nil

/-- Changed values stand where the values do. -/
theorem standing_map {μ : Type} (f : κ → ν → μ) (l : List (κ × ν)) :
    standing (l.map fun e => (e.1, f e.1 e.2)) =
      (standing l).map fun e => (e.1, f e.1 e.2) := by
  induction l with
  | nil => rfl
  | cons first rest ih =>
      have hkeys : (rest.map fun e => (e.1, f e.1 e.2)).map Prod.fst = rest.map Prod.fst := by
        rw [List.map_map]
        rfl
      rw [List.map_cons, standing_cons, standing_cons, hkeys, ih]
      split
      · rfl
      · rw [List.map_cons]

end ArbitrageEngine.Lib.Dict
