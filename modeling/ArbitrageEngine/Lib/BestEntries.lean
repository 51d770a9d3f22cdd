/-
# ArbitrageEngine.Lib.BestEntries -- the best entries of a ranked list

A list is in strict order of a rank.  Its first `k` entries are those with fewer than `k` entries
ahead of them, so two such lists have the same first `k` entries unless one of them holds an entry
the other lacks, near enough to its front.
-/
import Mathlib.Data.List.Basic
import Mathlib.Data.List.Nodup
import Mathlib.Data.List.Perm.Subperm
import Mathlib.Order.Defs.LinearOrder
import Mathlib.Order.Lattice

namespace ArbitrageEngine.Lib

variable {α κ : Type} [LinearOrder κ]

/-- The entries in strict order of their ranks. -/
def Ranked (rank : α → κ) (entries : List α) : Prop :=
  entries.Pairwise fun a b => rank a < rank b

/-- How many entries come before this rank. -/
def ahead (rank : α → κ) (entries : List α) (bound : κ) : ℕ :=
  entries.countP fun a => rank a < bound

namespace Ranked

variable {rank : α → κ} {entries others : List α}

theorem nodup_map (h : Ranked rank entries) : (entries.map rank).Nodup :=
  List.pairwise_map.mpr (h.imp fun hlt => ne_of_lt hlt)

theorem eq_of_rank_eq (h : Ranked rank entries) {a b : α} (ha : a ∈ entries) (hb : b ∈ entries)
    (heq : rank a = rank b) : a = b :=
  List.inj_on_of_nodup_map h.nodup_map ha hb heq

theorem of_sublist (h : Ranked rank entries) {part : List α} (hpart : part.Sublist entries) :
    Ranked rank part :=
  List.Pairwise.sublist hpart h

/-- An entry is among the first `k` exactly when fewer than `k` are ahead of it. -/
theorem mem_take_iff (h : Ranked rank entries) {k : ℕ} {a : α} :
    a ∈ entries.take k ↔ a ∈ entries ∧ ahead rank entries (rank a) < k := by
  induction entries generalizing k with
  | nil => simp
  | cons first rest ih =>
      obtain ⟨hfirst, hrest⟩ := List.pairwise_cons.mp h
      cases k with
      | zero => simp
      | succ k =>
          rw [List.take_succ_cons, List.mem_cons, List.mem_cons, ih hrest]
          by_cases hsame : a = first
          · subst hsame
            -- Nothing is ahead of the first entry.
            have hnone : ahead rank (a :: rest) (rank a) = 0 := by
              rw [ahead, List.countP_eq_zero]
              intro b hb
              rcases List.mem_cons.mp hb with rfl | hb
              · simp
              · simpa using le_of_lt (hfirst b hb)
            simp [hnone]
          · simp only [hsame, false_or]
            apply and_congr_right
            intro ha
            have hahead : ahead rank (first :: rest) (rank a) = ahead rank rest (rank a) + 1 := by
              rw [ahead, List.countP_cons_of_pos (by simpa using hfirst a ha)]
              rfl
            rw [hahead]
            omega

/-- When `k` entries are ahead of a rank, the first `k` are. -/
theorem ahead_take (h : Ranked rank entries) {k : ℕ} {bound : κ}
    (hk : k ≤ ahead rank entries bound) : ahead rank (entries.take k) bound = k := by
  induction entries generalizing k with
  | nil =>
      have hzero : k = 0 := by simpa [ahead] using hk
      subst hzero
      rfl
  | cons first rest ih =>
      obtain ⟨hfirst, hrest⟩ := List.pairwise_cons.mp h
      cases k with
      | zero => rfl
      | succ k =>
          -- Something is ahead of the rank, so the first entry is.
          have hlt : rank first < bound := by
            by_contra hge
            have hnone : ahead rank (first :: rest) bound = 0 := by
              rw [ahead, List.countP_eq_zero]
              intro b hb
              rcases List.mem_cons.mp hb with rfl | hb
              · simpa using hge
              · simpa using le_trans (not_lt.mp hge) (le_of_lt (hfirst b hb))
            omega
          have hrestk : k ≤ ahead rank rest bound := by
            rw [ahead, List.countP_cons_of_pos (by simpa using hlt)] at hk
            exact Nat.le_of_succ_le_succ hk
          rw [List.take_succ_cons, ahead, List.countP_cons_of_pos (by simpa using hlt)]
          exact congrArg (· + 1) (ih hrest hrestk)

/-- A list whose ranks all occur in another has no more of them ahead. -/
theorem ahead_le (h : Ranked rank entries)
    (hranks : ∀ a ∈ entries, ∃ b ∈ others, rank b = rank a) (bound : κ) :
    ahead rank entries bound ≤ ahead rank others bound := by
  have hsub : ((entries.filter fun a => rank a < bound).map rank).Subperm
      ((others.filter fun a => rank a < bound).map rank) := by
    apply List.Nodup.subperm (h.of_sublist List.filter_sublist).nodup_map
    intro x hx
    obtain ⟨a, ha, rfl⟩ := List.mem_map.mp hx
    obtain ⟨hmem, hlt⟩ := List.mem_filter.mp ha
    obtain ⟨b, hb, heq⟩ := hranks a hmem
    refine List.mem_map.mpr ⟨b, List.mem_filter.mpr ⟨hb, ?_⟩, heq⟩
    rw [heq]
    exact hlt
  have hlength := hsub.length_le
  rw [List.length_map, List.length_map] at hlength
  rw [ahead, ahead, List.countP_eq_length_filter, List.countP_eq_length_filter]
  exact hlength

/-- Lists in order with the same entries are the same. -/
theorem eq_of_mem_iff (h : Ranked rank entries) (hothers : Ranked rank others)
    (hmem : ∀ a, a ∈ entries ↔ a ∈ others) : entries = others := by
  have hnodup : entries.Nodup := h.imp fun hlt heq => absurd (heq ▸ hlt) (lt_irrefl _)
  have hnodup' : others.Nodup := hothers.imp fun hlt heq => absurd (heq ▸ hlt) (lt_irrefl _)
  have hperm : entries.Perm others := (List.perm_ext_iff_of_nodup hnodup hnodup').mpr hmem
  refine hperm.eq_of_pairwise ?_ h hothers
  intro a b _ _ hab hba
  exact absurd hba (lt_asymm hab)

/-- **When a part has the best entries of the whole.**  Where every rank of the part occurs in the
whole, both have the same first `k` entries exactly when each entry of the whole that the part lacks
has `k` entries of the part ahead of it. -/
theorem take_eq_take_iff {part whole : List α} (hpart : Ranked rank part)
    (hwhole : Ranked rank whole) (hranks : ∀ a ∈ part, ∃ b ∈ whole, rank b = rank a) {k : ℕ} :
    part.take k = whole.take k ↔
      ∀ a ∈ whole, a ∉ part → k ≤ ahead rank part (rank a) := by
  constructor
  · intro heq a ha hnot
    have hfar : a ∉ whole.take k := fun hmem => hnot (List.mem_of_mem_take (heq ▸ hmem))
    have hk : k ≤ ahead rank whole (rank a) := by
      by_contra hfew
      exact hfar (hwhole.mem_take_iff.mpr ⟨ha, by omega⟩)
    calc k = ahead rank (whole.take k) (rank a) := (hwhole.ahead_take hk).symm
      _ = ahead rank (part.take k) (rank a) := by rw [heq]
      _ ≤ ahead rank part (rank a) := (List.take_sublist k part).countP_le
  · intro hall
    -- The best entries of the whole are in the part.
    have hbest : ∀ a ∈ whole.take k, a ∈ part := by
      intro a ha
      obtain ⟨hmem, hfew⟩ := hwhole.mem_take_iff.mp ha
      by_contra hnot
      have hfull := hall a hmem hnot
      have hle := hpart.ahead_le hranks (rank a)
      omega
    apply (hpart.of_sublist (List.take_sublist k part)).eq_of_mem_iff
      (hwhole.of_sublist (List.take_sublist k whole))
    intro a
    constructor
    · intro ha
      obtain ⟨hmem, hfew⟩ := hpart.mem_take_iff.mp ha
      obtain ⟨b, hb, hrank⟩ := hranks a hmem
      have hbpart : b ∈ part := by
        by_contra hnot
        have hfull := hall b hb hnot
        rw [hrank] at hfull
        omega
      have hsame : b = a := hpart.eq_of_rank_eq hbpart hmem hrank
      subst hsame
      refine hwhole.mem_take_iff.mpr ⟨hb, ?_⟩
      by_contra hmany
      -- The first `k` of the whole would all be in the part, ahead of this entry.
      have hcount := hwhole.ahead_take (Nat.le_of_not_lt hmany)
      have hle := (hwhole.of_sublist (List.take_sublist k whole)).ahead_le
        (fun c hc => ⟨c, hbest c hc, rfl⟩) (rank b)
      omega
    · intro ha
      obtain ⟨hmem, hfew⟩ := hwhole.mem_take_iff.mp ha
      refine hpart.mem_take_iff.mpr ⟨hbest a ha, ?_⟩
      have hle := hpart.ahead_le hranks (rank a)
      omega

end Ranked

end ArbitrageEngine.Lib
