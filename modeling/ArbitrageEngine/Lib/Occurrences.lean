/-
# ArbitrageEngine.Lib.Occurrences -- where a word occurs in a text

A word that does not contain a stop cannot reach across it, so in a text that is put together with
stops in between it occurs in one of the parts.  `replaceAll` puts a mark for every occurrence of a
word; if the mark begins and ends with a stop, no word occurs in the result that did not occur
before, and the replaced word does not occur at all.
-/
import Mathlib.Data.List.Infix

namespace ArbitrageEngine.Lib

variable {α : Type}

/-! ## Stops -/

/-- A word does not reach across a stop. -/
theorem infix_append_stop {word : List α} {stop : α} (hstop : stop ∉ word) (hne : word ≠ [])
    (before after : List α) :
    word <:+: before ++ stop :: after ↔ word <:+: before ∨ word <:+: after := by
  constructor
  · intro h
    rcases List.infix_append_iff.mp h with hbefore | hafter | ⟨front, back, rfl, hfront, hback⟩
    · exact .inl hbefore
    · rcases List.infix_cons_iff.mp hafter with hmatch | hafter
      · obtain ⟨rest, hrest⟩ := hmatch
        obtain ⟨first, others, rfl⟩ := List.exists_cons_of_ne_nil hne
        rw [← (List.cons.inj hrest).1] at hstop
        exact absurd List.mem_cons_self hstop
      · exact .inr hafter
    · -- What stands behind the seam begins with the stop, so nothing does.
      rcases back with _ | ⟨first, others⟩
      · rw [List.append_nil]
        exact .inl hfront.isInfix
      · obtain ⟨rest, hrest⟩ := hback
        rw [(List.cons.inj hrest).1] at hstop
        exact absurd (List.mem_append_right _ List.mem_cons_self) hstop
  · rintro (h | h)
    · exact List.infix_append_of_infix_left h
    · exact List.infix_append_of_infix_right (List.infix_cons h)

theorem infix_cons_stop {word : List α} {stop : α} (hstop : stop ∉ word) (hne : word ≠ [])
    (after : List α) : word <:+: stop :: after ↔ word <:+: after := by
  have h := infix_append_stop hstop hne [] after
  rw [List.nil_append, List.infix_nil] at h
  rw [h]
  exact ⟨fun hor => hor.resolve_left hne, .inr⟩

theorem infix_concat_stop {word : List α} {stop : α} (hstop : stop ∉ word) (hne : word ≠ [])
    (before : List α) : word <:+: before ++ [stop] ↔ word <:+: before := by
  rw [infix_append_stop hstop hne, List.infix_nil]
  exact ⟨fun hor => hor.resolve_right hne, .inl⟩

/-- A word in two texts begins in the first, or is in the second. -/
theorem infix_append_iff_or {word before after : List α} :
    word <:+: before ++ after ↔
      (∃ front, front ≠ [] ∧ front <:+ before ∧ word <+: front ++ after) ∨ word <:+: after := by
  induction before with
  | nil =>
      rw [List.nil_append]
      refine ⟨.inr, ?_⟩
      rintro (⟨front, hne, hfront, -⟩ | hafter)
      · exact absurd (List.suffix_nil.mp hfront) hne
      · exact hafter
  | cons first rest ih =>
      rw [List.cons_append, List.infix_cons_iff, ih]
      constructor
      · rintro (hmatch | ⟨front, hne, hfront, hword⟩ | hafter)
        · exact .inl ⟨first :: rest, List.cons_ne_nil _ _, List.suffix_rfl, hmatch⟩
        · exact .inl ⟨front, hne, hfront.trans (List.suffix_cons _ _), hword⟩
        · exact .inr hafter
      · rintro (⟨front, hne, hfront, hword⟩ | hafter)
        · rcases List.suffix_cons_iff.mp hfront with rfl | hfront
          · exact .inl hword
          · exact .inr (.inl ⟨front, hne, hfront, hword⟩)
        · exact .inr (.inr hafter)

/-! ## Replacements -/

variable [DecidableEq α]

/-- `replaceAll`, past some characters of an occurrence. -/
def replaceFrom (word mark : List α) : ℕ → List α → List α
  | _, [] => []
  | skip + 1, _ :: rest => replaceFrom word mark skip rest
  | 0, first :: rest =>
      if word.isPrefixOf (first :: rest) then mark ++ replaceFrom word mark (word.length - 1) rest
      else first :: replaceFrom word mark 0 rest

/-- `text.replace(word, mark)` of a word that is not empty. -/
def replaceAll (word mark text : List α) : List α := replaceFrom word mark 0 text

theorem replaceFrom_eq (word mark : List α) (skip : ℕ) (text : List α) :
    replaceFrom word mark skip text = replaceAll word mark (text.drop skip) := by
  induction text generalizing skip with
  | nil =>
      rw [List.drop_nil]
      cases skip <;> rfl
  | cons first rest ih =>
      cases skip with
      | zero => rfl
      | succ skip => exact ih skip

/-- A mark between two stops. -/
structure Marked (word : List α) (mark : List α) : Prop where
  starts : ∃ stop rest, mark = stop :: rest ∧ stop ∉ word
  ends : ∃ inner stop, mark = inner ++ [stop] ∧ stop ∉ word
  apart : ¬ word <:+: mark

theorem replaceAll_nil (word mark : List α) : replaceAll word mark [] = [] := rfl

theorem replaceAll_matched {word : List α} (mark : List α) {first : α} {rest : List α}
    (h : word <+: first :: rest) : replaceAll word mark (first :: rest) =
      mark ++ replaceAll word mark (rest.drop (word.length - 1)) := by
  rw [← replaceFrom_eq]
  exact if_pos (List.isPrefixOf_iff_prefix.mpr h)

theorem replaceAll_unmatched {word : List α} (mark : List α) {first : α} {rest : List α}
    (h : ¬ word <+: first :: rest) :
    replaceAll word mark (first :: rest) = first :: replaceAll word mark rest :=
  if_neg fun hmatch => h (List.isPrefixOf_iff_prefix.mp hmatch)

/-- What a text begins with after the replacement, it began with before, if it has no stop. -/
theorem prefix_of_prefix_replaceAll {word mark other : List α} {stop : α} {behind : List α}
    (hmark : mark = stop :: behind) (hstop : stop ∉ other) {text : List α}
    (h : other <+: replaceAll word mark text) : other <+: text := by
  induction text generalizing other with
  | nil =>
      rw [replaceAll_nil] at h
      exact h
  | cons first rest ih =>
      rcases other with _ | ⟨c, others⟩
      · exact List.nil_prefix
      · by_cases hmatch : word <+: first :: rest
        · rw [replaceAll_matched mark hmatch, hmark] at h
          obtain ⟨_, hsame⟩ := h
          rw [← (List.cons.inj hsame).1] at hstop
          exact absurd List.mem_cons_self hstop
        · rw [replaceAll_unmatched mark hmatch, List.cons_prefix_cons] at h
          rw [List.cons_prefix_cons]
          refine ⟨h.1, ih ?_ h.2⟩
          exact fun hmem => hstop (List.mem_cons_of_mem _ hmem)

/-- The recursion of a replacement. -/
theorem replaceAll_induction {word : List α} {P : List α → Prop} (hnil : P [])
    (hmatch : ∀ first rest, word <+: first :: rest → P (rest.drop (word.length - 1)) →
      P (first :: rest))
    (hother : ∀ first rest, ¬ word <+: first :: rest → P rest → P (first :: rest)) :
    ∀ text, P text := by
  intro text
  induction hlength : text.length using Nat.strongRecOn generalizing text with
  | _ n ih =>
      rcases text with _ | ⟨first, rest⟩
      · exact hnil
      · rw [List.length_cons] at hlength
        by_cases h : word <+: first :: rest
        · refine hmatch first rest h (ih _ ?_ _ rfl)
          rw [List.length_drop]
          omega
        · exact hother first rest h (ih _ (by omega) _ rfl)

/-- **No word comes up** that was not in the text. -/
theorem infix_of_infix_replaceAll {word mark other : List α} (hmark : Marked other mark)
    (hne : other ≠ []) {text : List α} (h : other <:+: replaceAll word mark text) :
    other <:+: text := by
  obtain ⟨start, behind, hstart, hstartStop⟩ := hmark.starts
  obtain ⟨inner, stop, hend, hendStop⟩ := hmark.ends
  revert h
  refine @replaceAll_induction _ _ word
    (fun text => other <:+: replaceAll word mark text → other <:+: text) ?_ ?_ ?_ text
  · intro h
    rw [replaceAll_nil] at h
    exact h
  · intro first rest hmatch ih h
    rw [replaceAll_matched mark hmatch] at h
    have hsplit : mark ++ replaceAll word mark (rest.drop (word.length - 1)) =
        inner ++ stop :: replaceAll word mark (rest.drop (word.length - 1)) := by
      rw [hend, List.append_assoc]
      rfl
    rw [hsplit, infix_append_stop hendStop hne] at h
    rcases h with hinner | hrest
    · refine absurd ?_ hmark.apart
      rw [hend]
      exact List.infix_append_of_infix_left hinner
    · exact List.infix_cons ((ih hrest).trans (List.drop_suffix _ _).isInfix)
  · intro first rest hmatch ih h
    rw [replaceAll_unmatched mark hmatch] at h
    rcases List.infix_cons_iff.mp h with hfront | hrest
    · rw [← replaceAll_unmatched mark hmatch] at hfront
      exact (prefix_of_prefix_replaceAll hstart hstartStop hfront).isInfix
    · exact List.infix_cons (ih hrest)

/-- **The replaced word is gone.** -/
theorem not_infix_replaceAll {word mark : List α} (hmark : Marked word mark) (hne : word ≠ [])
    (text : List α) : ¬ word <:+: replaceAll word mark text := by
  obtain ⟨start, behind, hstart, hstartStop⟩ := hmark.starts
  obtain ⟨inner, stop, hend, hendStop⟩ := hmark.ends
  refine @replaceAll_induction _ _ word
    (fun text => ¬ word <:+: replaceAll word mark text) ?_ ?_ ?_ text
  · rw [replaceAll_nil, List.infix_nil]
    exact hne
  · intro first rest hmatch ih h
    rw [replaceAll_matched mark hmatch] at h
    have hsplit : mark ++ replaceAll word mark (rest.drop (word.length - 1)) =
        inner ++ stop :: replaceAll word mark (rest.drop (word.length - 1)) := by
      rw [hend, List.append_assoc]
      rfl
    rw [hsplit, infix_append_stop hendStop hne] at h
    rcases h with hinner | hrest
    · refine hmark.apart ?_
      rw [hend]
      exact List.infix_append_of_infix_left hinner
    · exact ih hrest
  · intro first rest hmatch ih h
    rw [replaceAll_unmatched mark hmatch] at h
    rcases List.infix_cons_iff.mp h with hfront | hrest
    · rw [← replaceAll_unmatched mark hmatch] at hfront
      exact hmatch (prefix_of_prefix_replaceAll hstart hstartStop hfront)
    · exact ih hrest

end ArbitrageEngine.Lib
