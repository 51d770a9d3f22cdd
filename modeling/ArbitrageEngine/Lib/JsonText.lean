/-
# ArbitrageEngine.Lib.JsonText -- texts that tell where they end

A writer is *self-delimiting* if a text it wrote can be told from whatever follows, and so can the
value that was written.  Such writers compose: one after another, between fixed marks, in sequences
with a separator, and character by character up to a stop mark.  A string and a list as a compact
`json.dumps` writes them are instances, so a document put together from them determines its parts.
-/
import Mathlib.Data.List.Basic
import Mathlib.Logic.Function.Basic

namespace ArbitrageEngine.Lib.JsonText

variable {α β σ : Type}

/-! ## Self-delimiting writers -/

/-- Text and value can be told from the text and whatever follows. -/
def SelfDelimiting (write : α → List σ) : Prop :=
  ∀ a b rest rest', write a ++ rest = write b ++ rest' → a = b ∧ rest = rest'

theorem SelfDelimiting.comp {write : α → List σ} (h : SelfDelimiting write) {f : β → α}
    (hf : Function.Injective f) : SelfDelimiting fun b => write (f b) := by
  intro a b rest rest' heq
  obtain ⟨hab, hrest⟩ := h _ _ rest rest' heq
  exact ⟨hf hab, hrest⟩

/-- A mark in front of the text. -/
theorem SelfDelimiting.after {write : α → List σ} (h : SelfDelimiting write) (mark : List σ) :
    SelfDelimiting fun a => mark ++ write a := by
  intro a b rest rest' heq
  rw [List.append_assoc, List.append_assoc] at heq
  exact h a b rest rest' (List.append_cancel_left heq)

/-- A mark behind the text. -/
theorem SelfDelimiting.before {write : α → List σ} (h : SelfDelimiting write) (mark : List σ) :
    SelfDelimiting fun a => write a ++ mark := by
  intro a b rest rest' heq
  rw [List.append_assoc, List.append_assoc] at heq
  obtain ⟨hab, hrest⟩ := h a b _ _ heq
  exact ⟨hab, List.append_cancel_left hrest⟩

/-- One text after another. -/
theorem SelfDelimiting.append {write : α → List σ} {write' : β → List σ}
    (h : SelfDelimiting write) (h' : SelfDelimiting write') :
    SelfDelimiting fun p : α × β => write p.1 ++ write' p.2 := by
  intro p q rest rest' heq
  rw [List.append_assoc, List.append_assoc] at heq
  obtain ⟨hfirst, htail⟩ := h _ _ _ _ heq
  obtain ⟨hsecond, hrest⟩ := h' _ _ _ _ htail
  exact ⟨Prod.ext hfirst hsecond, hrest⟩

/-- No text starts with the mark. -/
def NeverStarts (mark : σ) (write : α → List σ) : Prop :=
  ∀ a, ∃ c text, write a = c :: text ∧ c ≠ mark

/-- The texts of the elements up to a stop mark. -/
def terminated (write : α → List σ) (stop : σ) (l : List α) : List σ :=
  l.flatMap write ++ [stop]

theorem terminated_cons (write : α → List σ) (stop : σ) (a : α) (l : List α) :
    terminated write stop (a :: l) = write a ++ terminated write stop l := by
  simp [terminated]

theorem SelfDelimiting.terminated {write : α → List σ} (h : SelfDelimiting write) {stop : σ}
    (hstop : NeverStarts stop write) : SelfDelimiting (terminated write stop) := by
  intro l
  induction l with
  | nil =>
    intro l' rest rest' heq
    cases l' with
    | nil => exact ⟨rfl, List.append_cancel_left heq⟩
    | cons b l' =>
      obtain ⟨c, text, htext, hne⟩ := hstop b
      rw [terminated_cons, htext] at heq
      exact absurd (List.cons.inj heq).1.symm hne
  | cons a l ih =>
    intro l' rest rest' heq
    cases l' with
    | nil =>
      obtain ⟨c, text, htext, hne⟩ := hstop a
      rw [terminated_cons, htext] at heq
      exact absurd (List.cons.inj heq).1 hne
    | cons b l' =>
      rw [terminated_cons, terminated_cons, List.append_assoc, List.append_assoc] at heq
      obtain ⟨rfl, htail⟩ := h _ _ _ _ heq
      obtain ⟨rfl, hrest⟩ := ih _ _ _ htail
      exact ⟨rfl, hrest⟩

/-- The texts of the elements with a separator between them and a closing mark. -/
def sequence (write : α → List σ) (separator close : σ) : List α → List σ
  | [] => [close]
  | [a] => write a ++ [close]
  | a :: b :: l => write a ++ separator :: sequence write separator close (b :: l)

/-- After an element comes the closing mark, or the separator and another element. -/
theorem sequence_cons (write : α → List σ) (separator close : σ) (a : α) (l : List α) :
    sequence write separator close (a :: l) =
      write a ++ if l = [] then [close] else separator :: sequence write separator close l := by
  cases l <;> simp [sequence]

theorem SelfDelimiting.sequence {write : α → List σ} (h : SelfDelimiting write)
    {separator close : σ} (hclose : NeverStarts close write) (hmarks : separator ≠ close) :
    SelfDelimiting (sequence write separator close) := by
  intro l
  induction l with
  | nil =>
    intro l' rest rest' heq
    cases l' with
    | nil => exact ⟨rfl, List.append_cancel_left heq⟩
    | cons b l' =>
      obtain ⟨c, text, htext, hne⟩ := hclose b
      rw [sequence_cons, htext] at heq
      exact absurd (List.cons.inj heq).1.symm hne
  | cons a l ih =>
    intro l' rest rest' heq
    cases l' with
    | nil =>
      obtain ⟨c, text, htext, hne⟩ := hclose a
      rw [sequence_cons, htext] at heq
      exact absurd (List.cons.inj heq).1 hne
    | cons b l' =>
      rw [sequence_cons, sequence_cons, List.append_assoc, List.append_assoc] at heq
      obtain ⟨rfl, htail⟩ := h _ _ _ _ heq
      split_ifs at htail with hl hl' hl'
      · -- both end here
        obtain ⟨-, hrest⟩ := List.cons.inj htail
        exact ⟨by rw [hl, hl'], hrest⟩
      · exact absurd (List.cons.inj htail).1.symm hmarks
      · exact absurd (List.cons.inj htail).1 hmarks
      · obtain ⟨rfl, hrest⟩ := ih _ _ _ (List.cons.inj htail).2
        exact ⟨rfl, hrest⟩

/-! ## Strings and lists -/

/-- The characters with an escape of two characters, and its letter. -/
def shortEscapes : List (Char × Char) :=
  [('"', '"'), ('\\', '\\'), ('\n', 'n'), ('\r', 'r'), ('\t', 't'), ('\x0c', 'f'), ('\x08', 'b')]

/-- The letter of the escape, if there is one. -/
def shortEscape (c : Char) : Option Char := (shortEscapes.find? (·.1 = c)).map Prod.snd

/-- A character inside a string, with `ensure_ascii=False`: only quotes, backslashes and control
characters are escaped. -/
def escape (c : Char) : List Char :=
  match shortEscape c with
  | some letter => ['\\', letter]
  | none =>
    if c.toNat < 32 then
      ['\\', 'u', '0', '0', Nat.digitChar (c.toNat / 16), Nat.digitChar (c.toNat % 16)]
    else [c]

/-- The JSON text of a string. -/
def string (s : String) : List Char := '"' :: terminated escape '"' s.toList

/-- The JSON text of a list. -/
def array (write : α → List Char) (l : List α) : List Char := '[' :: sequence write ',' ']' l

theorem mem_shortEscapes {c letter : Char} (h : shortEscape c = some letter) :
    (c, letter) ∈ shortEscapes := by
  obtain ⟨p, hp, rfl⟩ := Option.map_eq_some_iff.mp h
  have hkey : p.1 = c := by simpa using List.find?_some hp
  rw [← hkey]
  exact List.mem_of_find?_eq_some hp

/-- No letter stands for two characters. -/
theorem shortEscape_inj {c d letter : Char} (hc : shortEscape c = some letter)
    (hd : shortEscape d = some letter) : c = d := by
  have htable : ∀ p ∈ shortEscapes, ∀ q ∈ shortEscapes, p.2 = q.2 → p.1 = q.1 := by decide
  exact htable _ (mem_shortEscapes hc) _ (mem_shortEscapes hd) rfl

/-- The letter of the long escapes is not one of the short ones. -/
theorem shortEscape_ne_u {c letter : Char} (hc : shortEscape c = some letter) : letter ≠ 'u' := by
  have htable : ∀ p ∈ shortEscapes, p.2 ≠ 'u' := by decide
  exact htable _ (mem_shortEscapes hc)

theorem ne_backslash {c : Char} (hc : shortEscape c = none) : c ≠ '\\' := by
  rintro rfl
  exact absurd hc (by decide)

theorem toNat_of_hex {c d : Char} (hc : c.toNat < 32) (hd : d.toNat < 32)
    (hhigh : Nat.digitChar (c.toNat / 16) = Nat.digitChar (d.toNat / 16))
    (hlow : Nat.digitChar (c.toNat % 16) = Nat.digitChar (d.toNat % 16)) : c = d := by
  have hdigit : ∀ n < 16, ∀ m < 16, Nat.digitChar n = Nat.digitChar m → n = m := by decide
  have hdiv := hdigit _ (by omega) _ (by omega) hhigh
  have hmod := hdigit _ (by omega) _ (by omega) hlow
  exact Char.toNat_inj.mp (by omega)

theorem selfDelimiting_escape : SelfDelimiting escape := by
  intro c d rest rest' heq
  unfold escape at heq
  cases hc : shortEscape c with
  | some letter =>
    cases hd : shortEscape d with
    | some letter' =>
      simp only [hc, hd, List.cons_append, List.nil_append, List.cons.injEq, true_and] at heq
      exact ⟨shortEscape_inj hc (heq.1 ▸ hd), heq.2⟩
    | none =>
      simp only [hc, hd] at heq
      split_ifs at heq
      · simp only [List.cons_append, List.cons.injEq, true_and] at heq
        exact absurd heq.1 (shortEscape_ne_u hc)
      · simp only [List.cons_append, List.cons.injEq] at heq
        exact absurd heq.1.symm (ne_backslash hd)
  | none =>
    cases hd : shortEscape d with
    | some letter =>
      simp only [hc, hd] at heq
      split_ifs at heq
      · simp only [List.cons_append, List.cons.injEq, true_and] at heq
        exact absurd heq.1.symm (shortEscape_ne_u hd)
      · simp only [List.cons_append, List.cons.injEq] at heq
        exact absurd heq.1 (ne_backslash hc)
    | none =>
      simp only [hc, hd] at heq
      split_ifs at heq with hlow hlow' hlow'
      · simp only [List.cons_append, List.nil_append, List.cons.injEq, true_and] at heq
        exact ⟨toNat_of_hex hlow hlow' heq.1 heq.2.1, heq.2.2⟩
      · simp only [List.cons_append, List.cons.injEq] at heq
        exact absurd heq.1.symm (ne_backslash hd)
      · simp only [List.cons_append, List.cons.injEq] at heq
        exact absurd heq.1 (ne_backslash hc)
      · simpa using heq

theorem neverStarts_escape : NeverStarts '"' escape := by
  intro c
  unfold escape
  split
  · exact ⟨_, _, rfl, by decide⟩
  · next hnone =>
    split
    · exact ⟨_, _, rfl, by decide⟩
    · refine ⟨c, [], rfl, ?_⟩
      rintro rfl
      exact absurd hnone (by decide)

theorem selfDelimiting_string : SelfDelimiting string :=
  ((selfDelimiting_escape.terminated neverStarts_escape).after ['"']).comp
    fun _ _ => String.toList_injective

/-- A string starts with its quote. -/
theorem neverStarts_string {mark : Char} (h : '"' ≠ mark) : NeverStarts mark string :=
  fun _ => ⟨_, _, rfl, h⟩

theorem SelfDelimiting.array {write : α → List Char} (h : SelfDelimiting write)
    (hclose : NeverStarts ']' write) : SelfDelimiting (array write) :=
  (h.sequence hclose (by decide)).after ['[']

end ArbitrageEngine.Lib.JsonText
