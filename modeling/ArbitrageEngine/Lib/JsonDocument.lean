/-
# ArbitrageEngine.Lib.JsonDocument -- the text of a JSON document, and the words in it

`json.dumps` with its usual separators, and with `ensure_ascii=False`.  A word of letters and digits
does not reach across the marks of a document, so it occurs in the text if and only if it occurs in
a literal, a string or a key.  Inside a string it occurs where the string has it, or as an *echo*:
the escape of a control character ends with letters or digits, and the word goes on from there.
-/
import ArbitrageEngine.Lib.JsonText
import ArbitrageEngine.Lib.Occurrences

namespace ArbitrageEngine.Lib

/-- A JSON document. -/
inductive Document
  | literal (text : List Char)
  | string (s : String)
  | array (items : List Document)
  | object (entries : List (String × Document))

/-- The inside of the JSON text of a string. -/
def escaped (s : String) : List Char := s.toList.flatMap JsonText.escape

namespace Document

mutual

/-- `json.dumps(document, ensure_ascii=False)`. -/
def text : Document → List Char
  | literal t => t
  | string s => '"' :: (escaped s ++ ['"'])
  | array items => '[' :: itemsText items
  | object entries => '{' :: entriesText entries

def itemsText : List Document → List Char
  | [] => [']']
  | [d] => text d ++ [']']
  | d :: rest => text d ++ ',' :: ' ' :: itemsText rest

def entriesText : List (String × Document) → List Char
  | [] => ['}']
  | [(key, d)] => '"' :: (escaped key ++ '"' :: ':' :: ' ' :: (text d ++ ['}']))
  | (key, d) :: rest =>
      '"' :: (escaped key ++ '"' :: ':' :: ' ' :: (text d ++ ',' :: ' ' :: entriesText rest))

end

/-- The document has a word in a literal, a string or a key. -/
inductive Shows (word : List Char) : Document → Prop
  | literal {text : List Char} (h : word <:+: text) : Shows word (literal text)
  | string {s : String} (h : word <:+: escaped s) : Shows word (string s)
  | item {items : List Document} {d : Document} (hmem : d ∈ items) (h : Shows word d) :
      Shows word (array items)
  | key {entries : List (String × Document)} {e : String × Document} (hmem : e ∈ entries)
      (h : word <:+: escaped e.1) : Shows word (object entries)
  | value {entries : List (String × Document)} {e : String × Document} (hmem : e ∈ entries)
      (h : Shows word e.2) : Shows word (object entries)

end Document

/-! ## Words -/

/-- A word of letters and digits; what is not ASCII may be either. -/
structure Wordy (word : List Char) : Prop where
  ne_nil : word ≠ []
  letters : ∀ c ∈ word, c.isAlphanum = true ∨ 128 ≤ c.toNat

theorem Wordy.not_mem {word : List Char} (h : Wordy word) {stop : Char}
    (hstop : ¬ (stop.isAlphanum = true ∨ 128 ≤ stop.toNat)) : stop ∉ word :=
  fun hmem => hstop (h.letters stop hmem)

/-- A letter or digit is not escaped. -/
theorem escape_of_letter {c : Char} (h : c.isAlphanum = true ∨ 128 ≤ c.toNat) :
    JsonText.escape c = [c] := by
  have hshort : JsonText.shortEscape c = none := by
    cases hc : JsonText.shortEscape c with
    | none => rfl
    | some letter =>
        have htable : ∀ p ∈ JsonText.shortEscapes,
            ¬ (p.1.isAlphanum = true ∨ 128 ≤ p.1.toNat) := by decide
        exact absurd h (htable _ (JsonText.mem_shortEscapes hc))
  have hlow : ¬ c.toNat < 32 := by
    intro hlow
    rcases h with hletter | hhigh
    · have hnone : ∀ n < 32, (Char.ofNat n).isAlphanum = false := by decide
      have hc := hnone c.toNat hlow
      rw [Char.ofNat_toNat, hletter] at hc
      exact Bool.noConfusion hc
    · omega
  unfold JsonText.escape
  rw [hshort]
  exact if_neg hlow

/-- A character is written as it is, or behind a backslash. -/
theorem escape_cases (c : Char) :
    JsonText.escape c = [c] ∨ ∃ tail, JsonText.escape c = '\\' :: tail := by
  unfold JsonText.escape
  split
  · exact .inr ⟨_, rfl⟩
  · split
    · exact .inr ⟨_, rfl⟩
    · exact .inl rfl

/-! ## Echoes -/

/-- A word that begins in the escape of a character and goes on in the text behind it. -/
def Echo (word text : List Char) : Prop :=
  ∃ before c after tail, text = before ++ c :: after ∧ tail ≠ [] ∧
    tail <:+ (JsonText.escape c).drop 1 ∧ word <+: tail ++ after

theorem echo_cons_iff {word : List Char} {c : Char} {rest : List Char} :
    Echo word (c :: rest) ↔
      (∃ tail, tail ≠ [] ∧ tail <:+ (JsonText.escape c).drop 1 ∧ word <+: tail ++ rest) ∨
        Echo word rest := by
  constructor
  · rintro ⟨before, d, after, tail, htext, hne, htail, hword⟩
    rcases before with _ | ⟨first, before⟩
    · obtain ⟨rfl, rfl⟩ := List.cons.inj htext
      exact .inl ⟨tail, hne, htail, hword⟩
    · exact .inr ⟨before, d, after, tail, (List.cons.inj htext).2, hne, htail, hword⟩
  · rintro (⟨tail, hne, htail, hword⟩ | ⟨before, d, after, tail, rfl, hne, htail, hword⟩)
    · exact ⟨[], c, rest, tail, rfl, hne, htail, hword⟩
    · exact ⟨c :: before, d, after, tail, rfl, hne, htail, hword⟩

/-- A beginning of letters and digits is the same with the escapes. -/
theorem prefix_flatMap_escape_iff {word text : List Char}
    (h : ∀ c ∈ word, c.isAlphanum = true ∨ 128 ≤ c.toNat) :
    word <+: text.flatMap JsonText.escape ↔ word <+: text := by
  induction text generalizing word with
  | nil => exact Iff.rfl
  | cons c rest ih =>
      rcases word with _ | ⟨first, others⟩
      · exact iff_of_true List.nil_prefix List.nil_prefix
      · have hfirst := h first List.mem_cons_self
        rw [List.flatMap_cons, List.cons_prefix_cons]
        rcases escape_cases c with hplain | ⟨tail, hescaped⟩
        · rw [hplain, List.singleton_append, List.cons_prefix_cons,
            ih fun d hd => h d (List.mem_cons_of_mem _ hd)]
        · rw [hescaped, List.cons_append, List.cons_prefix_cons]
          constructor
          · rintro ⟨rfl, -⟩
            exact absurd hfirst (by decide)
          · rintro ⟨rfl, -⟩
            rw [escape_of_letter hfirst] at hescaped
            rw [(List.cons.inj hescaped).1] at hfirst
            exact absurd hfirst (by decide)

theorem prefix_append_flatMap_escape_iff {word front text : List Char}
    (h : ∀ c ∈ word, c.isAlphanum = true ∨ 128 ≤ c.toNat) :
    word <+: front ++ text.flatMap JsonText.escape ↔ word <+: front ++ text := by
  induction front generalizing word with
  | nil => exact prefix_flatMap_escape_iff h
  | cons first rest ih =>
      rcases word with _ | ⟨c, others⟩
      · exact iff_of_true List.nil_prefix List.nil_prefix
      · rw [List.cons_append, List.cons_append, List.cons_prefix_cons, List.cons_prefix_cons,
          ih fun d hd => h d (List.mem_cons_of_mem _ hd)]

/-- **A word in an escaped text** is in the text, or an echo. -/
theorem infix_flatMap_escape_iff {word : List Char} (h : Wordy word) (text : List Char) :
    word <:+: text.flatMap JsonText.escape ↔ word <:+: text ∨ Echo word text := by
  induction text with
  | nil =>
      constructor
      · exact .inl
      · rintro (hword | ⟨before, c, after, tail, htext, -⟩)
        · exact hword
        · exact absurd htext.symm (List.append_ne_nil_of_right_ne_nil _ (List.cons_ne_nil _ _))
  | cons c rest ih =>
      rw [List.flatMap_cons, echo_cons_iff]
      rcases escape_cases c with hplain | ⟨tail, hescaped⟩
      · have hnone : ¬ ∃ tail, tail ≠ [] ∧ tail <:+ (JsonText.escape c).drop 1 ∧
            word <+: tail ++ rest := by
          rintro ⟨tail, hne, htail, -⟩
          rw [hplain] at htail
          exact hne (List.suffix_nil.mp htail)
        have hfront : word <+: c :: rest.flatMap JsonText.escape ↔ word <+: c :: rest :=
          @prefix_append_flatMap_escape_iff word [c] rest h.letters
        rw [or_iff_right hnone, hplain, List.singleton_append, List.infix_cons_iff, hfront, ih,
          List.infix_cons_iff, or_assoc]
      · have hc : c ∉ word := by
          intro hmem
          rw [escape_of_letter (h.letters c hmem)] at hescaped
          rw [(List.cons.inj hescaped).1] at hmem
          exact h.not_mem (by decide) hmem
        rw [hescaped, List.cons_append, infix_cons_stop (h.not_mem (by decide)) h.ne_nil,
          infix_cons_stop hc h.ne_nil, infix_append_iff_or, ih]
        have hfronts : (∃ front, front ≠ [] ∧ front <:+ tail ∧
              word <+: front ++ rest.flatMap JsonText.escape) ↔
            ∃ front, front ≠ [] ∧ front <:+ ('\\' :: tail).drop 1 ∧ word <+: front ++ rest := by
          apply exists_congr
          intro front
          rw [prefix_append_flatMap_escape_iff h.letters]
          rfl
        rw [hfronts]
        exact or_left_comm

/-- Only control characters have echoes. -/
theorem exists_control_of_echo {word text : List Char} (h : Wordy word) (hecho : Echo word text) :
    ∃ c ∈ text, c.toNat < 32 := by
  obtain ⟨before, c, after, tail, rfl, hne, htail, hword⟩ := hecho
  refine ⟨c, List.mem_append_right _ List.mem_cons_self, ?_⟩
  obtain ⟨first, others, rfl⟩ := List.exists_cons_of_ne_nil h.ne_nil
  obtain ⟨letter, back, rfl⟩ := List.exists_cons_of_ne_nil hne
  have hletter := h.letters first List.mem_cons_self
  rw [List.cons_append, List.cons_prefix_cons] at hword
  rw [hword.1] at hletter
  unfold JsonText.escape at htail
  split at htail
  · next short hshort =>
      have hmem : letter ∈ [short] := htail.subset List.mem_cons_self
      rw [List.mem_singleton.mp hmem] at hletter
      have htable : ∀ p ∈ JsonText.shortEscapes,
          (p.2.isAlphanum = true ∨ 128 ≤ p.2.toNat) → p.1.toNat < 32 := by decide
      exact htable _ (JsonText.mem_shortEscapes hshort) hletter
  · split at htail
    · next hlow => exact hlow
    · exact absurd (List.suffix_nil.mp htail) (List.cons_ne_nil _ _)

/-! ## Documents -/

namespace Document

variable {word : List Char}

theorem shows_literal_iff {t : List Char} : (literal t).Shows word ↔ word <:+: t := by
  constructor
  · intro h
    cases h with
    | literal h => exact h
  · exact .literal

theorem shows_string_iff {s : String} : (string s).Shows word ↔ word <:+: escaped s := by
  constructor
  · intro h
    cases h with
    | string h => exact h
  · exact .string

theorem shows_array_iff {items : List Document} :
    (array items).Shows word ↔ ∃ d ∈ items, d.Shows word := by
  constructor
  · intro h
    cases h with
    | item hmem h => exact ⟨_, hmem, h⟩
  · rintro ⟨d, hmem, h⟩
    exact .item hmem h

theorem shows_object_iff {entries : List (String × Document)} :
    (object entries).Shows word ↔ ∃ e ∈ entries, word <:+: escaped e.1 ∨ e.2.Shows word := by
  constructor
  · intro h
    cases h with
    | key hmem h => exact ⟨_, hmem, .inl h⟩
    | value hmem h => exact ⟨_, hmem, .inr h⟩
  · rintro ⟨e, hmem, h | h⟩
    · exact .key hmem h
    · exact .value hmem h

/-- An entry with what stands behind it. -/
theorem infix_entry_iff (h : Wordy word) (key : String) (value : List Char) {stop : Char}
    (hstop : stop ∉ word) (rest : List Char) :
    word <:+: '"' :: (escaped key ++ '"' :: ':' :: ' ' :: (value ++ stop :: rest)) ↔
      (word <:+: escaped key ∨ word <:+: value) ∨ word <:+: rest := by
  have hquote : '"' ∉ word := h.not_mem (by decide)
  have hcolon : ':' ∉ word := h.not_mem (by decide)
  have hspace : ' ' ∉ word := h.not_mem (by decide)
  rw [infix_cons_stop hquote h.ne_nil, infix_append_stop hquote h.ne_nil,
    infix_cons_stop hcolon h.ne_nil, infix_cons_stop hspace h.ne_nil,
    infix_append_stop hstop h.ne_nil, or_assoc]

mutual

/-- **The words of a document** are those of its literals, strings and keys. -/
theorem infix_text_iff (h : Wordy word) : ∀ d : Document, word <:+: d.text ↔ d.Shows word
  | literal t => by
      rw [text, shows_literal_iff]
  | string s => by
      rw [text, shows_string_iff, infix_cons_stop (h.not_mem (by decide)) h.ne_nil,
        infix_concat_stop (h.not_mem (by decide)) h.ne_nil]
  | array items => by
      rw [text, shows_array_iff, infix_cons_stop (h.not_mem (by decide)) h.ne_nil,
        infix_itemsText_iff h items]
  | object entries => by
      rw [text, shows_object_iff, infix_cons_stop (h.not_mem (by decide)) h.ne_nil,
        infix_entriesText_iff h entries]

theorem infix_itemsText_iff (h : Wordy word) : ∀ items : List Document,
    word <:+: itemsText items ↔ ∃ d ∈ items, d.Shows word
  | [] => by
      rw [itemsText, infix_cons_stop (h.not_mem (by decide)) h.ne_nil, List.infix_nil]
      simp [h.ne_nil]
  | [d] => by
      rw [itemsText, infix_concat_stop (h.not_mem (by decide)) h.ne_nil, infix_text_iff h d]
      simp
  | d :: next :: rest => by
      rw [itemsText, infix_append_stop (h.not_mem (by decide)) h.ne_nil,
        infix_cons_stop (h.not_mem (by decide)) h.ne_nil, infix_text_iff h d,
        infix_itemsText_iff h (next :: rest)]
      · simp
      · exact List.cons_ne_nil _ _

theorem infix_entriesText_iff (h : Wordy word) : ∀ entries : List (String × Document),
    word <:+: entriesText entries ↔ ∃ e ∈ entries, word <:+: escaped e.1 ∨ e.2.Shows word
  | [] => by
      rw [entriesText, infix_cons_stop (h.not_mem (by decide)) h.ne_nil, List.infix_nil]
      simp [h.ne_nil]
  | [(key, d)] => by
      rw [entriesText, infix_entry_iff h key d.text (h.not_mem (by decide)), infix_text_iff h d,
        List.infix_nil]
      simp [h.ne_nil]
  | (key, d) :: next :: rest => by
      rw [entriesText, infix_entry_iff h key d.text (h.not_mem (by decide)),
        infix_cons_stop (h.not_mem (by decide)) h.ne_nil, infix_text_iff h d,
        infix_entriesText_iff h (next :: rest)]
      · simp
      · exact List.cons_ne_nil _ _

end

end Document

end ArbitrageEngine.Lib
