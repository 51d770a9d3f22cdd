/-
# ArbitrageEngine.Discovery.OutcomeTokens -- the token of an outcome

A row gives a token to an outcome in two ways: under a key of the side, and in a list of outcomes
where each has its side by its label, by the key `side` or by its index set.  A row whose outcomes
are not in doubt gives, up to letter case, one token to each side and different ones to the two; the
specs of the row and `_token_id_for_market` take these.
-/
import ArbitrageEngine.Discovery.PredictCatalogue
import Mathlib.Data.List.DropRight

namespace ArbitrageEngine.PredictCatalogue

open Lib

variable (texts : CatalogueTexts)

/-- What is used of the tables: folding case leaves something, digits are not white space, and a
text that is a side in capital letters is read as that side. -/
structure CatalogueTexts.Lawful : Prop where
  fold_ne : ∀ text, text ≠ [] → texts.unicode.casefold text ≠ []
  digit : ∀ c : Char, c.isDigit = true → texts.unicode.isSpace c = false
  side : ∀ (s : String) (side : BinarySide), texts.upper s = side.value →
    texts.upper (texts.strip s) = side.value ∧ labelSide (texts.normalize (texts.strip s)) = [side]

variable {texts}

/-! ## White space -/

section WhiteSpace

variable {unicode : Titles.Unicode} {text : List Char}

theorem strip_eq : Titles.strip unicode text =
    (text.dropWhile unicode.isSpace).rdropWhile unicode.isSpace := rfl

/-- A text without white space at its ends is left as it is. -/
theorem strip_of_ends (hhead : ∀ c ∈ text.head?, unicode.isSpace c = false)
    (hlast : ∀ c ∈ text.getLast?, unicode.isSpace c = false) :
    Titles.strip unicode text = text := by
  have hfirst : text.dropWhile unicode.isSpace = text := by
    cases text with
    | nil => rfl
    | cons c rest =>
        have hc : unicode.isSpace c = false := hhead c rfl
        rw [List.dropWhile_cons_of_neg]
        simp [hc]
  rw [strip_eq, hfirst, List.rdropWhile_eq_self_iff]
  intro hne
  have hc := hlast (text.getLast hne) (List.getLast?_eq_getLast_of_ne_nil hne)
  simp [hc]

/-- Stripping twice is stripping once. -/
theorem strip_strip : Titles.strip unicode (Titles.strip unicode text) =
    Titles.strip unicode text := by
  show ((Titles.strip unicode text).dropWhile unicode.isSpace).rdropWhile unicode.isSpace =
    Titles.strip unicode text
  have hhead : (Titles.strip unicode text).dropWhile unicode.isSpace =
      Titles.strip unicode text := by
    obtain ⟨rest, hrest⟩ :=
      List.rdropWhile_prefix unicode.isSpace (text.dropWhile unicode.isSpace)
    rw [← strip_eq] at hrest
    cases hstrip : Titles.strip unicode text with
    | nil => rfl
    | cons c others =>
        -- What is left begins as the text without its leading white space does.
        rw [hstrip] at hrest
        have hne : text.dropWhile unicode.isSpace ≠ [] := by
          rw [← hrest]
          simp
        have hc := List.head_dropWhile_not unicode.isSpace hne
        rw [List.dropWhile_cons_of_neg]
        simp only [← hrest, List.cons_append, List.head_cons] at hc
        simp [hc]
  rw [hhead, strip_eq, List.rdropWhile_idempotent]

end WhiteSpace

theorem toList_strip (s : String) :
    (texts.strip s).toList = Titles.strip texts.unicode s.toList := by
  simp [CatalogueTexts.strip]

/-! ## What a token is compared by -/

/-- A numeral has no white space at its ends. -/
theorem strip_numeral (hlaw : texts.Lawful) (n : ℕ) :
    Titles.strip texts.unicode (toString n).toList = (toString n).toList := by
  have hdigit : ∀ c ∈ (toString n).toList, texts.unicode.isSpace c = false := by
    intro c hc
    apply hlaw.digit
    rw [Nat.toString_eq_repr, Nat.toList_repr] at hc
    exact Nat.isDigit_of_mem_toDigits (b := 10) (by decide) (by decide) hc
  apply strip_of_ends
  · exact fun c hc => hdigit c (List.mem_of_mem_head? hc)
  · exact fun c hc => hdigit c (List.mem_of_getLast? hc)

/-- A token has no white space at its ends, and is not blank. -/
theorem strip_of_canonical (hlaw : texts.Lawful) {value : Json} {token : String}
    (h : canonicalTokenId texts value = some token) :
    token ≠ "" ∧ Titles.strip texts.unicode token.toList = token.toList := by
  cases value with
  | text raw =>
      simp only [canonicalTokenId] at h
      split at h
      · cases h
      · next hblank =>
          split at h
          · split at h
            · cases h
              refine ⟨?_, strip_numeral hlaw _⟩
              rw [Nat.toString_eq_repr]
              exact Nat.repr_ne_empty
            · cases h
          · cases h
            refine ⟨hblank, ?_⟩
            rw [toList_strip]
            exact strip_strip
  | _ => cases h

/-- Tokens are compared in small letters. -/
theorem tokenKey_of_canonical (hlaw : texts.Lawful) {value : Json} {token : String}
    (h : canonicalTokenId texts value = some token) :
    token ≠ "" ∧ texts.tokenKey token = texts.fold token ∧ texts.tokenKey token ≠ [] := by
  obtain ⟨hne, hstrip⟩ := strip_of_canonical hlaw h
  have hkey : texts.tokenKey token = texts.fold token := by
    unfold CatalogueTexts.tokenKey CatalogueTexts.fold
    rw [hstrip]
  refine ⟨hne, hkey, ?_⟩
  rw [hkey]
  apply hlaw.fold_ne
  intro hnil
  exact hne (String.toList_eq_nil_iff.mp hnil)

/-! ## What the payload gives to a side -/

variable (texts) in
/-- The payload gives the token to the outcome of a side: under a key of the side, or under a token
key of an outcome that is read as that side's. -/
inductive Gives (row : Row) (side : BinarySide) (token : String) : Prop
  | direct (value : Json) (hkey : value ∈ present row (directKeys side))
      (htoken : canonicalTokenId texts value = some token)
  | listed (outcome : Json) (parsed : ParsedBinaryOutcome) (value : Json)
      (houtcome : outcome ∈ iterOutcomes row) (hparsed : parseOutcome texts outcome = some parsed)
      (hside : parsed.side = side) (hkey : value ∈ present outcome outcomeTokenKeys)
      (htoken : canonicalTokenId texts value = some token)

theorem Gives.canonical {row : Row} {side : BinarySide} {token : String}
    (h : Gives texts row side token) : ∃ value, canonicalTokenId texts value = some token := by
  cases h with
  | direct value _ htoken => exact ⟨value, htoken⟩
  | listed _ _ value _ _ _ _ htoken => exact ⟨value, htoken⟩

/-! ## Outcomes -/

/-- An outcome that is read. -/
structure Reads (texts : CatalogueTexts) (outcome : Json) (parsed : ParsedBinaryOutcome) :
    Prop where
  label : consistentOutcomeLabel texts outcome = some parsed.label
  token : consistentOutcomeTokenId texts outcome = some parsed.tokenId
  index : consistentOutcomeIndexSet texts outcome = some parsed.indexSet
  normal : parsed.normalizedLabel = texts.normalize parsed.label
  stated : ∃ sides, statedSide texts outcome = some sides ∧
    ∀ side ∈ sides, side = parsed.side
  labelled : ∀ side ∈ labelSide parsed.normalizedLabel, side = parsed.side
  indexed : ∀ side ∈ indexSide parsed.indexSet, side = parsed.side

theorem reads_of_parse {outcome : Json} {parsed : ParsedBinaryOutcome}
    (h : parseOutcome texts outcome = some parsed) : Reads texts outcome parsed := by
  unfold parseOutcome at h
  obtain ⟨label, hlabel, h⟩ := Option.bind_eq_some_iff.mp h
  obtain ⟨token, htoken, h⟩ := Option.bind_eq_some_iff.mp h
  obtain ⟨index, hindex, h⟩ := Option.bind_eq_some_iff.mp h
  obtain ⟨stated, hstated, h⟩ := Option.bind_eq_some_iff.mp h
  dsimp only at h
  split at h
  · next side hsides =>
      cases h
      have hone : ∀ s ∈ stated ++ labelSide (texts.normalize label) ++ indexSide index,
          s = side := by
        intro s hs
        rw [← List.mem_dedup, hsides] at hs
        exact List.mem_singleton.mp hs
      refine ⟨hlabel, htoken, hindex, rfl, ⟨stated, hstated, ?_⟩, ?_, ?_⟩
      · exact fun s hs => hone s (List.mem_append_left _ (List.mem_append_left _ hs))
      · exact fun s hs => hone s (List.mem_append_left _ (List.mem_append_right _ hs))
      · exact fun s hs => hone s (List.mem_append_right _ hs)
  · cases h

/-- The tokens of an outcome are the same up to letter case, and the first is taken. -/
theorem consistent_spec {outcome : Json} {token : String}
    (h : consistentOutcomeTokenId texts outcome = some token) :
    (∃ value ∈ present outcome outcomeTokenKeys, canonicalTokenId texts value = some token) ∧
      ∀ value ∈ present outcome outcomeTokenKeys, ∀ other,
        canonicalTokenId texts value = some other → texts.fold other = texts.fold token := by
  unfold consistentOutcomeTokenId at h
  split at h
  · next first rest hread =>
      split at h
      · next hsame =>
          cases h
          refine ⟨exists_of_mapM_eq_some hread _ List.mem_cons_self, ?_⟩
          intro value hvalue other hother
          have hmem := mem_of_mapM_eq_some hread value hvalue other hother
          rcases List.mem_cons.mp hmem with rfl | hmem
          · rfl
          · simpa using List.all_eq_true.mp hsame other hmem
      · cases h
  · cases h

/-- The two outcomes that are read. -/
theorem parse_spec {row : Row} {a b : ParsedBinaryOutcome}
    (h : parseBinaryOutcomes texts row = some (a, b)) :
    ∃ first second, iterOutcomes row = [first, second] ∧ parseOutcome texts first = some a ∧
      parseOutcome texts second = some b ∧ apart texts a b := by
  unfold parseBinaryOutcomes at h
  split at h
  · next first second hraw =>
      split at h
      · next hobjects =>
          obtain ⟨a', ha, h⟩ := Option.bind_eq_some_iff.mp h
          obtain ⟨b', hb, h⟩ := Option.bind_eq_some_iff.mp h
          split at h
          · next hapart =>
              cases h
              refine ⟨first, second, ?_, ha, hb, hapart⟩
              unfold iterOutcomes
              rw [hraw]
              show [first, second].filter Json.isObject = [first, second]
              simp [hobjects.1, hobjects.2]
          · cases h
      · cases h
  · cases h

/-- The outcome of a side is one of the two. -/
theorem outcomeOf_eq {a b : ParsedBinaryOutcome} (hsides : a.side ≠ b.side) :
    outcomeOf (a, b) a.side = a ∧ outcomeOf (a, b) b.side = b := by
  unfold outcomeOf
  refine ⟨?_, ?_⟩
  · rw [if_neg]
    exact fun hsame => hsides hsame.symm
  · rw [if_pos rfl]

/-- A side is the one or the other of two that differ. -/
theorem side_eq_or {a b : BinarySide} (h : a ≠ b) (side : BinarySide) : side = a ∨ side = b := by
  cases a <;> cases b <;> cases side <;> simp at h ⊢

section Parsed

variable {row : Row} {outcomes : ParsedBinaryOutcome × ParsedBinaryOutcome}

/-- An outcome of the list is the outcome of its side. -/
theorem parse_eq_outcomeOf (h : parseBinaryOutcomes texts row = some outcomes) {outcome : Json}
    (houtcome : outcome ∈ iterOutcomes row) :
    ∃ side, (outcomeOf outcomes side).side = side ∧
      parseOutcome texts outcome = some (outcomeOf outcomes side) := by
  obtain ⟨a, b⟩ := outcomes
  obtain ⟨first, second, hlist, ha, hb, hapart⟩ := parse_spec h
  obtain ⟨hofa, hofb⟩ := outcomeOf_eq hapart.1
  rw [hlist] at houtcome
  rcases List.mem_cons.mp houtcome with rfl | houtcome
  · refine ⟨a.side, ?_⟩
    rw [hofa]
    exact ⟨rfl, ha⟩
  · rw [List.mem_singleton] at houtcome
    subst houtcome
    refine ⟨b.side, ?_⟩
    rw [hofb]
    exact ⟨rfl, hb⟩

/-- The outcome of a side is in the list, and is read as that side's. -/
theorem exists_outcomeOf (h : parseBinaryOutcomes texts row = some outcomes) (side : BinarySide) :
    (outcomeOf outcomes side).side = side ∧ ∃ outcome ∈ iterOutcomes row,
      parseOutcome texts outcome = some (outcomeOf outcomes side) := by
  obtain ⟨a, b⟩ := outcomes
  obtain ⟨first, second, hlist, ha, hb, hapart⟩ := parse_spec h
  obtain ⟨hofa, hofb⟩ := outcomeOf_eq hapart.1
  rw [hlist]
  rcases side_eq_or hapart.1 side with rfl | rfl
  · rw [hofa]
    exact ⟨rfl, first, List.mem_cons_self, ha⟩
  · rw [hofb]
    exact ⟨rfl, second, List.mem_cons_of_mem _ List.mem_cons_self, hb⟩

/-- The outcomes of the two sides have different tokens. -/
theorem outcomeOf_apart (h : parseBinaryOutcomes texts row = some outcomes) :
    texts.tokenKey (outcomeOf outcomes .yes).tokenId ≠
      texts.tokenKey (outcomeOf outcomes .no).tokenId := by
  obtain ⟨a, b⟩ := outcomes
  obtain ⟨first, second, hlist, ha, hb, hapart⟩ := parse_spec h
  obtain ⟨hofa, hofb⟩ := outcomeOf_eq hapart.1
  have hkeys := hapart.2.2.1
  rcases side_eq_or hapart.1 .yes with hyes | hyes
  · have hno : BinarySide.no = b.side := by
      rcases side_eq_or hapart.1 .no with hno | hno
      · exact absurd (hyes.trans hno.symm) (by decide)
      · exact hno
    rw [hyes, hno, hofa, hofb]
    exact hkeys
  · have hno : BinarySide.no = a.side := by
      rcases side_eq_or hapart.1 .no with hno | hno
      · exact hno
      · exact absurd (hyes.trans hno.symm) (by decide)
    rw [hyes, hno, hofa, hofb]
    exact hkeys.symm

/-- The token of an outcome is one that the payload gives to its side. -/
theorem gives_outcome (h : parseBinaryOutcomes texts row = some outcomes) (side : BinarySide) :
    Gives texts row side (outcomeOf outcomes side).tokenId := by
  obtain ⟨hside, outcome, houtcome, hparsed⟩ := exists_outcomeOf h side
  obtain ⟨⟨value, hkey, htoken⟩, -⟩ := consistent_spec (reads_of_parse hparsed).token
  exact .listed outcome _ value houtcome hparsed hside hkey htoken

end Parsed

/-! ## Rows whose outcomes are not in doubt -/

/-- What `_has_unambiguous_binary_outcomes` has found. -/
structure Clear (texts : CatalogueTexts) (row : Row) : Prop where
  direct : ∀ side, ∃ tokens, directTokenIdsForSide texts row side = some tokens ∧
    sameTokens texts tokens = true
  apart : ∀ yes no, directTokenIdForSide texts row .yes = some yes →
    directTokenIdForSide texts row .no = some no → yes ≠ "" → no ≠ "" →
    texts.tokenKey yes ≠ texts.tokenKey no
  outcomes : (present row containerKeys = [] ∧ (directTokenIdForSide texts row .yes).isSome ∧
      (directTokenIdForSide texts row .no).isSome) ∨
    ∃ outcomes, parseBinaryOutcomes texts row = some outcomes ∧
      ∀ side, contradicted texts row outcomes side = false

theorem clear_of_unambiguous {row : Row} (h : hasUnambiguousBinaryOutcomes texts row = true) :
    Clear texts row := by
  unfold hasUnambiguousBinaryOutcomes at h
  simp only [Bool.and_eq_true] at h
  obtain ⟨⟨hsides, hsame⟩, houtcomes⟩ := h
  refine ⟨?_, ?_, ?_⟩
  · intro side
    have hside := List.all_eq_true.mp hsides side (by cases side <;> simp)
    exact (Option.any_eq_true _ _).mp hside
  · intro yes no hyes hno hyesNe hnoNe hkeys
    have htrue : ((truthy (directTokenIdForSide texts row .yes)).any fun yes =>
        (truthy (directTokenIdForSide texts row .no)).any fun no =>
          texts.tokenKey yes = texts.tokenKey no) = true := by
      simp [truthy, hyes, hno, hyesNe, hnoNe, hkeys]
    rw [htrue] at hsame
    cases hsame
  · split at houtcomes
    · next hnone =>
        obtain ⟨hyes, hno⟩ := Bool.and_eq_true_iff.mp houtcomes
        exact .inl ⟨hnone, hyes, hno⟩
    · split at houtcomes
      · cases houtcomes
      · next outcomes hparse =>
          refine .inr ⟨outcomes, hparse, ?_⟩
          intro side
          have hside := List.all_eq_true.mp houtcomes side (by cases side <;> simp)
          simpa using hside
    · cases houtcomes

section OneToken

variable {row : Row}

/-- What is under the keys of a side is the same up to letter case, and the first is taken. -/
theorem direct_spec (hclear : Clear texts row) {side : BinarySide} {value : Json} {token : String}
    (hkey : value ∈ present row (directKeys side))
    (htoken : canonicalTokenId texts value = some token) :
    ∃ first, directTokenIdForSide texts row side = some first ∧
      texts.tokenKey token = texts.tokenKey first := by
  obtain ⟨tokens, hread, hsame⟩ := hclear.direct side
  have hmem := mem_of_mapM_eq_some hread value hkey token htoken
  unfold directTokenIdForSide
  rw [hread]
  cases tokens with
  | nil => cases hmem
  | cons first rest =>
      refine ⟨first, by simp [hsame], ?_⟩
      rcases List.mem_cons.mp hmem with rfl | hmem
      · rfl
      · simpa using List.all_eq_true.mp hsame token hmem

/-- The direct token of a side is one that the payload gives to it. -/
theorem gives_direct {side : BinarySide} {token : String}
    (h : directTokenIdForSide texts row side = some token) : Gives texts row side token := by
  unfold directTokenIdForSide at h
  split at h
  · next tokens hread =>
      split at h
      · obtain ⟨value, hkey, htoken⟩ := exists_of_mapM_eq_some hread token (List.mem_of_mem_head? h)
        exact .direct value hkey htoken
      · cases h
  · cases h

/-- **One token for each side**: all that the payload gives to a side is the same up to letter case,
and what it gives to the two sides differs. -/
theorem exists_sideKey (hlaw : texts.Lawful) (h : hasUnambiguousBinaryOutcomes texts row = true) :
    ∃ key : BinarySide → List Char, key .yes ≠ key .no ∧
      ∀ side token, Gives texts row side token → texts.tokenKey token = key side := by
  have hclear := clear_of_unambiguous h
  -- A token under a key of the side has the key of the direct token.
  have hdirect : ∀ side token, directTokenIdForSide texts row side = some token →
      token ≠ "" ∧ texts.tokenKey token ≠ [] := by
    intro side token hside
    obtain ⟨value, hvalue⟩ := (gives_direct hside).canonical
    obtain ⟨hne, -, hkey⟩ := tokenKey_of_canonical hlaw hvalue
    exact ⟨hne, hkey⟩
  rcases hclear.outcomes with ⟨hnone, hyes, hno⟩ | ⟨outcomes, hparse, hagree⟩
  · -- Without a list there are the direct tokens only.
    obtain ⟨yes, hyes⟩ := Option.isSome_iff_exists.mp hyes
    obtain ⟨no, hno⟩ := Option.isSome_iff_exists.mp hno
    refine ⟨fun side => if side = .yes then texts.tokenKey yes else texts.tokenKey no, ?_, ?_⟩
    · exact hclear.apart yes no hyes hno (hdirect _ _ hyes).1 (hdirect _ _ hno).1
    · intro side token hgives
      cases hgives with
      | direct value hkey htoken =>
          obtain ⟨first, hfirst, hsame⟩ := direct_spec hclear hkey htoken
          cases side with
          | yes =>
              rw [hyes] at hfirst
              cases hfirst
              exact hsame
          | no =>
              rw [hno] at hfirst
              cases hfirst
              exact hsame
      | listed outcome parsed value houtcome hparsed hside hkey htoken =>
          simp [iterOutcomes, rawOutcomes, hnone] at houtcome
  · -- With a list, the tokens of its outcomes.
    refine ⟨fun side => texts.tokenKey (outcomeOf outcomes side).tokenId,
      outcomeOf_apart hparse, ?_⟩
    intro side token hgives
    cases hgives with
    | direct value hkey htoken =>
        obtain ⟨first, hfirst, hsame⟩ := direct_spec hclear hkey htoken
        have hnot := hagree side
        obtain ⟨other, hother⟩ := (gives_outcome hparse side).canonical
        have hotherKey := (tokenKey_of_canonical hlaw hother).2.2
        have hne := (hdirect _ _ hfirst).1
        show texts.tokenKey token = texts.tokenKey (outcomeOf outcomes side).tokenId
        rw [hsame]
        by_contra hdiffer
        simp [contradicted, truthy, hfirst, hne, hotherKey, hdiffer] at hnot
    | listed outcome parsed value houtcome hparsed hside hkey htoken =>
        obtain ⟨other, hother, hparsed'⟩ := parse_eq_outcomeOf hparse houtcome
        rw [hparsed] at hparsed'
        cases hparsed'
        have hsides : other = side := hother.symm.trans hside
        subst hsides
        obtain ⟨⟨first, _, hfirst⟩, hsame⟩ := consistent_spec (reads_of_parse hparsed).token
        show texts.tokenKey token = texts.tokenKey (outcomeOf outcomes other).tokenId
        rw [(tokenKey_of_canonical hlaw htoken).2.1, (tokenKey_of_canonical hlaw hfirst).2.1]
        exact hsame value hkey token htoken

/-- Tokens that the payload gives are the same up to letter case where they are of one side. -/
theorem tokenKey_eq_iff (hlaw : texts.Lawful) (h : hasUnambiguousBinaryOutcomes texts row = true)
    {side side' : BinarySide} {token token' : String} (hgives : Gives texts row side token)
    (hgives' : Gives texts row side' token') :
    texts.tokenKey token = texts.tokenKey token' ↔ side = side' := by
  obtain ⟨key, hdiffer, hkey⟩ := exists_sideKey hlaw h
  rw [hkey side token hgives, hkey side' token' hgives']
  constructor
  · intro hsame
    cases side with
    | yes =>
        cases side' with
        | yes => rfl
        | no => exact absurd hsame hdiffer
    | no =>
        cases side' with
        | yes => exact absurd hsame.symm hdiffer
        | no => rfl
  · exact congrArg key

end OneToken

/-! ## Labels -/

/-- `a or b` is `a` where `a` is a text that is not empty. -/
theorem orChain_text {s : String} (hs : s ≠ "") (rest : List Json) :
    Json.orChain (.text s :: rest) = .text s := by
  cases rest with
  | nil => rfl
  | cons value rest =>
      show (if (Json.text s).truth then Json.text s else _) = _
      rw [if_pos]
      simpa [Json.truth] using hs

theorem ne_empty_of_strip_ne {s : String} (h : texts.strip s ≠ "") : s ≠ "" := by
  rintro rfl
  exact h (by simp [CatalogueTexts.strip, Titles.strip])

theorem strippedLabel_eq_some {value : Json} {label : String}
    (h : strippedLabel texts value = some label) :
    ∃ s, value = .text s ∧ s ≠ "" ∧ texts.strip s = label := by
  cases value with
  | text s =>
      simp only [strippedLabel] at h
      split at h
      · cases h
      · next hblank =>
          cases h
          exact ⟨s, rfl, ne_empty_of_strip_ne hblank, rfl⟩
  | _ => cases h

/-- The first of the label keys that is there is the label. -/
theorem label_eq {outcome : Json} {label : String} {labels : List String} (rest : List Json) :
    ∀ keys : List String,
      (present outcome keys).mapM (strippedLabel texts) = some (label :: labels) →
      ∃ s, Json.orChain ((keys.map fun key => outcome.get key) ++ rest) = .text s ∧
        texts.strip s = label := by
  intro keys
  induction keys with
  | nil =>
      intro hread
      cases hread
  | cons key keys ih =>
      intro hread
      by_cases hmissing : outcome.get key = .missing
      · have hpresent : present outcome (key :: keys) = present outcome keys := by
          simp [present, hmissing, Json.isPresent]
        rw [hpresent] at hread
        obtain ⟨s, hchain, hs⟩ := ih hread
        refine ⟨s, ?_, hs⟩
        rw [List.map_cons, hmissing, List.cons_append, ← hchain]
        cases keys with
        | nil => cases hread
        | cons next keys => rfl
      · have hpresent :
            present outcome (key :: keys) = outcome.get key :: present outcome keys := by
          have hthere : (outcome.get key).isPresent = true := by
            cases hvalue : outcome.get key with
            | missing => exact absurd hvalue hmissing
            | _ => rfl
          simp [present, hthere]
        rw [hpresent, List.mapM_cons] at hread
        obtain ⟨first, hfirst, hread⟩ := Option.bind_eq_some_iff.mp hread
        obtain ⟨others, -, hread⟩ := Option.bind_eq_some_iff.mp hread
        cases hread
        obtain ⟨s, hvalue, hne, hs⟩ := strippedLabel_eq_some hfirst
        refine ⟨s, ?_, hs⟩
        rw [List.map_cons, hvalue, List.cons_append, orChain_text hne]

/-- An outcome whose label is a side in capital letters is read as that side's. -/
theorem side_of_upperLabel (hlaw : texts.Lawful) {outcome : Json} {parsed : ParsedBinaryOutcome}
    (hread : Reads texts outcome parsed) {side : BinarySide}
    (hlabel : upperLabel texts outcome = side.value) : parsed.side = side := by
  obtain ⟨sides, hstated, hall⟩ := hread.stated
  unfold statedSide at hstated
  unfold upperLabel at hlabel
  split at hstated
  · next hmissing =>
      -- Without a stated side the label is under one of the label keys.
      have hname := hread.label
      unfold consistentOutcomeLabel at hname
      rw [hmissing] at hname hlabel
      split at hname
      · cases hname
      · cases hname
      · next first rest hlabels =>
          split at hname
          · have hfirst := Option.some.inj hname
            obtain ⟨s, hchain, hs⟩ := label_eq [.text ""] _ hlabels
            have hchain' : Json.orChain [.missing, outcome.get "name", outcome.get "label",
                outcome.get "outcome", .text ""] = .text s := hchain
            rw [hchain'] at hlabel
            have hside := (hlaw.side s side hlabel).2
            rw [hs, hfirst, ← hread.normal] at hside
            exact (hread.labelled side (by rw [hside]; exact List.mem_singleton_self side)).symm
          · cases hname
  · next s hvalue =>
      rw [hvalue] at hlabel
      split at hstated
      · cases hstated
      · next hblank =>
          rw [orChain_text (ne_empty_of_strip_ne hblank)] at hlabel
          have hside := (hlaw.side s side hlabel).1
          have hsideOf : sideOf (texts.upper (texts.strip s)) = some side := by
            rw [hside]
            cases side <;> rfl
          rw [hsideOf] at hstated
          cases hstated
          exact (hall side (List.mem_singleton_self side)).symm
  · cases hstated

/-! ## The tokens that are taken -/

section Taken

variable {row : Row}

theorem truthy_eq_some {value : Option String} {s : String} (h : truthy value = some s) :
    value = some s := by
  unfold truthy at h
  exact (Option.filter_eq_some_iff.mp h).1

/-- The token of the outcome that has the label is one that the payload gives to the side. -/
theorem gives_labeled (hlaw : texts.Lawful) (hclear : Clear texts row) {side : BinarySide}
    {token : String} (h : labeledOutcomeTokenIdForSide texts row side = some token) :
    Gives texts row side token := by
  obtain ⟨outcome, hfind, htoken⟩ := Option.bind_eq_some_iff.mp h
  have houtcome := List.mem_of_find?_eq_some hfind
  have hlabel : upperLabel texts outcome = side.value := by
    simpa using List.find?_some hfind
  rcases hclear.outcomes with ⟨hnone, -⟩ | ⟨outcomes, hparse, -⟩
  · simp [iterOutcomes, rawOutcomes, hnone] at houtcome
  · obtain ⟨other, -, hparsed⟩ := parse_eq_outcomeOf hparse houtcome
    have hread := reads_of_parse hparsed
    obtain ⟨⟨value, hkey, hvalue⟩, -⟩ := consistent_spec htoken
    have hside := side_of_upperLabel hlaw hread hlabel
    exact .listed outcome _ value houtcome hparsed hside hkey hvalue

theorem gives_tokenIdForSide (hlaw : texts.Lawful) (hclear : Clear texts row) {side : BinarySide}
    {token : String} (h : truthy (tokenIdForSide texts row side) = some token) :
    Gives texts row side token := by
  have htoken := truthy_eq_some h
  unfold tokenIdForSide at htoken
  rcases Option.or_eq_some_iff.mp htoken with hdirect | ⟨-, hlabeled⟩
  · exact gives_direct (truthy_eq_some hdirect)
  · exact gives_labeled hlaw hclear hlabeled

/-- `_token_id_for_market` returns a token that the payload gives to the side of the market. -/
theorem gives_tokenIdForMarket (hlaw : texts.Lawful) {market : Spec} {token : String}
    (h : tokenIdForMarket texts row market = some token) :
    Gives texts row market.predictFunSide token := by
  unfold tokenIdForMarket at h
  split at h
  · cases h
  · next hclear =>
      have hclear := clear_of_unambiguous (not_not.mp hclear)
      split at h
      · next outcomes hparse _ =>
          split at h
          · cases h
          · split at h
            · cases h
            · cases h
              exact gives_outcome hparse market.predictFunSide
      · split at h
        · cases h
        · next token' htoken =>
            split at h
            · cases h
            · cases h
              exact gives_tokenIdForSide hlaw hclear htoken

/-- The index set of an outcome is that of its side. -/
theorem outcomeOf_of_index {a b : ParsedBinaryOutcome}
    (h : parseBinaryOutcomes texts row = some (a, b)) (hindex : a.indexSet ≠ none) :
    (if a.indexSet = some 1 then (a, b) else (b, a)) =
      (outcomeOf (a, b) .yes, outcomeOf (a, b) .no) := by
  obtain ⟨first, second, -, ha, hb, hapart⟩ := parse_spec h
  obtain ⟨hofa, hofb⟩ := outcomeOf_eq hapart.1
  have hindexed : ∀ p : ParsedBinaryOutcome, ∀ outcome, parseOutcome texts outcome = some p →
      ∀ n, p.indexSet = some n → (if n = 1 then BinarySide.yes else .no) = p.side := by
    intro p outcome hp n hn
    apply (reads_of_parse hp).indexed
    rw [hn]
    exact List.mem_singleton_self _
  rcases hapart.2.2.2 with ⟨hnone, -⟩ | ⟨h1, h2⟩ | ⟨h2, h1⟩
  · exact absurd hnone hindex
  · have hsideA := hindexed a first ha 1 h1
    have hsideB := hindexed b second hb 2 h2
    simp only [if_true] at hsideA
    rw [if_neg (by decide)] at hsideB
    rw [if_pos h1, hsideA, hsideB, hofa, hofb]
  · have hsideA := hindexed a first ha 2 h2
    have hsideB := hindexed b second hb 1 h1
    rw [if_neg (by decide)] at hsideA
    simp only [if_true] at hsideB
    rw [if_neg (by rw [h2]; decide), hsideA, hsideB, hofa, hofb]

theorem truthy_ite_eq_some {named : Bool} {value : Option String} {token : String}
    (h : truthy (if named then none else value) = some token) : truthy value = some token := by
  cases named with
  | true => cases h
  | false => exact h

/-- The orientations of a row are of the two sides, one of each at most, and each has a token that
the payload gives to its side. -/
theorem orientations_spec (hlaw : texts.Lawful) (hclear : Clear texts row)
    (marketId title : String) :
    (∀ o ∈ orientations texts row marketId title, Gives texts row o.side o.tokenId) ∧
      ((orientations texts row marketId title).map (·.side)).Nodup := by
  unfold orientations
  dsimp only
  split
  · next noToken hno =>
      have hno := gives_tokenIdForSide hlaw hclear (truthy_ite_eq_some hno)
      cases hyes : truthy
          (if namedOutcomes texts row then none else tokenIdForSide texts row .yes) with
      | none => simpa using hno
      | some yesToken =>
          have hyes := gives_tokenIdForSide hlaw hclear (truthy_ite_eq_some hyes)
          simpa using ⟨hno, hyes⟩
  · split
    · simp
    · next a b hparse =>
        split
        · simp
        · next hindex =>
            -- The outcomes in the order of their index sets.
            have hpair := outcomeOf_of_index hparse hindex
            rw [hpair]
            simpa using ⟨gives_outcome hparse .no, gives_outcome hparse .yes⟩

/-- The specs of a row are of the two sides, one of each at most, and each has a token that the
payload gives to its side. -/
theorem specs_spec (row : Row) (hlaw : texts.Lawful) :
    (∀ spec ∈ marketSpecsFromPayload texts row,
      hasUnambiguousBinaryOutcomes texts row = true ∧
        Gives texts row spec.predictFunSide spec.predictFunTokenId) ∧
      ((marketSpecsFromPayload texts row).map (·.predictFunSide)).Nodup := by
  unfold marketSpecsFromPayload
  split
  · next marketId title _ _ =>
      split
      · next hclear =>
          obtain ⟨hgives, hnodup⟩ :=
            orientations_spec hlaw (clear_of_unambiguous hclear) marketId title
          refine ⟨?_, ?_⟩
          · intro spec hspec
            obtain ⟨o, ho, rfl⟩ := List.mem_map.mp hspec
            exact ⟨hclear, hgives o ho⟩
          · rw [List.map_map]
            exact hnodup
      · simp
  · simp

end Taken

end ArbitrageEngine.PredictCatalogue
