/-
# ArbitrageEngine.LogRedaction -- what a log line shows

A log record is written as one line of JSON.  Message, traceback and attributes are redacted first:
known patterns and every secret of the environment are replaced in texts, and what stands under a
sensitive name is replaced as a whole.  Dictionaries, lists and tuples are searched; everything else
is written as its own text, and so are the keys of a dictionary.
-/
import ArbitrageEngine.Lib.JsonDocument
import ArbitrageEngine.Lib.Overwrites
import ArbitrageEngine.Lib.Regex
import Mathlib.Data.Bool.AllAny

namespace ArbitrageEngine.LogRedaction

open Lib Lib.Regex

/-! ## Patterns -/

section Patterns

variable (tables : CharTables)

/-- `_SENSITIVE_KEY`. -/
def sensitiveKey : Regex :=
  choice [
    inOrder [word tables "api", opt (oneOf ['_', '-']), word tables "key"],
    inOrder [word tables "private", opt (oneOf ['_', '-']), word tables "key"],
    word tables "token", word tables "secret", word tables "authorization",
    word tables "signature"]

/-- `["'=:\s]`. -/
def labelEnd : Regex := alt (oneOf ['"', '\'', '=', ':']) (space tables)

/-- `_PRIVATE_KEY_WITH_LABEL`. -/
def privateKeyWithLabel : Regex :=
  let gap := opt (oneOf ['_', ' ', '-'])
  seq
    (group 1 (seq
      (choice (["private", "secret", "wallet", "signing"].map fun name =>
        inOrder [word tables name, gap, word tables "key"]))
      (plus (labelEnd tables))))
    (group 2 (seq (word tables "0x") (times 64 (letterOf tables "abcdef0123456789".toList))))

/-- `_TELEGRAM_TOKEN_PATH`. -/
def telegramTokenPath : Regex :=
  seq (group 1 (word tables "api.telegram.org/bot"))
    (plus (char fun x => x ≠ '/' && !tables.isSpace x))

/-- `_URI_PASSWORD`. -/
def uriPassword : Regex :=
  let letters := "abcdefghijklmnopqrstuvwxyz".toList
  inOrder [
    group 1 (inOrder [letterOf tables letters,
      many (letterOf tables (letters ++ "0123456789+.-".toList)), word tables "://",
      plus (char fun x => !(":/@".toList.contains x) && !tables.isSpace x), oneOf [':']]),
    plus (char fun x => x ≠ '@' && !tables.isSpace x),
    group 2 (oneOf ['@'])]

/-- `_BEARER_TOKEN`. -/
def bearerToken : Regex :=
  seq
    (group 1 (inOrder [word tables "authorization", plus (labelEnd tables), word tables "bearer",
      plus (space tables)]))
    (plus (char fun x => !([',', '}', '"'].contains x) && !tables.isSpace x))

/-- `_SENSITIVE_KEY.search(key)`. -/
def isSensitive (key : String) : Bool := (search (sensitiveKey tables) key.toList).isSome

/-- `_secret_values`. -/
def secretValues (environment : List (String × String)) : List String :=
  (environment.filter fun e => 8 ≤ e.2.length && isSensitive tables e.1).map Prod.snd

/-- The four patterns replaced. -/
def withoutPatterns (text : List Char) : List Char :=
  let text := sub (privateKeyWithLabel tables)
    (fun c => c.text 1 ++ "<redacted-private-key>".toList) text
  let text := sub (telegramTokenPath tables) (fun c => c.text 1 ++ "<redacted-token>".toList) text
  let text := sub (uriPassword tables) (fun c => c.text 1 ++ "<redacted>".toList ++ c.text 2) text
  sub (bearerToken tables) (fun c => c.text 1 ++ "<redacted>".toList) text

/-- `_redact_text`. -/
def redactText (secrets : List String) (value : String) : String :=
  .ofList (secrets.foldl (fun redacted secret =>
    replaceAll secret.toList "<redacted>".toList redacted) (withoutPatterns tables value.toList))

end Patterns

/-! ## Values -/

/-- An attribute of a record.  The keys of a dictionary are given by their `str`, and so are objects
that are neither numbers nor texts nor dictionaries nor lists nor tuples. -/
inductive Value
  | none
  | bool (b : Bool)
  /-- An integer or a float, by its JSON text. -/
  | number (text : List Char)
  | str (s : String)
  | dict (entries : List (String × Value))
  /-- A list or a tuple. -/
  | list (items : List Value)
  /-- A set, an exception, bytes or another object. -/
  | other (text : String)

section Redaction

variable (tables : CharTables) (secrets : List String)

mutual

/-- `_redact_value`. -/
def redactValue (key : String) : Value → Value
  | .str s =>
      if isSensitive tables key then .str "<redacted>"
      else if s ∈ secrets then .str "<redacted>"
      else .str (redactText tables secrets s)
  | .dict entries =>
      if isSensitive tables key then .str "<redacted>"
      else .dict (Dict.ofPairs (redactEntries entries)).entries
  | .list items =>
      if isSensitive tables key then .str "<redacted>" else .list (redactItems key items)
  | value => if isSensitive tables key then .str "<redacted>" else value

def redactEntries : List (String × Value) → List (String × Value)
  | [] => []
  | (key, value) :: rest => (key, redactValue key value) :: redactEntries rest

def redactItems (key : String) : List Value → List Value
  | [] => []
  | value :: rest => redactValue key value :: redactItems key rest

end

end Redaction

mutual

/-- What `json.dumps` makes of a value, other objects by their `str`. -/
def encode : Value → Document
  | .none => .literal "null".toList
  | .bool b => .literal (if b then "true" else "false").toList
  | .number text => .literal text
  | .str s => .string s
  | .dict entries => .object (encodeEntries entries)
  | .list items => .array (encodeItems items)
  | .other text => .string text

def encodeEntries : List (String × Value) → List (String × Document)
  | [] => []
  | (key, value) :: rest => (key, encode value) :: encodeEntries rest

def encodeItems : List Value → List Document
  | [] => []
  | value :: rest => encode value :: encodeItems rest

end

/-! ## Records -/

/-- A record, its time, message and traceback as texts, its attributes with their names. -/
structure Record where
  ts : String
  levelname : String
  name : String
  message : String
  excInfo : Option String := none
  attributes : Dict String Value := .empty

section Format

variable (tables : CharTables) (secrets : List String)

/-- Is the attribute shown?  Its name begins with an underscore and is not in the payload. -/
def isShown {ν : Type} (payload : Dict String ν) (key : String) : Bool :=
  key.toList.head? = some '_' && !payload.keys.contains key

/-- `key[1:]`. -/
def shownName (key : String) : String := .ofList (key.toList.drop 1)

/-- The payload of `JsonFormatter.format`. -/
def payload (record : Record) : Dict String Value :=
  let start := (((Dict.empty.set "ts" (Value.str record.ts)).set "level"
    (.str record.levelname)).set "logger" (.str record.name)).set "message"
      (.str (redactText tables secrets record.message))
  let start := match record.excInfo with
    | none => start
    | some text => start.set "exc_info" (.str (redactText tables secrets text))
  record.attributes.entries.foldl (fun payload e =>
    if isShown payload e.1 then
      payload.set (shownName e.1) (redactValue tables secrets (shownName e.1) e.2)
    else payload) start

/-- `JsonFormatter.format`. -/
def format (record : Record) : List Char :=
  (encode (.dict (payload tables secrets record).entries)).text

end Format

/-! ## Secrets -/

/-- A secret: a word of at least eight letters or digits, not a part of the mark. -/
structure Secret (word : List Char) : Prop extends Wordy word where
  length : 8 ≤ word.length
  apart : ¬ word <:+: "<redacted>".toList

/-- A word in the JSON text of a text. -/
def Occurs (word : List Char) (text : String) : Prop :=
  word <:+: text.toList ∨ Echo word text.toList

theorem infix_escaped_iff {word : List Char} (h : Wordy word) (text : String) :
    word <:+: escaped text ↔ Occurs word text := infix_flatMap_escape_iff h text.toList

section Secrets

variable {tables : CharTables} {secrets : List String} {word : List Char}

theorem Secret.marked (h : Secret word) : Marked word "<redacted>".toList where
  starts := ⟨'<', _, rfl, h.not_mem (by decide)⟩
  ends := ⟨"<redacted".toList, '>', rfl, h.not_mem (by decide)⟩
  apart := h.apart

/-- A secret is too long for a short text. -/
theorem Secret.not_infix_of_length_lt (h : Secret word) {text : List Char}
    (hlength : text.length < 8) : ¬ word <:+: text := by
  intro hfound
  have hle := hfound.length_le
  have height := h.length
  omega

theorem not_infix_foldl_replaceAll (h : Secret word) (later : List String) {text : List Char}
    (htext : ¬ word <:+: text) :
    ¬ word <:+: later.foldl (fun redacted secret =>
      replaceAll secret.toList "<redacted>".toList redacted) text := by
  induction later generalizing text with
  | nil => exact htext
  | cons other rest ih =>
      rw [List.foldl_cons]
      exact ih fun hfound => htext (infix_of_infix_replaceAll h.marked h.ne_nil hfound)

/-- **No secret is left in a redacted text.** -/
theorem not_infix_redactText {secret : String} (h : Secret secret.toList)
    (hmem : secret ∈ secrets) (value : String) :
    ¬ secret.toList <:+: (redactText tables secrets value).toList := by
  unfold redactText
  rw [String.toList_ofList]
  obtain ⟨before, after, rfl⟩ := List.append_of_mem hmem
  rw [List.foldl_append, List.foldl_cons]
  exact not_infix_foldl_replaceAll h after (not_infix_replaceAll h.marked h.ne_nil _)

/-- A text without control characters has no echo. -/
theorem not_echo_of_printable (h : Wordy word) {text : List Char}
    (hprintable : ∀ c ∈ text, 32 ≤ c.toNat) : ¬ Echo word text := by
  intro hecho
  obtain ⟨c, hmem, hlow⟩ := exists_control_of_echo h hecho
  have hhigh := hprintable c hmem
  omega

theorem Secret.not_occurs_mark (h : Secret word) : ¬ Occurs word "<redacted>" := by
  rintro (hfound | hecho)
  · exact h.apart hfound
  · exact not_echo_of_printable h.toWordy (List.all_iff_forall_prop.mp (by decide)) hecho

/-! ## What leaks -/

variable (tables secrets word)

/-- A word that an attribute shows, under a name that is not sensitive: in a number, a text of an
object or a key that stands, or as an echo in a text. -/
inductive Leaks : String → Value → Prop
  | number {key : String} {text : List Char} (hkey : isSensitive tables key = false)
      (h : word <:+: text) : Leaks key (.number text)
  | echo {key s : String} (hkey : isSensitive tables key = false) (hsecret : s ∉ secrets)
      (h : Echo word (redactText tables secrets s).toList) : Leaks key (.str s)
  | other {key text : String} (hkey : isSensitive tables key = false) (h : Occurs word text) :
      Leaks key (.other text)
  | item {key : String} {items : List Value} {value : Value}
      (hkey : isSensitive tables key = false) (hmem : value ∈ items) (h : Leaks key value) :
      Leaks key (.list items)
  | key {key : String} {entries : List (String × Value)} {e : String × Value}
      (hkey : isSensitive tables key = false) (hmem : e ∈ Dict.standing entries)
      (h : Occurs word e.1) : Leaks key (.dict entries)
  | value {key : String} {entries : List (String × Value)} {e : String × Value}
      (hkey : isSensitive tables key = false) (hmem : e ∈ Dict.standing entries)
      (h : Leaks e.1 e.2) : Leaks key (.dict entries)

variable {tables secrets word}

theorem redactEntries_eq (entries : List (String × Value)) :
    redactEntries tables secrets entries =
      entries.map fun e => (e.1, redactValue tables secrets e.1 e.2) := by
  induction entries with
  | nil => rw [redactEntries, List.map_nil]
  | cons e rest ih => rw [redactEntries, ih, List.map_cons]

theorem redactItems_eq (key : String) (items : List Value) :
    redactItems tables secrets key items = items.map (redactValue tables secrets key) := by
  induction items with
  | nil => rw [redactItems, List.map_nil]
  | cons value rest ih => rw [redactItems, ih, List.map_cons]

theorem encodeEntries_eq (entries : List (String × Value)) :
    encodeEntries entries = entries.map fun e => (e.1, encode e.2) := by
  induction entries with
  | nil => rw [encodeEntries, List.map_nil]
  | cons e rest ih => rw [encodeEntries, ih, List.map_cons]

theorem encodeItems_eq (items : List Value) : encodeItems items = items.map encode := by
  induction items with
  | nil => rw [encodeItems, List.map_nil]
  | cons value rest ih => rw [encodeItems, ih, List.map_cons]

/-- Under a sensitive name nothing is shown. -/
theorem redactValue_of_sensitive {key : String} (hkey : isSensitive tables key = true)
    (value : Value) : redactValue tables secrets key value = .str "<redacted>" := by
  cases value <;> (unfold redactValue; rw [if_pos hkey])

theorem not_leaks_of_sensitive {key : String} (hkey : isSensitive tables key = true)
    (value : Value) : ¬ Leaks tables secrets word key value := by
  intro h
  cases h <;> simp_all

theorem Secret.not_shows_mark (h : Secret word) :
    ¬ (encode (.str "<redacted>")).Shows word := by
  rw [encode, Document.shows_string_iff, infix_escaped_iff h.toWordy]
  exact h.not_occurs_mark

/-- What a redacted dictionary shows. -/
theorem shows_dict_iff (h : Secret word) (entries : List (String × Value)) :
    (encode (.dict (Dict.ofPairs (redactEntries tables secrets entries)).entries)).Shows word ↔
      ∃ e ∈ Dict.standing entries, Occurs word e.1 ∨
        (encode (redactValue tables secrets e.1 e.2)).Shows word := by
  rw [encode, Document.shows_object_iff, encodeEntries_eq, redactEntries_eq]
  have hstanding := Dict.standing_map (redactValue tables secrets) entries
  constructor
  · rintro ⟨d, hd, hshows⟩
    obtain ⟨redacted, hredacted, rfl⟩ := List.mem_map.mp hd
    rw [Dict.mem_entries_ofPairs, hstanding] at hredacted
    obtain ⟨e, he, hsame⟩ := List.mem_map.mp hredacted
    rw [← hsame, infix_escaped_iff h.toWordy] at hshows
    exact ⟨e, he, hshows⟩
  · rintro ⟨e, he, hshows⟩
    refine ⟨(e.1, encode (redactValue tables secrets e.1 e.2)), ?_, ?_⟩
    · refine List.mem_map.mpr ⟨(e.1, redactValue tables secrets e.1 e.2), ?_, rfl⟩
      rw [Dict.mem_entries_ofPairs, hstanding]
      exact List.mem_map_of_mem he
    · rw [infix_escaped_iff h.toWordy]
      exact hshows

theorem mem_of_mem_standing {entries : List (String × Value)} {e : String × Value}
    (h : e ∈ Dict.standing entries) : e ∈ entries := by
  induction entries with
  | nil => exact absurd h List.not_mem_nil
  | cons first rest ih =>
      rw [Dict.standing_cons] at h
      split at h
      · exact List.mem_cons_of_mem _ (ih h)
      · rcases List.mem_cons.mp h with rfl | h
        · exact List.mem_cons_self
        · exact List.mem_cons_of_mem _ (ih h)

/-- What a value shows that is neither a text nor searched. -/
theorem shows_unsearched_iff {key : String} (hkey : isSensitive tables key = false)
    (h : Secret word) {value : Value} (hvalue : match value with
      | .str _ | .dict _ | .list _ => False
      | _ => True) :
    (encode (redactValue tables secrets key value)).Shows word ↔
      Leaks tables secrets word key value := by
  have hsame : redactValue tables secrets key value = value := by
    cases value with
    | str s => exact hvalue.elim
    | dict entries => exact hvalue.elim
    | list items => exact hvalue.elim
    | _ =>
        unfold redactValue
        rw [hkey]
        rfl
  rw [hsame]
  cases value with
  | none =>
      rw [encode, Document.shows_literal_iff]
      refine iff_of_false (h.not_infix_of_length_lt (by decide)) ?_
      intro hleaks
      cases hleaks
  | bool b =>
      rw [encode, Document.shows_literal_iff]
      refine iff_of_false (h.not_infix_of_length_lt (by cases b <;> decide)) ?_
      intro hleaks
      cases hleaks
  | number text =>
      rw [encode, Document.shows_literal_iff]
      constructor
      · exact .number hkey
      · intro hleaks
        cases hleaks with
        | number _ hfound => exact hfound
  | other text =>
      rw [encode, Document.shows_string_iff, infix_escaped_iff h.toWordy]
      constructor
      · exact .other hkey
      · intro hleaks
        cases hleaks with
        | other _ hoccurs => exact hoccurs
  | str s => exact hvalue.elim
  | dict entries => exact hvalue.elim
  | list items => exact hvalue.elim

/-- A text shows a secret as an echo only. -/
theorem shows_str_iff {secret : String} (h : Secret secret.toList) (hmem : secret ∈ secrets)
    {key : String} (hkey : isSensitive tables key = false) (s : String) :
    (encode (redactValue tables secrets key (.str s))).Shows secret.toList ↔
      Leaks tables secrets secret.toList key (.str s) := by
  unfold redactValue
  rw [hkey, if_neg Bool.false_ne_true]
  by_cases hs : s ∈ secrets
  · rw [if_pos hs]
    refine iff_of_false h.not_shows_mark ?_
    intro hleaks
    cases hleaks with
    | echo _ hsecret _ => exact hsecret hs
  · rw [if_neg hs, encode, Document.shows_string_iff, infix_escaped_iff h.toWordy]
    constructor
    · rintro (hfound | hecho)
      · exact absurd hfound (not_infix_redactText h hmem s)
      · exact .echo hkey hs hecho
    · intro hleaks
      cases hleaks with
      | echo _ _ hecho => exact .inr hecho

mutual

/-- **What a redacted attribute shows of a secret** is what leaks. -/
theorem shows_redactValue_iff {secret : String} (h : Secret secret.toList)
    (hmem : secret ∈ secrets) (key : String) : ∀ value : Value,
    (encode (redactValue tables secrets key value)).Shows secret.toList ↔
      Leaks tables secrets secret.toList key value := by
  intro value
  by_cases hkey : isSensitive tables key = true
  · rw [redactValue_of_sensitive hkey]
    exact iff_of_false h.not_shows_mark (not_leaks_of_sensitive hkey value)
  · rw [Bool.not_eq_true] at hkey
    match value with
    | .none => exact shows_unsearched_iff hkey h trivial
    | .bool b => exact shows_unsearched_iff hkey h trivial
    | .number text => exact shows_unsearched_iff hkey h trivial
    | .other text => exact shows_unsearched_iff hkey h trivial
    | .str s => exact shows_str_iff h hmem hkey s
    | .list items =>
        have hitems := shows_redactItems_iff h hmem key items
        unfold redactValue
        rw [hkey, if_neg Bool.false_ne_true, encode, Document.shows_array_iff, encodeItems_eq,
          redactItems_eq]
        constructor
        · rintro ⟨d, hd, hshows⟩
          obtain ⟨redacted, hredacted, rfl⟩ := List.mem_map.mp hd
          obtain ⟨item, hitem, rfl⟩ := List.mem_map.mp hredacted
          exact .item hkey hitem ((hitems item hitem).mp hshows)
        · intro hleaks
          cases hleaks with
          | item _ hitem hleaks =>
              refine ⟨_, List.mem_map_of_mem (List.mem_map_of_mem hitem), ?_⟩
              exact (hitems _ hitem).mpr hleaks
    | .dict entries =>
        have hentries := shows_redactEntries_iff h hmem entries
        unfold redactValue
        rw [hkey, if_neg Bool.false_ne_true, shows_dict_iff h]
        constructor
        · rintro ⟨e, he, hoccurs | hshows⟩
          · exact .key hkey he hoccurs
          · exact .value hkey he ((hentries e (mem_of_mem_standing he)).mp hshows)
        · intro hleaks
          cases hleaks with
          | key _ he hoccurs => exact ⟨_, he, .inl hoccurs⟩
          | value _ he hleaks =>
              exact ⟨_, he, .inr ((hentries _ (mem_of_mem_standing he)).mpr hleaks)⟩

theorem shows_redactItems_iff {secret : String} (h : Secret secret.toList)
    (hmem : secret ∈ secrets) (key : String) : ∀ items : List Value, ∀ value ∈ items,
    ((encode (redactValue tables secrets key value)).Shows secret.toList ↔
      Leaks tables secrets secret.toList key value)
  | [] => fun _ hvalue => absurd hvalue List.not_mem_nil
  | first :: rest => by
      intro value hvalue
      rcases List.mem_cons.mp hvalue with hsame | hrest
      · rw [hsame]
        exact shows_redactValue_iff h hmem key first
      · exact shows_redactItems_iff h hmem key rest value hrest

theorem shows_redactEntries_iff {secret : String} (h : Secret secret.toList)
    (hmem : secret ∈ secrets) : ∀ entries : List (String × Value), ∀ e ∈ entries,
    ((encode (redactValue tables secrets e.1 e.2)).Shows secret.toList ↔
      Leaks tables secrets secret.toList e.1 e.2)
  | [] => fun _ he => absurd he List.not_mem_nil
  | (key, value) :: rest => by
      intro e he
      rcases List.mem_cons.mp he with hsame | hrest
      · rw [hsame]
        exact shows_redactValue_iff h hmem key value
      · exact shows_redactEntries_iff h hmem rest e hrest

end

end Secrets

/-! ## The line -/

/-- What stands under a name of the payload, before it is redacted. -/
inductive Piece
  | plain (text : String)
  | prose (text : String)
  | extra (value : Value)

section Line

variable (tables : CharTables) (secrets : List String)

/-- A piece in the payload. -/
def Piece.redact (key : String) : Piece → Value
  | .plain text => .str text
  | .prose text => .str (redactText tables secrets text)
  | .extra value => redactValue tables secrets key value

/-- What the line shows, before it is redacted. -/
def shown (record : Record) : Dict String Piece :=
  let start := (((Dict.empty.set "ts" (Piece.plain record.ts)).set "level"
    (.plain record.levelname)).set "logger" (.plain record.name)).set "message"
      (.prose record.message)
  let start := match record.excInfo with
    | none => start
    | some text => start.set "exc_info" (.prose text)
  record.attributes.entries.foldl (fun payload e =>
    if isShown payload e.1 then payload.set (shownName e.1) (.extra e.2) else payload) start

/-- A word that a piece shows: plain pieces and texts show it as an echo only. -/
def Piece.Leaks (word : List Char) (key : String) : Piece → Prop
  | .plain text => Echo word text.toList
  | .prose text => Echo word (redactText tables secrets text).toList
  | .extra value => LogRedaction.Leaks tables secrets word key value

/-- What is assumed of the secrets: they are letters and digits, and no part of the marks, the
level, the logger, the time and the names of the attributes. -/
structure Admissible (record : Record) : Prop where
  letters : ∀ secret ∈ secrets, ∀ c ∈ secret.toList, c.isAlphanum = true ∨ 128 ≤ c.toNat
  marks : ∀ secret ∈ secrets,
    ∀ mark ∈ ["<redacted>", "<redacted-private-key>", "<redacted-token>"],
      ¬ secret.toList <:+: mark.toList
  ts : ∀ secret ∈ secrets, ¬ secret.toList <:+: record.ts.toList
  level : ∀ secret ∈ secrets, ¬ secret.toList <:+: record.levelname.toList
  logger : ∀ secret ∈ secrets, ¬ secret.toList <:+: record.name.toList
  names : ∀ secret ∈ secrets, ∀ e ∈ record.attributes.entries,
    ¬ secret.toList <:+: e.1.toList

variable {tables secrets} {record : Record}

theorem isShown_mapValues {ν μ : Type} (f : String → ν → μ) (d : Dict String ν) (key : String) :
    isShown (d.mapValues f) key = isShown d key := by
  unfold isShown
  rw [Dict.keys_mapValues]

/-- Redacting the pieces gives the payload. -/
theorem payload_eq (record : Record) :
    payload tables secrets record = (shown record).mapValues (Piece.redact tables secrets) := by
  have hfold (entries : List (String × Value)) (start : Dict String Piece) :
      entries.foldl (fun payload e =>
        if isShown payload e.1 then
          payload.set (shownName e.1) (redactValue tables secrets (shownName e.1) e.2)
        else payload) (start.mapValues (Piece.redact tables secrets)) =
      (entries.foldl (fun payload e =>
        if isShown payload e.1 then payload.set (shownName e.1) (.extra e.2) else payload)
        start).mapValues (Piece.redact tables secrets) := by
    induction entries generalizing start with
    | nil => rfl
    | cons e rest ih =>
        rw [List.foldl_cons, List.foldl_cons, isShown_mapValues, ← ih]
        split
        · rw [Dict.mapValues_set]
          rfl
        · rfl
  unfold payload shown
  dsimp only
  rw [← hfold]
  congr 1
  cases record.excInfo with
  | none =>
      simp only [Dict.mapValues_set]
      rfl
  | some text =>
      simp only [Dict.mapValues_set]
      rfl

/-- A secret does not occur in a name that the formatter gives. -/
theorem Secret.not_infix_exc_info {word : List Char} (h : Secret word) :
    ¬ word <:+: "exc_info".toList := by
  have hsplit : "exc_info".toList = "exc".toList ++ '_' :: "info".toList := by decide
  rw [hsplit, infix_append_stop (h.not_mem (by decide)) h.ne_nil, not_or]
  exact ⟨h.not_infix_of_length_lt (by decide), h.not_infix_of_length_lt (by decide)⟩

/-- No secret occurs in the names of the payload and in its plain pieces. -/
theorem not_infix_shown {secret : String} (h : Secret secret.toList)
    (hadmissible : Admissible secrets record) (hmem : secret ∈ secrets) :
    ∀ e ∈ (shown record).entries, ¬ secret.toList <:+: e.1.toList ∧
      ∀ text, e.2 = .plain text → ¬ secret.toList <:+: text.toList := by
  have hset {d : Dict String Piece} {key : String} {piece : Piece}
      (hd : ∀ e ∈ d.entries, ¬ secret.toList <:+: e.1.toList ∧
        ∀ text, e.2 = .plain text → ¬ secret.toList <:+: text.toList)
      (hkey : ¬ secret.toList <:+: key.toList)
      (hpiece : ∀ text, piece = .plain text → ¬ secret.toList <:+: text.toList) :
      ∀ e ∈ (d.set key piece).entries, ¬ secret.toList <:+: e.1.toList ∧
        ∀ text, e.2 = .plain text → ¬ secret.toList <:+: text.toList := by
    intro e he
    rcases Dict.mem_entries_set he with rfl | he
    · exact ⟨hkey, hpiece⟩
    · exact hd e he
  have hfold (entries : List (String × Value)) {start : Dict String Piece}
      (hentries : ∀ e ∈ entries, ¬ secret.toList <:+: e.1.toList)
      (hstart : ∀ e ∈ start.entries, ¬ secret.toList <:+: e.1.toList ∧
        ∀ text, e.2 = .plain text → ¬ secret.toList <:+: text.toList) :
      ∀ e ∈ (entries.foldl (fun payload e =>
        if isShown payload e.1 then payload.set (shownName e.1) (.extra e.2) else payload)
        start).entries, ¬ secret.toList <:+: e.1.toList ∧
          ∀ text, e.2 = .plain text → ¬ secret.toList <:+: text.toList := by
    induction entries generalizing start with
    | nil => exact hstart
    | cons e rest ih =>
        rw [List.foldl_cons]
        apply ih fun d hd => hentries d (List.mem_cons_of_mem _ hd)
        split
        · apply hset hstart
          · unfold shownName
            rw [String.toList_ofList]
            intro hfound
            exact hentries e List.mem_cons_self (hfound.trans (List.drop_suffix _ _).isInfix)
          · intro text htext
            cases htext
        · exact hstart
  have hplain {text : String} (htext : ¬ secret.toList <:+: text.toList) :
      ∀ text', Piece.plain text = .plain text' → ¬ secret.toList <:+: text'.toList := by
    intro text' hsame
    rw [← Piece.plain.inj hsame]
    exact htext
  have htext (text : String) :
      ∀ text', Piece.prose text = .plain text' → ¬ secret.toList <:+: text'.toList := by
    intro text' hsame
    cases hsame
  have hempty : ∀ e ∈ (Dict.empty : Dict String Piece).entries,
      ¬ secret.toList <:+: e.1.toList ∧
        ∀ text, e.2 = .plain text → ¬ secret.toList <:+: text.toList :=
    fun e he => absurd he List.not_mem_nil
  have hstart := hset (hset (hset (hset hempty
    (h.not_infix_of_length_lt (by decide) : ¬ secret.toList <:+: "ts".toList)
      (hplain (hadmissible.ts secret hmem)))
    (h.not_infix_of_length_lt (by decide) : ¬ secret.toList <:+: "level".toList)
      (hplain (hadmissible.level secret hmem)))
    (h.not_infix_of_length_lt (by decide) : ¬ secret.toList <:+: "logger".toList)
      (hplain (hadmissible.logger secret hmem)))
    (h.not_infix_of_length_lt (by decide) : ¬ secret.toList <:+: "message".toList)
      (htext record.message)
  unfold shown
  dsimp only
  apply hfold _ (hadmissible.names secret hmem)
  cases record.excInfo with
  | none => exact hstart
  | some text => exact hset hstart h.not_infix_exc_info (htext text)

/-- What a piece shows of a secret is what leaks. -/
theorem shows_redact_iff {secret : String} (h : Secret secret.toList) (hmem : secret ∈ secrets)
    (key : String) {piece : Piece}
    (hplain : ∀ text, piece = .plain text → ¬ secret.toList <:+: text.toList) :
    (encode (piece.redact tables secrets key)).Shows secret.toList ↔
      piece.Leaks tables secrets secret.toList key := by
  cases piece with
  | plain text =>
      show (encode (.str text)).Shows _ ↔ _
      rw [encode, Document.shows_string_iff, infix_escaped_iff h.toWordy]
      exact or_iff_right (hplain text rfl)
  | prose text =>
      show (encode (.str (redactText tables secrets text))).Shows _ ↔ _
      rw [encode, Document.shows_string_iff, infix_escaped_iff h.toWordy]
      exact or_iff_right (not_infix_redactText h hmem text)
  | extra value => exact shows_redactValue_iff h hmem key value

/-- A secret in the line. -/
theorem infix_format_iff {secret : String} (h : Secret secret.toList)
    (hadmissible : Admissible secrets record) (hmem : secret ∈ secrets) :
    secret.toList <:+: format tables secrets record ↔
      ∃ e ∈ (shown record).entries, Echo secret.toList e.1.toList ∨
        e.2.Leaks tables secrets secret.toList e.1 := by
  unfold format
  rw [Document.infix_text_iff h.toWordy, encode, Document.shows_object_iff, encodeEntries_eq,
    payload_eq]
  have hnames := not_infix_shown h hadmissible hmem
  constructor
  · rintro ⟨d, hd, hshows⟩
    obtain ⟨redacted, hredacted, rfl⟩ := List.mem_map.mp hd
    obtain ⟨e, he, rfl⟩ := List.mem_map.mp hredacted
    rw [infix_escaped_iff h.toWordy, shows_redact_iff h hmem _ (hnames e he).2] at hshows
    rcases hshows with (hfound | hecho) | hleaks
    · exact absurd hfound (hnames e he).1
    · exact ⟨e, he, .inl hecho⟩
    · exact ⟨e, he, .inr hleaks⟩
  · rintro ⟨e, he, hleaks⟩
    refine ⟨_, List.mem_map_of_mem (List.mem_map_of_mem he), ?_⟩
    rw [infix_escaped_iff h.toWordy, shows_redact_iff h hmem _ (hnames e he).2]
    exact hleaks.imp .inr id

/-- A captured value of letters and digits is a secret. -/
theorem secret_of_mem {environment : List (String × String)}
    (hadmissible : Admissible (secretValues tables environment) record) {secret : String}
    (hmem : secret ∈ secretValues tables environment) : Secret secret.toList := by
  have hlength : 8 ≤ secret.toList.length := by
    obtain ⟨e, he, rfl⟩ := List.mem_map.mp hmem
    have hkept := (List.mem_filter.mp he).2
    simp only [Bool.and_eq_true, decide_eq_true_eq] at hkept
    rw [String.length_toList]
    exact hkept.1
  refine ⟨⟨?_, hadmissible.letters secret hmem⟩, hlength, ?_⟩
  · intro hnil
    rw [hnil, List.length_nil] at hlength
    omega
  · exact hadmissible.marks secret hmem _ List.mem_cons_self

/-- **When a log line shows no secret**: if and only if nothing it shows has one in a key of a
dictionary, in a number or in the text of an object, and none is echoed by the escape of a control
character. -/
theorem redaction_complete_iff (tables : CharTables) (environment : List (String × String))
    (record : Record) (h : Admissible (secretValues tables environment) record) :
    (∀ secret ∈ secretValues tables environment,
        ¬ secret.toList <:+: format tables (secretValues tables environment) record) ↔
      ∀ secret ∈ secretValues tables environment, ∀ e ∈ (shown record).entries,
        ¬ Echo secret.toList e.1.toList ∧
          ¬ e.2.Leaks tables (secretValues tables environment) secret.toList e.1 := by
  refine forall₂_congr fun secret hmem => ?_
  rw [infix_format_iff (secret_of_mem h hmem) h hmem]
  simp only [not_exists, not_and, not_or]

end Line

namespace RedactionExamples

/-- The tables of plain ASCII texts. -/
def ascii : CharTables where
  isDigit := Char.isDigit
  isSpace := fun x => [' ', '\t', '\n', '\r'].contains x
  isWord := fun x => x.isAlphanum || x == '_'
  same := fun x y => x.toLower == y.toLower

def environment : List (String × String) := [("API_TOKEN", "12345678"), ("HOME", "/root")]

/-- A record with some attributes. -/
def failed (attributes : Dict String Value) : Record where
  ts := "2026-01-01T00:00:00+00:00"
  levelname := "ERROR"
  name := "engine"
  message := "failed"
  attributes := attributes

/-- The token in a text, in a list and under a sensitive name. -/
def redacted : Record :=
  failed (Dict.ofPairs [("_reason", .list [.str "key 12345678 refused"]),
    ("_token", .other "12345678")])

/-- The token in a key, in an exception, in a set and as a number. -/
def unredacted : List Record :=
  [failed (Dict.ofPairs [("_map", .dict [("12345678", .none)])]),
    failed (Dict.ofPairs [("_error", .other "refused: 12345678")]),
    failed (Dict.ofPairs [("_all", .other "\x7b12345678\x7d")]),
    failed (Dict.ofPairs [("_number", .number "12345678".toList)])]

theorem secretValues_environment : secretValues ascii environment = ["12345678"] := by
  decide +kernel

theorem admissible_failed {attributes : Dict String Value}
    (h : ∀ e ∈ attributes.entries, ¬ "12345678".toList <:+: e.1.toList) :
    Admissible (secretValues ascii environment) (failed attributes) := by
  rw [secretValues_environment]
  refine ⟨?_, ?_, ?_, ?_, ?_, ?_⟩ <;> intro secret hmem <;>
    rw [List.mem_singleton.mp hmem]
  · exact List.all_iff_forall_prop.mp (by decide)
  · decide +kernel
  · show ¬ _ <:+: "2026-01-01T00:00:00+00:00".toList
    decide +kernel
  · show ¬ _ <:+: "ERROR".toList
    decide +kernel
  · show ¬ _ <:+: "engine".toList
    decide +kernel
  · exact h

/-- What is in texts or under a sensitive name is not shown. -/
theorem redacted_hides :
    Admissible (secretValues ascii environment) redacted ∧
      ∀ secret ∈ secretValues ascii environment,
        ¬ secret.toList <:+: format ascii (secretValues ascii environment) redacted := by
  have hadmissible : Admissible (secretValues ascii environment) redacted :=
    admissible_failed (by decide +kernel)
  refine ⟨hadmissible, (redaction_complete_iff ascii environment redacted hadmissible).mpr ?_⟩
  intro secret hmem e he
  have hsecret := (secret_of_mem hadmissible hmem).toWordy
  have hquiet {text : List Char} (h : (text.all fun c => 32 ≤ c.toNat) = true) :
      ¬ Echo secret.toList text :=
    not_echo_of_printable hsecret (List.all_iff_forall_prop.mp h)
  have hreason : ¬ Leaks ascii (secretValues ascii environment) secret.toList "reason"
      (.list [.str "key 12345678 refused"]) := by
    intro hleaks
    cases hleaks with
    | item _ hitem hleaks =>
        rw [List.mem_singleton.mp hitem] at hleaks
        cases hleaks with
        | echo _ _ hecho => exact hquiet (by decide +kernel) hecho
  have hentries : (shown redacted).entries = [("ts", .plain "2026-01-01T00:00:00+00:00"),
      ("level", .plain "ERROR"), ("logger", .plain "engine"), ("message", .prose "failed"),
      ("reason", .extra (.list [.str "key 12345678 refused"])),
      ("token", .extra (.other "12345678"))] := rfl
  rw [hentries] at he
  simp only [List.mem_cons, List.not_mem_nil, or_false] at he
  rcases he with rfl | rfl | rfl | rfl | rfl | rfl
  · exact ⟨hquiet (by decide), hquiet (by decide)⟩
  · exact ⟨hquiet (by decide), hquiet (by decide)⟩
  · exact ⟨hquiet (by decide), hquiet (by decide)⟩
  · exact ⟨hquiet (by decide), hquiet (by decide +kernel)⟩
  · exact ⟨hquiet (by decide), hreason⟩
  · exact ⟨hquiet (by decide), not_leaks_of_sensitive (by decide +kernel) _⟩

/-- Keys, exceptions, sets and numbers are shown as they are. -/
theorem unredacted_shows :
    (∀ record ∈ unredacted, Admissible (secretValues ascii environment) record) ∧
      ∀ record ∈ unredacted, ¬ ∀ secret ∈ secretValues ascii environment,
        ¬ secret.toList <:+: format ascii (secretValues ascii environment) record := by
  have hshows : ∀ record ∈ unredacted,
      "12345678".toList <:+: format ascii ["12345678"] record := by
    decide +kernel
  refine ⟨?_, ?_⟩
  · intro record hmem
    obtain ⟨attributes, rfl, hnames⟩ : ∃ attributes, record = failed attributes ∧
        ∀ e ∈ attributes.entries, ¬ "12345678".toList <:+: e.1.toList := by
      simp only [unredacted, List.mem_cons, List.not_mem_nil, or_false] at hmem
      rcases hmem with rfl | rfl | rfl | rfl
      · exact ⟨_, rfl, by decide +kernel⟩
      · exact ⟨_, rfl, by decide +kernel⟩
      · exact ⟨_, rfl, by decide +kernel⟩
      · exact ⟨_, rfl, by decide +kernel⟩
    exact admissible_failed hnames
  · intro record hmem
    rw [secretValues_environment]
    exact fun hnone => hnone _ (List.mem_singleton_self _) (hshows record hmem)

end RedactionExamples

end ArbitrageEngine.LogRedaction
