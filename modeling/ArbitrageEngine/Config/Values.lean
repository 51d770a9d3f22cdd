/-
# ArbitrageEngine.Config.Values -- the values of a configuration file and how they are read

A file is read by `json.loads`, which also knows NaN and the infinities, and every text of the form
of a variable's name between a dollar sign and braces is replaced by what the environment has.  The
loader then converts each value with `float`, `int`, `str` or `bool`, or with one of the stricter
readings of its own.  A conversion that raises gives none.
-/
import ArbitrageEngine.Lib.Binary64
import ArbitrageEngine.Models
import ArbitrageEngine.Positions.DecimalStr

namespace ArbitrageEngine.Config

open Lib (FloatValue)

/-- A value of the file. -/
inductive Value
  | null
  | bool (b : Bool)
  | int (n : ℤ)
  | float (x : FloatValue)
  | text (s : String)
  | array (items : List Value)
  | object (entries : List (String × Value))

/-- What the language knows of characters, texts and times. -/
structure Language where
  isSpace : Char → Bool
  /-- `unicodedata.decimal`. -/
  decimalDigit : Char → Option ℕ
  isDigit : Char → Bool
  lower : String → String
  upper : String → String
  /-- `str(value)` of a value that is not a text. -/
  spelled : Value → String
  /-- `datetime.fromisoformat`, with a missing offset read as UTC. -/
  fromIsoFormat : String → Option Time
  /-- `urlsplit` and `urlunsplit` around another host and port; none is an invalid URL. -/
  withHostAndPort : Option String → Option String → String → Option String

/-- `os.getenv`. -/
abbrev Environment : Type := String → Option String

/-! ## Environment variables -/

/-- `_ENV_FALLBACKS`. -/
def envFallbacks (key : String) : List String :=
  if key = "SX_BET_API_KEY" then ["SX_API_KEY"]
  else if key = "SX_BET_PRIVATE_KEY" then ["SX_PRIVATE_KEY"]
  else if key = "SX_BET_BASE_TOKEN_ADDRESS" then ["SX_BASE_TOKEN_ADDRESS"]
  else if key = "OPINION_API_KEY" then ["OPINION_TRADE_API_KEY"]
  else if key = "OPINION_PRIVATE_KEY" then ["OPINION_TRADE_PRIVATE_KEY"]
  else if key = "OPINION_RPC_URL" then ["BNB_RPC_URL"]
  else []

/-- The name of the variable a text stands for. -/
def variableName (s : String) : Option String :=
  match s.toList with
  | '$' :: '\x7b' :: rest =>
      if rest.getLast? = some '\x7d' then some (String.ofList rest.dropLast) else none
  | _ => none

/-- What stands for a variable: it or the first of its aliases that is not empty. -/
def variableValue (getenv : Environment) (key : String) : Value :=
  let found := (key :: envFallbacks key).findSome? fun name => truthy (getenv name)
  match found.or (getenv key) with
  | some s => .text s
  | none => .null

mutual

/-- `_expand_env`. -/
def expandEnv (getenv : Environment) : Value → Value
  | .text s => (variableName s).elim (.text s) (variableValue getenv)
  | .array items => .array (expandItems getenv items)
  | .object entries => .object (expandEntries getenv entries)
  | value => value

def expandItems (getenv : Environment) : List Value → List Value
  | [] => []
  | item :: rest => expandEnv getenv item :: expandItems getenv rest

def expandEntries (getenv : Environment) : List (String × Value) → List (String × Value)
  | [] => []
  | (key, value) :: rest => (key, expandEnv getenv value) :: expandEntries getenv rest

end

/-! ## Texts -/

variable (lang : Language)

/-- `text.strip()`. -/
def Language.strip (s : String) : String :=
  String.ofList ((s.toList.dropWhile lang.isSpace).reverse.dropWhile lang.isSpace).reverse

/-- `text.split()`. -/
def Language.split (s : String) : List (List Char) :=
  (s.toList.splitOnP lang.isSpace).filter fun word => word ≠ []

/-- The text of a numeral, with plain spaces and digits and without the space around it. -/
def numeralText (s : String) : List Char :=
  (lang.strip s).toList.map fun c => (lang.decimalDigit c).elim c fun n => Nat.digitChar n

/-- A numeral without its underscores, which must stand between digits. -/
def dropUnderscores : Char → List Char → Option (List Char)
  | previous, [] => if previous = '_' then none else some []
  | previous, c :: rest =>
      if c = '_' then if previous.isDigit then dropUnderscores c rest else none
      else if previous = '_' ∧ ¬ c.isDigit then none
      else (dropUnderscores c rest).map (c :: ·)

/-- The names `float` knows, without a sign. -/
def namedFloat (negative : Bool) (s : List Char) : Option FloatValue :=
  let name := s.map Char.toLower
  if name = "inf".toList ∨ name = "infinity".toList then some (.infinity negative)
  else if name = "nan".toList then some .nan
  else none

/-- `float(text)`. -/
def floatOfText (s : String) : Option FloatValue :=
  let numeral := numeralText lang s
  let named := match numeral with
    | '-' :: name => namedFloat true name
    | '+' :: name => namedFloat false name
    | name => namedFloat false name
  named.or <| (dropUnderscores ' ' numeral).bind fun digits =>
    (Spelled.ofStr digits).map fun d => FloatValue.nearest d.value

/-- `int(text)`: a numeral is refused where it has too many digits. -/
def intOfText (s : String) : Option ℤ :=
  let numeral := numeralText lang s
  if 4300 < numeral.countP Char.isDigit then none
  else (dropUnderscores ' ' numeral).bind Spelled.readInt

/-! ## Conversions -/

namespace Value

/-- `bool(value)`. -/
def truth : Value → Bool
  | null => false
  | bool b => b
  | int n => n ≠ 0
  | float x => x ≠ .number 0
  | text s => s ≠ ""
  | array items => !items.isEmpty
  | object entries => !entries.isEmpty

/-- `value in (None, "")`. -/
def isBlank : Value → Bool
  | null => true
  | text s => s = ""
  | _ => false

/-- `a or b`. -/
def orElse (a b : Value) : Value := if a.truth then a else b

/-- `float(value)`. -/
def toFloat : Value → Option FloatValue
  | bool b => some (.number (if b then 1 else 0))
  | int n =>
      match FloatValue.nearest n with
      | .number q => some (.number q)
      | _ => none
  | float x => some x
  | text s => floatOfText lang s
  | _ => none

/-- `int(value)`. -/
def toInt : Value → Option ℤ
  | bool b => some (if b then 1 else 0)
  | int n => some n
  | float (.number q) => some (if 0 ≤ q then ⌊q⌋ else ⌈q⌉)
  | text s => intOfText lang s
  | _ => none

/-- `str(value)`. -/
def str : Value → String
  | text s => s
  | value => lang.spelled value

/-- The entries of an object; the others have no `get`. -/
def entries? : Value → Option (List (String × Value))
  | object entries => some entries
  | _ => none

/-- The numeric value of a number or a truth value. -/
def numeric? : Value → Option FloatValue
  | bool b => some (.number (if b then 1 else 0))
  | int n => some (.number n)
  | float x => some x
  | _ => none

/-- Are two keys of a dictionary the same?  None where one cannot be a key. -/
def sameKey (a b : Value) : Bool :=
  match a, b with
  | null, null => true
  | text s, text t => s = t
  | a, b =>
      match a.numeric?, b.numeric? with
      | some x, some y => FloatValue.same x y
      | _, _ => false

/-- Can the value be the key of a dictionary? -/
def isHashable : Value → Bool
  | array _ | object _ => false
  | _ => true

/-- One entry of a list that `dict` reads: a list, a text or an object with two members. -/
def pair? : Value → Option (Value × Value)
  | array [key, value] => if key.isHashable then some (key, value) else none
  | text s =>
      match s.toList with
      | [key, value] => some (text (String.ofList [key]), text (String.ofList [value]))
      | _ => none
  | object [first, second] => some (text first.1, text second.1)
  | _ => none

/-- An entry is written: a key that is there keeps its place and its spelling. -/
def setEntry (entries : List (Value × Value)) (key value : Value) : List (Value × Value) :=
  if entries.any fun e => e.1.sameKey key then
    entries.map fun e => if e.1.sameKey key then (e.1, value) else e
  else entries ++ [(key, value)]

/-- `dict(value).items()`. -/
def items? : Value → Option (List (Value × Value))
  | object entries => some (entries.map fun e => (text e.1, e.2))
  | array pairs =>
      (pairs.mapM pair?).map fun pairs => pairs.foldl (fun d e => setEntry d e.1 e.2) []
  | text s => if s = "" then some [] else none
  | _ => none

end Value

/-- `entries.get(key, default)`. -/
def getD (entries : List (String × Value)) (key : String) (default : Value) : Value :=
  (entries.lookup key).getD default

/-- `{str(key): read(value) for key, value in dict(value).items()}`. -/
def readEntries {α : Type} (read : Value → Option α) (value : Value) :
    Option (Lib.Dict String α) := do
  let items ← value.items?
  items.foldlM (fun d e => do pure (d.set (e.1.str lang) (← read e.2))) Lib.Dict.empty

/-! ## Stricter readings -/

/-- `_strict_bool`. -/
def strictBool : Value → Option Bool
  | .bool b => some b
  | .text s =>
      if lang.lower (lang.strip s) = "true" then some true
      else if lang.lower (lang.strip s) = "false" then some false
      else none
  | .int n => if n = 0 then some false else if n = 1 then some true else none
  | .float x => if x = .number 0 then some false else if x = .number 1 then some true else none
  | _ => none

/-- `_json_bool`. -/
def jsonBool : Value → Option Bool
  | .bool b => some b
  | _ => none

/-- `_fraction`. -/
def fraction (value : Value) : Option FloatValue :=
  (value.toFloat lang).filter fun parsed =>
    FloatValue.le (.number 0) parsed && FloatValue.le parsed (.number 1)

/-- `_optional_str`. -/
def optionalStr (value : Value) : Option String :=
  if value.isBlank then none else truthy (some (lang.strip (value.str lang)))

/-- `_str_or_default`. -/
def strOrDefault (value : Value) (default : String) : String :=
  if value.isBlank then default else value.str lang

/-- What `_fraction` lets through is a number from zero to one. -/
theorem exists_number_of_fraction {value : Value} {x : FloatValue}
    (h : fraction lang value = some x) : ∃ q, x = .number q ∧ 0 ≤ q ∧ q ≤ 1 := by
  obtain ⟨-, hbounds⟩ := Option.filter_eq_some_iff.mp h
  obtain ⟨hlow, hhigh⟩ := Bool.and_eq_true_iff.mp hbounds
  exact FloatValue.exists_number_of_le hlow hhigh

end ArbitrageEngine.Config
