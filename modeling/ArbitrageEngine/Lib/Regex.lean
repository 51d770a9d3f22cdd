/-
# ArbitrageEngine.Lib.Regex -- regular expressions, as a backtracking matcher reads them

A pattern is run from a place in a text and gives all places where it can end, the preferred one
first: a greedy repetition prefers to go on, a lazy one to stop, an alternative its left branch.
What a search returns is the first of them, so the order is the whole meaning of greediness.

A place keeps what is before it, because word boundaries and what must stand in front of a match
look back.  Which characters are digits, white space or parts of words, and which differ in case
only, is a table.
-/
import Mathlib.Data.List.Basic

namespace ArbitrageEngine.Lib

/-- What patterns know of characters. -/
structure CharTables where
  /-- `\d`. -/
  isDigit : Char → Bool
  /-- `\s`. -/
  isSpace : Char → Bool
  /-- `\w`. -/
  isWord : Char → Bool
  /-- A letter of a pattern and a character of a text, where case is ignored. -/
  same : Char → Char → Bool

/-- A place in a text: what is before it, the last character first, what is after it, and what the
groups hold, the last one first. -/
structure Cursor where
  before : List Char := []
  after : List Char
  groups : List (ℕ × List Char) := []
deriving DecidableEq

inductive Regex
  | empty
  | char (accepts : Char → Bool)
  | seq (first second : Regex)
  | alt (first second : Regex)
  | star (greedy : Bool) (body : Regex)
  | group (index : ℕ) (body : Regex)
  /-- Nothing is read; what is before and after the place is looked at. -/
  | look (holds : List Char → List Char → Bool)

namespace Cursor

/-- The start of a text. -/
def start (text : List Char) : Cursor := { after := text }

/-- The text from one place to a later one. -/
def upTo (c c' : Cursor) : List Char := c.after.take (c.after.length - c'.after.length)

/-- `match.group(index)` of a group that took part. -/
def text (c : Cursor) (index : ℕ) : List Char :=
  ((c.groups.find? fun g => g.1 = index).map Prod.snd).getD []

/-- One character further. -/
def next (c : Cursor) : Cursor :=
  match c.after with
  | [] => c
  | x :: rest => { before := x :: c.before, after := rest }

end Cursor

namespace Regex

/-- The ends of a repetition.  A round reads something, so the text bounds their number. -/
def rounds (body : Cursor → List Cursor) (greedy : Bool) : ℕ → Cursor → List Cursor
  | 0, c => [c]
  | n + 1, c =>
      let more := (body c).flatMap fun c' =>
        if c'.after.length < c.after.length then rounds body greedy n c' else []
      if greedy then more ++ [c] else c :: more

/-- The places where a pattern can end, the preferred one first. -/
def run : Regex → Cursor → List Cursor
  | empty, c => [c]
  | char accepts, c =>
      match c.after with
      | [] => []
      | x :: rest => if accepts x then [{ c with before := x :: c.before, after := rest }] else []
  | seq first second, c => (run first c).flatMap (run second)
  | alt first second, c => run first c ++ run second c
  | star greedy body, c => rounds (run body) greedy c.after.length c
  | group index body, c =>
      (run body c).map fun c' => { c' with groups := (index, c.upTo c') :: c'.groups }
  | look holds, c => if holds c.before c.after then [c] else []

/-! ## Patterns -/

/-- The patterns one after the other. -/
def inOrder : List Regex → Regex
  | [] => empty
  | [r] => r
  | r :: rest => seq r (inOrder rest)

/-- One of the patterns, the first one preferred. -/
def choice : List Regex → Regex
  | [] => look fun _ _ => false
  | [r] => r
  | r :: rest => alt r (choice rest)

/-- `r*`. -/
def many (r : Regex) : Regex := star true r

/-- `r+`. -/
def plus (r : Regex) : Regex := seq r (star true r)

/-- `r+?`. -/
def plusLazy (r : Regex) : Regex := seq r (star false r)

/-- `r?`. -/
def opt (r : Regex) : Regex := alt r empty

/-- `r{n}`. -/
def times (n : ℕ) (r : Regex) : Regex  := inOrder (List.replicate n r)

/-- `r{n,n+extra}`. -/
def timesUpTo (n extra : ℕ) (r : Regex) : Regex :=
  seq (times n r) ((List.range extra).foldl (fun rest _ => opt (seq r rest)) empty)

/-- `[characters]`. -/
def oneOf (characters : List Char) : Regex := char fun x => characters.contains x

/-- `[^characters]`. -/
def noneOf (characters : List Char) : Regex := char fun x => !characters.contains x

/-- `.`. -/
def dot : Regex := char fun x => x ≠ '\n'

/-- `^`. -/
def atStart : Regex := look fun before _ => before.isEmpty

/-- `$`. -/
def atEnd : Regex := look fun _ after => after.isEmpty || after == ['\n']

section
variable (tables : CharTables)

/-- `\d`. -/
def digit : Regex := char tables.isDigit

/-- `\s`. -/
def space : Regex := char tables.isSpace

/-- A text, where case is ignored. -/
def word (text : String) : Regex  := inOrder (text.toList.map fun x => char (tables.same x))

/-- `[characters]`, where case is ignored. -/
def letterOf (characters : List Char) : Regex :=
  char fun y => characters.any fun x => tables.same x y

/-- Does a word begin or end between the two? -/
def boundaryAt (before after : List Char) : Bool :=
  (before.head?.any tables.isWord) != (after.head?.any tables.isWord)

/-- `\b`. -/
def boundary : Regex := look (boundaryAt tables)

/-- `(?<!\bword)`, where case is ignored. -/
def notAfterWord (text : String) : Regex :=
  look fun before _ =>
    let letters := text.toList.reverse
    !((before.take letters.length).length == letters.length &&
      (letters.zip before).all (fun pair => tables.same pair.1 pair.2) &&
      boundaryAt tables (before.drop letters.length) (before.take letters.length).reverse)

end

/-! ## Searching -/

/-- `re.match`. -/
def matchStart (r : Regex) (text : List Char) : Option Cursor := (run r (.start text)).head?

/-- `re.fullmatch`. -/
def fullMatch (r : Regex) (text : List Char) : Option Cursor :=
  (run r (.start text)).find? fun c => c.after.isEmpty

/-- The matches from a place on, with the place where each starts. -/
def matchesFrom (r : Regex) : ℕ → Cursor → List (Cursor × Cursor)
  | 0, _ => []
  | n + 1, c =>
      match (run r c).head? with
      | some c' => (c, c') ::
          matchesFrom r n (if c'.after.length < c.after.length then { c' with groups := [] }
            else c.next)
      | none => if c.after.isEmpty then [] else matchesFrom r n c.next

/-- `re.finditer`. -/
def findIter (r : Regex) (text : List Char) : List (Cursor × Cursor) :=
  matchesFrom r (text.length + 1) (.start text)

/-- `re.search`. -/
def search (r : Regex) (text : List Char) : Option Cursor :=
  (findIter r text).head?.map Prod.snd

/-- `re.findall` of a pattern without groups. -/
def findAll (r : Regex) (text : List Char) : List (List Char) :=
  (findIter r text).map fun found => found.1.upTo found.2

/-- The text from a place on, with every match replaced. -/
def subFrom (r : Regex) (replacement : Cursor → List Char) : ℕ → Cursor → List Char
  | 0, c => c.after
  | n + 1, c =>
      match (run r c).head? with
      | some c' =>
          if c'.after.length < c.after.length then
            replacement c' ++ subFrom r replacement n { c' with groups := [] }
          else replacement c' ++ c.after.take 1 ++ subFrom r replacement n c.next
      | none =>
          match c.after with
          | [] => []
          | x :: _ => x :: subFrom r replacement n c.next

/-- `re.sub`. -/
def sub (r : Regex) (replacement : Cursor → List Char) (text : List Char) : List Char :=
  subFrom r replacement (text.length + 1) (.start text)

end Regex

end ArbitrageEngine.Lib
