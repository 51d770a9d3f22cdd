/-
# ArbitrageEngine.Discovery.TitleText -- the normal form of a title

`normalize_text` of the matcher.  A title loses its case, its accents and the dates a platform hangs
on its end; numbers lose their grouping commas and their `k` and `m`; a few names get one spelling.
What is left are the runs of plain letters and digits, without the stop words: signs, decimal points
and every other mark are gone.

The tables of Unicode are a parameter.  The expansion of `k` and `m` is exact here; the code raises
where it has more than 28 digits.
-/
import ArbitrageEngine.Lib.Regex
import ArbitrageEngine.Lib.Rounding
import Mathlib.Data.Nat.Digits.Defs

namespace ArbitrageEngine.Titles

open Lib Lib.Regex

/-- What the language knows of characters and texts. -/
structure Unicode extends CharTables where
  /-- `unicodedata.normalize("NFKC", text)`. -/
  nfkc : List Char → List Char
  /-- `unicodedata.normalize("NFKD", text)`. -/
  nfkd : List Char → List Char
  /-- `text.casefold()`. -/
  casefold : List Char → List Char
  /-- `unicodedata.combining(character)`, as a truth value. -/
  combining : Char → Bool
  /-- The value of a decimal digit. -/
  digitValue : Char → ℕ

/-- The tables, for texts of plain ASCII characters. -/
def Unicode.ascii : Unicode where
  isDigit := Char.isDigit
  isSpace := fun x => [' ', '\t', '\n', '\r'].contains x
  isWord := fun x => x.isAlphanum || x == '_'
  same := fun x y => x.toLower == y.toLower
  nfkc := id
  nfkd := id
  casefold := List.map Char.toLower
  combining := fun _ => false
  digitValue := fun x => x.toNat - '0'.toNat

/-- `" ".join(tokens)`. -/
def join (tokens : List (List Char)) : List Char := [' '].intercalate tokens

variable (unicode : Unicode)

/-- `text.strip()`. -/
def strip (text : List Char) : List Char :=
  ((text.dropWhile unicode.isSpace).reverse.dropWhile unicode.isSpace).reverse

/-- `text.split()`. -/
def split (text : List Char) : List (List Char) :=
  (text.splitOnP unicode.isSpace).filter fun token => token ≠ []

/-- `STOP_WORDS`. -/
def stopWords : List String := ["will", "be", "the", "a", "an", "to", "price", "volume"]

/-! ## Dates and times at the end of a title -/

/-- `_MONTH`. -/
def month : Regex :=
  let t := unicode.toCharTables
  choice [
    seq (word t "jan") (opt (word t "uary")), seq (word t "feb") (opt (word t "ruary")),
    seq (word t "mar") (opt (word t "ch")), seq (word t "apr") (opt (word t "il")),
    word t "may", seq (word t "jun") (opt (word t "e")), seq (word t "jul") (opt (word t "y")),
    seq (word t "aug") (opt (word t "ust")),
    seq (word t "sep") (opt (seq (word t "t") (opt (word t "ember")))),
    seq (word t "oct") (opt (word t "ober")), seq (word t "nov") (opt (word t "ember")),
    seq (word t "dec") (opt (word t "ember"))]

/-- `_DATE`. -/
def date : Regex :=
  let t := unicode.toCharTables
  let d := digit t
  let s := space t
  choice [
    inOrder [month unicode, plus s, timesUpTo 1 1 d,
      opt (choice [word t "st", word t "nd", word t "rd", word t "th"]),
      opt (inOrder [opt (oneOf [',']), plus s, times 4 d])],
    inOrder [times 4 d, oneOf ['-'], timesUpTo 1 1 d, oneOf ['-'], timesUpTo 1 1 d],
    inOrder [timesUpTo 1 1 d, oneOf ['/', '-'], timesUpTo 1 1 d, oneOf ['/', '-'],
      timesUpTo 2 2 d]]

/-- `_TIME`. -/
def time : Regex :=
  let t := unicode.toCharTables
  let d := digit t
  inOrder [timesUpTo 1 1 d, opt (seq (oneOf [':']) (times 2 d)),
    opt (inOrder [many (space t), letterOf t ['a', 'p'], opt (oneOf ['.']), word t "m",
      opt (oneOf ['.'])])]

/-- `_TIMEZONE`. -/
def timezone : Regex :=
  choice (["utc", "gmt", "et", "est", "edt", "ct", "cst", "cdt", "mt", "mst", "mdt", "pt", "pst",
    "pdt"].map (word unicode.toCharTables))

/-- `_DATE_TIME_NOISE`. -/
def dateTimeNoise : Regex :=
  let t := unicode.toCharTables
  let s := space t
  seq (date unicode)
    (opt (inOrder [plus (alt s (oneOf [','])), opt (seq (word t "at") (plus s)), time unicode,
      opt (seq (many s) (timezone unicode))]))

/-- `_TIME_NOISE`. -/
def timeNoise : Regex :=
  let t := unicode.toCharTables
  let s := space t
  inOrder [time unicode, many s, timezone unicode,
    opt (seq (plus (alt s (oneOf [',', '/', '-']))) (times 4 (digit t)))]

/-- `_NOISE_LABEL`. -/
def noiseLabel : Regex :=
  let t := unicode.toCharTables
  choice [
    seq (word t "close") (opt (word t "s")), word t "closing",
    seq (word t "expire") (opt (word t "s")), word t "expiry",
    seq (word t "end") (opt (word t "s")), word t "ending",
    seq (word t "settle") (opt (word t "s")), word t "settlement", word t "cutoff",
    inOrder [word t "resolution", plus (space t), word t "time"]]

/-- `_PLATFORM_NOISE_SUFFIXES`. -/
def platformNoiseSuffixes : List Regex :=
  let t := unicode.toCharTables
  let d := digit t
  let s := many (space t)
  let noise := alt (dateTimeNoise unicode) (timeNoise unicode)
  [ inOrder [s, oneOf ['[', '('], s,
      opt (inOrder [noiseLabel unicode, s, opt (oneOf [':']), s]), noise, s, oneOf [']', ')'], s,
      atEnd],
    inOrder [s,
      alt (seq (oneOf ['-', '–', '—', '|', '•']) s)
        (inOrder [noiseLabel unicode, s, opt (oneOf [':']), s]),
      noise, s, atEnd],
    inOrder [plus (space t), times 4 d, oneOf ['-'], times 2 d, oneOf ['-'], times 2 d,
      letterOf t ['T'], times 2 d, oneOf [':'], times 2 d,
      opt (inOrder [oneOf [':'], times 2 d, opt (seq (oneOf ['.']) (plus d))]),
      alt (letterOf t ['Z'])
        (inOrder [oneOf ['+', '-'], times 2 d, opt (oneOf [':']), times 2 d]),
      s, atEnd],
    inOrder [notAfterWord t "by", notAfterWord t "on", notAfterWord t "before",
      notAfterWord t "after", plus (space t), timeNoise unicode, s, atEnd] ]

/-! ## Numbers -/

/-- `(?<=\d),(?=\d)`. -/
def groupingComma : Regex :=
  inOrder [look fun before _ => before.head?.any unicode.isDigit, oneOf [','],
    look fun _ after => after.head?.any unicode.isDigit]

/-- `\b(\d+(?:\.\d+)?)\s*([km])\b`. -/
def numberSuffix : Regex :=
  let t := unicode.toCharTables
  let d := digit t
  inOrder [boundary t, group 1 (seq (plus d) (opt (seq (oneOf ['.']) (plus d)))), many (space t),
    group 2 (oneOf ['k', 'm']), boundary t]

/-- `Decimal(text)` of digits with or without a point. -/
def decimalOf (text : List Char) : ℚ :=
  let whole := text.takeWhile fun x => x ≠ '.'
  let decimals := (text.dropWhile fun x => x ≠ '.').drop 1
  let digits := (whole ++ decimals).map unicode.digitValue
  (Nat.ofDigits 10 digits.reverse : ℚ) / 10 ^ decimals.length

/-- `_expand_number_suffix`. -/
def expandNumberSuffix (found : Cursor) : List Char :=
  let multiplier : ℚ := if found.text 2 = ['k'] then 1000 else 1000000
  Nat.toDigits 10 (Rounding.halfEven (decimalOf unicode (found.text 1) * multiplier)).toNat

/-! ## Names -/

/-- `_ALIASES`. -/
def aliases : List (Regex × String) :=
  let t := unicode.toCharTables
  let s := plus (space t)
  let whole (r : Regex) : Regex := inOrder [boundary t, r, boundary t]
  let names (l : List String) : Regex := whole (choice (l.map (word t)))
  [ (whole (alt (inOrder [word t "binance", s, word t "coin"]) (word t "bnb")), "bnb"),
    (whole (alt (inOrder [word t "usd", s, word t "coin"]) (word t "usdc")), "usdc"),
    (whole (inOrder [word t "greater", s, word t "than"]), "above"),
    (whole (inOrder [word t "less", s, word t "than"]), "below"),
    (names ["bitcoin", "btc", "xbt"], "bitcoin"), (names ["ethereum", "ether", "eth"], "ethereum"),
    (names ["solana", "sol"], "solana"), (names ["dogecoin", "doge"], "dogecoin"),
    (names ["tether", "usdt"], "tether"), (names ["turkey"], "turkiye"),
    (names ["türkiye"], "turkiye"), (names ["versus"], "vs"), (names ["over"], "above"),
    (names ["under"], "below") ]

/-- `[a-z0-9]+`. -/
def plainWord : Regex :=
  plus (char fun x => ('a' ≤ x && x ≤ 'z') || ('0' ≤ x && x ≤ '9'))

/-- `normalize_text`, as the words it joins. -/
def normalWords (value : List Char) : List (List Char) :=
  let folded := unicode.casefold (unicode.nfkc value)
  let plain := ((unicode.nfkd folded).filter fun x => !unicode.combining x).filter fun x => x ≠ '$'
  let unsuffixed := (platformNoiseSuffixes unicode).foldl (fun text r => sub r (fun _ => []) text)
    plain
  let ungrouped := sub (groupingComma unicode) (fun _ => []) unsuffixed
  let expanded := sub (numberSuffix unicode) (expandNumberSuffix unicode) ungrouped
  let named := (aliases unicode).foldl (fun text e => sub e.1 (fun _ => e.2.toList) text) expanded
  (findAll plainWord named).filter fun token => !stopWords.contains (String.ofList token)

/-- `normalize_text`. -/
def normalizeText (value : List Char) : List Char := join (normalWords unicode value)

end ArbitrageEngine.Titles
