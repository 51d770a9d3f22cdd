/-
# ArbitrageEngine.Discovery.SportsMatching -- the sports event a title speaks of

`sports_matching.py`.  A title, the labels of the two outcomes and the rules are read as an
identity: the kind of the market, who takes part, whom it is about, the line and the period.  Four
forms of question are read from the title alone; any other title must name the two sides, by the labels or
around a `vs`, and the kind and the line then come from the labels, the rules or the title.

A participant is compared by a name without its line, its period and its normal form's last word,
where that is `esports` or `gaming`.
-/
import ArbitrageEngine.Discovery.Enrichment
import ArbitrageEngine.Discovery.TitleText
import Mathlib.Data.List.Sort
import Mathlib.Data.String.Basic

namespace ArbitrageEngine.Sports

open Lib Lib.Regex Titles
open Discovery (SportsMarketIdentity)

/-- A text as the matcher walks through it. -/
abbrev Text : Type := List Char

variable (unicode : Unicode)

/-! ## Patterns -/

/-- `_NUMBER`. -/
def number : Regex :=
  let d := digit unicode.toCharTables
  inOrder [opt (oneOf ['+', '-']), plus d, opt (seq (oneOf ['.']) (plus d))]

/-- `.+?` and `.+`, as a group. -/
def someText (index : ℕ) : Regex := group index (plusLazy dot)

def longText (index : ℕ) : Regex := group index (plus dot)

/-- `\s+(?:vs\.?|versus)\s+`. -/
def versus : Regex :=
  let t := unicode.toCharTables
  let s := plus (space t)
  inOrder [s, alt (seq (word t "vs") (opt (oneOf ['.']))) (word t "versus"), s]

/-- `_PERIOD_PATTERNS`. -/
def periodPatterns : List Regex :=
  let t := unicode.toCharTables
  let words (l : List String) : Regex := choice (l.map (word t))
  let s := plus (space t)
  [ inOrder [boundary t, words ["map", "game", "set", "round"], s, plus (digit t), boundary t],
    inOrder [boundary t,
      words ["first", "second", "third", "fourth", "1st", "2nd", "3rd", "4th"], s,
      words ["half", "quarter", "period", "inning"], boundary t] ]

/-- `_TYPE_PATTERN`. -/
def typePattern : Regex :=
  let t := unicode.toCharTables
  let s := many (space t)
  inOrder [boundary t, word t "type", s, oneOf ['='], s, group 1 (plus (noneOf [';']))]

/-- `_LINE_PATTERN`. -/
def linePattern : Regex :=
  let t := unicode.toCharTables
  let s := many (space t)
  inOrder [boundary t, word t "line", s, oneOf ['='], s, group 1 (number unicode)]

/-- A number at the end of a label. -/
def lastNumber : Regex :=
  inOrder [group 1 (number unicode), many (space unicode.toCharTables), atEnd]

/-! ## Lines -/

/-- `_decimal` of what `_NUMBER` found. -/
def decimal (value : Text) : Dec :=
  match value with
  | '-' :: digits => Dec.ctx (-decimalOf unicode digits)
  | '+' :: digits => Dec.ctx (decimalOf unicode digits)
  | digits => Dec.ctx (decimalOf unicode digits)

/-- `_normalized_line`. -/
def normalizedLine (kind : String) (line : Option Dec) : Option Dec :=
  if kind = "spread" then line else if kind = "total" then line.map abs else none

/-- `_strip_line`. -/
def stripLine (value : Text) : Text :=
  let s := space unicode.toCharTables
  sub (inOrder [plus s, number unicode, many s, atEnd]) (fun _ => []) (strip unicode value)

/-! ## Participants -/

/-- `_strip_participant_annotation`. -/
def stripParticipantAnnotations (value : Text) : Text :=
  let t := unicode.toCharTables
  let s := many (space t)
  let stripped := sub (inOrder [s, oneOf ['('], s, number unicode, s, oneOf [')'], s, atEnd])
    (fun _ => []) (strip unicode value)
  sub (inOrder [plus (space t), oneOf ['('], word t "bo", plus (digit t), oneOf [')'], s, atEnd])
    (fun _ => []) stripped

/-- `_participant_identity`. -/
def participantIdentity (value : Text) : String :=
  let t := unicode.toCharTables
  let s := plus (space t)
  let period := inOrder [s, opt (alt (word t "on") (word t "in")), many (space t),
    choice [word t "map", word t "game", word t "set", word t "round"], s, plus (digit t),
    many (space t), atEnd]
  let withoutPeriod := sub period (fun _ => []) (stripLine unicode value)
  -- The case counts in the last pattern; the normal form has only small letters.
  let team := inOrder [s, alt (inOrder ("esports".toList.map fun x => oneOf [x]))
    (inOrder ("gaming".toList.map fun x => oneOf [x])), atEnd]
  String.ofList (sub team (fun _ => []) (normalizeText unicode withoutPeriod))

/-- `_is_generic_outcome`. -/
def isGenericOutcome (value : String) : Bool :=
  ["yes", "no", "draw", "tie", "field", "other", "outcome one", "outcome two"].contains value ||
    ["not ", "above ", "below "].any fun start => start.toList.isPrefixOf value.toList

/-- `_named_participant`. -/
def namedParticipant (label : Option Text) (participants : List Text) : Option Text :=
  match label with
  | none | some [] => none
  | some label =>
      let candidate := participantIdentity unicode label
      if isGenericOutcome candidate then none
      else if participants.any fun participant =>
          candidate = participantIdentity unicode participant then
        some (stripParticipantAnnotations unicode (stripLine unicode label))
      else none

/-- `_named_participant(label, participants) or default`. -/
def namedOr (label : Option Text) (participants : List Text) (default : Text) : Text :=
  ((namedParticipant unicode label participants).filter fun name => name ≠ []).getD default

/-- `_identity`. -/
def identity (kind : String) (participants : List Text) (subject : Text) (line : Option Dec)
    (period competition : Option String) : Option SportsMarketIdentity :=
  let names := (participants.filter fun value => strip unicode value ≠ []).map
    (participantIdentity unicode)
  let normalizedParticipants := names.dedup.insertionSort (· ≤ ·)
  let normalizedSubject := participantIdentity unicode subject
  if normalizedParticipants = [] ∨ normalizedSubject = "" ∨
      normalizedSubject ∉ normalizedParticipants then none
  else
    some {
      kind := kind
      participants := normalizedParticipants
      subject := normalizedSubject
      line := normalizedLine kind line
      period := period
      competition := competition }

/-! ## Periods and competitions -/

/-- `_period_identity`. -/
def periodIdentity (value : Text) : Option String :=
  let found := (periodPatterns unicode).flatMap fun pattern => findIter pattern value
  match (found.map fun m => String.ofList (normalizeText unicode (m.1.upTo m.2))).eraseDups with
  | [] => none
  | [period] => some period
  | _ => some "ambiguous"

/-- `_competition_identity`. -/
def competitionIdentity (value : Text) : String :=
  let t := unicode.toCharTables
  let s := plus (space t)
  let exactly (text : String) : Regex := inOrder (text.toList.map fun x => oneOf [x])
  let year := inOrder [boundary t, exactly "20", times 2 (digit t), boundary t]
  let cup := inOrder [boundary t, exactly "fifa", s, exactly "world", s, exactly "cup", boundary t]
  let withoutYear := sub year (fun _ => []) (normalizeText unicode value)
  let renamed := sub cup (fun _ => "world cup".toList) withoutYear
  String.ofList (join (split unicode renamed))

/-- `_competition_from_structured_title`. -/
def competitionFromStructuredTitle (title : Text) : Option String :=
  let parts := ((title.splitOn '|').map (strip unicode)).filter fun part => part ≠ []
  match parts with
  | first :: _ :: _ =>
      let mark := "Outrights - ".toList
      let unmarked := if mark.isPrefixOf first then first.drop mark.length else first
      truthy (some (competitionIdentity unicode (strip unicode unmarked)))
  | _ => none

/-! ## Titles that name two sides -/

/-- `_named_matchup_from_outcomes`. -/
def namedMatchupFromOutcomes (title : Text) (yesLabel noLabel : Option Text) :
    Option (Text × Text) :=
  match yesLabel, noLabel with
  | some (y :: yes), some (n :: no) =>
      let left := stripParticipantAnnotations unicode (stripLine unicode (y :: yes))
      let right := stripParticipantAnnotations unicode (stripLine unicode (n :: no))
      let leftIdentity := participantIdentity unicode left
      let rightIdentity := participantIdentity unicode right
      let titleTokens := normalWords unicode title
      let named (value : String) : Bool :=
        (split unicode value.toList).all fun token => titleTokens.contains token
      if isGenericOutcome leftIdentity ∨ isGenericOutcome rightIdentity ∨
          leftIdentity = rightIdentity then none
      else if named leftIdentity ∧ named rightIdentity then some (left, right)
      else none
  | _, _ => none

/-- The part of a title between the bars that is all `... vs ...`. -/
def barredMatchup (title : Text) : Option (Text × Text) :=
  (((title.splitOn '|').map (strip unicode)).findSome? fun part =>
    fullMatch (inOrder [someText 1, versus unicode, longText 2]) part).map fun found =>
      (found.text 1, found.text 2)

/-- The two sides around a `vs` anywhere in the title. -/
def innerMatchup (title : Text) : Option (Text × Text) :=
  let t := unicode.toCharTables
  let s := plus (space t)
  let pattern := inOrder [
    alt atStart (seq (oneOf [':', '|']) (many (space t))), someText 1, versus unicode, someText 2,
    choice [inOrder [s, oneOf ['('], word t "bo", plus (digit t), oneOf [')']],
      inOrder [s, oneOf ['-'], s], atEnd]]
  (search pattern title).map fun found =>
    (stripParticipantAnnotations unicode (found.text 1),
      stripParticipantAnnotations unicode (found.text 2))

/-- `_matchup_from_structured_title`. -/
def matchupFromStructuredTitle (title : Text) (yesLabel noLabel : Option Text) :
    Option (Text × Text) :=
  ((namedMatchupFromOutcomes unicode title yesLabel noLabel).or (barredMatchup unicode title)).or
    (innerMatchup unicode title)

/-- `needle in text`. -/
def contains (text : Text) (needle : String) : Bool := needle.toList <:+: text

/-- `_kind_from_metadata`, called with the two sides. -/
def kindFromMetadata (yesLabel noLabel : Option Text) (semantics : Text)
    (participants : Text × Text) (title : Text) : Option String :=
  let t := unicode.toCharTables
  let labels := unicode.casefold (yesLabel.getD [] ++ [' '] ++ noLabel.getD [])
  let normalizedTitle := normalizeText unicode title
  let marketType := match search (typePattern unicode) semantics with
    | some found => normalizeText unicode (found.text 1)
    | none => []
  let signed := (search (seq (oneOf ['+', '-']) (digit t)) labels).isSome
  if contains labels "over" ∧ contains labels "under" then some "total"
  else if signed ∨ contains normalizedTitle "handicap" then some "spread"
  else if contains normalizedTitle "total" ∧
      (contains labels "above" ∨ contains labels "below") then some "total"
  else if ["moneyline", "match winner", "winner"].any (contains marketType) then some "moneyline"
  else if ["spread", "handicap"].any (contains marketType) then some "spread"
  else if ["total", "over under"].any (contains marketType) then some "total"
  else
    match yesLabel, noLabel with
    | some (y :: yes), some (n :: no) =>
        let sides := [participantIdentity unicode participants.1,
          participantIdentity unicode participants.2]
        let outcomes := [participantIdentity unicode (y :: yes),
          participantIdentity unicode (n :: no)]
        if sides.dedup.length = 2 ∧ outcomes ⊆ sides ∧ sides ⊆ outcomes ∧
            (contains normalizedTitle "winner" ∨
              (namedMatchupFromOutcomes unicode title yesLabel noLabel).isSome) then
          some "moneyline"
        else none
    | _, _ => none

/-- `_spread_line_from_title`. -/
def spreadLineFromTitle (title subject : Text) : Option Dec :=
  if title = [] ∨ subject = [] then none
  else
    let s := many (space unicode.toCharTables)
    let lined (name line : ℕ) : Regex :=
      inOrder [someText name, s, oneOf ['('], s, group line (number unicode), s, oneOf [')']]
    match search (inOrder [lined 1 2, versus unicode, lined 3 4]) title with
    | none => none
    | some found =>
        let afterColon := ((found.text 1).reverse.takeWhile fun x => x ≠ ':').reverse
        let left := stripParticipantAnnotations unicode afterColon
        let right := stripParticipantAnnotations unicode (found.text 3)
        let subjectIdentity := participantIdentity unicode subject
        if subjectIdentity = participantIdentity unicode left then
          some (decimal unicode (found.text 2))
        else if subjectIdentity = participantIdentity unicode right then
          some (decimal unicode (found.text 4))
        else none

/-- The number at the end of a label. -/
def labelLine (label : Option Text) : Option Dec :=
  label.bind fun text =>
    (search (lastNumber unicode) text).map fun found => decimal unicode (found.text 1)

/-- `_line_from_metadata`. -/
def lineFromMetadata (kind : String) (yesLabel noLabel : Option Text)
    (semantics title subject : Text) : Option Dec :=
  let fromLabel := if kind = "spread" then labelLine unicode yesLabel else none
  let fromRules := (search (linePattern unicode) semantics).map fun found =>
    decimal unicode (found.text 1)
  let fromTitle := if kind = "spread" then spreadLineFromTitle unicode title subject else none
  fromLabel.or (fromRules.or (fromTitle.or
    ((labelLine unicode yesLabel).or (labelLine unicode noLabel))))

/-! ## The four forms of a question -/

/-- `^will\s+(.+?)\s+` and `$` around what comes between. -/
def question (rest : List Regex) : Regex :=
  let t := unicode.toCharTables
  let s := plus (space t)
  inOrder ([atStart, word t "will", s, someText 1] ++ rest ++ [atEnd])

/-- The pattern of `total`. -/
def totalQuestion : Regex :=
  let t := unicode.toCharTables
  let s := plus (space t)
  question unicode [versus unicode, someText 2, s, word t "total", s, opt (seq (word t "go") s),
    alt (word t "over") (word t "above"), s, group 3 (number unicode)]

/-- The pattern of `spread`. -/
def spreadQuestion : Regex :=
  let t := unicode.toCharTables
  let s := plus (space t)
  question unicode [s, word t "cover", s, group 2 (number unicode), versus unicode, someText 3]

/-- The pattern of `head_to_head`. -/
def headToHeadQuestion : Regex :=
  let t := unicode.toCharTables
  let s := plus (space t)
  question unicode [s, choice [word t "beat", word t "defeat",
    inOrder [word t "win", s, alt (word t "against") (seq (word t "vs") (opt (oneOf ['.'])))]], s,
    someText 2]

/-- The pattern of `outright`. -/
def outrightQuestion : Regex :=
  let t := unicode.toCharTables
  let s := plus (space t)
  question unicode [s, word t "win", s, opt (seq (word t "the") s), someText 2]

/-- The identity of a title that names two sides. -/
def structuredIdentity (rawTitle : Text) (yesLabel noLabel : Option Text) (semantics : Text)
    (period : Option String) : Option SportsMarketIdentity := do
  let (left, right) ← matchupFromStructuredTitle unicode rawTitle yesLabel noLabel
  let kind ← kindFromMetadata unicode yesLabel noLabel semantics (left, right) rawTitle
  let subject := namedOr unicode yesLabel [left, right]
    (stripLine unicode ((yesLabel.filter fun label => label ≠ []).getD left))
  let line := lineFromMetadata unicode kind yesLabel noLabel semantics rawTitle subject
  if (kind = "spread" ∨ kind = "total") ∧ line = none then none
  else
    identity unicode kind [left, right] subject line period
      (competitionFromStructuredTitle unicode rawTitle)

/-- `sports_market_identity`. -/
def sportsMarketIdentity (title : Text) (yesLabel noLabel outcomeSemantics : Option Text) :
    Option SportsMarketIdentity :=
  let endMarks : List Char := ['?', '.', '!']
  let rawTitle := ((strip unicode title).reverse.dropWhile fun x => endMarks.contains x).reverse
  let semantics := outcomeSemantics.getD []
  let period := periodIdentity unicode (rawTitle ++ [' '] ++ semantics)
  match matchStart (totalQuestion unicode) rawTitle with
  | some total =>
      identity unicode "total" [total.text 1, total.text 2] (total.text 1)
        (some (decimal unicode (total.text 3))) period none
  | none =>
  match matchStart (spreadQuestion unicode) rawTitle with
  | some spread =>
      let participants := [spread.text 1, spread.text 3]
      let subject := namedOr unicode yesLabel participants (spread.text 1)
      let line := decimal unicode (spread.text 2)
      let signed :=
        if participantIdentity unicode subject = participantIdentity unicode (spread.text 3) then
          -line
        else line
      identity unicode "spread" participants subject (some signed) period none
  | none =>
  match matchStart (headToHeadQuestion unicode) rawTitle with
  | some headToHead =>
      let participants := [headToHead.text 1, headToHead.text 2]
      let subject := namedOr unicode yesLabel participants (headToHead.text 1)
      identity unicode "moneyline" participants subject none period none
  | none =>
  match matchStart (outrightQuestion unicode) rawTitle with
  | some outright =>
      let competition := competitionIdentity unicode (outright.text 2)
      if competition = "" then none
      else identity unicode "outright" [outright.text 1] (outright.text 1) none period
        (some competition)
  | none => structuredIdentity unicode rawTitle yesLabel noLabel semantics period

/-- `structured_sports_match`. -/
def structuredSportsMatch (left right : Option SportsMarketIdentity)
    (leftCutoff rightCutoff : Option Time) : Bool :=
  match left, right, rightCutoff with
  | some left, some right, some cutoff =>
      Discovery.SxBet.structuredSportsMatch left right leftCutoff cutoff
  | _, _, _ => false

end ArbitrageEngine.Sports
