import SultanPass.Library.Markup
import SultanPass.Library.Pattern
import Mathlib.Data.List.Infix

/-!
# How the assistant's page formats a response

`formatAIResponse` turns the text of a language model into HTML by a chain
of substitutions.  A text that mentions `CANDIDATES:` or at least two ranking
positions goes to `formatComparisonAsTable`, which collects what five
patterns recognise and builds a table from it.

A text is a list of glyphs: a character, and whether it is taken from the
response or the formatter's own.  The patterns look at the characters only.
A substitution that restates what it has matched, as `($1)` does for a text
in parentheses, keeps the matched glyphs.
-/

namespace SultanPass.AIAssistant

open SultanPass.Library
open SultanPass.Library.Glyph

/-! ## Characters of a pattern -/

/-- `\n`, `\r` and the two separators: where `^` and `$` match. -/
def isLineEnd (char : Char) : Bool :=
  [0x0A, 0x0D, 0x2028, 0x2029].contains char.toNat

/-- `\s`, and what `trim` removes. -/
def isSpace (char : Char) : Bool :=
  [0x09, 0x0A, 0x0B, 0x0C, 0x0D, 0x20, 0xA0, 0x1680, 0x2028, 0x2029,
    0x202F, 0x205F, 0x3000, 0xFEFF].contains char.toNat ||
    (0x2000 ≤ char.toNat && char.toNat ≤ 0x200A)

/-- `\w` -/
def isWordChar (char : Char) : Bool :=
  char.isAlphanum || char = '_'

/-- One character. -/
def one (test : Char → Bool) : Pattern Glyph :=
  .set fun glyph => test glyph.unit

/-- A text, character by character. -/
def literal (text : String) : Pattern Glyph :=
  .sequence (text.toList.map fun char => one (· = char))

/-- A text in any case. -/
def anyCase (text : String) : Pattern Glyph :=
  .sequence
    (text.toList.map fun char => one (·.toLower = char.toLower))

/-- `\d` -/
def digit : Pattern Glyph :=
  one Char.isDigit

/-- `\s` -/
def space : Pattern Glyph :=
  one isSpace

/-- `.` -/
def dot : Pattern Glyph :=
  one fun char => !isLineEnd char

/-- `.`, when it matches line ends as well. -/
def anyChar : Pattern Glyph :=
  one fun _ => true

/-- `^` at the beginning of a line. -/
def lineStart : Pattern Glyph :=
  .assert fun before _ => before.head?.all (isLineEnd ·.unit)

/-- `$` at the end of a line. -/
def lineEnd : Pattern Glyph :=
  .assert fun _ after => after.head?.all (isLineEnd ·.unit)

/-- `$` at the end of the text. -/
def textEnd : Pattern Glyph :=
  .assert fun _ after => after.isEmpty

/-- `\b` -/
def wordBoundary : Pattern Glyph :=
  .assert fun before after =>
    before.head?.any (isWordChar ·.unit) !=
      after.head?.any (isWordChar ·.unit)

/-! ## Substitutions -/

/-- Put tags around every match. -/
def wrap (pattern : Pattern Glyph) (opening closing : List String)
    (text : List Glyph) : List Glyph :=
  pattern.replaceAll
    (fun found => tags opening ++ found.matched ++ tags closing) text

/-- `/^([A-Z][A-Z\s]+):$/gm` -/
def headerPattern : Pattern Glyph :=
  .sequence
    [lineStart, one Char.isUpper,
      .plus true (one fun char => char.isUpper || isSpace char),
      one (· = ':'), lineEnd]

/-- `/^(\d+\.\s+[A-Z][A-Z\s]+)/gm` -/
def numberedPattern : Pattern Glyph :=
  .sequence
    [lineStart, .plus true digit, one (· = '.'), .plus true space,
      one Char.isUpper,
      .plus true (one fun char => char.isUpper || isSpace char)]

/-- `/\(([^)]+)\)/g` -/
def keywordPattern : Pattern Glyph :=
  .sequence
    [one (· = '('), .plus true (one (· ≠ ')')), one (· = ')')]

/-- `/^-\s+/gm` -/
def bulletPattern : Pattern Glyph :=
  .sequence [lineStart, one (· = '-'), .plus true space]

/-- The words that are set off in the text. -/
def assessmentWords : List String :=
  ["Good", "Fair", "Poor", "Excellent", "Strong", "Weak", "High",
    "Medium", "Low"]

/-- `/\b(Good|Fair|…|Low)\b/g` -/
def assessmentPattern : Pattern Glyph :=
  .sequence
    [wordBoundary,
      .oneOf (literal "Good") (assessmentWords.tail.map literal),
      wordBoundary]

/-- `st|nd|rd|th` -/
def ordinalSuffix : Pattern Glyph :=
  .oneOf (literal "st") [literal "nd", literal "rd", literal "th"]

/-- `/\b\d+(?:st|nd|rd|th)\b/g` -/
def rankingPattern : Pattern Glyph :=
  .sequence
    [wordBoundary, .plus true digit, ordinalSuffix, wordBoundary]

/-- `/\n/g` -/
def newlinePattern : Pattern Glyph :=
  one (· = '\n')

/-- A gold bullet and a space. -/
def bullet : List Glyph :=
  tags ["<span class=\"bullet\">"] ++ own "•" ++ tags ["</span>"] ++
    own " "

/-- The substitutions of `formatAIResponse`, in their order. -/
def formatPlain (text : List Glyph) : List Glyph :=
  let text :=
    wrap headerPattern ["<div class=\"header-section\">", "<strong>"]
      ["</strong>", "</div>"] text
  let text :=
    wrap numberedPattern ["<strong class=\"numbered-section\">"]
      ["</strong>"] text
  let text :=
    wrap keywordPattern ["<strong class=\"keyword\">"] ["</strong>"] text
  let text := bulletPattern.replaceAll (fun _ => bullet) text
  let text :=
    wrap assessmentPattern ["<strong class=\"assessment\">"]
      ["</strong>"] text
  let text :=
    wrap rankingPattern ["<strong class=\"ranking\">"] ["</strong>"] text
  newlinePattern.replaceAll (fun _ => tags ["<br>"]) text

/-! ## Strings -/

/-- `trim` -/
def trim (text : List Glyph) : List Glyph :=
  ((text.dropWhile (isSpace ·.unit)).reverse.dropWhile
    (isSpace ·.unit)).reverse

/-- `split('\n')` -/
def lines (text : List Glyph) : List (List Glyph) :=
  text.splitOnP (·.unit = '\n')

/-- `replace(/\n/g, ' ')` -/
def joinLines (text : List Glyph) : List Glyph :=
  text.flatMap fun glyph =>
    if glyph.unit = '\n' then own " " else [glyph]

/--
`substring(0, limit)`, which counts units of 16 bits: a character beyond the
first plane has two, and half of it is displayed as the replacement
character.
-/
def substring : ℕ → List Glyph → List Glyph
  | _, [] => []
  | 0, _ => []
  | limit + 1, glyph :: rest =>
      if glyph.unit.toNat < 0x10000 then
        glyph :: substring limit rest
      else
        match limit with
        | 0 => own "\ufffd"
        | limit + 1 => glyph :: substring limit rest

/-- `===` -/
def sameText (left right : List Glyph) : Bool :=
  left.map Glyph.unit = right.map Glyph.unit

/-- `includes` -/
def includes (text : List Glyph) (part : String) : Bool :=
  part.toList <:+: text.map Glyph.unit

/-! ## The comparison table -/

structure Candidate where
  name : List Glyph
  rank : List Glyph
  department : List Glyph
deriving DecidableEq, Repr

structure Ranking where
  position : List Glyph
  name : List Glyph
  rank : List Glyph
  department : List Glyph
  details : List Glyph
deriving DecidableEq, Repr

/-- `\s+(.+?)\s+-\s+(.+?)\s+\((.+?)\)`, its groups numbered from `first`. -/
def namePattern (char : Pattern Glyph) (first : ℕ) : Pattern Glyph :=
  .sequence
    [.plus true space, .group first (.plus false char),
      .plus true space, one (· = '-'),
      .plus true space, .group (first + 1) (.plus false char),
      .plus true space, one (· = '('),
      .group (first + 2) (.plus false char), one (· = ')')]

/-- `/CANDIDATES:\n((?:\d+\.\s+.+\n?)+)/` -/
def candidatesPattern : Pattern Glyph :=
  .sequence
    [literal "CANDIDATES:\n",
      .group 1
        (.plus true
          (.sequence
            [.plus true digit, one (· = '.'), .plus true space,
              .plus true dot, .optional (one (· = '\n'))]))]

/-- `/\d+\.\s+(.+?)\s+-\s+(.+?)\s+\((.+?)\)/` -/
def candidatePattern : Pattern Glyph :=
  .sequence [.plus true digit, one (· = '.'), namePattern dot 1]

/-- `####?` -/
def headingMark : Pattern Glyph :=
  .seq (literal "###") (.optional (one (· = '#')))

/-- `/####?\s*\d+\.\s+(.+?)\s+-\s+(.+?)\s+\((.+?)\)/g` -/
def headingPattern : Pattern Glyph :=
  .sequence
    [headingMark, .star true space, .plus true digit, one (· = '.'),
      namePattern dot 1]

/-- The candidate that a match names. -/
def candidateOf (found : Pattern.Match Glyph) : Candidate where
  name := trim (found.group 1)
  rank := trim (found.group 2)
  department := trim (found.group 3)

/-- The numbered lines below `CANDIDATES:`. -/
def listedCandidates (text : List Glyph) : List Candidate :=
  match candidatesPattern.firstMatch text with
  | none => []
  | some found =>
      (lines (trim (found.group 1))).filterMap fun line =>
        (candidatePattern.firstMatch line).map candidateOf

/-- The candidates, from the list or else from the headings. -/
def candidates (text : List Glyph) : List Candidate :=
  if listedCandidates text = [] then
    (headingPattern.matchAll text).map candidateOf
  else
    listedCandidates text

/--
`/####?\s*(\d+)\.\s+(.+?)\s+-\s+(.+?)\s+\((.+?)\)\s*#####\s*Brief
Reason:\s*(.+?)(?=####|\*\*Key Strengths|###|$)/gs`
-/
def reasonPattern : Pattern Glyph :=
  .sequence
    [headingMark, .star true space, .group 1 (.plus true digit),
      one (· = '.'), namePattern anyChar 2, .star true space,
      literal "#####", .star true space, literal "Brief Reason:",
      .star true space, .group 5 (.plus false anyChar),
      .lookahead
        (.oneOf (literal "####")
          [literal "**Key Strengths", literal "###", textEnd])]

/-- `1st`, `2nd`, `3rd`, and `th` behind every other number. -/
def positionSuffix (number : List Glyph) : String :=
  if sameText number (own "1") then "st"
  else if sameText number (own "2") then "nd"
  else if sameText number (own "3") then "rd"
  else "th"

/-- The ranking that a match describes. -/
def rankingOf (found : Pattern.Match Glyph) : Ranking where
  position := found.group 1 ++ own (positionSuffix (found.group 1))
  name := trim (found.group 2)
  rank := trim (found.group 3)
  department := trim (found.group 4)
  details := substring 150 (joinLines (trim (found.group 5))) ++ own "..."

def rankings (text : List Glyph) : List Ranking :=
  (reasonPattern.matchAll text).map rankingOf

/-- `[-•\*]` -/
def isBulletMark (char : Char) : Bool :=
  char = '-' || char = '•' || char = '*'

/--
`/(?:\*\*)?Key Strengths(?:\*\*)?:?\s*((?:[-•\*].+(?:\n|$))+)/i`
-/
def strengthsPattern : Pattern Glyph :=
  .sequence
    [.optional (literal "**"), anyCase "Key Strengths",
      .optional (literal "**"), .optional (one (· = ':')),
      .star true space,
      .group 1
        (.plus true
          (.sequence
            [one isBulletMark, .plus true dot,
              .alt (one (· = '\n')) textEnd]))]

/-- A line without its marks: `/^[-•\*\s]+/`, `/\*\*/g`, and `trim`. -/
def strengthOf (line : List Glyph) : List Glyph :=
  trim
    ((literal "**").replaceAll (fun _ => [])
      (line.dropWhile fun glyph =>
        isBulletMark glyph.unit || isSpace glyph.unit))

/-- The marked lines below `Key Strengths`. -/
def strengths (text : List Glyph) : List (List Glyph) :=
  match strengthsPattern.firstMatch text with
  | none => []
  | some found =>
      (((lines (found.group 1)).filter fun line =>
        (trim line).head?.any (isBulletMark ·.unit)).map strengthOf).filter
          fun strength => !strength.isEmpty

/--
`/(?:\*\*)?Recommendation(?:\*\*)?:?\s*((?:.|\n)*?)(?=###|####|\*\*Final
Thoughts|$)/i`
-/
def recommendationPattern : Pattern Glyph :=
  .sequence
    [.optional (literal "**"), anyCase "Recommendation",
      .optional (literal "**"), .optional (one (· = ':')),
      .star true space,
      .group 1 (.star false (.alt dot (one (· = '\n')))),
      .lookahead
        (.oneOf (literal "###")
          [literal "####", anyCase "**Final Thoughts", textEnd])]

/-- `replace(/^[-•]\s*/, '')` -/
def withoutMark : List Glyph → List Glyph
  | [] => []
  | glyph :: rest =>
      if glyph.unit = '-' || glyph.unit = '•' then
        rest.dropWhile (isSpace ·.unit)
      else
        glyph :: rest

/-- The text below `Recommendation`. -/
def recommendation (text : List Glyph) : List Glyph :=
  match recommendationPattern.firstMatch text with
  | none => []
  | some found =>
      substring 300 (joinLines (withoutMark (trim (found.group 1))))

/-! ## The output -/

/-- The heading of a candidate. -/
def candidateHeading (candidate : Candidate) : List Glyph :=
  tags ["<th>"] ++ candidate.name ++
    tags ["<br>", "<span class=\"candidate-detail\">"] ++
    candidate.rank ++ tags ["<br>"] ++ candidate.department ++
    tags ["</span>", "</th>"]

/-- The cell of a candidate in the row of a ranking. -/
def rankingCell (ranking : Ranking) (candidate : Candidate) :
    List Glyph :=
  if sameText candidate.name ranking.name then
    tags ["<td>", "<span class=\"rank-detail\">"] ++ ranking.details ++
      tags ["</span>", "</td>"]
  else
    tags ["<td class=\"text-center\" style=\"opacity: 0.3;\">"] ++
      own "—" ++ tags ["</td>"]

/-- The row of a ranking. -/
def rankingRow (candidates : List Candidate) (ranking : Ranking) :
    List Glyph :=
  tags
      ["<tr>", "<td class=\"row-label\">",
        "<strong class=\"ranking\">"] ++
    ranking.position ++ tags ["</strong>", "</td>"] ++
    candidates.flatMap (rankingCell ranking) ++ tags ["</tr>"]

/-- The table, when there are candidates and rankings. -/
def candidateTable (candidates : List Candidate)
    (rankings : List Ranking) : List Glyph :=
  if candidates ≠ [] ∧ rankings ≠ [] then
    tags ["<div class=\"header-section\">", "<strong>"] ++
      own "CANDIDATE COMPARISON" ++
      tags
        ["</strong>", "</div>", "<table class=\"comparison-table\">",
          "<thead>", "<tr>", "<th style=\"width: 100px;\">"] ++
      own "Position" ++ tags ["</th>"] ++
      candidates.flatMap candidateHeading ++
      tags ["</tr>", "</thead>", "<tbody>"] ++
      rankings.flatMap (rankingRow candidates) ++
      tags ["</tbody>", "</table>"]
  else
    []

/-- One strength. -/
def strengthItem (strength : List Glyph) : List Glyph :=
  tags ["<li>"] ++ bullet ++ strength ++ tags ["</li>"]

/-- The list of strengths, when there are some. -/
def strengthsSection (strengths : List (List Glyph)) : List Glyph :=
  if strengths ≠ [] then
    tags
        ["<div class=\"header-section\" style=\"margin-top: 1.5rem;\">",
          "<strong>"] ++
      own "KEY STRENGTHS (Top Candidate)" ++
      tags ["</strong>", "</div>", "<ul class=\"strengths-list\">"] ++
      strengths.flatMap strengthItem ++ tags ["</ul>"]
  else
    []

/-- The recommendation, when there is one. -/
def recommendationSection (recommendation : List Glyph) : List Glyph :=
  if recommendation ≠ [] then
    tags
        ["<div class=\"header-section\" style=\"margin-top: 1.5rem;\">",
          "<strong>"] ++
      own "RECOMMENDATION" ++
      tags
        ["</strong>", "</div>", "<div class=\"recommendation-text\">"] ++
      recommendation ++ tags ["</div>"]
  else
    []

/-- `formatComparisonAsTable` -/
def formatComparisonAsTable (text : List Glyph) : List Glyph :=
  tags ["<div class=\"comparison-table-wrapper\">"] ++
    candidateTable (candidates text) (rankings text) ++
    strengthsSection (strengths text) ++
    recommendationSection (recommendation text) ++ tags ["</div>"]

/-- The text mentions `CANDIDATES:` or at least two positions. -/
def isComparison (text : List Glyph) : Bool :=
  includes text "CANDIDATES:" ||
    2 ≤ (rankingPattern.matchAll text).length

/-- `formatAIResponse` -/
def formatAIResponse (text : List Glyph) : List Glyph :=
  if isComparison text then formatComparisonAsTable text
  else formatPlain text

/-! ## The tags of the formatter -/

/-- The formatter's own tags, with their attributes. -/
def fixedTags : List String :=
  ["<div class=\"header-section\">", "<strong>", "</strong>", "</div>",
    "<strong class=\"numbered-section\">",
    "<strong class=\"keyword\">", "<span class=\"bullet\">", "</span>",
    "<strong class=\"assessment\">", "<strong class=\"ranking\">",
    "<br>", "<div class=\"comparison-table-wrapper\">",
    "<table class=\"comparison-table\">", "<thead>", "<tr>",
    "<th style=\"width: 100px;\">", "<th>", "</th>",
    "<span class=\"candidate-detail\">", "</tr>", "</thead>", "<tbody>",
    "<td class=\"row-label\">", "<td>", "</td>",
    "<span class=\"rank-detail\">",
    "<td class=\"text-center\" style=\"opacity: 0.3;\">", "</tbody>",
    "</table>", "<ul class=\"strengths-list\">", "</ul>", "<li>",
    "</li>",
    "<div class=\"header-section\" style=\"margin-top: 1.5rem;\">",
    "<div class=\"recommendation-text\">"]

/-- Each of them is a whole tag. -/
theorem isTag_of_mem_fixedTags :
    ∀ tag ∈ fixedTags, isTag tag.toList = true := by
  decide +kernel

end SultanPass.AIAssistant
