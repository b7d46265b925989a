import AlarmClock.Text.Numeral
import AlarmClock.Text.Split

/-! What is wrong with a pattern, where, and in which words it is told: the pattern is shown
with marks below the place of the fault. -/

namespace AlarmClock.Pattern

open Text

/-! ### Places -/

/-- A place in a pattern. Lines and columns count from one. -/
structure Place where
  line : Nat := 1
  column : Nat := 1
  deriving DecidableEq, Repr

/-- The place behind a character. -/
def Place.behind (p : Place) (c : Char) : Place := if c = '\n' then ⟨p.line + 1, 1⟩ else ⟨p.line, p.column + 1⟩

/-- Whether a place is in front of another. -/
def Place.before (p q : Place) : Bool := p.line < q.line || (p.line = q.line && p.column < q.column)

/-- A part of a pattern, up to a place behind its last character. -/
structure Span where
  start : Place
  stop : Place
  deriving DecidableEq, Repr

namespace Span

/-- The part without characters at a place. -/
def point (p : Place) : Span := ⟨p, p⟩

def isOneLine (s : Span) : Bool := s.start.line = s.stop.line

/-- Whether a span is listed in front of another. -/
def listedBefore (s t : Span) : Bool :=
  s.start.before t.start || (s.start = t.start && !t.stop.before s.stop)

end Span

/-! ### Faults -/

inductive FaultKind where
  | classEscape | classOrder | classBoundary | classUnclosed
  | decimalEmpty | decimalInvalid
  | hexEmpty | hexInvalid | hexDigit
  | escapeEnds | escapeUnknown
  | flagDangling | flagTwice | negationTwice | flagEnds | flagUnknown
  | nameTwice | nameEmpty | nameCharacter | nameEnds
  | groupUnclosed | groupUnopened | tooDeep (limit : Nat)
  | countOrder | countEmpty | countUnclosed | repetitionMissing
  | boundaryUnclosed | boundaryUnknown | boundaryEnds
  | propertyName | backreference | lookAround
  | beyondAscii | badBytes | noProperty | noPropertyValue | noLetterClass | noUnicodeCase
  deriving DecidableEq, Repr

def FaultKind.message : FaultKind → String
  | classEscape => "invalid escape sequence found in character class"
  | classOrder => "invalid character class range, the start must be <= the end"
  | classBoundary => "invalid range boundary, must be a literal"
  | classUnclosed => "unclosed character class"
  | decimalEmpty => "decimal literal empty"
  | decimalInvalid => "decimal literal invalid"
  | hexEmpty => "hexadecimal literal empty"
  | hexInvalid => "hexadecimal literal is not a Unicode scalar value"
  | hexDigit => "invalid hexadecimal digit"
  | escapeEnds => "incomplete escape sequence, reached end of pattern prematurely"
  | escapeUnknown => "unrecognized escape sequence"
  | flagDangling => "dangling flag negation operator"
  | flagTwice => "duplicate flag"
  | negationTwice => "flag negation operator repeated"
  | flagEnds => "expected flag but got end of regex"
  | flagUnknown => "unrecognized flag"
  | nameTwice => "duplicate capture group name"
  | nameEmpty => "empty capture group name"
  | nameCharacter => "invalid capture group character"
  | nameEnds => "unclosed capture group name"
  | groupUnclosed => "unclosed group"
  | groupUnopened => "unopened group"
  | tooDeep n => s!"exceed the maximum number of nested parentheses/brackets ({n})"
  | countOrder => "invalid repetition count range, the start must be <= the end"
  | countEmpty => "repetition quantifier expects a valid decimal"
  | countUnclosed => "unclosed counted repetition"
  | repetitionMissing => "repetition operator missing expression"
  | boundaryUnclosed => "special word boundary assertion is either unclosed or contains an invalid character"
  | boundaryUnknown =>
    "unrecognized special word boundary assertion, valid choices are: start, end, start-half or end-half"
  | boundaryEnds =>
    "found either the beginning of a special word boundary or a bounded repetition on a \\b with an opening brace, " ++
      "but no closing brace"
  | propertyName => "invalid Unicode character class"
  | backreference => "backreferences are not supported"
  | lookAround => "look-around, including look-ahead and look-behind, is not supported"
  | beyondAscii => "Unicode not allowed here"
  | badBytes => "pattern can match invalid UTF-8"
  | noProperty => "Unicode property not found"
  | noPropertyValue => "Unicode property value not found"
  | noLetterClass => "Unicode-aware Perl class not found (make sure the unicode-perl feature is enabled)"
  | noUnicodeCase =>
    "Unicode-aware case insensitivity matching is not available (make sure the unicode-case feature is enabled)"

/-- A fault with its place; one that repeats something names the first place too. -/
structure Fault where
  kind : FaultKind
  span : Span
  first : Option Span := none
  deriving DecidableEq, Repr

namespace Fault

/-- The spans to be marked, in order. -/
def spans (f : Fault) : List Span :=
  match f.first with
  | none => [f.span]
  | some s => if s.listedBefore f.span then [s, f.span] else [f.span, s]

/-- Marks for spans of one line from a column on. -/
def marks (column : Nat) : List Span → List Char
  | [] => []
  | s :: ss =>
    let width := max 1 (s.stop.column - s.start.column)
    List.replicate (s.start.column - column) ' ' ++ List.replicate width '^' ++
      marks (max column s.start.column + width) ss

/-- The lines of a pattern, each with a margin before it and marks below it. -/
def notated (margin : Nat → List Char) (spans : List Span) : Nat → List (List Char) → List Char
  | _, [] => []
  | n, l :: ls =>
    let here := spans.filter fun s => s.isOneLine && s.start.line = n
    margin n ++ l ++ ['\n'] ++
      (if here = [] then [] else List.replicate (margin n).length ' ' ++ marks 1 here ++ ['\n']) ++
      notated margin spans (n + 1) ls

/-- How a span of several lines is told. -/
def Span.told (s : Span) : List Char :=
  ("on line " ++ toString s.start.line ++ " (column " ++ toString s.start.column ++ ") through line " ++
    toString s.stop.line ++ " (column " ++ toString (s.stop.column - 1) ++ ")").toList

/-- The fault as it is told. The lines of a pattern of several lines are numbered. -/
def text (pattern : List Char) (f : Fault) : String :=
  let ls := lines pattern
  let count := ls.length + if pattern.getLast? = some '\n' then 1 else 0
  let width := (numeral count).length
  let margin (n : Nat) : List Char :=
    if count ≤ 1 then List.replicate 4 ' '
    else List.replicate (width - (numeral n).length) ' ' ++ numeral n ++ [':', ' ']
  let divider := if '\n' ∈ pattern then List.replicate 79 '~' ++ ['\n'] else []
  let across := f.spans.filter fun s => !s.isOneLine
  let notes := if '\n' ∈ pattern ∧ across ≠ [] then ['\n'].intercalate (across.map Span.told) ++ ['\n'] else []
  String.ofList ("regex parse error:\n".toList ++ divider ++ notated margin f.spans 1 ls ++ divider ++ notes ++
    "error: ".toList ++ f.kind.message.toList)

end Fault

end AlarmClock.Pattern
