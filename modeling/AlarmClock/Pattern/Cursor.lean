import AlarmClock.Pattern.Tree
import AlarmClock.Text.Blank

/-! Walking through a pattern: the text left, the place in it, and what has been switched on
and named so far. -/

namespace AlarmClock.Pattern

open Text

structure Cursor where
  rest : List Char
  place : Place := {}
  /-- Whether blanks and comments between the parts of the pattern count nowhere. -/
  spaced : Bool := false
  /-- The names of groups with their places. -/
  names : List (List Char × Span) := []

namespace Cursor

/-- The cursor behind its next characters. -/
def advance (n : Nat) (c : Cursor) : Cursor :=
  { c with rest := c.rest.drop n, place := (c.rest.take n).foldl Place.behind c.place }

/-- The length of the blanks and comments at the front of a text; a comment ends with its line. -/
def blankLength (inComment : Bool) : List Char → Nat
  | [] => 0
  | c :: r =>
    if inComment then 1 + blankLength (c ≠ '\n') r
    else if isBlank c then 1 + blankLength false r
    else if c = '#' then 1 + blankLength true r
    else 0

def skipBlanks (c : Cursor) : Cursor := if c.spaced then c.advance (blankLength false c.rest) else c

/-- The first character that is neither blank nor the sign of a comment. -/
def firstSolid? (passedSign : Bool) : List Char → Option Char
  | [] => none
  | c :: r =>
    if isBlank c then firstSolid? passedSign r
    else if c = '#' && !passedSign then firstSolid? true r
    else some c

/-- The character behind the next one. Where blanks count nowhere they are passed over, unless there is nothing
else. -/
def second? (c : Cursor) : Option Char :=
  let r := c.rest.drop 1
  if c.spaced then (firstSolid? false r).or r.head? else r.head?

end Cursor

/-- A reader of a part of a pattern. -/
abbrev Scan := StateT Cursor (Except Fault)

namespace Scan

def next? : Scan (Option Char) := do return (← get).rest.head?

def atEnd : Scan Bool := do return (← get).rest.isEmpty

def here : Scan Place := do return (← get).place

def step : Scan Unit := modify (Cursor.advance 1)

def skipBlanks : Scan Unit := modify Cursor.skipBlanks

/-- A step, and over the blanks behind it where they do not count. -/
def stepOver : Scan Unit := modify fun c => (c.advance 1).skipBlanks

/-- Over a text, if it stands here. -/
def take? (s : List Char) : Scan Bool := do
  if s.isPrefixOf (← get).rest then
    modify (Cursor.advance s.length)
    return true
  return false

/-- The span of the next character. -/
def charSpan : Scan Span := do
  let c ← get
  return ⟨c.place, (c.advance 1).place⟩

/-- The span from a place to here. -/
def spanFrom (start : Place) : Scan Span := do return ⟨start, ← here⟩

def fail {α : Type} (kind : FaultKind) (span : Span) : Scan α := throw { kind := kind, span := span }

/-- Refuses a pattern that ends here. -/
def refuseEnd (kind : FaultKind) (span : Scan Span) : Scan Unit := do
  if ← atEnd then fail kind (← span)

/-- How many characters are left. -/
def left : Scan Nat := do return (← get).rest.length

end Scan

end AlarmClock.Pattern
