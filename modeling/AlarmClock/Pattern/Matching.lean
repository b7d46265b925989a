import AlarmClock.Pattern.Basic

/-! Finding a pattern in a text. A part of a pattern leads from the places where it starts to
those where it can end; places are kept as one truth value each, from the front of the
text to its end. -/

namespace AlarmClock.Pattern

open Text

/-! ### Places -/

/-- The characters around a place. -/
structure Site where
  before : Option Char
  after : Option Char
  deriving DecidableEq, Repr

/-- The places of a text behind a character. -/
def sitesFrom (before : Option Char) : List Char → List Site
  | [] => [⟨before, none⟩]
  | c :: r => ⟨before, some c⟩ :: sitesFrom (some c) r

/-- Whether a character belongs to words in ASCII. -/
def inWord (c : Option Char) : Bool := c.any fun c => c.isAlphanum || c = '_'

namespace Site

def isWord (x : Site) : WordPlace → Bool
  | .boundary => inWord x.before != inWord x.after
  | .noBoundary => inWord x.before == inWord x.after
  | .start => !inWord x.before && inWord x.after
  | .stop => inWord x.before && !inWord x.after
  | .startHalf => !inWord x.before
  | .stopHalf => !inWord x.after

/-- Whether something holds here. Words are taken as those in ASCII. -/
def satisfies (x : Site) : Look → Bool
  | .textStart => x.before = none
  | .textEnd => x.after = none
  | .lineStart false => x.before = none || x.before = some '\n'
  | .lineStart true =>
    x.before = none || x.before = some '\n' || (x.before = some '\r' && x.after ≠ some '\n')
  | .lineEnd false => x.after = none || x.after = some '\n'
  | .lineEnd true =>
    x.after = none || x.after = some '\r' || (x.after = some '\n' && x.before ≠ some '\r')
  | .word place _ => x.isWord place

end Site

/-! ### Marks -/

/-- The places behind a character that passes a test, from marked places on. -/
def past (test : Char → Bool) (s : List Char) (marks : List Bool) : List Bool :=
  false :: List.zipWith (fun c m => m && test c) s marks

/-- The places marked on one of two sides. -/
def either (a b : List Bool) : List Bool := List.zipWith (· || ·) a b

/-- A step taken a number of times; when it changes nothing more, it is left. -/
def exactly (f : List Bool → List Bool) : Nat → List Bool → List Bool
  | 0, marks => marks
  | n + 1, marks => if f marks = marks then marks else exactly f n (f marks)

/-- A step taken any number of times up to a bound; when nothing new is reached, it is left. -/
def upTo (f : List Bool → List Bool) : Nat → List Bool → List Bool
  | 0, marks => marks
  | n + 1, marks =>
    let next := either marks (f marks)
    if next = marks then marks else upTo f n next

/-- The places where a pattern can end if it starts at a marked place. -/
def ends (s : List Char) (sites : List Site) : Pattern → List Bool → List Bool
  | emptyText, marks => marks
  | single c, marks => past (· = c) s marks
  | oneOf set, marks => past set.contains s marks
  | look l, marks => List.zipWith (fun x m => m && x.satisfies l) sites marks
  | captured p, marks => p.ends s sites marks
  | repeated p least most, marks =>
    let bound := match most with
      | none => s.length + 1
      | some n => n - least
    upTo (p.ends s sites) bound (exactly (p.ends s sites) least marks)
  | seq p q, marks => q.ends s sites (p.ends s sites marks)
  | alt p q, marks => either (p.ends s sites marks) (q.ends s sites marks)

/-- Whether a text has a part that a pattern matches. -/
def isFoundIn (p : Pattern) (s : List Char) : Bool :=
  (p.ends s (sitesFrom none s) (List.replicate (s.length + 1) true)).any id

end AlarmClock.Pattern
