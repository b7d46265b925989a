import AlarmClock.Pattern.Fault

/-! Patterns as they are written: trees whose nodes know their place, and how deep they go. -/

namespace AlarmClock.Pattern

/-- What a letter between a question mark and the end of a group's opening switches. -/
inductive Flag where
  | anyCase | multiLine | dotAll | swapGreed | unicode | returns | spaced
  deriving DecidableEq, Repr

/-- A flag with whether it is switched on. -/
structure Switch where
  flag : Flag
  on : Bool
  deriving DecidableEq, Repr

/-- A character of a pattern. -/
structure Literal where
  span : Span
  char : Char
  /-- Whether it is written by two hexadecimal digits, so that it may stand for a byte. -/
  isByte : Bool := false
  deriving DecidableEq, Repr

/-- What holds at a place between two characters. -/
inductive Assertion where
  | startLine | endLine | startText | endText
  | boundary | noBoundary | wordStart | wordEnd | wordStartHalf | wordEndHalf
  deriving DecidableEq, Repr

/-- The classes of one letter. -/
inductive LetterClass where
  | digit | space | word
  deriving DecidableEq, Repr

/-- The classes with names of their own. -/
inductive NamedClass where
  | alnum | alpha | ascii | blank | cntrl | digit | graph | lower | print | punct | space | upper | word | xdigit
  deriving DecidableEq, Repr

/-- How two classes are put together. -/
inductive ClassOp where
  | meet | minus | either
  deriving DecidableEq, Repr

/-- A property of characters: its name, or a name with a value. -/
structure Property where
  span : Span
  name : List Char
  hasValue : Bool
  deriving DecidableEq, Repr

/-- What stands between brackets. -/
inductive ClassTree where
  | empty (span : Span)
  | literal (l : Literal)
  | range (span : Span) (first last : Literal)
  | named (span : Span) (name : NamedClass) (negated : Bool)
  | letter (span : Span) (name : LetterClass) (negated : Bool)
  | property (p : Property)
  | bracketed (span : Span) (negated : Bool) (sub : ClassTree)
  | union (span : Span) (subs : List ClassTree)
  | op (span : Span) (o : ClassOp) (left right : ClassTree)

namespace ClassTree

def span : ClassTree → Span
  | empty s => s
  | literal l => l.span
  | range s _ _ => s
  | named s _ _ => s
  | letter s _ _ => s
  | property p => p.span
  | bracketed s _ _ => s
  | union s _ => s
  | op s _ _ _ => s

end ClassTree

inductive Tree where
  | empty (span : Span)
  | switches (span : Span) (ss : List Switch)
  | literal (l : Literal)
  | dot (span : Span)
  | assertion (span : Span) (a : Assertion)
  | letter (span : Span) (name : LetterClass) (negated : Bool)
  | property (p : Property)
  | bracketed (span : Span) (negated : Bool) (sub : ClassTree)
  | repetition (span : Span) (sub : Tree) (least : Nat) (most : Option Nat)
  | group (span : Span) (captures : Bool) (ss : List Switch) (sub : Tree)
  | concat (span : Span) (subs : List Tree)
  | alternation (span : Span) (subs : List Tree)

namespace Tree

def span : Tree → Span
  | empty s => s
  | switches s _ => s
  | literal l => l.span
  | dot s => s
  | assertion s _ => s
  | letter s _ _ => s
  | property p => p.span
  | bracketed s _ _ => s
  | repetition s _ _ _ => s
  | group s _ _ _ => s
  | concat s _ => s
  | alternation s _ => s

end Tree

/-! ### Depth -/

/-- The nodes that may stand inside each other. -/
def maxDepth : Nat := 250

/-- One level down, if there is one left. -/
def deeper (span : Span) (left : Nat) (below : Nat → Except Fault Unit) : Except Fault Unit :=
  match left with
  | 0 => .error { kind := .tooDeep maxDepth, span := span }
  | n + 1 => below n

mutual

/-- Looks for the first node that is deeper than the levels left. -/
def ClassTree.checkDepth : ClassTree → Nat → Except Fault Unit
  | .bracketed span _ sub, left => deeper span left sub.checkDepth
  | .union span subs, left => deeper span left (checkDepths subs)
  | .op span _ l r, left => deeper span left fun n => do
      l.checkDepth n
      r.checkDepth n
  | _, _ => .ok ()

def ClassTree.checkDepths : List ClassTree → Nat → Except Fault Unit
  | [], _ => .ok ()
  | t :: ts, left => do
    t.checkDepth left
    checkDepths ts left

end

mutual

def Tree.checkDepth : Tree → Nat → Except Fault Unit
  | .bracketed span _ sub, left => deeper span left sub.checkDepth
  | .repetition span sub _ _, left => deeper span left sub.checkDepth
  | .group span _ _ sub, left => deeper span left sub.checkDepth
  | .concat span subs, left => deeper span left (checkDepths subs)
  | .alternation span subs, left => deeper span left (checkDepths subs)
  | _, _ => .ok ()

def Tree.checkDepths : List Tree → Nat → Except Fault Unit
  | [], _ => .ok ()
  | t :: ts, left => do
    t.checkDepth left
    checkDepths ts left

end

end AlarmClock.Pattern
