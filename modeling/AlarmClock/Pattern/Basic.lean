import AlarmClock.Text.CharSet

/-! Patterns for parts of texts, and how they are put together from smaller ones. -/

namespace AlarmClock

open Text

/-- What a word has to do with a place. -/
inductive WordPlace where
  | boundary | noBoundary | start | stop
  /-- No word ends here. -/
  | startHalf
  /-- No word goes on here. -/
  | stopHalf
  deriving DecidableEq, Repr

/-- What can be said of a place between two characters. -/
inductive Look where
  | textStart
  | textEnd
  /-- `returns` tells whether a return ends a line too. -/
  | lineStart (returns : Bool)
  | lineEnd (returns : Bool)
  /-- `allScripts` tells whether words are those of all scripts or those in ASCII. -/
  | word (place : WordPlace) (allScripts : Bool)
  deriving DecidableEq, Repr

inductive Pattern where
  | emptyText
  | single (c : Char)
  | oneOf (s : CharSet)
  | look (l : Look)
  | captured (p : Pattern)
  | repeated (p : Pattern) (least : Nat) (most : Option Nat)
  | seq (p q : Pattern)
  | alt (p q : Pattern)

namespace Pattern

/-- One character of a set. -/
def ofSet (s : CharSet) : Pattern :=
  match s.ranges with
  | [(a, b)] => if a = b then single (Char.ofNat a) else oneOf s
  | _ => oneOf s

/-- Two parts that follow each other; the empty text is left out. -/
def followedBy : Pattern → Pattern → Pattern
  | emptyText, q => q
  | p, emptyText => p
  | p, q => seq p q

/-- Parts that follow each other. -/
def ofSequence (ps : List Pattern) : Pattern := ps.foldr followedBy emptyText

/-- The set that a pattern for single characters takes them from. -/
def charSet? : Pattern → Option CharSet
  | single c => some (.single c)
  | oneOf s => some s
  | _ => none

/-- One pattern behind the other until one of them fits. -/
def branches : List Pattern → Pattern
  | [] => emptyText
  | [p] => p
  | p :: ps => alt p (branches ps)

/-- Parts of which one is there. Single characters make a set. -/
def ofBranches (ps : List Pattern) : Pattern :=
  match ps.mapM charSet? with
  | some ss => ofSet (ss.foldl CharSet.union ⟨[]⟩)
  | none => branches ps

/-- Whether only the empty text can be matched. -/
def isWidthless : Pattern → Bool
  | emptyText => true
  | single _ => false
  | oneOf _ => false
  | look _ => true
  | captured p => p.isWidthless
  | repeated p _ _ => p.isWidthless
  | seq p q => p.isWidthless && q.isWidthless
  | alt p q => p.isWidthless && q.isWidthless

/-- A repetition. What matches nothing but the empty text is there once if it is there at all. -/
def times (p : Pattern) (least : Nat) (most : Option Nat) : Pattern :=
  let least := if p.isWidthless then min least 1 else least
  let most := if p.isWidthless then some (min (most.getD 1) 1) else most
  match least, most with
  | 0, some 0 => emptyText
  | 1, some 1 => p
  | least, most => repeated p least most

end Pattern

end AlarmClock
