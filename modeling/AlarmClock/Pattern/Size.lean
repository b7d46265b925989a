import AlarmClock.Pattern.Basic
import AlarmClock.Text.ByteRange
import AlarmClock.Text.Utf8

/-! How much room the machine of a pattern would take, in bytes. Such a machine reads a text
byte by byte, forwards or backwards. -/

namespace AlarmClock.Pattern

open Text

/-! ### Sets -/

/-- The room for one state of a machine. -/
def stateSize : Nat := 32

/-- The room for a state between two that can be reached at once. -/
def forkSize : Nat := stateSize + 8

/-- The beginnings of a sequence up to a length. -/
def beginnings {α : Type} (n : Nat) (s : List α) : List (List α) := (List.range n).map (s.take ·)

/-- The room for one of some sequences of bytes. Equal ends share their states. -/
def forwardsSize (ss : List (List (Nat × Nat))) : Nat :=
  let starts := (ss.flatMap fun s => beginnings s.length s).eraseDups
  let ends := starts.map fun p => (ss.filter p.isPrefixOf).map (·.drop p.length)
  stateSize + ends.eraseDups.foldr (fun ts n => stateSize + 8 * (ts.filterMap List.head?).eraseDups.length + n) 0

/-- The room for one of some sequences of bytes read from their ends. Equal beginnings share their states. -/
def backwardsSize (ss : List (List (Nat × Nat))) : Nat :=
  let starts := (ss.flatMap fun s => (beginnings (s.length + 1) s).drop 1).eraseDups
  2 * stateSize + 4 * ss.length + stateSize * starts.length

/-- The room for one character of a set. -/
def setSize (backwards : Bool) (s : CharSet) : Nat :=
  if s.isUpTo 0x7F then 2 * stateSize + 8 * s.ranges.length
  else
    let ss := s.ranges.flatMap byteSequences
    if backwards then backwardsSize ss else forwardsSize ss

/-! ### Patterns -/

/-- Whether every text that is matched has a character. -/
def needsText : Pattern → Bool
  | emptyText | look _ => false
  | single _ => true
  | oneOf s => !s.isEmpty
  | captured p => p.needsText
  | repeated p least _ => 0 < least && p.needsText
  | seq p q => p.needsText || q.needsText
  | alt p q => p.needsText && q.needsText

/-- The room for a repetition of what takes some room. -/
def repeatedSize (sub : Nat) (needsText : Bool) (least : Nat) : Option Nat → Nat
  | none =>
    if least = 0 ∧ !needsText then sub + 2 * forkSize + stateSize else max least 1 * sub + forkSize
  | some most =>
    if most = least then least * sub
    else least * sub + (most - least) * (sub + forkSize) + stateSize

/-- The room for a pattern. A further branch takes less than the first. -/
def size (backwards isBranch : Bool) : Pattern → Nat
  | emptyText => stateSize
  | single c => stateSize * (utf8 c).length
  | oneOf s => setSize backwards s
  | look _ => stateSize
  | captured p => (if backwards then 0 else 2 * stateSize) + p.size backwards false
  | repeated p least most => repeatedSize (p.size backwards false) p.needsText least most
  | seq p q => p.size backwards false + q.size backwards false
  | alt p q =>
    (if isBranch then 4 else 2 * stateSize + 8) + p.size backwards false + q.size backwards true

/-- The most room that a pattern may take. -/
def sizeLimit : Nat := 10485760

/-- The room that every pattern takes, to be looked for from every place on. -/
def searchSize : Nat := 4 * stateSize + forkSize + 8

def isTooBig (backwards : Bool) (p : Pattern) : Bool := sizeLimit < searchSize + p.size backwards false

end AlarmClock.Pattern
