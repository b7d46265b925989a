import AlarmClock.Pattern.Brackets
import AlarmClock.Text.Letter

/-! Reading patterns: groups, branches and repetitions. Groups that are open wait on a stack
until their closing parenthesis comes. -/

namespace AlarmClock.Pattern

open Text Scan

/-! ### Sequences under way -/

/-- Parts that follow each other, the last one first. -/
structure Sequence where
  start : Place
  items : List Tree := []

namespace Sequence

def push (s : Sequence) (t : Tree) : Sequence := { s with items := t :: s.items }

/-- The sequence up to a place as one tree. -/
def tree (s : Sequence) (stop : Place) : Tree :=
  match s.items with
  | [] => .empty ⟨s.start, stop⟩
  | [t] => t
  | ts => .concat ⟨s.start, stop⟩ ts.reverse

end Sequence

/-- The opening of a group: its span, whether it captures, what it switches, and how blanks counted outside. -/
structure Opening where
  span : Span
  captures : Bool
  switches : List Switch
  spacedOutside : Bool

/-- What a sequence waits for: the end of its group, or further branches. -/
inductive Frame where
  | group (outside : Sequence) (o : Opening)
  /-- The branches so far, the last one first. -/
  | branches (start : Place) (ts : List Tree)

/-! ### Flags -/

def flag? : Char → Option Flag
  | 'i' => some .anyCase
  | 'm' => some .multiLine
  | 's' => some .dotAll
  | 'U' => some .swapGreed
  | 'u' => some .unicode
  | 'R' => some .returns
  | 'x' => some .spaced
  | _ => none

/-- Flags under way: those read, the last one first, with their spans; the span of the negation; and whether it
stands last. -/
structure Flags where
  items : List (Switch × Span) := []
  negation : Option Span := none
  isDangling : Bool := false

/-- The flags up to a colon or a closing parenthesis. -/
def readFlags : Nat → Flags → Scan Flags
  | 0, fs => return fs
  | n + 1, fs => do
    let span ← charSpan
    let again (kind : FaultKind) (first : Span) : Scan Flags := throw { kind := kind, span := span, first := first }
    match ← next? with
    | none => return fs
    | some c =>
      if c = ':' ∨ c = ')' then return fs
      let fs ←
        if c = '-' then
          match fs.negation with
          | some first => again .negationTwice first
          | none => pure { fs with negation := some span, isDangling := true }
        else
          match flag? c with
          | none => fail .flagUnknown span
          | some f =>
            match fs.items.find? (·.1.flag = f) with
            | some (_, first) => again .flagTwice first
            | none => pure { fs with items := (⟨f, fs.negation.isNone⟩, span) :: fs.items, isDangling := false }
      step
      refuseEnd .flagEnds (.point <$> here)
      readFlags n fs

/-- Whether switches say how blanks count. -/
def spaced? (ss : List Switch) : Option Bool := (ss.find? (·.flag = .spaced)).map (·.on)

/-! ### Groups -/

/-- Whether a character may stand in the name of a group. -/
def inName (isFirst : Bool) (c : Char) : Bool :=
  c = '_' || if isFirst then isAlphabetic c else c = '.' || c = '[' || c = ']' || isAlphanumeric c

/-- The characters up to the sign that ends a name. -/
def nameCharacters : Nat → List Char → Scan (List Char)
  | 0, s => return s.reverse
  | n + 1, s => do
    match ← next? with
    | none => return s.reverse
    | some '>' => return s.reverse
    | some c =>
      if !inName s.isEmpty c then fail .nameCharacter (← charSpan)
      step
      nameCharacters n (c :: s)

/-- The name of a group, which no other group may have. -/
def readName : Scan Unit := do
  let start ← here
  let s ← nameCharacters (← left) []
  refuseEnd .nameEnds (.point <$> here)
  let span ← spanFrom start
  step
  if s = [] then fail .nameEmpty (.point start)
  match (← get).names.find? (·.1 = s) with
  | some (_, first) => throw { kind := .nameTwice, span := span, first := first }
  | none => modify fun c => { c with names := (s, span) :: c.names }

/-- Over one of some texts. -/
def takeAny : List (List Char) → Scan Bool
  | [] => return false
  | s :: ss => do if ← take? s then return true else takeAny ss

/-- An opening parenthesis with what belongs to it: either flags that stand alone, or a group. -/
def readGroup : Scan (Tree ⊕ Opening) := do
  let span ← charSpan
  let outside := (← get).spaced
  step
  skipBlanks
  if ← takeAny [['?', '='], ['?', '!'], ['?', '<', '='], ['?', '<', '!']] then
    fail .lookAround ⟨span.start, ← here⟩
  let inner ← here
  if ← takeAny [['?', 'P', '<'], ['?', '<']] then
    readName
    return .inr ⟨span, true, [], outside⟩
  else if ← take? ['?'] then
    refuseEnd .groupUnclosed (return span)
    let fs ← readFlags (← left) {}
    if let (true, some negation) := (fs.isDangling, fs.negation) then fail .flagDangling negation
    let ss := fs.items.reverse.map (·.1)
    let isAlone : Bool := (← next?) = some ')'
    step
    if isAlone then
      if ss = [] then fail .repetitionMissing (.point inner)
      return .inl (.switches (← spanFrom span.start) ss)
    else return .inr ⟨span, false, ss, outside⟩
  else return .inr ⟨span, true, [], outside⟩

/-- A sequence with the branches in front of it. -/
def closeBranches (stop : Place) (s : Sequence) : List Frame → Tree × List Frame
  | .branches start ts :: fs => (.alternation ⟨start, stop⟩ ((s.tree stop :: ts).reverse), fs)
  | fs => (s.tree stop, fs)

/-- The whole pattern at its end, where no group may be open. -/
def finish (frames : List Frame) (s : Sequence) : Scan Tree := do
  let (t, frames) := closeBranches (← here) s frames
  match frames with
  | [] => return t
  | .group _ o :: _ => fail .groupUnclosed o.span
  | .branches .. :: _ => return t

/-! ### Repetitions -/

/-- The largest count that may be asked for. -/
def maxCount : Nat := 4294967295

/-- The digits of a count. -/
def countDigits : Nat → List Char → Scan (List Char)
  | 0, ds => return ds.reverse
  | n + 1, ds => do
    match ← next? with
    | none => return ds.reverse
    | some c =>
      if isDigit c then
        stepOver
        countDigits n (c :: ds)
      else return ds.reverse

/-- Over blanks, whether they count or not. -/
def skipAllBlanks : Scan Unit := modify fun c => c.advance (c.rest.takeWhile isBlank).length

/-- A count, or what is wrong with it. -/
def readCount : Scan (Except Fault Nat) := do
  skipAllBlanks
  let start ← here
  let ds ← countDigits (← left) []
  let span ← spanFrom start
  skipAllBlanks
  skipBlanks
  skipAllBlanks
  if ds = [] then return .error { kind := .countEmpty, span := span }
  else if maxCount < value ds then return .error { kind := .decimalInvalid, span := span }
  else return .ok (value ds)

/-- The part that a repetition repeats, and the sequence in front of it. -/
def popRepeated (s : Sequence) : Scan (Tree × Sequence) := do
  match s.items with
  | [] => fail .repetitionMissing (.point (← here))
  | .empty _ :: _ => fail .repetitionMissing (.point (← here))
  | .switches .. :: _ => fail .repetitionMissing (.point (← here))
  | t :: ts => return (t, { s with items := ts })

/-- Over the sign that a repetition takes as little as it can. -/
def takeLazy : Scan Unit := do discard (take? ['?'])

/-- A repetition by a sign. -/
def readSign (s : Sequence) (least : Nat) (most : Option Nat) : Scan Sequence := do
  let (t, s) ← popRepeated s
  step
  takeLazy
  return s.push (.repetition ⟨t.span.start, ← here⟩ t least most)

/-- A repetition by counts in braces. -/
def readCounts (s : Sequence) : Scan Sequence := do
  let start ← here
  let (t, s) ← popRepeated s
  let unclosed : Scan Unit := refuseEnd .countUnclosed (spanFrom start)
  stepOver
  unclosed
  let least ← readCount
  unclosed
  let (least, most) ←
    if (← next?) = some ',' then do
      stepOver
      unclosed
      if (← next?) = some '\x7d' then pure ((← least), none)
      else pure ((← least), some (← (← readCount)))
    else do
      let n ← least
      pure (n, some n)
  if (← next?) ≠ some '\x7d' then fail .countUnclosed (← spanFrom start)
  stepOver
  takeLazy
  if most.any (· < least) then fail .countOrder (← spanFrom start)
  return s.push (.repetition ⟨t.span.start, ← here⟩ t least most)

/-! ### Whole patterns -/

/-- The rest of a pattern, with the groups that are open and the parts of the innermost. -/
def readFrom : Nat → List Frame → Sequence → Scan Tree
  | 0, frames, s => finish frames s
  | n + 1, frames, s => do
    skipBlanks
    match ← next? with
    | none => finish frames s
    | some '(' =>
      match ← readGroup with
      | .inl t =>
        if let .switches _ ss := t then modify fun c => { c with spaced := (spaced? ss).getD c.spaced }
        readFrom n frames (s.push t)
      | .inr o =>
        modify fun c => { c with spaced := (spaced? o.switches).getD c.spaced }
        readFrom n (.group s o :: frames) { start := ← here }
    | some ')' =>
      let (t, frames) := closeBranches (← here) s frames
      match frames with
      | .group outside o :: below =>
        modify fun c => { c with spaced := o.spacedOutside }
        step
        readFrom n below (outside.push (.group ⟨o.span.start, ← here⟩ o.captures o.switches t))
      | _ => fail .groupUnopened (← charSpan)
    | some '|' =>
      let stop ← here
      step
      let next : Sequence := { start := ← here }
      match frames with
      | .branches start ts :: below => readFrom n (.branches start (s.tree stop :: ts) :: below) next
      | frames => readFrom n (.branches s.start [s.tree stop] :: frames) next
    | some '[' =>
      let t ← readClass
      readFrom n frames (s.push t)
    | some '?' => readFrom n frames (← readSign s 0 (some 1))
    | some '*' => readFrom n frames (← readSign s 0 none)
    | some '+' => readFrom n frames (← readSign s 1 none)
    | some '\x7b' => readFrom n frames (← readCounts s)
    | some c =>
      let p ← readPrimitive c
      readFrom n frames (s.push p.tree)

/-- The tree that a pattern writes, unless it is too deep. -/
def Tree.read (pattern : List Char) : Except Fault Tree := do
  let (t, _) ← (readFrom (pattern.length + 1) [] { start := {} }).run { rest := pattern }
  t.checkDepth maxDepth
  return t

end AlarmClock.Pattern
