import AlarmClock.Pattern.Cursor

/-! Reading single characters of a pattern and what a backslash makes of the one behind it. -/

namespace AlarmClock.Pattern

open Text Scan

/-- The smallest part of a pattern. -/
inductive Primitive where
  | literal (l : Literal)
  | dot (span : Span)
  | assertion (span : Span) (a : Assertion)
  | letter (span : Span) (name : LetterClass) (negated : Bool)
  | property (p : Property)

namespace Primitive

def span : Primitive → Span
  | literal l => l.span
  | dot s => s
  | assertion s _ => s
  | letter s _ _ => s
  | property p => p.span

def tree : Primitive → Tree
  | literal l => .literal l
  | dot s => .dot s
  | assertion s a => .assertion s a
  | letter s n neg => .letter s n neg
  | property p => .property p

/-- What it means between brackets, where places have no meaning. -/
def classTree? : Primitive → Option ClassTree
  | literal l => some (.literal l)
  | letter s n neg => some (.letter s n neg)
  | property p => some (.property p)
  | _ => none

end Primitive

/-! ### Characters -/

/-- The characters that have a meaning of their own. -/
def isMeta (c : Char) : Bool :=
  c ∈ ['\\', '.', '+', '*', '?', '(', ')', '|', '[', ']', '\x7b', '\x7d', '^', '$', '#', '&', '-', '~']

/-- The characters that stand for themselves behind a backslash. -/
def isEscapable (c : Char) : Bool :=
  isMeta c || (c.toNat < 0x80 && !c.isAlphanum && c ≠ '<' && c ≠ '>')

/-- The control that a letter stands for behind a backslash. -/
def control? : Char → Option Char
  | 'a' => some '\x07'
  | 'f' => some '\x0c'
  | 't' => some '\t'
  | 'n' => some '\n'
  | 'r' => some '\r'
  | 'v' => some '\x0b'
  | _ => none

/-- The assertion that a letter stands for behind a backslash. -/
def assertion? : Char → Option Assertion
  | 'A' => some .startText
  | 'z' => some .endText
  | 'B' => some .noBoundary
  | '<' => some .wordStart
  | '>' => some .wordEnd
  | _ => none

/-- The class that a letter stands for behind a backslash, and whether the rest is meant. -/
def letterClass? : Char → Option (LetterClass × Bool)
  | 'd' => some (.digit, false)
  | 'D' => some (.digit, true)
  | 's' => some (.space, false)
  | 'S' => some (.space, true)
  | 'w' => some (.word, false)
  | 'W' => some (.word, true)
  | _ => none

/-! ### Hexadecimal numbers -/

def isHexDigit (c : Char) : Bool := (hexValue? c).isSome

/-- The character with a hexadecimal number. -/
def hexCharacter? (ds : List Char) : Option Char :=
  let n := ds.foldl (fun n c => 16 * n + (hexValue? c).getD 0) 0
  if Nat.isValidChar n then some (Char.ofNat n) else none

/-- As many digits as asked for. -/
def hexDigits : Nat → List Char → Scan (List Char)
  | 0, ds => return ds.reverse
  | n + 1, ds => do
    if ds ≠ [] then stepOver
    match ← next? with
    | none => fail .escapeEnds (.point (← here))
    | some c => if isHexDigit c then hexDigits n (c :: ds) else fail .hexDigit (← charSpan)

/-- The digits up to a closing brace. -/
def bracedDigits : Nat → List Char → Scan (List Char)
  | 0, ds => return ds.reverse
  | n + 1, ds => do
    stepOver
    match ← next? with
    | none => return ds.reverse
    | some '\x7d' => return ds.reverse
    | some c => if isHexDigit c then bracedDigits n (c :: ds) else fail .hexDigit (← charSpan)

/-- A character by its number, from the letter behind the backslash on. -/
def readHex (start : Place) (digits : Nat) : Scan Literal := do
  stepOver
  refuseEnd .escapeEnds (.point <$> here)
  let outer ← here
  if (← next?) = some '\x7b' then
    let inner := (← charSpan).stop
    let ds ← bracedDigits (← left) []
    refuseEnd .escapeEnds (spanFrom outer)
    let close ← here
    stepOver
    if ds = [] then fail .hexEmpty (← spanFrom outer)
    match hexCharacter? ds with
    | none => fail .hexInvalid ⟨inner, close⟩
    | some c => return ⟨← spanFrom start, c, false⟩
  else
    let ds ← hexDigits digits []
    stepOver
    match hexCharacter? ds with
    | none => fail .hexInvalid (← spanFrom outer)
    | some c => return ⟨← spanFrom start, c, digits = 2⟩

/-! ### Properties -/

/-- The characters up to a closing brace. -/
def bracedName : Nat → List Char → Scan (List Char)
  | 0, s => return s.reverse
  | n + 1, s => do
    stepOver
    match ← next? with
    | none => return s.reverse
    | some '\x7d' => return s.reverse
    | some c => bracedName n (c :: s)

/-- A property, from the letter behind the backslash on. -/
def readProperty (start : Place) : Scan Property := do
  stepOver
  match ← next? with
  | none => fail .escapeEnds (.point (← here))
  | some '\x7b' =>
    let s ← bracedName (← left) []
    refuseEnd .escapeEnds (.point <$> here)
    step
    return ⟨← spanFrom start, s, s.any fun c => c = ':' || c = '='⟩
  | some '\\' => fail .propertyName (← charSpan)
  | some c =>
    stepOver
    return ⟨← spanFrom start, [c], false⟩

/-! ### Word boundaries -/

def isBoundaryLetter (c : Char) : Bool := c.isAlpha || c = '-'

/-- The letters of a boundary's name. -/
def boundaryName : Nat → List Char → Scan (List Char)
  | 0, s => return s.reverse
  | n + 1, s => do
    match ← next? with
    | none => return s.reverse
    | some c =>
      if isBoundaryLetter c then
        stepOver
        boundaryName n (c :: s)
      else return s.reverse

def boundary? (s : List Char) : Option Assertion :=
  if s = "start".toList then some .wordStart
  else if s = "end".toList then some .wordEnd
  else if s = "start-half".toList then some .wordStartHalf
  else if s = "end-half".toList then some .wordEndHalf
  else none

/-- The kind of boundary that a name in braces says, or nothing if the braces hold a count. -/
def readBoundary (start : Place) : Scan (Option Assertion) := do
  let saved ← get
  stepOver
  let inner ← here
  match ← next? with
  | none => fail .boundaryEnds (← spanFrom start)
  | some c =>
    if !isBoundaryLetter c then
      set saved
      return none
    let s ← boundaryName (← left) []
    let close ← here
    if (← next?) ≠ some '\x7d' then fail .boundaryUnclosed ⟨saved.place, close⟩
    step
    match boundary? s with
    | none => fail .boundaryUnknown ⟨inner, close⟩
    | some a => return some a

/-! ### Primitives -/

/-- What a backslash and the character behind it stand for. -/
def readEscape : Scan Primitive := do
  let start ← here
  step
  match ← next? with
  | none => fail .escapeEnds (← spanFrom start)
  | some c =>
    if c.isDigit then fail .backreference ⟨start, (← charSpan).stop⟩
    else if c = 'x' then return .literal (← readHex start 2)
    else if c = 'u' then return .literal (← readHex start 4)
    else if c = 'U' then return .literal (← readHex start 8)
    else if c = 'p' ∨ c = 'P' then return .property (← readProperty start)
    else
      step
      let span ← spanFrom start
      if isEscapable c then return .literal ⟨span, c, false⟩
      if c = 'b' then
        if (← next?) = some '\x7b' then
          match ← readBoundary start with
          | some a => return .assertion (← spanFrom start) a
          | none => return .assertion span .boundary
        return .assertion span .boundary
      match letterClass? c, control? c, assertion? c with
      | some (n, neg), _, _ => return .letter span n neg
      | _, some d, _ => return .literal ⟨span, d, false⟩
      | _, _, some a => return .assertion span a
      | _, _, _ => fail .escapeUnknown span

/-- A character outside brackets. -/
def readPrimitive (c : Char) : Scan Primitive := do
  if c = '\\' then readEscape
  else
    let span ← charSpan
    step
    match c with
    | '.' => return .dot span
    | '^' => return .assertion span .startLine
    | '$' => return .assertion span .endLine
    | c => return .literal ⟨span, c, false⟩

/-- A character between brackets. -/
def readClassPrimitive (c : Char) : Scan Primitive := do
  if c = '\\' then readEscape
  else
    let span ← charSpan
    step
    return .literal ⟨span, c, false⟩

end AlarmClock.Pattern
