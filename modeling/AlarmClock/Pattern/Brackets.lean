import AlarmClock.Pattern.Escape

/-! Reading classes between brackets: characters, ranges, classes by name, brackets inside
brackets, and the signs that put two classes together. -/

namespace AlarmClock.Pattern

open Text Scan

/-! ### Parts under way -/

/-- Parts of a class that stand side by side, the last one first. -/
structure Parts where
  span : Span
  items : List ClassTree := []

namespace Parts

def push (u : Parts) (t : ClassTree) : Parts where
  span := ⟨if u.items = [] then t.span.start else u.span.start, t.span.stop⟩
  items := t :: u.items

/-- The parts as one tree; a single part needs no union around it. -/
def tree (u : Parts) : ClassTree :=
  match u.items with
  | [] => .empty u.span
  | [t] => t
  | ts => .union u.span ts.reverse

end Parts

/-- What a class waits for: the end of its brackets, or the right side of a sign. -/
inductive ClassFrame where
  | bracket (outside : Parts) (span : Span) (negated : Bool)
  | op (o : ClassOp) (left : ClassTree)

/-- A class that is the right side of a sign, if one waits, with what still waits. -/
def popOp (t : ClassTree) : List ClassFrame → ClassTree × List ClassFrame
  | .op o l :: fs => (.op ⟨l.span.start, t.span.stop⟩ o l t, fs)
  | fs => (t, fs)

/-- The fault of brackets that are not closed: it is that of the innermost. -/
def unclosed : List ClassFrame → Fault
  | [] => { kind := .classUnclosed, span := .point {} }
  | .bracket _ span _ :: _ => { kind := .classUnclosed, span := span }
  | .op _ _ :: fs => unclosed fs

/-! ### Names -/

def namedClass? (s : List Char) : Option NamedClass :=
  let all : List (String × NamedClass) :=
    [("alnum", .alnum), ("alpha", .alpha), ("ascii", .ascii), ("blank", .blank), ("cntrl", .cntrl), ("digit", .digit),
      ("graph", .graph), ("lower", .lower), ("print", .print), ("punct", .punct), ("space", .space), ("upper", .upper),
      ("word", .word), ("xdigit", .xdigit)]
  (all.find? fun x => x.1.toList = s).map (·.2)

/-- The class that a text starts with, by its name between colons and brackets: whether the rest is meant, and the
length. -/
def namedClassAt? (s : List Char) : Option (NamedClass × Bool × Nat) :=
  match s with
  | '[' :: ':' :: r =>
    let negated : Bool := r.head? = some '^'
    let r := if negated then r.drop 1 else r
    let name := r.takeWhile (· ≠ ':')
    if [':', ']'].isPrefixOf (r.drop name.length) then
      (namedClass? name).map fun n => (n, negated, name.length + (if negated then 5 else 4))
    else none
  | _ => none

/-! ### Opening -/

/-- The hyphens at the front of a class, which stand for themselves. -/
def readHyphens (start : Place) : Nat → Parts → Scan Parts
  | 0, u => return u
  | n + 1, u => do
    if (← next?) = some '-' then
      let span ← charSpan
      stepOver
      refuseEnd .classUnclosed (return .point start)
      readHyphens start n (u.push (.literal ⟨span, '-', false⟩))
    else return u

/-- An opening bracket with what belongs to it: a sign that the rest is meant, hyphens, or a closing bracket, which
stands for itself here. -/
def readOpening : Scan (Span × Bool × Parts) := do
  let start ← here
  stepOver
  refuseEnd .classUnclosed (spanFrom start)
  let negated : Bool := (← next?) = some '^'
  if negated then
    stepOver
    refuseEnd .classUnclosed (spanFrom start)
  let u ← readHyphens start (← left) { span := .point (← here) }
  if u.items.isEmpty ∧ (← next?) = some ']' then
    let span ← charSpan
    stepOver
    refuseEnd .classUnclosed (spanFrom start)
    return (← spanFrom start, negated, u.push (.literal ⟨span, ']', false⟩))
  else return (← spanFrom start, negated, u)

/-! ### Items -/

/-- A primitive as an item of its own. -/
def asItem (p : Primitive) : Scan ClassTree :=
  match p.classTree? with
  | some t => return t
  | none => fail .classEscape p.span

/-- A primitive as an end of a range. -/
def asBound (p : Primitive) : Scan Literal :=
  match p with
  | .literal l => return l
  | p => fail .classBoundary p.span

/-- A character, a class by a letter, or a range. -/
def readItem (frames : List ClassFrame) (c : Char) : Scan ClassTree := do
  let p ← readClassPrimitive c
  skipBlanks
  if ← atEnd then throw (unclosed frames)
  let s := (← get).second?
  if (← next?) ≠ some '-' ∨ s = some ']' ∨ s = some '-' then asItem p
  else
    stepOver
    match ← next? with
    | none => throw (unclosed frames)
    | some d =>
      let q ← readClassPrimitive d
      let span : Span := ⟨p.span.start, q.span.stop⟩
      let a ← asBound p
      let b ← asBound q
      if b.char.toNat < a.char.toNat then fail .classOrder span
      return .range span a b

/-- The sign that two characters make. -/
def classOp? : Char → Option Char → Option (ClassOp × List Char)
  | '&', some '&' => some (.meet, ['&', '&'])
  | '-', some '-' => some (.minus, ['-', '-'])
  | '~', some '~' => some (.either, ['~', '~'])
  | _, _ => none

/-- A class between brackets, with the brackets that are open and the parts of the innermost. -/
def readClassFrom : Nat → List ClassFrame → Parts → Scan Tree
  | 0, frames, _ => throw (unclosed frames)
  | n + 1, frames, u => do
    skipBlanks
    match ← next? with
    | none => throw (unclosed frames)
    | some '[' =>
      let start ← here
      let rest := (← get).rest
      match if frames.isEmpty then none else namedClassAt? rest with
      | some (name, negated, length) =>
        modify (Cursor.advance length)
        readClassFrom n frames (u.push (.named (← spanFrom start) name negated))
      | none =>
        let (span, negated, inner) ← readOpening
        readClassFrom n (.bracket u span negated :: frames) inner
    | some ']' =>
      let (t, frames) := popOp u.tree frames
      match frames with
      | .bracket outside span negated :: below =>
        step
        let span := ⟨span.start, ← here⟩
        if below.isEmpty then return .bracketed span negated t
        else readClassFrom n below (outside.push (.bracketed span negated t))
      | frames => throw (unclosed frames)
    | some c =>
      match classOp? c ((← get).rest[1]?) with
      | some (o, sign) =>
        modify (Cursor.advance sign.length)
        let (t, frames) := popOp u.tree frames
        readClassFrom n (.op o t :: frames) { span := .point (← here) }
      | none => readClassFrom n frames (u.push (← readItem frames c))

/-- A class, from its opening bracket on. -/
def readClass : Scan Tree := do readClassFrom (2 * (← left) + 1) [] { span := .point (← here) }

end AlarmClock.Pattern
