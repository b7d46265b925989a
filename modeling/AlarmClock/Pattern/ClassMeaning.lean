import AlarmClock.Pattern.Tree
import AlarmClock.Text.CharSet

/-! Which characters the classes of a pattern mean. Either characters of all scripts count or
ASCII alone; in the latter case a class must not reach further. -/

namespace AlarmClock.Pattern

open Text

/-- How the parts of a pattern are taken. -/
structure Modes where
  anyCase : Bool := false
  /-- Whether the ends of a line count as the ends of the text. -/
  multiLine : Bool := false
  /-- Whether a dot stands for line ends too. -/
  dotAll : Bool := false
  allScripts : Bool := true
  /-- Whether a return ends a line too. -/
  returns : Bool := false
  deriving DecidableEq, Repr

namespace Modes

def switch (m : Modes) (s : Switch) : Modes :=
  match s.flag with
  | .anyCase => { m with anyCase := s.on }
  | .multiLine => { m with multiLine := s.on }
  | .dotAll => { m with dotAll := s.on }
  | .unicode => { m with allScripts := s.on }
  | .returns => { m with returns := s.on }
  | .swapGreed | .spaced => m

/-- The last code point that there is. -/
def top (m : Modes) : Nat := if m.allScripts then 0x10FFFF else 0xFF

/-- The set that a class at a span lists, in the cases that count. -/
def cased (m : Modes) (span : Span) (s : CharSet) : Except Fault CharSet :=
  if !m.anyCase then .ok s
  else if !m.allScripts then .ok s.withAsciiCases
  else if s.isEmpty then .ok s
  else .error { kind := .noUnicodeCase, span := span }

/-- The set or what it leaves out. -/
def turned (m : Modes) (span : Span) (negated : Bool) (s : CharSet) : Except Fault CharSet :=
  let s := if negated then s.complement m.top else s
  if m.allScripts || s.isUpTo 0x7F then .ok s else .error { kind := .badBytes, span := span }

/-- The set that a class at a span means. -/
def classSet (m : Modes) (span : Span) (negated : Bool) (s : CharSet) : Except Fault CharSet := do
  m.turned span negated (← m.cased span s)

/-- The character that a literal stands for. One that stands for a byte beyond ASCII needs characters of all
scripts. -/
def character (m : Modes) (l : Literal) : Except Fault Char :=
  if !m.allScripts && l.isByte && 0x7F < l.char.toNat then .error { kind := .badBytes, span := l.span }
  else .ok l.char

/-- The character that a literal in a class stands for. -/
def classCharacter (m : Modes) (l : Literal) : Except Fault Char := do
  let c ← m.character l
  if m.allScripts || c.toNat ≤ 0x7F then return c else .error { kind := .beyondAscii, span := l.span }

end Modes

/-! ### Classes with names -/

/-- The set of some ranges of characters. -/
def charRanges (rs : List (Char × Char)) : CharSet := .ofRanges (rs.map fun (a, b) => (a.toNat, b.toNat))

def NamedClass.set : NamedClass → CharSet
  | .alnum => charRanges [('0', '9'), ('A', 'Z'), ('a', 'z')]
  | .alpha => charRanges [('A', 'Z'), ('a', 'z')]
  | .ascii => ⟨[(0, 0x7F)]⟩
  | .blank => charRanges [('\t', '\t'), (' ', ' ')]
  | .cntrl => ⟨[(0, 0x1F), (0x7F, 0x7F)]⟩
  | .digit => charRanges [('0', '9')]
  | .graph => charRanges [('!', '~')]
  | .lower => charRanges [('a', 'z')]
  | .print => charRanges [(' ', '~')]
  | .punct => charRanges [('!', '/'), (':', '@'), ('[', '\x60'), ('\x7b', '~')]
  | .space => charRanges [('\t', '\r'), (' ', ' ')]
  | .upper => charRanges [('A', 'Z')]
  | .word => charRanges [('0', '9'), ('A', 'Z'), ('_', '_'), ('a', 'z')]
  | .xdigit => charRanges [('0', '9'), ('A', 'F'), ('a', 'f')]

/-- The class of a letter in ASCII. -/
def LetterClass.set : LetterClass → CharSet
  | .digit => NamedClass.digit.set
  | .space => NamedClass.space.set
  | .word => NamedClass.word.set

/-- The class of a letter at a span. Those of all scripts are not known. -/
def LetterClass.classSet (n : LetterClass) (m : Modes) (span : Span) (negated : Bool) : Except Fault CharSet :=
  if m.allScripts then .error { kind := .noLetterClass, span := span } else m.turned span negated n.set

/-! ### Properties -/

/-- The letters by which a property is looked up. -/
def Property.key (name : List Char) : List Char :=
  let hasIs := (name.take 2).map Char.toLower = ['i', 's']
  let rest := if hasIs then name.drop 2 else name
  let key := (rest.filter fun c => c ≠ ' ' && c ≠ '_' && c ≠ '-' && c.toNat ≤ 0x7F).map Char.toLower
  if hasIs ∧ key = ['c'] then ['i', 's', 'c'] else key

/-- Why a property means nothing: none is known. Three short names can only be values. -/
def Property.fault (p : Property) (m : Modes) : Fault :=
  let values : List (List Char) := [['c', 'f'], ['s', 'c'], ['l', 'c']]
  { span := p.span
    kind :=
      if !m.allScripts then .beyondAscii
      else if !p.hasValue ∧ Property.key p.name ∈ values then .noPropertyValue
      else .noProperty }

/-! ### Classes between brackets -/

def ClassOp.apply (o : ClassOp) (m : Modes) (s t : CharSet) : CharSet :=
  match o with
  | .meet => s.meet t
  | .minus => s.minus m.top t
  | .either => s.either m.top t

mutual

/-- The characters that the text between brackets lists. -/
def ClassTree.set (m : Modes) : ClassTree → Except Fault CharSet
  | .empty _ => .ok ⟨[]⟩
  | .literal l => return .single (← m.classCharacter l)
  | .range _ a b => do
    let first ← m.classCharacter a
    let last ← m.classCharacter b
    return ⟨[(first.toNat, last.toNat)]⟩
  | .named span n negated => m.classSet span negated n.set
  | .letter span n negated => n.classSet m span negated
  | .property p => .error (p.fault m)
  | .bracketed span negated sub => do m.classSet span negated (← sub.set m)
  | .union _ subs => ClassTree.unionSet m subs
  | .op _ o l r => do
    let s ← l.set m
    let t ← r.set m
    let t ← m.cased r.span t
    let s ← m.cased l.span s
    return o.apply m s t

/-- The characters that some parts list together. -/
def ClassTree.unionSet (m : Modes) : List ClassTree → Except Fault CharSet
  | [] => .ok ⟨[]⟩
  | t :: ts => do
    let s ← t.set m
    return s.union (← ClassTree.unionSet m ts)

end

end AlarmClock.Pattern
