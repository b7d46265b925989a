import AlarmClock.Pattern.ClassMeaning
import AlarmClock.Pattern.Reader
import AlarmClock.Pattern.Size

/-! What a written pattern means. Flags count from where they stand up to the end of their
group. -/

namespace AlarmClock.Pattern

open Text

/-! ### Parts -/

/-- What can be said of a place by a sign. -/
def Assertion.look (m : Modes) : Assertion → Look
  | .startLine => if m.multiLine then .lineStart m.returns else .textStart
  | .endLine => if m.multiLine then .lineEnd m.returns else .textEnd
  | .startText => .textStart
  | .endText => .textEnd
  | .boundary => .word .boundary m.allScripts
  | .noBoundary => .word .noBoundary m.allScripts
  | .wordStart => .word .start m.allScripts
  | .wordEnd => .word .stop m.allScripts
  | .wordStartHalf => .word .startHalf m.allScripts
  | .wordEndHalf => .word .stopHalf m.allScripts

/-- The characters that a dot stands for. -/
def Modes.dotSet (m : Modes) : CharSet :=
  let lineEnds : CharSet :=
    if m.dotAll then ⟨[]⟩ else if m.returns then charRanges [('\n', '\n'), ('\r', '\r')] else .single '\n'
  lineEnds.complement m.top

/-- A dot at a span. -/
def Modes.dot (m : Modes) (span : Span) : Except Fault Pattern :=
  if m.allScripts then .ok (ofSet m.dotSet) else .error { kind := .badBytes, span := span }

/-- A character by itself. -/
def Modes.literal (m : Modes) (l : Literal) : Except Fault Pattern := do
  let c ← m.character l
  if !m.anyCase then return single c
  else if m.allScripts then .error { kind := .noUnicodeCase, span := l.span }
  else return ofSet (CharSet.single c).withAsciiCases

/-! ### Trees -/

/-- Something that depends on how the parts of a pattern are taken. -/
def withModes {α : Type} (f : Modes → Except Fault α) : StateT Modes (Except Fault) α := do f (← get)

mutual

/-- The pattern that a tree means, and the modes behind it. -/
def Tree.meaning : Tree → StateT Modes (Except Fault) Pattern
  | .empty _ => return emptyText
  | .switches _ ss => do
    modify fun m => ss.foldl Modes.switch m
    return emptyText
  | .literal l => withModes fun m => m.literal l
  | .dot span => withModes fun m => m.dot span
  | .assertion _ a => withModes fun m => .ok (look (a.look m))
  | .letter span n negated => withModes fun m => ofSet <$> n.classSet m span negated
  | .property p => withModes fun m => .error (p.fault m)
  | .bracketed span negated sub => withModes fun m => do
    let s ← sub.set m
    return ofSet (← m.classSet span negated s)
  | .repetition _ sub least most => return (← sub.meaning).times least most
  | .group _ captures ss sub => do
    let outside ← get
    modify fun m => ss.foldl Modes.switch m
    let p ← sub.meaning
    set outside
    return if captures then captured p else p
  | .concat _ subs => ofSequence <$> Tree.meanings subs
  | .alternation _ subs => ofBranches <$> Tree.meanings subs

/-- The patterns that trees mean, in order. -/
def Tree.meanings : List Tree → StateT Modes (Except Fault) (List Pattern)
  | [] => return []
  | t :: ts => do
    let p ← t.meaning
    return p :: (← Tree.meanings ts)

end

/-! ### Whole patterns -/

/-- Whether something is asked about words of all scripts. -/
def asksAllScripts : Pattern → Bool
  | emptyText | single _ | oneOf _ => false
  | look (.word _ allScripts) => allScripts
  | look _ => false
  | captured p => p.asksAllScripts
  | repeated p _ _ => p.asksAllScripts
  | seq p q => p.asksAllScripts || q.asksAllScripts
  | alt p q => p.asksAllScripts || q.asksAllScripts

/-- Why there is no pattern for a text. -/
inductive ReadError where
  | fault (pattern : List Char) (f : Fault)
  | tooBig
  /-- It asks about words of all scripts. -/
  | allScripts
  deriving DecidableEq, Repr

def ReadError.message : ReadError → String
  | fault pattern f => f.text pattern
  | tooBig => s!"Compiled regex exceeds size limit of {sizeLimit} bytes."
  | allScripts => "error building NFA"

/-- The pattern that a text writes. -/
def read (s : List Char) : Except ReadError Pattern :=
  match (do (Tree.meaning (← Tree.read s)).run {} : Except Fault (Pattern × Modes)) with
  | .error f => .error (.fault s f)
  | .ok (p, _) =>
    if p.isTooBig false then .error .tooBig
    else if p.asksAllScripts then .error .allScripts
    else if p.isTooBig true then .error .tooBig
    else .ok p

end AlarmClock.Pattern
