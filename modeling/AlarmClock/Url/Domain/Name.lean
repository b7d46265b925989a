import AlarmClock.Text.Composition
import AlarmClock.Text.Mark
import AlarmClock.Text.Split
import AlarmClock.Url.Domain.Direction
import AlarmClock.Url.Domain.Joining
import AlarmClock.Url.Domain.Mapping
import AlarmClock.Url.Domain.Punycode

/-! Domain names in ASCII. Every character is mapped, the text is composed and taken
apart at its points; a label that is not ASCII is written in ASCII behind a marker,
and one with the marker has to be what would have been written. -/

namespace AlarmClock.Domain

open Text

/-- The characters in front of a label written in ASCII. -/
def asciiMarker : List Char := ['x', 'n', '-', '-']

def isAscii (c : Char) : Bool := c.toNat < 0x80

/-- The characters that no domain name holds. -/
def isForbidden (c : Char) : Bool :=
  c.toNat ≤ 0x20 || c.toNat = 0x7F || c ∈ ['%', '#', '/', ':', '<', '>', '?', '@', '[', '\\', ']', '^', '|']

/-- The characters that a label beyond ASCII may have. -/
def maxLabelLength : Nat := 1000

/-- The characters that may stand behind the marker of a label written in ASCII. -/
def maxAsciiLength : Nat := 2000

/-- Whether a label beyond ASCII is in its final form. -/
def labelOk (label : List Char) : Bool :=
  label.length ≤ maxLabelLength && label.all (fun c => mapChar? c = some [c]) && composed label = label &&
    joinersOk [] label &&
    match label with
    | [] => true
    | c :: _ => !isMark c

/-- A label as it reads and as it is written in ASCII. -/
structure Label where
  text : List Char
  ascii : List Char

/-- The two forms of a mapped and composed label. -/
def Label.ofText? (s : List Char) : Option Label :=
  if asciiMarker.isPrefixOf s then
    if s.all isAscii ∧ s.length ≤ asciiMarker.length + maxAsciiLength then
      match punyDecode? (s.drop asciiMarker.length) with
      | none => none
      | some t => if labelOk t && !t.all isAscii then some ⟨t, s⟩ else none
    else none
  else if s.all isAscii then some ⟨s, s⟩
  else if labelOk s then some ⟨s, asciiMarker ++ punyEncode s⟩
  else none

/-- A text mapped character by character. -/
def mapAll? (s : List Char) : Option (List Char) := (s.mapM mapChar?).map List.flatten

/-- A domain name in ASCII, if it is one. -/
def toAscii? (s : List Char) : Option (List Char) :=
  match mapAll? s with
  | none => none
  | some t =>
    match (parts (· = '.') (composed t)).mapM Label.ofText? with
    | none => none
    | some labels =>
      let mixed := labels.any (·.text.any turnsAround)
      let name := ['.'].intercalate (labels.map (·.ascii))
      if (mixed && !labels.all (directionOk ·.text)) || name.any isForbidden then none else some name

end AlarmClock.Domain
