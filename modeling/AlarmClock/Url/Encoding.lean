import AlarmClock.Text.Numeral
import AlarmClock.Text.Utf8

/-! Percent-encoding. The parts of an address differ in the ASCII characters that
they encode; all encode controls and what is not ASCII. -/

namespace AlarmClock.Url

open Text

/-- The characters that every part encodes. -/
def isControl (c : Char) : Bool := c.toNat < 0x20 || 0x7F ≤ c.toNat

/-- The characters that fragments encode. -/
def inFragment (c : Char) : Bool := isControl c || c ∈ [' ', '"', '<', '>', '\x60']

/-- The characters that paths encode. -/
def inPath (c : Char) : Bool := inFragment c || c ∈ ['#', '?', '\x7b', '\x7d']

/-- The characters that user names and passwords encode. -/
def inUserInfo (c : Char) : Bool := inPath c || c ∈ ['/', ':', ';', '=', '@', '[', '\\', ']', '^', '|']

/-- The characters that queries encode. -/
def inQuery (c : Char) : Bool := isControl c || c ∈ [' ', '"', '#', '<', '>']

/-- The characters that queries of the well-known schemes encode. -/
def inSpecialQuery (c : Char) : Bool := inQuery c || c = '\''

/-- A byte as a percent sign and two digits. -/
def percentByte (b : Nat) : List Char := ['%', hexCharUpper (b / 16), hexCharUpper (b % 16)]

/-- A text with the characters of a set encoded. -/
def encode (set : Char → Bool) (s : List Char) : List Char :=
  s.flatMap fun c => if set c then (utf8 c).flatMap percentByte else [c]

/-- The bytes of a text, with each percent sign and two digits read as one byte. -/
def decodeBytes : List Char → List Nat
  | '%' :: a :: b :: r =>
    match hexValue? a, hexValue? b with
    | some x, some y => (16 * x + y) :: decodeBytes r
    | _, _ => 0x25 :: decodeBytes (a :: b :: r)
  | c :: r => utf8 c ++ decodeBytes r
  | [] => []

end AlarmClock.Url
