import AlarmClock.Text.Utf8

/-! Texts as a terminal shows them: without the control characters of ASCII and without the
sequences that an escape starts. Tabs and line ends stay. -/

namespace AlarmClock.Text

/-- Where a terminal stands in a text. -/
inductive Control where
  /-- Outside all sequences. -/
  | ground
  /-- Behind an escape. -/
  | escape
  /-- Behind an escape and signs between it and its last character. -/
  | escapeSigns
  /-- In a sequence with numbers, which a letter ends. -/
  | numbers
  /-- In the head of a string for the device. -/
  | device | deviceNumbers | deviceSigns
  /-- In a string that its terminator ends. -/
  | string
  /-- In a command that a bell ends as well. -/
  | command
  deriving DecidableEq, Repr

namespace Control

/-- The control characters that are shown. -/
def isSpacing (c : Char) : Bool := c = '\t' || c = '\n' || c = '\x0c' || c = '\r'

/-- The characters that are shown outside all sequences. -/
def isShown (c : Char) : Bool := isSpacing c || (0x20 ≤ c.toNat && c.toNat ≠ 0x7F)

/-- Where a character behind an escape leads. -/
def behindEscape (c : Char) : Control :=
  let n := c.toNat
  if n < 0x20 || 0x7E < n then escape
  else if n < 0x30 then escapeSigns
  else if c = '[' then numbers
  else if c = ']' then command
  else if c = 'P' then device
  else if c = 'X' || c = '^' || c = '_' then string
  else ground

/-- The byte that ends a string. -/
def terminator : Nat := 0x9C

/-- Where a character leads that neither starts nor breaks off a sequence, and stays hidden. -/
def behind (c : Char) : Control → Control
  | ground => ground
  | escape => behindEscape c
  | escapeSigns => if 0x30 ≤ c.toNat && c.toNat ≤ 0x7E then ground else escapeSigns
  | numbers => if 0x40 ≤ c.toNat && c.toNat ≤ 0x7E then ground else numbers
  | device =>
    let n := c.toNat
    if n < 0x20 || 0x7E < n then device
    else if n < 0x30 then deviceSigns
    else if n < 0x40 && c ≠ ':' then deviceNumbers
    else string
  | deviceNumbers =>
    let n := c.toNat
    if n < 0x20 || 0x7E < n || c.isDigit || c = ';' then deviceNumbers
    else if n < 0x30 then deviceSigns
    else string
  | deviceSigns => if 0x30 ≤ c.toNat && c.toNat ≤ 0x7E then string else deviceSigns
  | string => if terminator ∈ utf8 c then ground else string
  | command => if c = '\x07' then ground else command

/-- Whether spacing is shown in a sequence, which it breaks off. -/
def showsSpacing : Control → Bool
  | escape | escapeSigns | numbers => true
  | _ => false

/-- What a terminal shows of a text. -/
def visible : Control → List Char → List Char
  | _, [] => []
  | st, c :: r =>
    if st = ground ∧ isShown c then c :: visible ground r
    else if showsSpacing st ∧ isSpacing c then c :: visible ground r
    else if c = '\x1b' then visible escape r
    else if c = '\x18' ∨ c = '\x1a' then visible ground r
    else visible (behind c st) r

end Control

/-- A text without its control characters and sequences. -/
def visible (s : List Char) : List Char := Control.visible .ground s

end AlarmClock.Text
