import AlarmClock.Decimal.Shortest
import AlarmClock.Text.Quoted

/-! Why a text is not JSON, or not JSON of an expected shape, and where. The place of
a failure is known by what was left to read; line and column count from there. -/

namespace AlarmClock.Json

/-- A kind of value that stands where another one was expected. -/
inductive Found where
  | null
  | bool (b : Bool)
  | int (n : Int)
  | float (f : Binary64)
  | str (s : String)
  | sequence
  | map

def Found.text : Found → String
  | null => "null"
  | bool b => s!"boolean `{b}`"
  | int n => s!"integer `{n}`"
  | float f => "floating point `" ++ String.ofList f.chars ++ "`"
  | str s => "string " ++ Text.quotedText s
  | sequence => "sequence"
  | map => "map"

/-- What is wrong with a value of the wrong shape. -/
inductive ShapeError where
  | wrongType (found : Found) (expected : String)
  | wrongValue (found : Found) (expected : String)
  | wrongLength (length : Nat) (expected : String)
  | missingField (name : String)
  | duplicateField (name : String)

def ShapeError.message : ShapeError → String
  | wrongType f e => "invalid type: " ++ f.text ++ ", expected " ++ e
  | wrongValue f e => "invalid value: " ++ f.text ++ ", expected " ++ e
  | wrongLength n e => s!"invalid length {n}, expected " ++ e
  | missingField n => s!"missing field `{n}`"
  | duplicateField n => s!"duplicate field `{n}`"

/-- What is wrong with a text. -/
inductive Cause where
  | endInValue | endInObject | endInList | endInString
  | noColon | noListEnd | noObjectEnd | noWord | noValue
  | badEscape | badNumber | numberTooLarge | loneSurrogate | hexEscapeEnd | controlCharacter
  | keyNotString | trailingComma | trailingCharacters | tooDeep
  | shape (e : ShapeError)

def Cause.message : Cause → String
  | endInValue => "EOF while parsing a value"
  | endInObject => "EOF while parsing an object"
  | endInList => "EOF while parsing a list"
  | endInString => "EOF while parsing a string"
  | noColon => "expected `:`"
  | noListEnd => "expected `,` or `]`"
  | noObjectEnd => "expected `,` or `\x7d`"
  | noWord => "expected ident"
  | noValue => "expected value"
  | badEscape => "invalid escape"
  | badNumber => "invalid number"
  | numberTooLarge => "number out of range"
  | loneSurrogate => "lone leading surrogate in hex escape"
  | hexEscapeEnd => "unexpected end of hex escape"
  | controlCharacter => "control character (\\u0000-\\u001F) found while parsing a string"
  | keyNotString => "key must be a string"
  | trailingComma => "trailing comma"
  | trailingCharacters => "trailing characters"
  | tooDeep => "recursion limit exceeded"
  | shape e => e.message

/-- A cause with the text left to read and the number of bytes of it that were looked at. -/
structure Failure where
  cause : Cause
  rest : List Char
  ahead : Nat

/-- What reading from the front of a text gives: a value and the rest, or a failure. -/
abbrev Result (α : Type) := Except Failure (α × List Char)

/-- A failure in front of the rest. -/
def failAt {α : Type} (c : Cause) (rest : List Char) : Except Failure α := .error ⟨c, rest, 0⟩

/-- A failure at the first byte of the rest. -/
def failOn {α : Type} (c : Cause) (rest : List Char) : Except Failure α := .error ⟨c, rest, 1⟩

/-- The bytes that a text takes in UTF-8. -/
def byteLength : List Char → Nat
  | [] => 0
  | c :: s => c.utf8Size + byteLength s

/-- A place in a text. Lines count from one, columns are the bytes of the line up to the place. -/
structure Position where
  line : Nat
  column : Nat
  deriving DecidableEq, Repr

/-- The place where reading a text stopped. -/
def Failure.position (f : Failure) (text : String) : Position :=
  let bytes := text.toUTF8.data.toList
  let before := bytes.take (bytes.length - byteLength f.rest + f.ahead)
  ⟨before.count 10 + 1, (before.reverse.takeWhile (· ≠ 10)).length⟩

end AlarmClock.Json
