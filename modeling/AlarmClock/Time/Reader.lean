import AlarmClock.Text.Blank
import AlarmClock.Time.DateTime

/-! Reading date-times and minutes of the day. A written form is a list of pieces;
a number may stand behind blanks and may lack leading zeros, a year may carry a
sign and only then has more than four digits. Three forms of a date-time are
tried in order. -/

namespace AlarmClock

open Text

/-- Why a text is not the written form of a time. -/
inductive TimeError where
  | invalid | tooShort | tooLong | outOfRange
  deriving DecidableEq, Repr

def TimeError.message : TimeError → String
  | invalid => "input contains invalid characters"
  | tooShort => "premature end of input"
  | tooLong => "trailing input"
  | outOfRange => "input is out of range"

/-! ### Written forms -/

/-- The numbers of a written time. -/
inductive TimeField where
  | year | month | day | hour | minute | second
  deriving DecidableEq, Repr

/-- A part of a written form: a number, one fixed character, or any number of blanks. -/
inductive TimePiece where
  | number (field : TimeField)
  | mark (c : Char)
  | blanks
  deriving DecidableEq, Repr

/-- The numbers read so far; what a form leaves out keeps the value it starts with. -/
structure TimeFields where
  year : Int := 1
  month : Nat := 1
  day : Nat := 1
  hour : Nat := 0
  minute : Nat := 0
  second : Nat := 0
  deriving DecidableEq, Repr

/-- The least and the greatest value of a number. -/
def TimeField.range : TimeField → Int × Int
  | .year => (-2147483648, 2147483647)
  | .month => (1, 12)
  | .day => (1, 31)
  | .hour => (0, 23)
  | .minute => (0, 59)
  | .second => (0, 60)

def TimeFields.set (fs : TimeFields) : TimeField → Int → TimeFields
  | .year, v => { fs with year := v }
  | .month, v => { fs with month := v.toNat }
  | .day, v => { fs with day := v.toNat }
  | .hour, v => { fs with hour := v.toNat }
  | .minute, v => { fs with minute := v.toNat }
  | .second, v => { fs with second := v.toNat }

/-- The digits at the start of a text, as many as a width allows, and the rest. -/
def splitDigits (width : Option Nat) (s : List Char) : List Char × List Char :=
  let digits := ((s.take (width.getD s.length)).takeWhile isDigit)
  (digits, s.drop digits.length)

/-- A number without sign at the start of a text. It has to fit into 63 bits. -/
def readCount (width : Option Nat) (s : List Char) : Except TimeError (Nat × List Char) :=
  if s = [] then .error .tooShort
  else
    let (digits, rest) := splitDigits width s
    if digits = [] then .error .invalid
    else if 2 ^ 63 ≤ value digits then .error .outOfRange
    else .ok (value digits, rest)

/-- A number behind blanks: a year may have a sign, and any number of digits behind one. -/
def TimeField.readNumber (f : TimeField) (s : List Char) : Except TimeError (Int × List Char) :=
  match f, skipBlanks s with
  | .year, '-' :: r => (readCount none r).map fun (n, r) => (-(n : Int), r)
  | .year, '+' :: r => (readCount none r).map fun (n, r) => ((n : Int), r)
  | .year, r => (readCount (some 4) r).map fun (n, r) => ((n : Int), r)
  | _, r => (readCount (some 2) r).map fun (n, r) => ((n : Int), r)

def TimePiece.read (fs : TimeFields) (s : List Char) : TimePiece → Except TimeError (TimeFields × List Char)
  | .number f =>
    match f.readNumber s with
    | .error e => .error e
    | .ok (v, r) => if f.range.1 ≤ v ∧ v ≤ f.range.2 then .ok (fs.set f v, r) else .error .outOfRange
  | .mark c =>
    match s with
    | [] => .error .tooShort
    | d :: r => if d = c then .ok (fs, r) else .error .invalid
  | .blanks => .ok (fs, skipBlanks s)

/-- The numbers of a whole text in a written form. -/
def readPieces : List TimePiece → TimeFields → List Char → Except TimeError TimeFields
  | [], fs, [] => .ok fs
  | [], _, _ :: _ => .error .tooLong
  | p :: ps, fs, s =>
    match p.read fs s with
    | .error e => .error e
    | .ok (fs, r) => readPieces ps fs r

/-! ### Date-times -/

def datePieces : List TimePiece :=
  [.number .year, .mark '-', .number .month, .mark '-', .number .day]

def minutePieces : List TimePiece := [.number .hour, .mark ':', .number .minute]

def secondPieces : List TimePiece := minutePieces ++ [.mark ':', .number .second]

/-- The instant that the numbers of a text name, if the calendar has it. -/
def TimeFields.dateTime? (fs : TimeFields) : Option DateTime :=
  match Civil.date? ⟨fs.year, fs.month, fs.day⟩, TimeOfDay.ofParts? fs.hour fs.minute fs.second with
  | some d, some t => some ⟨d, t⟩
  | _, _ => none

/-- A whole text as a date-time of one form. -/
def readForm (pieces : List TimePiece) (s : List Char) : Except TimeError DateTime :=
  match readPieces pieces {} s with
  | .error e => .error e
  | .ok fs =>
    match fs.dateTime? with
    | none => .error .outOfRange
    | some a => .ok a

/-- The three forms of a date-time: to the second behind a `T` or a blank, and to the minute behind a `T`. -/
def isoForm : List TimePiece := datePieces ++ .mark 'T' :: secondPieces
def blankForm : List TimePiece := datePieces ++ .blanks :: secondPieces
def shortForm : List TimePiece := datePieces ++ .mark 'T' :: minutePieces

/-- A date-time with blanks around it; where no form fits, the last one says why. -/
def DateTime.read (text : String) : Except TimeError DateTime :=
  let s := trim text.toList
  match readForm isoForm s with
  | .ok a => .ok a
  | .error _ =>
    match readForm blankForm s with
    | .ok a => .ok a
    | .error _ => readForm shortForm s

/-- A minute of the day with blanks around it. -/
def DayMinute.read (text : String) : Except TimeError DayMinute :=
  match readPieces minutePieces {} (trim text.toList) with
  | .error e => .error e
  | .ok fs =>
    if h : fs.hour < 24 ∧ fs.minute < 60 then .ok ⟨fs.hour * 60 + fs.minute, by omega⟩ else .error .outOfRange

/-- A time of day to the second. -/
def TimeOfDay.read (text : String) : Except TimeError TimeOfDay :=
  match readPieces secondPieces {} text.toList with
  | .error e => .error e
  | .ok fs =>
    match TimeOfDay.ofParts? fs.hour fs.minute fs.second with
    | none => .error .outOfRange
    | some t => .ok t

end AlarmClock
