import AlarmClock.Time.DateTime

/-! The written forms of dates, times of day and instants. Years outside 0 to 9999
carry a sign; a fraction of a second has three, six or nine digits and is left
out when it is zero; the second 60 is a leap second. -/

namespace AlarmClock

open Text

/-- A year with at least four digits. -/
def yearChars (y : Int) : List Char :=
  if 0 ≤ y ∧ y ≤ 9999 then padded 4 y.toNat
  else (if y < 0 then '-' else '+') :: padded 4 y.natAbs

/-- A date as year, month and day. -/
def Date.chars (d : Date) : List Char :=
  yearChars d.civil.year ++ '-' :: padded 2 d.civil.month ++ '-' :: padded 2 d.civil.day

namespace TimeOfDay

/-- Hour and minute. -/
def minuteChars (t : TimeOfDay) : List Char := padded 2 t.hour ++ ':' :: padded 2 t.minute

/-- Hour, minute and second. -/
def secondChars (t : TimeOfDay) : List Char := t.minuteChars ++ ':' :: padded 2 t.secondOfMinute

/-- The fraction of the second behind a point, in the fewest groups of three digits. -/
def fractionChars (t : TimeOfDay) : List Char :=
  if t.fraction = 0 then []
  else if t.fraction % 1000000 = 0 then '.' :: padded 3 (t.fraction / 1000000)
  else if t.fraction % 1000 = 0 then '.' :: padded 6 (t.fraction / 1000)
  else '.' :: padded 9 t.fraction

/-- Hour of a twelve-hour clock, minute and half of the day. -/
def halfDayChars (t : TimeOfDay) : List Char :=
  padded 2 (if t.hour % 12 = 0 then 12 else t.hour % 12) ++ ':' :: padded 2 t.minute ++
    ' ' :: (if t.hour < 12 then 'A' else 'P') :: ['M']

end TimeOfDay

/-- Hour and minute of a minute of the day. -/
def DayMinute.chars (m : DayMinute) : List Char := padded 2 m.hour ++ ':' :: padded 2 m.minute

namespace DateTime

/-- Date and time to the second with `mark` between them. -/
def secondChars (mark : Char) (a : DateTime) : List Char := a.date.chars ++ mark :: a.time.secondChars

/-- Date and time to the minute with `mark` between them. -/
def minuteChars (mark : Char) (a : DateTime) : List Char := a.date.chars ++ mark :: a.time.minuteChars

/-- The instant with a `T` between date and time. -/
def isoText (a : DateTime) : String := String.ofList (a.secondChars 'T' ++ a.time.fractionChars)

/-- The instant with a blank between date and time. -/
def text (a : DateTime) : String := String.ofList (a.secondChars ' ' ++ a.time.fractionChars)

instance : ToString DateTime := ⟨text⟩

/-- Weekday, date and time to the second. -/
def reportText (a : DateTime) : String := String.ofList (a.date.weekday.name ++ ' ' :: a.secondChars ' ')

end DateTime

end AlarmClock
