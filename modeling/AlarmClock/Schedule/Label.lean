import AlarmClock.Time.Printer

/-! What a display shows of the upcoming alarm: weekday and minute on a clock of twelve or
of twenty-four hours. -/

namespace AlarmClock

inductive ClockFace where
  | hours24 | hours12
  deriving DecidableEq, Repr

/-- Weekday, hour and minute of an instant. -/
def DateTime.labelChars (face : ClockFace) (a : DateTime) : List Char :=
  a.date.weekday.name ++ ' ' ::
    match face with
    | .hours24 => a.time.minuteChars
    | .hours12 => a.time.halfDayChars

/-- What is shown when no alarm is to come. -/
def noUpcomingText : String := "no upcoming alarm"

def upcomingText (face : ClockFace) : Option DateTime → String
  | some a => String.ofList (a.labelChars face)
  | none => noUpcomingText

end AlarmClock
