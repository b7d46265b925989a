import AlarmClock.Configuration.Document
import AlarmClock.Schedule.Basic
import AlarmClock.Schedule.Label

/-! The report on a configuration: its timeouts, a line for each alarm with what is next for
it, and the upcoming alarm. -/

namespace AlarmClock

open Text

/-- A text with blanks behind it up to a width. -/
def padRight (width : Nat) (s : String) : String := s ++ String.ofList (List.replicate (width - s.length) ' ')

/-- A text with blanks in front of it up to a width. -/
def padLeft (width : Nat) (s : String) : String := String.ofList (List.replicate (width - s.length) ' ') ++ s

/-- The line for an alarm. -/
def Alarm.reportLine (face : ClockFace) (now : DateTime) (a : Alarm) : String :=
  let next := match a.nextInstance now with
    | some i => upcomingText face (some i)
    | none => "disabled"
  let time := String.ofList a.time.chars
  let volume := padLeft 3 (toString a.volume.level)
  s!"  {a.id} {time} {padRight 8 a.period.word} vol {volume} {a.timeout.wholeMinutes} min -> {next} ({a.media})"

/-- The lines of the report; `label` names the clock that was read. -/
def Document.report (d : Document) (label : String) (face : ClockFace) (now : DateTime) : List String :=
  ["roosterd configuration check", s!"Clock source: {label}", s!"Now: {now.reportText}",
    s!"Alarm timeout: {d.alarmTimeout.wholeMinutes} min", s!"Sleep timeout: {d.sleepTimeout.wholeMinutes} min",
    s!"Alarms: {d.alarms.length}"] ++
    d.alarms.map (Alarm.reportLine face now) ++
    ["Upcoming alarm: " ++ upcomingText face ((upcoming? d.alarms now).map (·.2))]

end AlarmClock
