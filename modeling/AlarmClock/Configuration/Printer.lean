import AlarmClock.Alarm.Entry
import AlarmClock.Configuration.Document
import AlarmClock.Json.Printer

/-! The written form of a configuration: JSON with its fields in the order of their names
and a line end behind it. Timeouts are written in whole minutes. -/

namespace AlarmClock.Document

def toJson (d : Document) : Json :=
  .obj [("AlarmTimeout", .int d.alarmTimeout.wholeMinutes), ("Alarms", .arr (d.alarms.map Alarm.toJson)),
    ("SleepTimeout", .int d.sleepTimeout.wholeMinutes)]

def text (d : Document) : String := String.ofList (d.toJson.pretty 0 ++ ['\n'])

end AlarmClock.Document
