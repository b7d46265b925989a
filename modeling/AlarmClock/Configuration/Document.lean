import AlarmClock.Alarm.Basic

/-! The configuration: two timeouts and the alarms in the order in which they were added. An
alarm is looked up, removed and replaced by the first that has its identifier. -/

namespace AlarmClock

structure Document where
  alarmTimeout : Span := Span.minutes 30 (by decide)
  sleepTimeout : Span := Span.minutes 60 (by decide)
  alarms : List Alarm := []
  deriving DecidableEq

namespace Document

instance : Inhabited Document := ⟨{}⟩

/-- The first alarm with an identifier. -/
def find? (d : Document) (id : Uuid) : Option Alarm := d.alarms.find? (·.id = id)

def hasAlarm (d : Document) (id : Uuid) : Bool := d.alarms.any (·.id = id)

def insert (d : Document) (a : Alarm) : Document := { d with alarms := d.alarms ++ [a] }

/-- The document without the first alarm with an identifier. -/
def remove (d : Document) (id : Uuid) : Document := { d with alarms := d.alarms.eraseP (·.id = id) }

/-- The alarms with another one in the place of the first that has an identifier. -/
def replaceFirst (id : Uuid) (b : Alarm) : List Alarm → List Alarm
  | [] => []
  | a :: as => if a.id = id then b :: as else a :: replaceFirst id b as

def replace (d : Document) (id : Uuid) (b : Alarm) : Document := { d with alarms := replaceFirst id b d.alarms }

end Document

end AlarmClock
