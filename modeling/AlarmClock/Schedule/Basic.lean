import AlarmClock.Alarm.Basic
import AlarmClock.Time.DateTime

/-! When alarms go off. The next instance of an alarm is its time on the first allowed day
that does not lie back; of several alarms the upcoming one is the first of those
whose next instance is soonest. -/

namespace AlarmClock

namespace Alarm

/-- The first date on which an alarm's time has not passed. -/
def firstDate? (a : Alarm) (now : DateTime) : Option Date :=
  if a.time.start < now.time then now.date.addDays? 1 else some now.date

/-- The next instant at which an alarm goes off; a disabled one has none, nor has one beyond the calendar. -/
def nextInstance (a : Alarm) (now : DateTime) : Option DateTime :=
  if a.enabled then
    match a.firstDate? now with
    | none => none
    | some d => (d.addDays? (a.period.wait d.weekday)).map fun d => ⟨d, a.time.start⟩
  else none

end Alarm

/-- The order of next instances; what has none comes last. -/
def compareInstances : Option DateTime → Option DateTime → Ordering
  | some a, some b => compare a.rank b.rank
  | some _, none => .lt
  | none, some _ => .gt
  | none, none => .eq

namespace Alarm

/-- The order of two alarms by their next instances. -/
def compareNext (a b : Alarm) (now : DateTime) : Ordering :=
  compareInstances (a.nextInstance now) (b.nextInstance now)

def firesBefore (a b : Alarm) (now : DateTime) : Bool := a.compareNext b now = .lt

/-- The one of two alarms that goes off first; the one seen earlier if neither does. -/
def sooner (now : DateTime) (best candidate : Alarm) : Alarm :=
  if candidate.firesBefore best now then candidate else best

end Alarm

/-- The first of the alarms that go off soonest. -/
def soonest? (now : DateTime) : List Alarm → Option Alarm
  | [] => none
  | a :: as => some (as.foldl (Alarm.sooner now) a)

/-- The alarm that goes off next, and when. -/
def upcoming? (alarms : List Alarm) (now : DateTime) : Option (Alarm × DateTime) :=
  (soonest? now alarms).bind fun a => (a.nextInstance now).map fun i => (a, i)

end AlarmClock
