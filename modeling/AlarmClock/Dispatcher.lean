import AlarmClock.Countdown
import AlarmClock.Effect
import AlarmClock.Schedule.Basic
import AlarmClock.Schedule.Label

/-! The dispatcher keeps one countdown armed for the upcoming alarm and sends that alarm
when it elapses. Having fired it chooses anew from one second later on; at the end of
the calendar there is no such second, and it stops there. -/

namespace AlarmClock

structure Dispatcher where
  countdown : Countdown := Countdown.idle
  upcoming : Option Uuid := none
  info : String := ""
  face : ClockFace
  deriving DecidableEq

/-- What came of looking at a countdown: it was not due, it fired, or it fired at the end of the calendar. -/
inductive Firing where
  | notDue | fired | calendarEnd
  deriving DecidableEq, Repr

namespace Dispatcher

/-- Shows a text, and tells so if it is a new one. -/
def publish (d : Dispatcher) (info : String) : Act Dispatcher :=
  if info = d.info then pure d
  else do
    emit (.upcomingChanged info)
    pure { d with info := info }

/-- Chooses the alarm that is upcoming at `reference` and arms the countdown for it. -/
def choose (d : Dispatcher) (alarms : List Alarm) (reference now : DateTime) : Act Dispatcher :=
  match upcoming? alarms reference with
  | some (a, instant) => do
    if d.upcoming ≠ some a.id then note (.nextAlarm a.id instant)
    publish { d with upcoming := some a.id, countdown := Countdown.armUntil now instant }
      (upcomingText d.face (some instant))
  | none => do
    if d.upcoming.isSome || d.countdown.isActive then note .noAlarm
    publish { d with upcoming := none, countdown := d.countdown.cancel } (upcomingText d.face none)

/-- Chooses anew from now on. -/
def check (d : Dispatcher) (alarms : List Alarm) (now : DateTime) : Act Dispatcher := d.choose alarms now now

/-- Sends the chosen alarm as it is now, unless it has been disabled or deleted. -/
def fire (d : Dispatcher) (alarms : List Alarm) (now : DateTime) : Act Unit :=
  match d.upcoming with
  | none => pure ()
  | some id =>
    match alarms.find? (·.id = id) with
    | none => note (.vanished (.notFound id))
    | some a =>
      if a.enabled then do
        note (.triggered id now)
        emit (.alarmTriggered a)
      else pure ()

/-- Looks at the clock, and fires if the countdown is due. -/
def poll (d : Dispatcher) (alarms : List Alarm) (now : DateTime) : Act (Dispatcher × Firing) :=
  if d.countdown.isDue now then do
    let d := { d with countdown := d.countdown.cancel }
    d.fire alarms now
    match now.add? Span.second with
    | none => pure (d, .calendarEnd)
    | some reference =>
      let d ← d.choose alarms reference now
      pure (d, .fired)
  else pure (d, .notDue)

/-- Time until the chosen alarm. -/
def remaining (d : Dispatcher) (now : DateTime) : Option Span := d.countdown.remaining now

end Dispatcher

end AlarmClock
