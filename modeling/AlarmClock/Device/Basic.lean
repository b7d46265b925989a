import AlarmClock.Dispatcher
import AlarmClock.Monitor
import AlarmClock.SleepTimer

/-! The device: store, dispatcher, monitor and sleep timer around one queue of events. All
timers are looked at before any event is routed; what routing sends goes behind the
events that wait. -/

namespace AlarmClock

/-- What a device is set up with. -/
structure Settings where
  grace : Span
  fallback : Url
  face : ClockFace

structure Device (π : Type) where
  store : Store
  dispatcher : Dispatcher
  monitor : Monitor π
  sleepTimer : SleepTimer
  queue : List Event

namespace Device

variable {π : Type}

/-- Puts what was sent behind the events that wait. -/
def queueUp (x : Act (Device π)) : Act (Device π) :=
  { x with value := { x.value with queue := x.value.queue ++ x.events } }

@[simp] theorem queue_queueUp (x : Act (Device π)) : (queueUp x).value.queue = x.value.queue ++ x.events := rfl

/-- A device with its alarms looked at once. -/
def start (store : Store) (player : π) (settings : Settings) (now : DateTime) : Act (Device π) :=
  queueUp do
    let dispatcher ← Dispatcher.check { face := settings.face } store.alarms now
    pure
      { store := store, dispatcher := dispatcher, monitor := Monitor.start player settings.grace settings.fallback
        sleepTimer := {}, queue := [] }

/-! ### What a device shows -/

def upcomingInfo (d : Device π) : String := d.dispatcher.info

def timeToNext (d : Device π) (now : DateTime) : Option Span := d.dispatcher.remaining now

def sleepMinutes (d : Device π) (now : DateTime) : Int := d.sleepTimer.remainingMinutes now

def sleepTimeout (d : Device π) : Span := d.store.document.sleepTimeout

/-! ### Routing -/

variable [Player π]

omit [Player π] in
/-- Looks at the dispatcher's countdown. -/
def pollDispatcher (d : Device π) (now : DateTime) : Act (Device π × Firing) := do
  let (dispatcher, firing) ← d.dispatcher.poll d.store.alarms now
  pure ({ d with dispatcher := dispatcher }, firing)

omit [Player π] in
/-- Looks at the countdowns of the monitor and of the sleep timer. -/
def pollOthers (d : Device π) (now : DateTime) : Act (Device π) := do
  let monitor ← d.monitor.poll now
  let sleepTimer ← d.sleepTimer.poll now
  pure { d with monitor := monitor, sleepTimer := sleepTimer }

/-- Takes an event to the parts that it concerns. -/
def route (d : Device π) (now : DateTime) : Event → Act (Device π)
  | .alarmsChanged => do
    let dispatcher ← d.dispatcher.check d.store.alarms now
    pure { d with dispatcher := dispatcher }
  | .alarmTriggered a => do
    let monitor ← d.monitor.alarmTriggered now a
    let sleepTimer ← SleepTimer.alarmTriggered now a
    pure { d with monitor := monitor, sleepTimer := sleepTimer }
  | .player (.changed s) => do
    let monitor ← d.monitor.playbackChanged s
    let sleepTimer ← d.sleepTimer.playbackChanged now d.sleepTimeout s
    pure { d with monitor := monitor, sleepTimer := sleepTimer }
  | .player (.failed e) => do
    let monitor ← d.monitor.playerFailed e
    pure { d with monitor := monitor }
  | .sleepElapsed => do
    note .standby
    let monitor ← d.monitor.silence
    pure { d with monitor := monitor }
  | .upcomingChanged info => do
    note (.upcoming info)
    pure d
  | .monitorChanged _ => pure d
  | .remainingChanged _ => pure d
  | .sleepTimeoutChanged _ => pure d

end Device

end AlarmClock
