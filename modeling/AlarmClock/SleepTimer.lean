import AlarmClock.Countdown
import AlarmClock.Store.Basic

/-! The sleep timer sends the clock to standby after a time without activity. An alarm
brings its own time, which playback cannot cut short; a ticker tells the time left
twice a minute. -/

namespace AlarmClock

structure SleepTimer where
  countdown : Countdown := Countdown.idle
  ticker : Countdown := Countdown.idle
  activity : Activity := .idle
  deriving DecidableEq

namespace SleepTimer

/-- How often the time left is told. -/
def tickInterval : Span := ⟨30000000000, by decide, by decide⟩

/-- Whole minutes until standby, none of them when nothing runs. -/
def remainingMinutes (t : SleepTimer) (now : DateTime) : Int :=
  match t.countdown.remaining now with
  | some s => s.wholeMinutes
  | none => 0

/-- Tells the time left. -/
def publish (t : SleepTimer) (now : DateTime) : Act Unit := emit (.remainingChanged (t.remainingMinutes now))

/-- Starts the countdown for an activity. -/
def start (now : DateTime) (timeout : Span) (activity : Activity) : Act SleepTimer := do
  let t : SleepTimer := ⟨Countdown.arm now timeout, Countdown.arm now tickInterval, activity⟩
  t.publish now
  pure t

/-- Starts the countdown of playback. -/
def reset (now : DateTime) (sleepTimeout : Span) : Act SleepTimer := start now sleepTimeout .playing

/-- Starts the countdown that an alarm brings. -/
def alarmTriggered (now : DateTime) (a : Alarm) : Act SleepTimer := do
  note (.sleepArmed a.id a.timeout)
  start now a.timeout .alarm

/-- The player has changed its state: playing starts the countdown anew, unless an alarm runs. -/
def playbackChanged (t : SleepTimer) (now : DateTime) (sleepTimeout : Span) (s : PlaybackState) :
    Act SleepTimer :=
  if s = .playing ∧ t.activity ≠ .alarm then reset now sleepTimeout else pure t

/-- Looks at the clock. -/
def poll (t : SleepTimer) (now : DateTime) : Act SleepTimer :=
  if t.countdown.isDue now then do
    note (.sleepElapsed t.countdown.interval t.activity)
    let t : SleepTimer := ⟨t.countdown.cancel, t.ticker.cancel, .idle⟩
    emit .sleepElapsed
    t.publish now
    pure t
  else if t.ticker.isDue now then do
    let t := { t with ticker := Countdown.arm now tickInterval }
    t.publish now
    pure t
  else pure t

/-- A new timeout, which a countdown of playback takes over at once. -/
def timeoutChanged (t : SleepTimer) (now : DateTime) (timeout : Span) : Act SleepTimer := do
  note (.sleepTimeoutSet timeout)
  emit (.sleepTimeoutChanged timeout)
  if t.activity = .playing ∧ t.countdown.isActive then do
    let t := { t with countdown := Countdown.arm now timeout }
    t.publish now
    pure t
  else pure t

/-- Stores a new timeout, and takes it over once it is stored. -/
def setTimeout (t : SleepTimer) (s : Store) (now : DateTime) (timeout : Span) :
    Act (Attempt Unit (SleepTimer × Store)) := do
  let stored ← s.setSleepTimeout timeout
  match stored.result with
  | .error e => pure ⟨.error e, t, stored.state⟩
  | .ok () => do
    let t ← t.timeoutChanged now timeout
    pure ⟨.ok (), t, stored.state⟩

end SleepTimer

end AlarmClock
