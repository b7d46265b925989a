import AlarmClock.Media.Basic

/-! What the parts of the clock tell each other. The states of the monitor and of the
sleep timer are named here, since events and notices carry them. -/

namespace AlarmClock

/-- What the monitor is about: nothing, an alarm that has not started, one that plays, or the fallback. -/
inductive MonitorState where
  | idle | expecting | active | fallback
  deriving DecidableEq, Repr

def MonitorState.text : MonitorState → String
  | idle => "idle"
  | expecting => "expecting alarm"
  | active => "alarm active"
  | fallback => "fallback"

/-- What armed the sleep timer. -/
inductive Activity where
  | idle | alarm | playing
  deriving DecidableEq, Repr

def Activity.text : Activity → String
  | idle => "idle"
  | alarm => "alarm"
  | playing => "playing"

inductive Event where
  | alarmsChanged
  | upcomingChanged (text : String)
  | alarmTriggered (a : Alarm)
  | monitorChanged (s : MonitorState)
  | sleepElapsed
  | remainingChanged (minutes : Int)
  | sleepTimeoutChanged (s : Span)
  | player (e : PlayerEvent)
  deriving DecidableEq

end AlarmClock
