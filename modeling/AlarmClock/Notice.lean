import AlarmClock.Alarm.Entry
import AlarmClock.Event
import AlarmClock.Store.Error

/-! Lines for the log: what happened, how grave it is, which part of the program says so, and
in which words. -/

namespace AlarmClock

/-- How grave a notice is. -/
inductive Severity where
  | error | warn | info
  deriving DecidableEq, Repr

def Severity.word : Severity → String
  | error => "ERROR"
  | warn => "WARN"
  | info => "INFO"

inductive Notice where
  | loaded (count : Nat) (path : String)
  | entryRefused (index : Nat) (e : EntryError)
  | entryRepeated (index : Nat) (id : Uuid)
  | adding (id : Uuid)
  | deleted (id : Uuid)
  | nextAlarm (id : Uuid) (instant : DateTime)
  | noAlarm
  | triggered (id : Uuid) (instant : DateTime)
  | vanished (e : StoreError)
  | supervising (id : Uuid) (media : Url)
  | mediaRefused (e : PlayerError)
  | playerFailed (s : MonitorState) (e : PlayerError)
  | fallbackFailed (e : PlayerError)
  | fallbackRefused (e : PlayerError)
  | stopRefused (e : PlayerError)
  | sleepArmed (id : Uuid) (timeout : Span)
  | sleepElapsed (interval : Span) (activity : Activity)
  | sleepTimeoutSet (timeout : Span)
  | standby
  | upcoming (text : String)
  | stoppedByUser
  | clockSource (label : String)
  | started (tick : Nat)
  | ended
  | playerMedia (media : Url)
  | playerPlaylist (count : Nat) (looped : Bool)
  | playerVolume (level : Nat)
  | playerPlays (source : String) (level : Nat)
  | playerStops

/-- The name of the program. -/
def programName : String := "roosterd"

namespace Notice

def severity : Notice → Severity
  | fallbackFailed _ => .error
  | fallbackRefused _ => .error
  | entryRefused _ _ => .warn
  | entryRepeated _ _ => .warn
  | vanished _ => .warn
  | mediaRefused _ => .warn
  | playerFailed _ _ => .warn
  | stopRefused _ => .warn
  | _ => .info

/-- The part of the program that a notice comes from. -/
def source : Notice → String
  | loaded .. | entryRefused .. | entryRepeated .. | adding _ | deleted _ => "roosterd::config"
  | nextAlarm .. | noAlarm | triggered .. | vanished _ => "roosterd::alarm::dispatcher"
  | supervising .. | mediaRefused _ | playerFailed .. | fallbackFailed _ | fallbackRefused _ | stopRefused _ =>
    "roosterd::alarm::monitor"
  | sleepArmed .. | sleepElapsed .. | sleepTimeoutSet _ => "roosterd::sleep_timer"
  | standby | upcoming _ | stoppedByUser | started _ | ended => "roosterd::app"
  | clockSource _ => programName
  | playerMedia _ | playerPlaylist .. | playerVolume _ | playerPlays .. | playerStops => "roosterd::player_stub"

def text : Notice → String
  | loaded n path => s!"loaded {n} alarm(s) from {path}"
  | entryRefused i e => s!"skipping alarm #{i}: {e.message}"
  | entryRepeated i id => s!"skipping alarm #{i}: duplicate alarm id {id}"
  | adding id => s!"adding alarm {id}"
  | deleted id => s!"deleted alarm {id}"
  | nextAlarm id instant => s!"next alarm {id} at {instant}"
  | noAlarm => "no enabled alarm, dispatcher idle"
  | triggered id instant => s!"alarm {id} triggered at {instant}"
  | vanished e => s!"upcoming alarm vanished before it fired: {e.message}"
  | supervising id media => s!"supervising alarm {id} ({media})"
  | mediaRefused e => s!"player rejected alarm media: {e.message}"
  | playerFailed s e => s!"player error while alarm {s.text}: {e.message}"
  | fallbackFailed e => s!"fallback alarm reported an error: {e.message}"
  | fallbackRefused e => s!"unable to start fallback alarm: {e.message}"
  | stopRefused e => s!"unable to stop player: {e.message}"
  | sleepArmed id s => s!"sleep timer armed for alarm {id} ({s.wholeMinutes} min)"
  | sleepElapsed s a => s!"sleep timer elapsed after {s.wholeMinutes} min of {a.text} activity"
  | sleepTimeoutSet s => s!"sleep timeout set to {s.wholeMinutes} min"
  | standby => "no activity, entering standby"
  | upcoming s => s!"upcoming alarm: {s}"
  | stoppedByUser => "alarm stopped by user"
  | clockSource label => s!"clock source: {label}"
  | started tick => s!"runtime started, tick {tick} ms"
  | ended => "runtime stopped"
  | playerMedia media => s!"player: media {media}"
  | playerPlaylist n looped => s!"player: playlist of {n} item(s), looped={looped}"
  | playerVolume n => s!"player: volume {n}"
  | playerPlays source n => s!"player: playing {source} at volume {n}"
  | playerStops => "player: stop"

/-- The notice as a line of the log. -/
def line (n : Notice) : String := n.severity.word ++ " " ++ n.text

end Notice

end AlarmClock
