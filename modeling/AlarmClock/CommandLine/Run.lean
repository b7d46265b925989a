import AlarmClock.CommandLine.LogFilter
import AlarmClock.CommandLine.Options
import AlarmClock.Device.Turn
import AlarmClock.Media.LoggingPlayer
import AlarmClock.Report

/-! What the program does with its options: it checks them, loads the configuration, and
then reports on it or starts a device. Files are looked up by a function and the time
is given, so all of this is pure. -/

namespace AlarmClock

/-- Where the time comes from. -/
inductive ClockSource where
  | simulated (start : DateTime)
  | systemLocal
  deriving DecidableEq

namespace ClockSource

def label : ClockSource → String
  | simulated _ => "SIMULATED"
  | systemLocal => "SYSTEM_LOCAL"

/-- The clock that starts at an instant, or else the system's. -/
def select : Option DateTime → ClockSource
  | some a => simulated a
  | none => systemLocal

/-- The time on a clock after a span, where `system` is the time on the system's. -/
def now (c : ClockSource) (system : DateTime) (elapsed : Span) : DateTime :=
  match c with
  | simulated a => a.addOrEnd elapsed
  | systemLocal => system

end ClockSource

/-- Why the program does not start. -/
inductive StartError where
  | noFallbackTime
  | noTick
  | badFallbackMedia (text : String) (e : UrlError)
  | badSimulatedTime (e : TimeError)
  | load (e : LoadError)

def StartError.message : StartError → String
  | noFallbackTime => "--fallback-timeout-secs must be greater than zero"
  | noTick => "--tick-ms must be greater than zero"
  | badFallbackMedia s e => s!"invalid --fallback-media {s}: {e.message}"
  | badSimulatedTime e => s!"invalid --simulate-from, expected YYYY-MM-DDTHH:MM:SS: {e.message}"
  | load e => e.message

/-- The time to start at, if one is given. -/
def readStart : Option String → Except StartError (Option DateTime)
  | none => .ok none
  | some s =>
    match DateTime.read s with
    | .error e => .error (.badSimulatedTime e)
    | .ok a => .ok (some a)

/-- What is known when the program starts. -/
structure Launch where
  clock : ClockSource
  store : Store
  settings : Settings

namespace Options

def face (o : Options) : ClockFace := if o.hour12 then .hours12 else .hours24

/-- The grace period of the fallback. -/
def grace (o : Options) : Span := (Span.ofNanos? (o.fallbackSeconds * 1000000000)).getD Span.zero

/-- Checks the options in order and loads the configuration. -/
def launch (o : Options) (file : String → FileContent) : Act (Except StartError Launch) :=
  if o.fallbackSeconds = 0 then pure (.error .noFallbackTime)
  else if o.tickMillis = 0 then pure (.error .noTick)
  else
    match Url.read o.fallbackMedia with
    | .error e => pure (.error (.badFallbackMedia o.fallbackMedia e))
    | .ok fallback =>
      match readStart o.simulateFrom with
      | .error e => pure (.error e)
      | .ok start => do
        match ← Store.load ⟨o.config, file o.config⟩ with
        | .error e => pure (.error (.load e))
        | .ok store =>
          pure (.ok ⟨ClockSource.select start, store.announcing, ⟨o.grace, fallback, o.face⟩⟩)

end Options

namespace Launch

/-- Starts the device. -/
def device (l : Launch) (tick : Nat) (now : DateTime) : Act (Device LoggingPlayer) := do
  note (.clockSource l.clock.label)
  let d ← Device.start l.store {} l.settings now
  note (.started tick)
  pure d

end Launch

/-! ### Whole runs -/

/-- What a run of the program leaves behind. What it writes to the standard error may hold line ends of its own, so
its lines are those of the whole text. -/
structure Outcome where
  code : Nat
  stdout : List String := []
  stderr : List Char := []
  deriving DecidableEq

/-- The line that tells why the program does not start. -/
def StartError.line (e : StartError) : List Char := ("error: " ++ e.message ++ "\n").toList

/-- The version line. -/
def versionLine : String := programName ++ " 0.1.0"

/-- A clock is read a moment after it was started. -/
def moment : Span := ⟨1000000, by decide, by decide⟩

/-- A run that reports, or takes one turn and stops. -/
def Options.run (o : Options) (file : String → FileContent) (system : DateTime) : Outcome :=
  let launched := o.launch file
  let filter := LogFilter.read o.logLevel
  let shown (ns : List Notice) : List Char := filter.warnings ++ filter.records ns
  match launched.value with
  | .error e => { code := 1, stderr := shown launched.notices ++ e.line }
  | .ok l =>
    let now := l.clock.now system moment
    if o.check then
      { code := 0, stdout := l.store.document.report l.clock.label o.face now, stderr := shown launched.notices }
    else
      let ran : Act (Option (List Event)) := do
        let d ← l.device o.tickMillis now
        let (_, routed) ← d.turn now
        if routed.isSome then note .ended
        pure routed
      { code := if ran.value.isSome then 0 else 101, stderr := shown (launched.notices ++ ran.notices) }

/-- A run with the words of a command line. -/
def runWords (words : List String) (file : String → FileContent) (system : DateTime) : Outcome :=
  match Request.read words with
  | .run o => o.run file system
  | .version => { code := 0, stdout := [versionLine] }
  | .help => { code := 0 }
  | .rejected => { code := 2 }

end AlarmClock
