import Std.Time.Zoned
import AlarmClock.CommandLine.Run

/-! The program: reads the configuration from its file, takes turns by the clock, and writes
its notices to the standard error. -/

namespace AlarmClock

/-- Why the system does not open or read a file. -/
def fileError : IO.Error → FileError
  | .inappropriateType _ code _ => ofCode code
  | .invalidArgument _ code _ => ofCode code
  | _ => .absent
where
  /-- The error of a number that the system gives, with or without a sign. -/
  ofCode (code : UInt32) : FileError :=
    match (min code (0 - code)).toNat with
    | 20 => .belowFile
    | 21 => .directory
    | 36 => .longName
    | _ => .absent

/-- What stands at a path. -/
def readContent (path : String) : IO FileContent := do
  match ← (IO.FS.readBinFile path).toBaseIO with
  | .ok bytes =>
    match String.fromUTF8? bytes with
    | some s => pure (.text s)
    | none => pure (.unreadable .undecodable)
  | .error e => pure (.unreadable (fileError e))

/-- The time on the system's clock. -/
def localTime : IO DateTime := do
  let t ← Std.Time.PlainDateTime.now
  let date := (Civil.date? ⟨t.year.toInt, t.month.val.toNat, t.day.val.toNat⟩).getD default
  let time := (TimeOfDay.ofParts? t.hour.val.toNat t.minute.val.toNat t.second.val.toNat).getD default
  let fraction := (Span.ofNanos? t.nanosecond.val).getD Span.zero
  pure (DateTime.addOrEnd ⟨date, time⟩ fraction)

def writeText (stream : IO.FS.Stream) (s : List Char) : IO Unit := do
  stream.putStr (String.ofList s)
  stream.flush

/-- The time on a clock that was started at a count of nanoseconds. -/
def readClock (c : ClockSource) (started : Nat) : IO DateTime := do
  let elapsed := (← IO.monoNanosNow) - started
  pure (c.now (← localTime) ((Span.ofNanos? elapsed).getD Span.zero))

/-- Takes turns until the time is over. -/
partial def takeTurns (o : Options) (clock : ClockSource) (started : Nat) (log : List Notice → IO Unit)
    (d : Device LoggingPlayer) : IO UInt32 := do
  let x := d.turn (← readClock clock started)
  log x.notices
  let (d, routed) := x.value
  let elapsed := (← IO.monoNanosNow) - started
  if routed.isNone then pure 101
  else if o.exitAfterSeconds.any fun n => n * 1000000000 ≤ elapsed then
    log [.ended]
    pure 0
  else
    IO.sleep (min o.tickMillis 4294967295).toUInt32
    takeTurns o clock started log d

/-- Runs the program with its options. -/
def runOptions (o : Options) : IO UInt32 := do
  let out ← IO.getStdout
  let errors ← IO.getStderr
  let filter := LogFilter.read o.logLevel
  let log (ns : List Notice) : IO Unit := writeText errors (filter.records ns)
  writeText errors filter.warnings
  let content ← readContent o.config
  let started ← IO.monoNanosNow
  let launched := o.launch fun _ => content
  log launched.notices
  match launched.value with
  | .error e =>
    writeText errors e.line
    pure 1
  | .ok l =>
    let now ← readClock l.clock started
    if o.check then
      for line in l.store.document.report l.clock.label o.face now do
        out.putStrLn line
      pure 0
    else
      let d := l.device o.tickMillis now
      log d.notices
      takeTurns o l.clock started log d.value

end AlarmClock

def main (words : List String) : IO UInt32 := do
  match AlarmClock.Request.read words with
  | .run o => AlarmClock.runOptions o
  | .version =>
    IO.println AlarmClock.versionLine
    pure 0
  | .help =>
    IO.println "usage: roosterd [options]"
    pure 0
  | .rejected =>
    IO.eprintln "error: unexpected or incomplete options"
    pure 2
