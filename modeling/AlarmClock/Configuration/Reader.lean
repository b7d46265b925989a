import AlarmClock.Alarm.Entry
import AlarmClock.Configuration.Document
import AlarmClock.Effect
import AlarmClock.Json.Reader

/-! Reading a configuration. Its fields may stand in any order, each at most once, or as a
list; other fields are skipped. An entry that is no alarm, or repeats an identifier,
costs a notice and nothing else. -/

namespace AlarmClock

open Json

/-! ### The top level -/

/-- The fields of a configuration as they are written. -/
structure RawDocument where
  alarmTimeout : Option Int := none
  sleepTimeout : Option Int := none
  alarms : Option (List Json) := none

namespace RawDocument

/-- How deep the entries nest at most, two levels further in than a value on its own. -/
def entryDepth : Nat := 125

/-- The name of a configuration in messages. -/
def kind : String := "struct ConfigFile"

/-- A field that stands twice; the closing brace behind it is looked at before the failure is placed. -/
def repeated {α : Type} (key : String) (s : List Char) : Result α :=
  let rest := match skipSpace s with
    | '\x7d' :: r => r
    | r => r
  failAt (.shape (.duplicateField key)) rest

/-- The value of a field from behind its key, put into its place. -/
def readInto {α : Type} (read : List Char → Result α) (put : α → RawDocument) (s : List Char) :
    Result RawDocument :=
  match readColon s with
  | .error f => .error f
  | .ok r =>
    match read r with
    | .error f => .error f
    | .ok (a, r) => .ok (put a, r)

/-- A field from behind its key. -/
def readField (d : RawDocument) (key : String) (s : List Char) : Result RawDocument :=
  if key = "AlarmTimeout" then
    if d.alarmTimeout.isSome then repeated key s
    else readInto readInt64 (fun n => { d with alarmTimeout := some n }) s
  else if key = "SleepTimeout" then
    if d.sleepTimeout.isSome then repeated key s
    else readInto readInt64 (fun n => { d with sleepTimeout := some n }) s
  else if key = "Alarms" then
    if d.alarms.isSome then repeated key s
    else readInto (readValues entryDepth) (fun vs => { d with alarms := some vs }) s
  else
    match readColon s with
    | .error f => .error f
    | .ok r => (skipValue r).map fun r => (d, r)

/-- The next item of a list, or nothing at its end. -/
def readItem {α : Type} (isFirst : Bool) (read : List Char → Result α) (s : List Char) : Result (Option α) :=
  let item (r : List Char) : Result (Option α) := (read r).map fun (a, r) => (some a, r)
  match skipSpace s with
  | [] => failOn .endInList []
  | ']' :: r => .ok (none, ']' :: r)
  | c :: r =>
    if isFirst then item (c :: r)
    else if c = ',' then
      match skipSpace r with
      | [] => failOn .endInValue []
      | ']' :: q => failOn .trailingComma (']' :: q)
      | q => item q
    else failOn .noListEnd (c :: r)

/-- The end of a list of which nothing more is wanted. -/
def readListEnd (s : List Char) : Except Failure (List Char) :=
  match skipSpace s with
  | [] => failOn .endInList []
  | ']' :: r => .ok r
  | ',' :: r =>
    match skipSpace r with
    | ']' :: q => failOn .trailingComma (']' :: q)
    | q => failOn .trailingCharacters q
  | r => failOn .trailingCharacters r

/-- The three values of a list, each of which may be missing at the end. -/
def readList (s : List Char) : Result RawDocument :=
  match readItem true readInt64 s with
  | .error f => .error f
  | .ok (alarmTimeout, s) =>
    match readItem false readInt64 s with
    | .error f => .error f
    | .ok (sleepTimeout, s) =>
      match readItem false (readValues entryDepth) s with
      | .error f => .error f
      | .ok (alarms, s) => (readListEnd s).map fun s => (⟨alarmTimeout, sleepTimeout, alarms⟩, s)

/-- A whole text as the fields of a configuration. -/
def read (text : String) : Except Failure RawDocument :=
  let top : Result RawDocument := match skipSpace text.toList with
    | [] => failOn .endInValue []
    | '[' :: r => readList r
    | '\x7b' :: r => readFields readField {} r
    | r => readMismatch kind r
  match top with
  | .error f => .error f
  | .ok (d, r) => (readEnd r).map fun _ => d

end RawDocument

/-! ### Documents -/

/-- Why a text is not a configuration. -/
inductive DocumentError where
  | malformed (place : Position) (cause : Cause)
  | notPositive (key : String) (minutes : Int)
  | tooLong (key : String) (minutes : Int)

def DocumentError.message : DocumentError → String
  | malformed p c =>
    s!"invalid JSON at line {p.line}, column {p.column}: {c.message} at line {p.line} column {p.column}"
  | notPositive key n => s!"{key} must be > 0 minutes, got {n}"
  | tooLong key n => s!"{key} of {n} minutes is out of range"

/-- A timeout of so many minutes. -/
def timeoutMinutes (key : String) (n : Int) : Except DocumentError Span :=
  if n ≤ 0 then .error (.notPositive key n)
  else
    match Span.ofMinutes? n with
    | none => .error (.tooLong key n)
    | some s => .ok s

/-- The alarms of entries counted from `index`, behind those already read. -/
def readEntries (defaultTimeout : Span) (known : List Alarm) (index : Nat) : List Json → Act (List Alarm)
  | [] => pure known
  | v :: vs =>
    match Alarm.ofJson defaultTimeout v with
    | .error e => do
      note (.entryRefused index e)
      readEntries defaultTimeout known (index + 1) vs
    | .ok a =>
      if known.any (·.id = a.id) then do
        note (.entryRepeated index a.id)
        readEntries defaultTimeout known (index + 1) vs
      else readEntries defaultTimeout (known ++ [a]) (index + 1) vs

namespace Document

/-- The minutes that a configuration has if it names none. -/
def defaultAlarmMinutes : Int := 30
def defaultSleepMinutes : Int := 60

/-- The document of fields as they are written. -/
def ofRaw (raw : RawDocument) : Act (Except DocumentError Document) :=
  match timeoutMinutes "AlarmTimeout" (raw.alarmTimeout.getD defaultAlarmMinutes) with
  | .error e => pure (.error e)
  | .ok alarmTimeout =>
    match timeoutMinutes "SleepTimeout" (raw.sleepTimeout.getD defaultSleepMinutes) with
    | .error e => pure (.error e)
    | .ok sleepTimeout => do
      let alarms ← readEntries alarmTimeout [] 0 (raw.alarms.getD [])
      pure (.ok ⟨alarmTimeout, sleepTimeout, alarms⟩)

/-- The document that a text writes. -/
def read (text : String) : Act (Except DocumentError Document) :=
  match RawDocument.read text with
  | .error f => pure (.error (.malformed (f.position text) f.cause))
  | .ok raw => ofRaw raw

end Document

end AlarmClock
