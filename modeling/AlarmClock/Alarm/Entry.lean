import AlarmClock.Alarm.Basic
import AlarmClock.Json.Shape
import AlarmClock.Time.Printer
import AlarmClock.Time.Reader
import AlarmClock.Url.Reader

/-! Alarms as JSON. An entry is an object, or a list of the same values in a fixed order;
its fields are looked at in the order of the object, and what is missing after that.
Writing gives whole minutes only. -/

namespace AlarmClock

/-- Why a JSON value is not an alarm. -/
inductive EntryError where
  | malformed (e : Json.ShapeError)
  | badId (text : String)
  | badUrl (text : String)
  | badTime (text : String)
  | badPeriod (text : String)
  | badTimeout (minutes : Int)

def EntryError.message : EntryError → String
  | malformed e => "malformed alarm entry: " ++ e.message
  | badId s => s!"invalid alarm id '{s}', expected UUID"
  | badUrl s => s!"invalid media url '{s}'"
  | badTime s => s!"invalid time '{s}', expected hh:mm"
  | badPeriod s => s!"unknown alarm period '{s}', expected once, daily, weekend or workdays"
  | badTimeout n => s!"invalid alarmTimeout {n}, expected minutes > 0"

/-! ### Entries -/

/-- The fields of an entry seen so far. -/
structure Entry where
  id : Option String := none
  period : Option String := none
  time : Option String := none
  url : Option String := none
  enabled : Bool := true
  volume : Option Int := none
  timeout : Option Int := none

namespace Entry

/-- The fields in the order that a list has them; the first four have to be there. -/
def fieldNames : List String := ["id", "period", "time", "url", "enabled", "volume", "alarmTimeout"]

def requiredCount : Nat := 4

/-- The name of an entry in messages. -/
def kind : String := "struct AlarmFile"

/-- An entry with one more field; fields of other names are passed over. -/
def put (e : Entry) (name : String) (v : Json) : Except Json.ShapeError Entry :=
  match name with
  | "id" => v.string.map fun s => { e with id := some s }
  | "period" => v.string.map fun s => { e with period := some s }
  | "time" => v.string.map fun s => { e with time := some s }
  | "url" => v.string.map fun s => { e with url := some s }
  | "enabled" => v.boolean.map fun b => { e with enabled := b }
  | "volume" => v.int64?.map fun n => { e with volume := n }
  | "alarmTimeout" => v.int64?.map fun n => { e with timeout := n }
  | _ => .ok e

def putAll (e : Entry) : List (String × Json) → Except Json.ShapeError Entry
  | [] => .ok e
  | (name, v) :: fields =>
    match e.put name v with
    | .error err => .error err
    | .ok e => e.putAll fields

end Entry

/-- The four texts that every entry has, with the rest of it. -/
structure FullEntry where
  id : String
  period : String
  time : String
  url : String
  enabled : Bool
  volume : Option Int
  timeout : Option Int

/-- An entry in which nothing required is missing. -/
def Entry.full (e : Entry) : Except Json.ShapeError FullEntry :=
  match e.id, e.period, e.time, e.url with
  | none, _, _, _ => .error (.missingField "id")
  | _, none, _, _ => .error (.missingField "period")
  | _, _, none, _ => .error (.missingField "time")
  | _, _, _, none => .error (.missingField "url")
  | some id, some period, some time, some url =>
    .ok ⟨id, period, time, url, e.enabled, e.volume, e.timeout⟩

/-- The entry that a value holds. -/
def FullEntry.ofJson (v : Json) : Except Json.ShapeError FullEntry :=
  match v with
  | .obj fields =>
    match Entry.putAll {} fields with
    | .error err => .error err
    | .ok e => e.full
  | .arr items =>
    match Entry.putAll {} (Entry.fieldNames.zip items) with
    | .error err => .error err
    | .ok e =>
      if items.length < Entry.requiredCount then
        .error (.wrongLength items.length s!"{Entry.kind} with {Entry.fieldNames.length} elements")
      else if Entry.fieldNames.length < items.length then
        .error (.wrongLength items.length "fewer elements in array")
      else e.full
  | v => .error (.wrongType v.found Entry.kind)

namespace Alarm

/-- The timeout of an entry: a positive number of minutes, or the default one. -/
def timeoutOf (defaultTimeout : Span) : Option Int → Except EntryError Span
  | none => .ok defaultTimeout
  | some n =>
    if n ≤ 0 then .error (.badTimeout n)
    else
      match Span.ofMinutes? n with
      | none => .error (.badTimeout n)
      | some s => .ok s

/-- The alarm of an entry. What stands around identifier, address, time and period is trimmed. -/
def ofEntry (defaultTimeout : Span) (e : FullEntry) : Except EntryError Alarm :=
  match Uuid.read? (Text.trim e.id.toList) with
  | none => .error (.badId e.id)
  | some id =>
    match Url.read (String.ofList (Text.trim e.url.toList)) with
    | .error _ => .error (.badUrl e.url)
    | .ok media =>
      match DayMinute.read e.time with
      | .error _ => .error (.badTime e.time)
      | .ok time =>
        match Period.read? e.period with
        | none => .error (.badPeriod e.period)
        | some period =>
          match timeoutOf defaultTimeout e.timeout with
          | .error err => .error err
          | .ok timeout =>
            .ok ⟨id, time, period, e.enabled, media, (e.volume.map Volume.clamp).getD defaultVolume, timeout⟩

/-- The alarm that a value holds; the default timeout is for one that names none. -/
def ofJson (defaultTimeout : Span) (v : Json) : Except EntryError Alarm :=
  match FullEntry.ofJson v with
  | .error err => .error (.malformed err)
  | .ok e => ofEntry defaultTimeout e

/-- The alarm as an object, its fields in the order of their names. -/
def toJson (a : Alarm) : Json :=
  .obj [("alarmTimeout", .int a.timeout.wholeMinutes), ("enabled", .bool a.enabled), ("id", .str a.id.text),
    ("period", .str a.period.word), ("time", .str (String.ofList a.time.chars)), ("url", .str a.media.text),
    ("volume", .int a.volume.level)]

end Alarm

end AlarmClock
