import AlarmClock.Notice
import AlarmClock.Pattern.Matching
import AlarmClock.Pattern.Meaning
import AlarmClock.Text.Blank
import AlarmClock.Text.ControlSequence
import AlarmClock.Text.Split

/-! Which notices are shown, and how. A filter is a list of levels, each for all notices or for
those from the parts of a program whose names begin with a text; the longest name that
fits decides. A pattern may say in addition what the notices have to hold. What says
nothing is passed over with a warning. -/

namespace AlarmClock

open Text

/-- How much is shown. -/
inductive LogLevel where
  | off | error | warn | info | debug | trace
  deriving DecidableEq, Repr

namespace LogLevel

def word : LogLevel → String
  | off => "off"
  | error => "error"
  | warn => "warn"
  | info => "info"
  | debug => "debug"
  | trace => "trace"

/-- The level that a word names, in any case. -/
def read? (s : List Char) : Option LogLevel :=
  let w := String.ofList (s.map Char.toLower)
  [off, error, warn, info, debug, trace].find? (·.word = w)

/-- Whether notices of a severity are shown. -/
def shows : LogLevel → Severity → Bool
  | off, _ => false
  | error, s => s = .error
  | warn, s => s ≠ .info
  | _, _ => true

end LogLevel

/-- A part of a filter that is passed over because it says nothing. -/
inductive FilterFault where
  | badPart (text : String)
  | manySlashes (text : String)
  | badPattern (e : Pattern.ReadError)
  deriving DecidableEq, Repr

/-- The line that warns of it. -/
def FilterFault.line : FilterFault → String
  | badPart s => s!"warning: invalid logging spec '{s}', ignoring it"
  | manySlashes s => s!"warning: invalid logging spec '{s}' (too many '/'s), ignoring it"
  | badPattern e => s!"warning: invalid regex filter - {e.message}, ignoring it"

/-! ### Levels for names -/

/-- A level for all notices, or for those from parts of the program whose names begin with a text. -/
structure LogDirective where
  name : Option (List Char)
  level : LogLevel
  deriving DecidableEq, Repr

namespace LogDirective

/-- One part of a filter: a level, a name, or a name with a level. -/
def read (s : List Char) : Except FilterFault LogDirective :=
  match parts (· = '=') s with
  | [w] =>
    match LogLevel.read? w with
    | some l => .ok ⟨none, l⟩
    | none => .ok ⟨some w, .trace⟩
  | [w, v] =>
    match trim v with
    | [] => .ok ⟨some w, .trace⟩
    | v =>
      match LogLevel.read? v with
      | some l => .ok ⟨some w, l⟩
      | none => .error (.badPart (String.ofList v))
  | _ => .error (.badPart (String.ofList s))

/-- The list with one more level, in the place of one for the same name. -/
def insert (d : LogDirective) : List LogDirective → List LogDirective
  | [] => [d]
  | e :: es => if e.name = d.name then d :: es else e :: insert d es

/-- Whether it counts for the notices from a part of the program. -/
def fits (source : List Char) (d : LogDirective) : Bool := d.name.all (·.isPrefixOf source)

/-- How much it says on where notices come from. -/
def precision (d : LogDirective) : Nat := (d.name.getD []).length

/-- The level that counts for the notices from a part of the program: that of the longest name, and of equally long
ones the last. -/
def levelFor (source : List Char) (ds : List LogDirective) : LogLevel :=
  match ds.filter (fits source) with
  | [] => .off
  | d :: ds => (ds.foldl (fun best d => if best.precision ≤ d.precision then d else best) d).level

end LogDirective

/-! ### Filters -/

/-- A filter with the parts of it that could not be read. -/
structure LogFilter where
  directives : List LogDirective := []
  pattern : Option Pattern := none
  faults : List FilterFault := []

namespace LogFilter

/-- The filter with one more part. -/
def add (f : LogFilter) (s : List Char) : LogFilter :=
  match LogDirective.read s with
  | .ok d => { f with directives := d.insert f.directives }
  | .error e => { f with faults := f.faults ++ [e] }

/-- The filter of the levels between commas. -/
def ofLevels (s : List Char) : LogFilter := (((parts (· = ',') s).map trim).filter (· ≠ [])).foldl add {}

/-- The filter of a text: levels, and a pattern behind a slash. -/
def read (text : String) : LogFilter :=
  match parts (· = '/') text.toList with
  | [] => {}
  | [s] => ofLevels s
  | [s, p] =>
    let f := ofLevels s
    match Pattern.read p with
    | .ok p => { f with pattern := some p }
    | .error e => { f with faults := f.faults ++ [.badPattern e] }
  | _ => { faults := [.manySlashes text] }

/-- Whether a notice is shown. Without any level errors are. -/
def shows (f : LogFilter) (n : Notice) : Bool :=
  let ds := if f.directives = [] then [⟨none, .error⟩] else f.directives
  (LogDirective.levelFor n.source.toList ds).shows n.severity && f.pattern.all (·.isFoundIn n.text.toList)

end LogFilter

/-! ### Records -/

/-- The blanks in front of the lines of a notice behind its first. -/
def indentation : List Char := List.replicate 4 ' '

/-- The notice as it is written to the log: further lines are indented, and a terminal can show all of it. -/
def Notice.record (n : Notice) : List Char :=
  visible (n.line.toList.flatMap (fun c => if c = '\n' then c :: indentation else [c]) ++ ['\n'])

/-- The records of the notices that a filter shows. -/
def LogFilter.records (f : LogFilter) (ns : List Notice) : List Char := (ns.filter f.shows).flatMap Notice.record

/-- The lines that warn of what a filter passes over. -/
def LogFilter.warnings (f : LogFilter) : List Char := f.faults.flatMap fun e => e.line.toList ++ ['\n']

end AlarmClock
