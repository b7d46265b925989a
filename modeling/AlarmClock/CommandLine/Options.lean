import AlarmClock.Text.Numeral

/-! The options of the command line. Each stands at most once, with its value behind an
equals sign or as the next word; a word that starts with a hyphen is no value. -/

namespace AlarmClock

open Text

structure Options where
  config : String := "roosterd.json"
  fallbackSeconds : Nat := 20
  fallbackMedia : String := "file:///usr/share/roosterd/TempleBell.mp3"
  tickMillis : Nat := 250
  simulateFrom : Option String := none
  check : Bool := false
  hour12 : Bool := false
  exitAfterSeconds : Option Nat := none
  logLevel : String := "info"
  deriving DecidableEq

/-- What is asked for on the command line. -/
inductive Request where
  | run (o : Options)
  | version
  | help
  | rejected
  deriving DecidableEq

/-! ### Values -/

/-- A number of 64 bits without sign, perhaps behind a plus. -/
def readUnsigned? (s : List Char) : Option Nat :=
  let digits := match s with
    | '+' :: r => r
    | r => r
  if digits ≠ [] ∧ digits.all isDigit ∧ value digits < 2 ^ 64 then some (value digits) else none

/-- A number of 32 bits without sign; zero may stand behind a minus. -/
def readSmall? (s : List Char) : Option Nat :=
  match s with
  | '-' :: r => if r ≠ [] ∧ r.all isDigit ∧ value r = 0 then some 0 else none
  | s => (readUnsigned? s).bind fun n => if n < 2 ^ 32 then some n else none

/-- The options that take a value. -/
inductive OptionName where
  | config | fallbackSeconds | fallbackMedia | tickMillis | simulateFrom | exitAfterSeconds | logLevel
  deriving DecidableEq, Repr

/-- The options that take none. -/
inductive FlagName where
  | check | hour12
  deriving DecidableEq, Repr

def optionName? : String → Option OptionName
  | "config" => some .config
  | "fallback-timeout-secs" => some .fallbackSeconds
  | "fallback-media" => some .fallbackMedia
  | "tick-ms" => some .tickMillis
  | "simulate-from" => some .simulateFrom
  | "exit-after-secs" => some .exitAfterSeconds
  | "log-level" => some .logLevel
  | _ => none

def flagName? : String → Option FlagName
  | "check" => some .check
  | "hour12" => some .hour12
  | _ => none

/-- The options with one more value, if it is one for that option. -/
def Options.set? (o : Options) (name : OptionName) (v : String) : Option Options :=
  match name with
  | .config => if v = "" then none else some { o with config := v }
  | .fallbackSeconds => (readSmall? v.toList).map fun n => { o with fallbackSeconds := n }
  | .fallbackMedia => some { o with fallbackMedia := v }
  | .tickMillis => (readUnsigned? v.toList).map fun n => { o with tickMillis := n }
  | .simulateFrom => some { o with simulateFrom := some v }
  | .exitAfterSeconds => (readUnsigned? v.toList).map fun n => { o with exitAfterSeconds := some n }
  | .logLevel => some { o with logLevel := v }

def Options.setFlag (o : Options) : FlagName → Options
  | .check => { o with check := true }
  | .hour12 => { o with hour12 := true }

/-! ### Words -/

/-- A word of the command line. -/
inductive Word where
  | long (name : String) (attached : Option String)
  | short (letter : Char)
  | separator
  | plain (s : String)
  deriving DecidableEq

def Word.ofString (s : String) : Word :=
  match s.toList with
  | ['-', '-'] => .separator
  | '-' :: '-' :: r =>
    match r.dropWhile (· ≠ '=') with
    | _ :: v => .long (String.ofList (r.takeWhile (· ≠ '='))) (some (String.ofList v))
    | [] => .long (String.ofList r) none
  | '-' :: c :: _ => .short c
  | _ => .plain s

/-- The options read so far, and which of them have been seen. -/
structure OptionState where
  options : Options := {}
  seen : List OptionName := []
  flags : List FlagName := []

/-- The state after an option with its value. -/
def OptionState.put? (st : OptionState) (name : OptionName) (v : String) : Option OptionState :=
  if name ∈ st.seen then none
  else (st.options.set? name v).map fun o => { st with options := o, seen := name :: st.seen }

/-- The request that the words of a command line make. -/
def Request.ofWords (st : OptionState) : List String → Request
  | [] => .run st.options
  | w :: ws =>
    match Word.ofString w with
    | .separator => if ws = [] then .run st.options else .rejected
    | .plain _ => .rejected
    | .short 'V' => .version
    | .short 'h' => .help
    | .short _ => .rejected
    | .long "version" none => .version
    | .long "help" none => .help
    | .long name attached =>
      match optionName? name, flagName? name with
      | some o, _ =>
        match attached, ws with
        | some v, ws =>
          match st.put? o v with
          | some st => ofWords st ws
          | none => .rejected
        | none, v :: ws =>
          match Word.ofString v, st.put? o v with
          | .plain _, some st => ofWords st ws
          | _, _ => .rejected
        | none, [] => .rejected
      | none, some f =>
        if attached.isSome ∨ f ∈ st.flags then .rejected
        else ofWords { st with options := st.options.setFlag f, flags := f :: st.flags } ws
      | none, none => .rejected

def Request.read (words : List String) : Request := ofWords {} words

end AlarmClock
