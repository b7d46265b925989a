import AlarmClock.Configuration.File
import AlarmClock.Configuration.Reader
import AlarmClock.Store.Error

/-! The store holds the configuration, in memory or behind a file. A change is made on a copy,
which takes the place of the document only once it is written; what changes the alarms is
announced. Every change says how it ended and leaves a store, whether it failed or not. -/

namespace AlarmClock

/-! ### Loading -/

/-- Why a file is no configuration. -/
inductive LoadError where
  | unreadable (path : String) (e : FileError)
  | document (e : DocumentError)

def LoadError.message : LoadError → String
  | unreadable path e => s!"unable to read configuration file {path}: {e.message}"
  | document e => e.message

/-- The configuration, the file behind it, and whether changes of the alarms are announced. -/
structure Store where
  document : Document
  file : Option ConfigFile := none
  announces : Bool := false

namespace Store

/-- A store without a file. -/
def inMemory (d : Document) : Store := { document := d }

/-- The same store announcing its changes. -/
def announcing (s : Store) : Store := { s with announces := true }

/-- The store of a file. -/
def load (file : ConfigFile) : Act (Except LoadError Store) :=
  match file.content.read with
  | .error e => pure (.error (.unreadable file.path e))
  | .ok text => do
    match ← Document.read text with
    | .error e => pure (.error (.document e))
    | .ok d =>
      note (.loaded d.alarms.length file.path)
      pure (.ok { document := d, file := some file })

/-! ### Reading -/

def alarms (s : Store) : List Alarm := s.document.alarms

def get (s : Store) (id : Uuid) : Except StoreError Alarm :=
  match s.document.find? id with
  | none => .error (.notFound id)
  | some a => .ok a

end Store

/-! ### Edits of a copy -/

namespace Document

/-- Puts an alarm behind the others, unless its identifier is taken. -/
def tryInsert (a : Alarm) (d : Document) : Act (Attempt Bool Document) :=
  if d.hasAlarm a.id then pure ⟨.error (.alreadyExists a.id), d⟩
  else do
    note (.adding a.id)
    pure ⟨.ok true, d.insert a⟩

def tryRemove (id : Uuid) (d : Document) : Act (Attempt Bool Document) :=
  if d.hasAlarm id then do
    note (.deleted id)
    pure ⟨.ok true, d.remove id⟩
  else pure ⟨.error (.notFound id), d⟩

/-- Edits an alarm; the edit says whether it changed anything. -/
def tryEdit (id : Uuid) (edit : Alarm → Alarm × Bool) (d : Document) : Act (Attempt Bool Document) :=
  match d.find? id with
  | none => pure ⟨.error (.notFound id), d⟩
  | some a => pure ⟨.ok (edit a).2, d.replace id (edit a).1⟩

def takeSleepTimeout (timeout : Span) (d : Document) : Act (Attempt Bool Document) :=
  pure ⟨.ok true, { d with sleepTimeout := timeout }⟩

end Document

namespace Store

/-! ### Changes -/

/-- Writes a document, and has it only once it is written. -/
def write (s : Store) (staged : Document) : Attempt Unit Store :=
  match s.file with
  | none => ⟨.ok (), { s with document := staged }⟩
  | some f =>
    match f.save staged with
    | ⟨.error e, f⟩ => ⟨.error e, { s with file := some f }⟩
    | ⟨.ok (), f⟩ => ⟨.ok (), { s with document := staged, file := some f }⟩

/-- Has a copy of the document edited. The edit says whether it changed anything; if so the copy is written, and what
changes the alarms is announced behind that. -/
def apply (s : Store) (ofAlarms : Bool) (edit : Document → Act (Attempt Bool Document)) : Act (Attempt Unit Store) := do
  let staged ← edit s.document
  match staged.result with
  | .error e => pure ⟨.error e, s⟩
  | .ok false => pure ⟨.ok (), s⟩
  | .ok true =>
    let written := s.write staged.state
    match written.result with
    | .error e => pure ⟨.error e, written.state⟩
    | .ok () => do
      if ofAlarms ∧ s.announces then emit .alarmsChanged
      pure ⟨.ok (), written.state⟩

def add (s : Store) (a : Alarm) : Act (Attempt Unit Store) := s.apply true (Document.tryInsert a)

def delete (s : Store) (id : Uuid) : Act (Attempt Unit Store) := s.apply true (Document.tryRemove id)

/-- Edits an alarm. Where the edit says that it changed nothing, nothing is kept of it. -/
def update (s : Store) (id : Uuid) (edit : Alarm → Alarm × Bool) : Act (Attempt Unit Store) :=
  s.apply true (Document.tryEdit id edit)

/-- Sets the time without activity before standby, which has to be positive. -/
def setSleepTimeout (s : Store) (timeout : Span) : Act (Attempt Unit Store) :=
  if timeout ≤ Span.zero then pure ⟨.error (.badTimeout timeout.wholeMinutes), s⟩
  else s.apply false (Document.takeSleepTimeout timeout)

end Store

end AlarmClock
