import AlarmClock.Configuration.Printer
import AlarmClock.Store.Error

/-! The file behind a configuration. It can be written unless something lasting stands at its
path, and a write that fails leaves it as it was. -/

namespace AlarmClock

/-- Why a file cannot be read as text. -/
inductive FileError where
  | absent | directory | undecodable
  /-- A part of the path in front of the last one is no folder. -/
  | belowFile
  | longName
  deriving DecidableEq, Repr

namespace FileError

def message : FileError → String
  | absent => "No such file or directory (os error 2)"
  | directory => "Is a directory (os error 21)"
  | undecodable => "stream did not contain valid UTF-8"
  | belowFile => "Not a directory (os error 20)"
  | longName => "File name too long (os error 36)"

/-- Whether no file can be made either. -/
def isLasting : FileError → Bool
  | absent | undecodable => false
  | directory | belowFile | longName => true

end FileError

/-- What stands at the path of a file. -/
inductive FileContent where
  | unreadable (e : FileError)
  | text (s : String)
  deriving DecidableEq

/-- A file with its path. -/
structure ConfigFile where
  path : String
  content : FileContent
  deriving DecidableEq

def FileContent.read : FileContent → Except FileError String
  | unreadable e => .error e
  | text s => .ok s

/-- What stands at a path after a text was written there, if that can be done. -/
def FileContent.write? (s : String) : FileContent → Option FileContent
  | unreadable e => if e.isLasting then none else some (text s)
  | text _ => some (text s)

/-- Writes a document to the file. -/
def ConfigFile.save (f : ConfigFile) (d : Document) : Attempt Unit ConfigFile :=
  match f.content.write? d.text with
  | none => ⟨.error (.notWritten f.path), f⟩
  | some c => ⟨.ok (), { f with content := c }⟩

end AlarmClock
