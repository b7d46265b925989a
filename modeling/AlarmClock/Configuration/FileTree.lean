import AlarmClock.Configuration.File
import AlarmClock.Text.Split

/-! Files in folders, and what stands at a path. -/

namespace AlarmClock

open Text

inductive FileTree where
  | file (s : String)
  | folder (entries : List (String × FileTree))

/-- The bytes that a name may have. -/
def maxNameSize : Nat := 255

/-- The bytes that a path may have. -/
def maxPathSize : Nat := 4095

/-- A place in a tree, with the folders above it from the nearest to the root. -/
structure FilePlace where
  node : FileTree
  above : List FileTree := []

namespace FilePlace

/-- The folder above; nothing is above the root. -/
def parent (x : FilePlace) : FilePlace :=
  match x.above with
  | [] => x
  | t :: ts => ⟨t, ts⟩

/-- What a name leads to. -/
def enter (x : FilePlace) (name : String) : Except FileError FilePlace :=
  match x.node with
  | .file _ => .error .belowFile
  | .folder entries =>
    if name = "." then .ok x
    else if name = ".." then .ok x.parent
    else if maxNameSize < name.utf8ByteSize then .error .longName
    else
      match entries.lookup name with
      | none => .error .absent
      | some t => .ok ⟨t, x.node :: x.above⟩

/-- The top of the tree. -/
def root (x : FilePlace) : FilePlace := ⟨x.above.getLast?.getD x.node, []⟩

/-- The names of a path. A slash at its end asks for a folder. -/
def names (path : List Char) : List String :=
  (((parts (· = '/') path).filter (· ≠ [])).map String.ofList) ++ if path.getLast? = some '/' then ["."] else []

/-- Where a path leads. -/
def follow (x : FilePlace) (path : String) : Except FileError FilePlace :=
  if path.toList = [] then .error .absent
  else if maxPathSize < path.utf8ByteSize then .error .longName
  else (names path.toList).foldlM enter (if path.toList.head? = some '/' then x.root else x)

/-- What stands at a path. -/
def contentAt (x : FilePlace) (path : String) : FileContent :=
  match x.follow path with
  | .error e => .unreadable e
  | .ok y =>
    match y.node with
    | .file s => .text s
    | .folder _ => .unreadable .directory

end FilePlace

end AlarmClock
