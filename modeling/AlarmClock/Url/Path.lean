import AlarmClock.Text.Split
import AlarmClock.Url.Encoding

/-! Reading paths segment by segment. A segment of two dots takes back the one before it,
one of a single dot stands for nothing. Drive letters are kept: they are never taken
back, and at the front of a file's path they make up for its host. Tabs and line ends
count nowhere, except where they part a drive letter from the text behind it. -/

namespace AlarmClock.Url

open Text

/-- The spellings of one dot. -/
def dots : List (List Char) := [['.'], ['%', '2', 'e'], ['%', '2', 'E']]

/-- The segments that stand for nothing. -/
def isHere (s : List Char) : Bool := dots.any (s = ·)

/-- The segments that take back the one before them. -/
def isParent (s : List Char) : Bool := dots.any fun a => dots.any fun b => s = a ++ b

def isLetter (c : Char) : Bool := (65 ≤ c.toNat && c.toNat ≤ 90) || (97 ≤ c.toNat && c.toNat ≤ 122)

/-- A letter with a colon or a bar. -/
def isDrive : List Char → Bool
  | [c, d] => isLetter c && (d = ':' || d = '|')
  | _ => false

/-- The segments read so far, the last one first, and whether a drive letter makes up for the host. -/
structure PathState where
  stack : List (List Char)
  hasDrive : Bool

/-- Whether a segment starts with a drive letter that a slash, of either kind, or nothing follows. -/
def startsWithDrive : List Char → Bool
  | c :: d :: r => isDrive [c, d] && (r = [] || r.head? = some '\\')
  | _ => false

/-- The segments in front of the last one, unless that starts with a drive letter. -/
def dropLastSegment : List (List Char) → List (List Char)
  | [] => []
  | s :: ss => if startsWithDrive s then s :: ss else ss

/-- The characters that may stand anywhere in an address and count nowhere. -/
def isBreak (c : Char) : Bool := c = '\t' || c = '\n' || c = '\r'

/-- A text without its breaks. -/
def unbroken (s : List Char) : List Char := s.filter fun c => !isBreak c

/-- The text behind the first `n` characters that count. -/
def dropUnbroken : Nat → List Char → List Char
  | 0, s => s
  | _ + 1, [] => []
  | n + 1, c :: r => if isBreak c then dropUnbroken (n + 1) r else dropUnbroken n r

/-- Whether a break stands right behind the first two characters that count. -/
def breaksBehindTwo (s : List Char) : Bool := (dropUnbroken 2 s).head?.any isBreak

/-- The first segment of a file's path: a drive letter makes up for the host. Where a break parts a drive letter
from more text, a new segment starts. -/
def putFirst (raw : List Char) (st : PathState) : PathState :=
  let s := unbroken raw
  match s with
  | c :: d :: r =>
    if isDrive s then { stack := [[c, ':']], hasDrive := true }
    else if isLetter c && d = ':' && breaksBehindTwo raw then { st with stack := [encode inPath r, [c, ':']] }
    else { st with stack := [encode inPath s] }
  | _ => { st with stack := [encode inPath s] }

/-- One more segment; the last one leaves something behind even if it stands for nothing. -/
def PathState.put (isFile isLast : Bool) (st : PathState) (raw : List Char) : PathState :=
  let s := unbroken raw
  if isParent s then
    let rest := dropLastSegment st.stack
    { st with stack := if isLast then [] :: rest else rest }
  else if isHere s then { st with stack := if isLast then [] :: st.stack else st.stack }
  else if isFile && st.stack.isEmpty then putFirst raw st
  else { st with stack := encode inPath s :: st.stack }

def readSegments (isFile : Bool) (st : PathState) : List (List Char) → PathState
  | [] => st
  | s :: ss => readSegments isFile (st.put isFile ss.isEmpty s) ss

/-- The segments of a path, and whether a drive letter makes up for the host. Files have no empty segments at
the front. -/
def readPath (isFile isSpecial : Bool) (s : List Char) : List (List Char) × Bool :=
  let st := readSegments isFile ⟨[], false⟩ (parts (fun c => c = '/' || (isSpecial && c = '\\')) s)
  let ss := st.stack.reverse
  if isFile then
    let ss := ss.dropWhile (· = [])
    (if ss = [] then [[]] else ss, st.hasDrive)
  else (ss, st.hasDrive)

end AlarmClock.Url
