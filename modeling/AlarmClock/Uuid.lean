import AlarmClock.Text.Numeral
import AlarmClock.Text.Split

/-! Identifiers of 32 hexadecimal digits. They are written in five groups with hyphens
between them; reading also takes the digits alone, the groups in braces, and the
groups behind `urn:uuid:`, in either case. -/

namespace AlarmClock

open Text

structure Uuid where
  digits : List (Fin 16)
  length_digits : digits.length = 32
  deriving DecidableEq

namespace Uuid

/-- The value of a hexadecimal digit. -/
def digit? (c : Char) : Option (Fin 16) :=
  (hexValue? c).bind fun n => if h : n < 16 then some ⟨n, h⟩ else none

/-- The identifier with the digits of a text that holds nothing else. -/
def readDigits? (s : List Char) : Option Uuid :=
  (s.mapM digit?).bind fun ds => if h : ds.length = 32 then some ⟨ds, h⟩ else none

/-- The lengths of the groups. -/
def groupLengths : List Nat := [8, 4, 4, 4, 12]

/-- The identifier in five groups. -/
def readGroups? (s : List Char) : Option Uuid :=
  let groups := parts (· = '-') s
  if groups.map List.length = groupLengths then readDigits? groups.flatten else none

/-- What may stand in front of the groups, in either case. -/
def urn : List Char := "urn:uuid:".toList

def read? (s : List Char) : Option Uuid :=
  match s with
  | '\x7b' :: r => if r.getLast? = some '\x7d' then readGroups? r.dropLast else none
  | s =>
    if urn.isPrefixOf (s.map Char.toLower) then readGroups? (s.drop urn.length)
    else if s.length = 32 then readDigits? s
    else readGroups? s

/-- The groups of digits with hyphens between them. -/
def groups (s : List Char) : List Nat → List (List Char)
  | [] => []
  | n :: ns => s.take n :: groups (s.drop n) ns

def chars (u : Uuid) : List Char :=
  ['-'].intercalate (groups (u.digits.map fun d => hexChar d.val) groupLengths)

def text (u : Uuid) : String := String.ofList u.chars

instance : ToString Uuid := ⟨text⟩

end Uuid

end AlarmClock
