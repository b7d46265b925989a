import AlarmClock.Decimal.Shortest
import AlarmClock.Json.Value

/-! JSON text with one item or field to a line and two blanks per level. -/

namespace AlarmClock.Json

open Text

/-- A character inside a string: quotes, backslashes and control characters are escaped. -/
def escapeChar (c : Char) : List Char :=
  match c with
  | '"' => ['\\', '"']
  | '\\' => ['\\', '\\']
  | '\n' => ['\\', 'n']
  | '\r' => ['\\', 'r']
  | '\t' => ['\\', 't']
  | c =>
    if c.toNat = 8 then ['\\', 'b']
    else if c.toNat = 12 then ['\\', 'f']
    else if c.toNat < 32 then ['\\', 'u', '0', '0', hexChar (c.toNat / 16), hexChar (c.toNat % 16)]
    else [c]

/-- A string between quotes. -/
def quoted (s : String) : List Char := '"' :: s.toList.flatMap escapeChar ++ ['"']

/-- A new line with `n` levels of indentation. -/
def newLine (n : Nat) : List Char := '\n' :: List.replicate (2 * n) ' '

mutual

/-- The text of a value that stands `n` levels deep. -/
def pretty (n : Nat) : Json → List Char
  | null => ['n', 'u', 'l', 'l']
  | bool true => ['t', 'r', 'u', 'e']
  | bool false => ['f', 'a', 'l', 's', 'e']
  | int k => signed k
  | float f => f.chars
  | str s => quoted s
  | arr [] => ['[', ']']
  | arr (v :: vs) => '[' :: newLine (n + 1) ++ pretty (n + 1) v ++ prettyItems (n + 1) vs ++ newLine n ++ [']']
  | obj [] => ['{', '}']
  | obj ((k, v) :: fs) =>
    '{' :: newLine (n + 1) ++ quoted k ++ ':' :: ' ' :: pretty (n + 1) v ++ prettyFields (n + 1) fs ++
      newLine n ++ ['}']

/-- The items behind the first one. -/
def prettyItems (n : Nat) : List Json → List Char
  | [] => []
  | v :: vs => ',' :: newLine n ++ pretty n v ++ prettyItems n vs

/-- The fields behind the first one. -/
def prettyFields (n : Nat) : List (String × Json) → List Char
  | [] => []
  | (k, v) :: fs => ',' :: newLine n ++ quoted k ++ ':' :: ' ' :: pretty n v ++ prettyFields n fs

end

end AlarmClock.Json
