import AlarmClock.Text.Numeral
import AlarmClock.Text.Printable

/-! Texts in quotes as messages show them: quotes, backslashes and characters that
do not show as themselves are escaped. -/

namespace AlarmClock.Text

/-- A character inside quotes. -/
def quotedChar (c : Char) : List Char :=
  match c with
  | '"' => ['\\', '"']
  | '\\' => ['\\', '\\']
  | '\n' => ['\\', 'n']
  | '\r' => ['\\', 'r']
  | '\t' => ['\\', 't']
  | c =>
    if c.toNat = 0 then ['\\', '0']
    else if isPrintable c then [c]
    else '\\' :: 'u' :: '\x7b' :: hexNumeral c.toNat ++ ['\x7d']

/-- A text in quotes. -/
def quotedText (s : String) : String := String.ofList ('"' :: s.toList.flatMap quotedChar ++ ['"'])

end AlarmClock.Text
