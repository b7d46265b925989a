/-! Texts taken apart at separators, and into lines. -/

namespace AlarmClock.Text

/-- The parts of a text between the characters that satisfy a test; there is always at least one. -/
def parts (p : Char → Bool) : List Char → List (List Char)
  | [] => [[]]
  | c :: r =>
    match parts p r with
    | [] => [[c]]
    | w :: ws => if p c then [] :: w :: ws else (c :: w) :: ws

theorem parts_ne_nil (p : Char → Bool) (s : List Char) : parts p s ≠ [] := by
  cases s with
  | nil => simp [parts]
  | cons c r => rw [parts]; split <;> (try split) <;> simp

/-- A line without the return at its end. -/
def dropReturn (l : List Char) : List Char := if l.getLast? = some '\r' then l.dropLast else l

/-- The lines of a text. A return in front of a line end belongs to that end; what stands behind the last line
end is a line unless it is empty. -/
def lines (s : List Char) : List (List Char) :=
  match (parts (· = '\n') s).reverse with
  | [] => []
  | last :: ls => (ls.map dropReturn).reverse ++ if last = [] then [] else [last]

end AlarmClock.Text
