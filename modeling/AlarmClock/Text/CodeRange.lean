/-! Tables over code points. A table is an array of ranges in rising order, each
with a value; it is written as a text of numbers to the base 36 and read once. -/

namespace AlarmClock.Text

/-- A range of code points with a value. -/
structure CodeRange (α : Type) where
  first : Nat
  last : Nat
  value : α
  deriving Repr

namespace CodeRange

variable {α : Type}

/-- Looks between the places `low` and `high` for the range that holds a code. -/
def search (table : Array (CodeRange α)) (code low high : Nat) : Option (CodeRange α) :=
  if _ : low < high then
    let mid := (low + high) / 2
    match table[mid]? with
    | none => none
    | some r =>
      if code < r.first then search table code low mid
      else if r.last < code then search table code (mid + 1) high
      else some r
  else none
termination_by high - low

/-- The range that holds a code. -/
def find? (table : Array (CodeRange α)) (code : Nat) : Option (CodeRange α) := search table code 0 table.size

end CodeRange

/-! ### Tables as text -/

/-- The value of a digit to the base 36; other characters count as zero. -/
def digit36 (c : Char) : Nat :=
  let n := c.toNat
  if 97 ≤ n && n ≤ 122 then n - 87 else n - 48

/-- The numbers to the base 36 in a text, with blanks or line ends between them. -/
def numbers36 (text : String) : List Nat :=
  let (words, word) := text.toList.foldl
    (fun (words, word) c =>
      if c = ' ' ∨ c = '\n' then (word.elim words (· :: words), none) else (words, some (word.getD 0 * 36 + digit36 c)))
    (([] : List Nat), (none : Option Nat))
  (word.elim words (· :: words)).reverse

/-- Ranges from pairs of numbers: the distance of the first code from the last one of the range before, and
the length less one. -/
def rangesFrom (before : Nat) : List Nat → List (CodeRange Unit)
  | gap :: more :: r => ⟨before + gap, before + gap + more, ()⟩ :: rangesFrom (before + gap + more) r
  | _ => []

/-- The set of code points that a text of pairs writes down. -/
def codeSet (text : String) : Array (CodeRange Unit) := (rangesFrom 0 (numbers36 text)).toArray

/-- Ranges from triples of numbers: the distance and the length as above, and what stands for the value. -/
def triplesFrom {α : Type} (value : Nat → α) (before : Nat) : List Nat → List (CodeRange α)
  | gap :: more :: v :: r => ⟨before + gap, before + gap + more, value v⟩ :: triplesFrom value (before + gap + more) r
  | _ => []

/-- The table that a text of triples writes down. -/
def codeTable {α : Type} (value : Nat → α) (text : String) : Array (CodeRange α) :=
  (triplesFrom value 0 (numbers36 text)).toArray

end AlarmClock.Text
