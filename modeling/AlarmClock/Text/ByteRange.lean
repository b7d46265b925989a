import AlarmClock.Power

/-! The bytes of the characters in a range of code points, as sequences of ranges of bytes. -/

namespace AlarmClock.Text

/-- Sequences behind a first range, if they are wanted. -/
def led (wanted : Bool) (x : Nat × Nat) (ss : List (List (Nat × Nat))) : List (List (Nat × Nat)) :=
  if wanted then ss.map (x :: ·) else []

/-- The sequences for the numbers from one to another, each written by a first digit and as many further digits to
the base 64 as asked for. -/
def digitSequences : Nat → Nat → Nat → List (List (Nat × Nat))
  | 0, a, b => [[(a, b)]]
  | i + 1, a, b =>
    let unit := 64 ^ (i + 1)
    let first := a / unit
    let last := b / unit
    if first = last then led true (first, first) (digitSequences i (a % unit) (b % unit))
    else
      let cutsFirst : Bool := a % unit ≠ 0
      let cutsLast : Bool := b % unit ≠ unit - 1
      let start := if cutsFirst then first + 1 else first
      let stop := if cutsLast then last - 1 else last
      led cutsFirst (first, first) (digitSequences i (a % unit) (unit - 1)) ++
        led (start ≤ stop) (start, stop) (digitSequences i 0 (unit - 1)) ++
        led cutsLast (last, last) (digitSequences i 0 (b % unit))

/-- The code points of characters by the number of their further bytes, with the mark of the first byte. Surrogates
are no characters. -/
def lengthClasses : List (Nat × Nat × Nat × Nat) :=
  [(0, 0x7F, 0, 0), (0x80, 0x7FF, 1, 0xC0), (0x800, 0xD7FF, 2, 0xE0), (0xE000, 0xFFFF, 2, 0xE0),
    (0x10000, 0x10FFFF, 3, 0xF0)]

/-- Digits as bytes. -/
def markBytes (mark : Nat) : List (Nat × Nat) → List (Nat × Nat)
  | [] => []
  | r :: rs => (r.1 + mark, r.2 + mark) :: rs.map fun r => (r.1 + 0x80, r.2 + 0x80)

/-- The sequences of bytes for the characters of a range. -/
def byteSequences (r : Nat × Nat) : List (List (Nat × Nat)) :=
  lengthClasses.flatMap fun (low, high, further, mark) =>
    let a := max low r.1
    let b := min high r.2
    if a ≤ b then (digitSequences further a b).map (markBytes mark) else []

end AlarmClock.Text
