import AlarmClock.Decimal.Binary64
import AlarmClock.Text.Numeral

/-! The shortest decimal text of a binary number: the fewest digits that read back
as it, and of those the nearest to it. -/

namespace AlarmClock

namespace Magnitude

/-- Whether `a * 2 ^ p` is at most `d * 10 ^ k`. -/
def binaryLeDecimal (a : Nat) (p : Int) (d : Nat) (k : Int) : Bool :=
  a * 2 ^ p.toNat * 10 ^ (-k).toNat ≤ d * 10 ^ k.toNat * 2 ^ (-p).toNat

/-- Whether `d * 10 ^ k` is at most `a * 2 ^ p`. -/
def decimalLeBinary (d : Nat) (k : Int) (a : Nat) (p : Int) : Bool :=
  d * 10 ^ k.toNat * 2 ^ (-p).toNat ≤ a * 2 ^ p.toNat * 10 ^ (-k).toNat

/-- Whether `d * 10 ^ k` is nearer to a number than to its neighbours; a tie goes to the even significand. -/
def readsBack (v : Magnitude) (d : Nat) (k : Int) : Bool :=
  let p := v.exponent - 2
  let low := if v.significand = 2 ^ 52 ∧ v.exponent ≠ -1074 then 4 * v.significand - 1 else 4 * v.significand - 2
  let high := 4 * v.significand + 2
  if v.significand % 2 = 0 then binaryLeDecimal low p d k && decimalLeBinary d k high p
  else !decimalLeBinary d k low p && !binaryLeDecimal high p d k

/-- The place of the first digit of a number that is not zero. -/
def leadingPlace (v : Magnitude) : Int :=
  let guess := ((v.significand.log2 : Int) + v.exponent) * 30103 / 100000
  if !decimalLeBinary 1 guess v.significand v.exponent then guess - 1
  else if decimalLeBinary 1 (guess + 1) v.significand v.exponent then guess + 1
  else guess

/-- Of the two neighbours of a number among the multiples of `10 ^ k` the nearer one that reads back. -/
def neighbour? (v : Magnitude) (k : Int) : Option Nat :=
  let num := v.significand * 2 ^ v.exponent.toNat * 10 ^ (-k).toNat
  let den := 2 ^ (-v.exponent).toNat * 10 ^ k.toNat
  let near := nearestQuotient num den
  let far := if near = num / den then near + 1 else num / den
  if v.readsBack near k then some near else if v.readsBack far k then some far else none

/-- The digits and the place of the last of them, for digit counts from `17 - more` on. -/
def searchDigits (v : Magnitude) (place : Int) : Nat → Nat × Int
  | 0 => ((v.neighbour? (place - 16)).getD 0, place - 16)
  | more + 1 =>
    let k := place - (16 - (more + 1 : Nat))
    match v.neighbour? k with
    | some d => (d, k)
    | none => searchDigits v place more

/-- The shortest digits that read back, with the place of the last of them. A neighbour one digit longer
than asked for is a power of ten and loses its zero. -/
def shortest (v : Magnitude) : Nat × Int :=
  if v.significand = 0 then (0, 0)
  else
    let (d, k) := searchDigits v v.leadingPlace 16
    if d % 10 = 0 then (d / 10, k + 1) else (d, k)

end Magnitude

namespace Binary64

open Text

/-- Positional with at least one decimal place while the first digit stands between the fifth place behind
the point and the sixteenth in front of it, else with an exponent that always carries a sign. -/
def chars (f : Binary64) : List Char :=
  let (d, k) := f.magnitude.shortest
  let digits := numeral d
  let place : Int := k + digits.length - 1
  let sign := if f.negative then ['-'] else []
  let body :=
    if -5 ≤ place ∧ place ≤ 15 then
      if 0 ≤ k then digits ++ List.replicate k.toNat '0' ++ ['.', '0']
      else if 0 ≤ place then digits.take (place.toNat + 1) ++ '.' :: digits.drop (place.toNat + 1)
      else '0' :: '.' :: List.replicate (-place - 1).toNat '0' ++ digits
    else
      digits.take 1 ++ (if digits.length = 1 then [] else '.' :: digits.drop 1) ++
        'e' :: (if place < 0 then '-' else '+') :: numeral place.natAbs
  sign ++ body

end Binary64

end AlarmClock
