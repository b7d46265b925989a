import AlarmClock.Text.Numeral
import AlarmClock.Text.Split

/-! Internet addresses as hosts: four numbers below 256 written in one to four parts,
or eight numbers below 65536 of which one run of zeros may be left out. -/

namespace AlarmClock.Url

open Text

/-! ### Four numbers -/

/-- The parts of a text between points. -/
def pointParts (s : List Char) : List (List Char) := parts (· = '.') s

/-- The value of digits to a base, if all are digits of it. -/
def valueTo? (base : Nat) (s : List Char) : Option Nat :=
  let step (n : Nat) (c : Char) : Option Nat :=
    (hexValue? c).bind fun d => if d < base then some (base * n + d) else none
  s.foldl (fun n c => n.bind (step · c)) (some 0)

/-- A number in decimal, behind a zero in octal, or behind `0x` in hexadecimal digits. -/
def partValue? (s : List Char) : Option Nat :=
  match s with
  | [] => none
  | '0' :: 'x' :: r => valueTo? 16 r
  | '0' :: 'X' :: r => valueTo? 16 r
  | ['0'] => some 0
  | '0' :: r => valueTo? 8 r
  | r => valueTo? 10 r

/-- The parts of a text between points, without an empty last one. -/
def numberParts (s : List Char) : List (List Char) :=
  let parts := pointParts s
  if parts.getLast? = some [] then parts.dropLast else parts

/-- Whether the last part of a name is a number, so that the name has to be an address. -/
def endsInNumber (s : List Char) : Bool :=
  match (numberParts s).getLast? with
  | none => false
  | some last => (last ≠ [] && last.all isDigit) || (partValue? last).isSome

/-- The address of one to four numbers; the last one fills the bytes that the others leave. -/
def readFour? (s : List Char) : Option Nat :=
  match (numberParts s).mapM partValue? with
  | none => none
  | some ns =>
    match ns.getLast? with
    | none => none
    | some last =>
      let front := ns.dropLast
      if 3 < front.length ∨ 256 ^ (4 - front.length) ≤ last ∨ front.any (255 < ·) then none
      else some (front.zipIdx.foldr (fun (n, i) m => n * 256 ^ (3 - i) + m) last)

def fourChars (n : Nat) : List Char :=
  ['.'].intercalate ([n / 16777216, n / 65536 % 256, n / 256 % 256, n % 256].map numeral)

/-! ### Eight numbers -/

/-- The two numbers of four bytes in plain decimal at the end of an address. -/
def readTail? (s : List Char) : Option (List Nat) :=
  let byte? (p : List Char) : Option Nat :=
    if p = [] ∨ !p.all isDigit ∨ (1 < p.length ∧ p.head? = some '0') ∨ 255 < value p then none else some (value p)
  match (pointParts s).mapM byte? with
  | some [a, b, c, d] => some [a * 256 + b, c * 256 + d]
  | _ => none

/-- The hexadecimal digits at the front of a text, at most four. -/
def pieceDigits (s : List Char) : List Char := (s.take 4).takeWhile fun c => (hexValue? c).isSome

/-- The numbers of a text, behind those already seen in reverse, and how many stand before the run that is
left out. That run takes the place of at least one number. -/
def readPieces? (s : List Char) (seen : List Nat) (gap : Option Nat) : Option (List Nat × Option Nat) :=
  let count := seen.length + if gap.isSome then 1 else 0
  match s with
  | [] => some (seen.reverse, gap)
  | ':' :: r => if gap.isSome ∨ count = 8 then none else readPieces? r seen (some seen.length)
  | c :: r =>
    if count = 8 then none
    else
      let digits := pieceDigits (c :: r)
      let n := digits.foldl (fun n d => 16 * n + (hexValue? d).getD 0) 0
      match _h : (c :: r).drop digits.length with
      | [] => some ((n :: seen).reverse, gap)
      | '.' :: _ =>
        if digits = [] ∨ 6 < count then none
        else (readTail? (c :: r)).map fun tail => (seen.reverse ++ tail, gap)
      | ':' :: q => if digits = [] ∨ q = [] then none else readPieces? q (n :: seen) gap
      | _ => none
termination_by s.length
decreasing_by
  · simp
  · have := congrArg List.length _h
    simp at this
    simp; omega

/-- The eight numbers of an address between its brackets. -/
def readEight? (s : List Char) : Option (List Nat) :=
  let pieces := match s with
    | ':' :: ':' :: r => readPieces? r [] (some 0)
    | ':' :: _ => none
    | r => if r.length < 2 then none else readPieces? r [] none
  match pieces with
  | none => none
  | some (ns, none) => if ns.length = 8 then some ns else none
  | some (ns, some g) =>
    if ns.length < 8 then some (ns.take g ++ List.replicate (8 - ns.length) 0 ++ ns.drop g) else none

/-- The length of the run of zeros at the front. -/
def zeroRun (ns : List Nat) : Nat := (ns.takeWhile (· = 0)).length

/-- The first of the longest runs of at least two zeros, as place and length. -/
def longestRun (ns : List Nat) : Option (Nat × Nat) :=
  (List.range ns.length).foldl
    (fun best i =>
      let n := zeroRun (ns.drop i)
      if 2 ≤ n ∧ (best.map (·.2)).getD 0 < n then some (i, n) else best)
    none

def colonChars (ns : List Nat) : List Char := [':'].intercalate (ns.map hexNumeral)

def eightChars (ns : List Nat) : List Char :=
  match longestRun ns with
  | none => colonChars ns
  | some (i, n) => colonChars (ns.take i) ++ ':' :: ':' :: colonChars (ns.drop (i + n))

end AlarmClock.Url
