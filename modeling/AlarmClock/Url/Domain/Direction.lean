import AlarmClock.Text.CodeRange

/-! The direction of writing in domain names. A label that is written from right to
left, and every other label of a name with one, keeps to letters, digits and signs
that do not change places with their neighbours. -/

namespace AlarmClock.Domain

open Text

/-- How a character behaves in text of mixed direction. -/
inductive Direction where
  | left | right | arabic | arabicNumber | number | numberSeparator | commonSeparator | numberTerminator
  | neutral | boundary | mark | other
  deriving DecidableEq, Repr

def Direction.ofNumber : Nat → Direction
  | 0 => left
  | 1 => right
  | 2 => arabic
  | 3 => arabicNumber
  | 4 => number
  | 5 => numberSeparator
  | 6 => commonSeparator
  | 7 => numberTerminator
  | 8 => neutral
  | 9 => boundary
  | 10 => mark
  | _ => other

/-- The code points of domain names that are not letters from left to right. -/
def directions : Array (CodeRange Direction) := codeTable Direction.ofNumber
  "0 8 9 1 4 b 1 d 9 1 4 b 1 1 8 1 2 7 1 4 8 1 0 5 1 0 6 1 0 5 1 1 6 1 9 4 1 0 6 1 11 8 r 3 8 1 0 9 y 0 8 1 3
7 1 8 8 2 1 7 5 x 8 w 0 8 ci 1 8 8 d 8 3 r 8 2 g 8 1 33 a 6 0 8 3l 0 8 3x 6 a 75 4 8 1 0 7 2 18 a 1 0 1 1 0
a 1 0 1 1 1 a 1 0 1 1 1 a 1 0 1 1 2 a 7 10 1 i 1 8 1 0 2 1 1 7 1 0 2 1 0 6 1 0 2 1 1 8 1 a a 1 1b 2 1 k a 1
9 3 1 0 7 1 1 3 1 2 2 1 0 a 1 2s 2 1 6 a 2 0 8 1 5 a 1 1 2 1 1 a 1 0 8 1 3 a 1 1 2 1 9 4 1 m 2 1 0 a 1 t 2
1 q a 3 2g 2 1 a a 1 0 2 f 16 1 1 8 a 1 1 1 1 3 8 1 0 1 3 0 a 1 n 1 1 3 a 1 0 1 1 8 a 1 0 1 1 2 a 1 0 1 1 4
a 3 14 1 1 2 a 3 0 1 2 1b 2 8 8 a 1 15 2 1 1k a 1k 0 a 2 0 a 5 7 a 5 0 a 4 6 a b 1 a u 0 a 1n 0 a 5 3 a 9 0
a l 1 a f 1 7 8 0 7 3 4 a 1m 0 a 5 g a v 1 a 4 0 a c 1 a 1m 0 a 5 7 a 5 0 a l 1 a e 0 7 9 7 a 1n 0 a 3 0 a
2 3 a 9 9 a c 1 a v 0 a 1q 0 a d 0 a 12 5 8 1 0 7 1 0 8 6 0 a 4 0 a 1k 0 a 2 2 a 6 g a c 1 a l 6 8 3 0 a 1n
0 a g 1 a l 1 a t 1 a 1m 1 a 5 3 a 9 0 a l 1 a u 0 a 21 0 a 8 4 a 2j 0 a 3 6 a 5 0 7 8 7 a 2r 0 a 3 8 a c 6
a 22 1 a s 0 a 2 0 a 2 0 a 1 3 8 1g d a 2 4 a 2 1 a 6 1b a a 0 a 2v 3 a 2 5 a 2 1 a 3 1 a q 1 a 5 2 a h 3 a
e 0 a 3 1 a 7 0 a g 0 a jk 2 a 1d 9 8 2v 0 8 ij 1 8 3a 2 a u 1 a v 1 a v 1 a 1w 6 a 9 0 a 3 a a 8 0 7 2 0 a
j q 8 3f 1 a z 0 a 3b 2 a 5 1 a a 0 a 7 2 a 5 5 8 49 x 8 o 1 a 3 0 a 1n 0 a 2 8 a 2 0 a 3 7 a 7 c a 1d 2b a
1d 0 a 2 4 a 2 0 a 6 0 a c 1 8 s 8 a c 0 8 1 1 a x 3 a 3 1 a 2 2 a 1l 0 a 2 1 a 4 0 a 2 2 a 1n 7 a 3 1 a 49
2 a 2 c a 2 6 a 5 0 a 7 0 a 4 1 a 5j 1r a el 1 9 3 n 8 9 2 7 3 e 8 1 0 6 1 p 8 1u 10 7 c w a k 11 8 5 0 7 c
j 8 1p 3r 8 1 0 5 1 0 7 1 81 8 1y p 8 2 lx 8 2 9e 8 75 lb 8 6e 5 8 5 2 a 8 6 8 3k 0 a 2p v a 1 ec 8 4 o 8 a
3 a 3 0 8 7 0 8 6 2 8 2i 1 a 6 0 8 2j 0 8 5h 11 8 5i3 1r 8 h3l 1i 8 93 2 8 2o 3 a 1 0 8 1 9 a 1 1 8 v 1 a
29 1 a f x 8 2v 0 8 3e 0 a 4 0 a 5 0 a q 1 a 2 3 8 1 0 a c 1 7 1n 3 8 25 1 a r h a e 0 a 13 7 a q a a 1b 2
a 1d 0 a 3 3 a 3 1 a 14 0 a 1w 5 a 3 1 a 3 1 a d 0 a 9 0 a 1c 0 a 1g 0 a 2 2 a 3 1 a 6 1 a 2 0 a 17 1 a 9 0
a 38 1 8 3e 0 a 3 0 a 5 0 a fn5 0 a 44 w 2 a4 h 8 1t 1q 2 1 1c 8 x f a m 1 8 19 0 2 i6 0 8 1r 24 8 4 g 8 2l
0 a 6b 0 a 1 q 4 3f 4 a w6 7v 1 4 0 8 1 68 1 1 e a 1 11 1 3 7 a 1 4k 1 1 1 a 5 22 1 4 6 8 1 cf 1 1 z 2 1 3
a 9 9 3 7 f 1 q 4 a 1 x 1 5t u 3 2 15 1 2 1 a 1 4 1 h m 2 o f a 1 13 1 9 l 2 1 a a 1 8 2 n h 1 1 3 a 1 34 1
b 0 a 1j e a c j 8 b 0 a 3 1 a b 2 a 1e 3 a 3 1 a 8 0 a 1q 2 a 11 4 a 2 7 a 1r 0 a d 1 a 1h 8 a b 3 a 3 0 a
2o 2 a 3 0 a 2 1 a 7 0 a 3 0 a 4e 0 a 4 7 a m 1 a 1m 1 a 4 0 a 12 e a 1z 5 a e 0 a 2 0 a 2 0 a f 1 a 2e 7 a
3 2 a 2 0 a o 0 a 2d 5 a 2 0 a 5 1 a 2 1 a 6n 3 a 7 1 a 2 1 a s 1 a 2e 7 a 3 0 a 2 1 a w c 8 1r 0 a 2 0 a 3
5 a 2 0 a 2u 2 a 3 3 a 2 4 a 78 8 a 2 1 a 75 1 a 2 0 a 5 0 a 41 7 a 5 0 a x 5 a 3 1 a 15 5 a 3 3 a 9 0 a a
5 a 3 2 a 1b c a 2 1 a 5j 0 a 2 2 a 2 0 a 5m d a 2d l a 3 6 a 2 1 a 2 1 a 3f k a 2 0 a 21 1 a 4 0 a 2 0 a
9o 1 a c 1 a 1h 4 a 6 0 a 2 0 a o 0 a 3f 7 8 1 3 7 1 g 8 40f 0 a 7 e a 8uh b a 4 2 a 1xd 4 a 1o 6 a t5 0 a
1s 3 a 28 0 8 2 0 a f5l 1 a 31e kw 8 g 1y a f5 2 a i 7 a 3 6 a v 3 a 1o 2g 8 1 2 a 1 22 8 35 2e 8 1be 1i a
5 1d a 9 0 a f 0 a n k a 29 4v 8 up 3z a 4h 6 a ag 0 a 1q 3 a g 0 7 dp 3 a 73 1 a 6s 0 a 3 0 a 8 1 a 6 0 a
7f 5r 1 1 6 a 24 x 1 1 6 a 1 k 1 lu 5o 2 c3 fz 8 1q 2 8 1q 0 8 4z 1wa 8"

def direction (c : Char) : Direction := ((CodeRange.find? directions c.toNat).map (·.value)).getD .left

/-- Whether a character makes a name one of mixed direction. -/
def turnsAround (c : Char) : Bool := direction c ∈ [.right, .arabic, .arabicNumber]

/-- The directions of a label up to the marks at its end. -/
def withoutLastMarks (ds : List Direction) : List Direction := (ds.reverse.dropWhile (· = .mark)).reverse

/-- Whether a label may stand in a name of mixed direction. -/
def directionOk (label : List Char) : Bool :=
  let ds := label.map direction
  let last := (withoutLastMarks ds).getLast?
  match ds with
  | [] => true
  | .left :: _ =>
    ds.all (· ∈ [.left, .number, .numberSeparator, .commonSeparator, .numberTerminator, .neutral, .boundary, .mark]) &&
      (last = some .left || last = some .number)
  | d :: _ =>
    (d = .right || d = .arabic) &&
      ds.all (· ∈ [.right, .arabic, .arabicNumber, .number, .numberSeparator, .commonSeparator, .numberTerminator,
        .neutral, .boundary, .mark]) &&
      (last = some .right || last = some .arabic || last = some .number || last = some .arabicNumber) &&
      !(ds.contains .number && ds.contains .arabicNumber)

end AlarmClock.Domain
