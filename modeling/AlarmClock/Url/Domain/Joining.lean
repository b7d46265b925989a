import AlarmClock.Text.CombiningClass

/-! The two characters that join or part their neighbours without being seen. They
may stand behind a sign that takes a vowel away; the one that parts may also stand
between letters that would otherwise join. -/

namespace AlarmClock.Domain

open Text

/-- The sides on which a letter joins its neighbours. -/
inductive Joining where
  | right | left | both | transparent | causing | none
  deriving DecidableEq, Repr

def Joining.ofNumber : Nat → Joining
  | 0 => right
  | 1 => left
  | 2 => both
  | 3 => transparent
  | 4 => causing
  | _ => none

/-- The code points that join, or that joining passes over. -/
def joinings : Array (CodeRange Joining) := codeTable Joining.ofNumber
  "4t 0 3 gj 33 3 7o 6 3 7c 18 3 2 0 3 2 1 3 2 1 3 2 2 3 1z a 3 2 0 3 4 0 2 2 3 0 1 0 2 1 0 0 1 0 2 1 0 0 1 4
2 1 3 0 1 c 2 1 0 4 1 6 2 1 0 0 1 1 2 1 k 3 f 1 2 1 0 3 1 2 0 2 2 0 1 f 2 1 h 0 1 11 2 1 0 0 1 1 2 1 8 0 1
0 2 1 0 0 1 0 2 1 0 0 1 1 2 1 1 0 2 0 0 1 6 3 3 5 3 3 1 3 2 3 3 1 1 0 b 2 2 3 0 2 g 0 3 1 0 0 1 0 3 1 2 2 1
4 0 1 3 2 1 0 0 1 8 2 1 0 0 1 0 2 1 0 0 1 0 2 1 0 0 1 1 2 1 0 0 1 q 3 3 0 0 1 a 2 1 2 0 1 e 2 1 1 0 1 3 2 1
0 0 1 0 2 1 1 0 1 2 2 1 1 0 1 5 2 13 a 3 q w 2 1 8 3 7 0 4 3 0 3 p 3 3 2 8 3 2 2 3 2 4 3 j 0 0 1 4 2 1 1 0
1 0 2 1 0 0 1 9 2 1 0 0 1 0 2 1 2 0 1 2 3 5 0 2 2 3 2 2 0 0 1 0 2 1 1 0 6 i 0 1 2 4 1 0 2 3 4 2 1 0 0 1 0 2
8 8 3 1 9 2 1 2 0 2 0 0 1 1 2 1 1 0 1 5 2 1 0 0 1 e 2 2 n 3 2 v 3 1k 0 3 2 0 3 5 7 3 5 0 3 4 6 3 b 1 3 u 0
3 1n 0 3 5 3 3 9 0 3 l 1 3 r 0 3 3 1 3 1m 0 3 5 1 3 5 1 3 3 2 3 4 0 3 v 1 3 4 0 3 c 1 3 1m 0 3 5 4 3 2 1 3
5 0 3 l 1 3 n 5 3 2 0 3 1n 0 3 3 0 3 2 3 3 9 0 3 6 3 3 c 1 3 v 0 3 1q 0 3 d 0 3 1f 0 3 4 0 3 1k 0 3 2 2 3 6
2 3 2 3 3 8 1 3 c 1 3 u 0 3 1n 0 3 3 0 3 7 0 3 6 1 3 l 1 3 t 1 3 1m 1 3 5 3 3 9 0 3 l 1 3 u 0 3 21 0 3 8 2
3 2 0 3 2j 0 3 3 6 3 d 7 3 2r 0 3 3 8 3 c 6 3 22 1 3 s 0 3 2 0 3 2 0 3 1k d 3 2 4 3 2 1 3 6 a 3 2 z 3 a 0 3
2v 3 3 2 5 3 2 1 3 3 1 3 q 1 3 5 2 3 h 3 3 e 0 3 3 1 3 7 0 3 g 0 3 jk 2 3 qb 2 3 u 1 3 v 1 3 v 1 3 1t 1 3 2
6 3 9 0 3 3 a 3 a 0 3 16 0 2 3 0 4 1 2 3 2 0 3 h 2g 2 d 1 3 1 x 2 1 0 3 1 0 2 3a 2 3 5 1 3 a 0 3 7 2 3 64 1
3 3 0 3 1n 0 3 2 6 3 2 0 3 2 0 3 3 7 3 7 9 3 3 0 3 1d 1n 3 l 3 3 1d 0 3 2 4 3 2 0 3 6 0 3 15 8 3 d 1 3 x 3
3 3 1 3 2 2 3 1l 0 3 2 1 3 4 0 3 2 2 3 1n 7 3 3 1 3 49 2 3 2 c 3 2 6 3 5 0 3 7 0 3 4 1 3 5j 1r 3 ek 0 3 2 0
4 1 1 3 r 4 3 1e 4 3 6 5 3 2p w 3 2db 2 3 3y 0 3 2p v 3 ff 3 3 30 1 3 n9x 3 3 2 9 3 x 1 3 29 1 3 7l 0 3 4 0
3 5 0 3 q 1 3 6 0 3 k 1d 2 1 0 1 2a 1 3 r h 3 e 0 3 13 7 3 q a 3 1b 2 3 1d 0 3 3 3 3 3 1 3 14 0 3 1w 5 3 3
1 3 3 1 3 d 0 3 9 0 3 1c 0 3 1g 0 3 2 2 3 3 1 3 6 1 3 2 0 3 17 1 3 9 0 3 6n 0 3 3 0 3 5 0 3 fn5 0 3 ki f 3
h f 3 5s 0 3 6y 2 3 ea 0 3 6b 0 3 46 4 3 1af 2 3 2 1 3 6 3 3 15 2 3 5 0 3 3l 4 2 1 0 0 2 0 0 2 1 0 3 0 1 1
4 0 1 3 2 1 0 1 1 4 2 1 0 0 1 2 2 1 0 0 3 0 0 1 1 3 5 3 2 1 0 0 41 0 2 1 0 0 1 0 2 1 2 0 1 2 2 1 0 0 1 1 2
1 0 0 1 0 2 1 1 0 1 0 2 1 0 0 o 3 0 1 1 2 9e 0 1 1 w 2 1 0 0 1 0 2 1 3 3 1u 4 3 8u 1 3 m 0 0 1 1 2 2 1 2 15
f 3 1d 2 2 1 0 0 1 g 2 2 a 3 1 2 2 1 0 0 s 3 2 1 1 0 1 b 2 1 3 3 17 0 2 2 1 2 1 2 0 2 0 2 1 1 0 1 1 2 1 0 0
1 1 2 2 0 2 1 1 0 1 0 2 5 0 0 1 0 2 1 0 1 1i 0 3 1j e 3 16 0 3 3 1 3 b 2 3 1e 3 3 3 1 3 8 0 3 1q 2 3 11 4 3
2 7 3 1r 0 3 d 1 3 1h 8 3 b 3 3 3 0 3 2o 2 3 3 0 3 2 1 3 7 0 3 3 0 3 4e 0 3 4 7 3 m 1 3 1m 1 3 4 0 3 12 6 3
4 4 3 1z 5 3 e 0 3 2 0 3 2 0 3 f 1 3 2e 7 3 3 2 3 2 0 3 o 0 3 2d 5 3 2 0 3 5 1 3 2 1 3 6n 3 3 7 1 3 2 1 3 s
1 3 2e 7 3 3 0 3 2 1 3 2z 0 3 2 0 3 3 5 3 2 0 3 2u 0 3 2 0 3 3 3 3 2 4 3 78 8 3 2 1 3 75 1 3 2 0 3 5 0 3 41
3 3 3 1 3 5 0 3 x 9 3 15 5 3 3 3 3 9 0 3 a 5 3 3 2 3 1b c 3 2 1 3 5j 0 3 2 2 3 2 0 3 5m 6 3 2 5 3 2 0 3 2b
l 3 3 6 3 2 1 3 2 1 3 3f 5 3 4 0 3 2 1 3 2 6 3 2 0 3 21 1 3 4 0 3 2 0 3 9o 1 3 c 1 3 1h 4 3 6 0 3 2 0 3 o 0
3 446 g 3 7 e 3 8uh b 3 4 2 3 1xd 4 3 1o 6 3 t5 0 3 1s 3 3 2a 0 3 f5l 1 3 2 3 3 3ml 19 3 3 m 3 f5 2 3 a f 3
3 6 3 v 3 3 45 2 3 1j0 1i 3 5 1d 3 9 0 3 f 0 3 n 4 3 2 e 3 11t 6 3 2 g 3 3 6 3 2 1 3 2 4 3 2t 0 3 4h 6 3 ag
0 3 1q 3 3 e5 3 3 73 1 3 6s 0 3 3 0 3 8 1 3 6 0 3 d7 6 3 16 1v 2 1 7 3 gzau 0 3 v 2n 3 3l 6n 3"

def joining (c : Char) : Joining := ((CodeRange.find? joinings c.toNat).map (·.value)).getD .none

/-- Whether what stands before it, in reverse, and what stands behind it allow the character that parts. -/
def mayPart (before after : List Char) : Bool :=
  let toLeft := (before.map joining).dropWhile (· = .transparent)
  let toRight := (after.map joining).dropWhile (· = .transparent)
  (toLeft.head? = some .left || toLeft.head? = some .both) &&
    (toRight.head? = some .right || toRight.head? = some .both)

/-- Whether the joining characters of a label stand where they may; `before` holds what was passed, in reverse. -/
def joinersOk (before : List Char) : List Char → Bool
  | [] => true
  | c :: r =>
    let behindVirama := match before with
      | [] => false
      | b :: _ => combiningClass b.toNat = viramaClass
    let ok :=
      if c.toNat = 0x200C then behindVirama || mayPart before r
      else if c.toNat = 0x200D then behindVirama
      else true
    ok && joinersOk (c :: before) r

end AlarmClock.Domain
