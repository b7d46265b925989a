import AlarmClock.Text.CodeRange

/-! The order of marks: the canonical combining class of a code point. Class zero is
that of characters which marks attach to. -/

namespace AlarmClock.Text

/-- The code points whose class is not zero. -/
def combiningClasses : Array (CodeRange Nat) := codeTable id
  "lc k 6e 1 0 6g 1 3 64 1 0 6g 1 0 60 1 4 64 1 1 5m 1 3 64 1 1 5m 1 a 64 1 4 1 1 3 64 1 2 6e 3 0 6e 3 0 6o 1
0 6e 1 2 64 1 2 6e 1 1 64 2 2 6e 1 3 64 1 0 6e 1 0 6g 1 1 64 1 0 6e 1 0 6h 1 1 6i 1 0 6h 1 1 6i 1 0 6h 1 c
6e 7o 4 6e 7e 0 64 1 3 6e 1 0 64 1 2 6e 1 0 66 1 0 64 1 5 6e 1 5 64 1 1 6e 1 0 64 1 1 6e 1 0 66 1 0 6c 1 0
6e 1 0 a 1 0 b 1 0 c 1 0 d 1 0 e 1 0 f 1 0 g 1 0 h 1 0 i 1 1 j 1 0 k 1 0 l 1 0 m 2 0 n 2 0 o 1 0 p 2 0 6e 1
0 64 2 0 i 21 7 6e 1 0 u 1 0 v 1 0 w 1d 0 r 1 0 s 1 0 t 1 0 u 1 0 v 1 0 w 1 0 x 1 0 y 1 1 6e 1 1 64 1 4 6e
1 0 64 1 1 6e 1 0 64 h 0 z 2u 6 6e 3 3 6e 1 0 64 1 0 6e 3 1 6e 2 0 64 1 1 6e 1 0 64 10 0 10 v 0 6e 1 0 64 1
1 6e 1 0 64 1 1 6e 1 2 64 1 0 6e 1 1 64 1 0 6e 1 0 64 1 2 6e 1 0 64 1 0 6e 1 0 64 1 0 6e 1 0 64 1 0 6e 1 0
64 1 1 6e 4h 6 6e 1 0 64 1 0 6e a 0 64 p 3 6e 2 8 6e 2 2 6e 2 4 6e 18 2 64 1o 1 6e 1 2 64 1 3 6e 17 4 6e 1
4 64 1 d 6e 2 0 64 1 1 6e 1 0 64 1 1 6e 1 0 64 1 2 6e 1 2 64 1 0 r 1 0 s 1 0 t 1 2 6e 1 0 64 1 1 6e 1 1 64
1 4 6e 1p 0 7 h 0 9 4 0 6e 1 0 64 1 1 6e 2w 0 7 h 0 9 1d 0 6e 1q 0 7 h 0 9 33 0 7 h 0 9 33 0 7 h 0 9 3k 0 9
33 0 7 h 0 9 8 0 2c 1 0 2j 2u 0 7 h 0 9 32 1 9 h 0 9 3h 0 9 32 1 2v 1 0 9 e 3 2z 31 1 3a 1 0 9 e 3 3e 25 1
64 s 0 64 2 0 64 2 0 60 1k 0 3l 1 0 3m 2 0 3o 6 3 3m 3 0 3m 2 1 6e 1 0 9 2 1 6e 1r 0 64 35 0 7 2 1 9 2b 0
64 k0 2 6e qd 1 9 v 0 9 4e 0 9 b 0 6e 5o 0 6c 40 0 66 1 0 6e 1 0 64 64 0 6e 1 0 64 20 0 9 l 7 6e 3 0 64 1d
4 6e 1 5 64 1 1 6e 1 0 64 2 1 64 1 1 6e 1 1 64 1 4 6e 1 0 64 1 h 6e 1 0 64 3 5 6e 1 0 64 1 3 6e 1 0 6i 21 0
7 g 0 9 13 0 6e 1 0 64 1 6 6e 1j 1 9 1n 0 7 c 1 9 1w 0 7 49 2 6e 2 0 1 1 4 64 1 1 6e 1 3 64 1 0 6e 2 6 1 5
0 64 7 0 6e 4 1 6e 5j 1 6e 1 0 64 1 6 6e 1 0 64 1 1 6e 1 0 6i 1 0 5y 1 0 64 1 0 5m 1 10 6e 1 0 6g 1 1 6c 1
0 64 1 0 62 1 0 6e 1 0 6h 1 0 64 1 0 6e 1 0 64 k1 1 6e 1 1 1 1 3 6e 1 2 1 1 1 6e 5 0 6e 4 1 1 1 0 6e 1 0 64
1 0 6e 1 1 1 1 3 64 1 0 6e 2db 2 6e 3y 0 9 2p v 6e ff 0 62 1 0 6c 1 0 6g 1 0 66 1 1 68 2y 1 8 n9x 0 6e 5 9
6e x 1 6e 29 1 6e 7p 0 9 12 0 9 48 0 9 s h 6e 1m 2 64 12 0 9 2o 0 7 d 0 9 6o 0 6e 2 1 6e 1 0 64 3 1 6e 6 1
6e 2 0 6e 1h 0 9 6v 0 9 fn5 0 q le 6 6e 1 6 64 1 1 6e r2 0 64 6b 0 64 46 4 6e 1ar 0 64 2 0 6e 15 0 6e 1 0 1
1 0 64 5 0 9 4m 0 6e 1 0 64 fy 3 6e 1u 4 6e 8u 1 6e 26 1 64 2 2 64 1z 1 64 1 2 6e 1 0 64 1 0 6e 1 3 64 1e 0
6e 1 0 64 1 0 6e 1 0 64 5d 0 9 16 0 9 f 0 9 1m 0 9 1 0 7 1y 2 6e 1d 1 9 1r 0 7 25 0 9 a 0 7 2z 0 9 1 0 7 4z
0 7 1 0 9 29 1 7 h 0 9 p 6 6e 4 4 6e 2i 2 9 36 0 9 4 0 7 o 0 6e 2s 0 9 1 0 7 70 0 9 1 0 7 3j 0 9 3b 0 9 1 0
7 38 0 9 7i 0 9 1 0 7 77 1 9 5 0 7 4d 0 9 2c 0 9 j 0 9 2a 0 9 bq 0 9 77 0 7 2 1 9 2a 0 9 bu 1 9 d0t 0 9 1xd
4 1 1o 6 6e xm 1 6 f59 0 1 43r 1 60 1 2 1 4 0 6a 1 4 60 9 7 64 3 4 6e 1 1 64 v 3 6e 45 2 6e 2po 6 6e 2 g 6e
3 6 6e 2 1 6e 2 4 6e 2t 0 6e 4h 6 6e ag 0 6e 1q 3 6e e5 1 6g 1 0 64 1 0 6e 73 0 6e 1 0 64 6s 0 6e 3 0 6e 8
1 6e 6 0 6e d7 6 64 32 5 6e 1 0 7"

/-- The canonical combining class of a code point. -/
def combiningClass (code : Nat) : Nat := ((CodeRange.find? combiningClasses code).map (·.value)).getD 0

/-- The combining class of signs that take the vowel from a consonant. -/
def viramaClass : Nat := 9

end AlarmClock.Text
