import AlarmClock.Text.CodeRange

/-! What becomes of a character in a domain name before anything else is looked at:
it stays, vanishes, is replaced, or is not allowed at all. -/

namespace AlarmClock.Domain

open Text

/-- The fate of the code points of a range. -/
inductive Mapping where
  | disallowed
  | ignored
  /-- Replaced by the code point so far above. -/
  | up (distance : Nat)
  /-- Replaced by the code point so far below. -/
  | down (distance : Nat)
  /-- Every second code point from the first on is replaced by the next one, which stays. -/
  | pairs
  /-- Replaced by a sequence. -/
  | into (codes : List Nat)
  deriving Repr

/-- The mapping of a kind with the numbers behind it, and the numbers left. -/
def Mapping.ofNumbers (kind : Nat) (s : List Nat) : Mapping × List Nat :=
  match kind with
  | 0 => (disallowed, s)
  | 1 => (ignored, s)
  | 2 => (up (s.headD 0), s.drop 1)
  | 3 => (down (s.headD 0), s.drop 1)
  | 4 => (pairs, s)
  | n => (into (s.take (n - 4)), s.drop (n - 4))

theorem Mapping.length_ofNumbers_le (kind : Nat) (s : List Nat) : (ofNumbers kind s).2.length ≤ s.length := by
  unfold ofNumbers
  split <;> simp

/-- Ranges with mappings from numbers: the distance from the range before, the length less one, the kind of
mapping, and what belongs to it. -/
def mappingsFrom (before : Nat) (s : List Nat) : List (CodeRange Mapping) :=
  match s with
  | gap :: more :: kind :: r =>
    ⟨before + gap, before + gap + more, (Mapping.ofNumbers kind r).1⟩ ::
      mappingsFrom (before + gap + more) (Mapping.ofNumbers kind r).2
  | _ => []
termination_by s.length
decreasing_by
  have := Mapping.length_ofNumbers_le kind r
  simp; omega

/-- The code points that do not simply stay. -/
def mappings : Array (CodeRange Mapping) := (mappingsFrom 0 (numbers36
  "1t p 2 w 12 v 0 1 0 3 3k 8 0 6 w lk 2 0 3 21 3 0 1 2 0 6 w lg 3 1 3 3k 1 0 6 w ld 1 0 2 lj 3 0 6 w mf 1 0 3
3s 1 0 3 23 2 0 7 1d 6dg 1g 1 0 7 1d 6dg 1e 1 0 7 1f 6dg 1g 2 m 2 w 2 6 2 w y 1a 4 2 0 6 2x lj 2 1 6 2x 2y
1 2 4 3 4 4 2 1 6 30 53 1 6 4 2 0 6 jg 32 1 18 4 2 0 3 3d 1 4 4 2 0 3 7g 2 0 2 5u 1 2 4 2 0 2 5q 1 0 2 1 2
1 2 5p 1 0 2 1 3 0 2 27 1 0 2 5m 1 0 2 5n 1 0 2 1 2 0 2 5p 1 0 2 5r 2 0 2 5v 1 0 2 5t 1 0 2 1 4 0 2 5v 1 0
2 5x 2 0 2 5y 1 4 4 2 0 2 62 1 0 2 1 2 0 2 62 3 0 2 1 2 0 2 62 1 0 2 1 2 1 2 61 1 2 4 2 0 2 63 1 0 2 1 4 0
2 1 8 2 6 2s am 1 2 6 30 2y 1 2 6 32 2y 1 e 4 3 g 4 3 2 6 2s 3e 1 0 2 1 2 0 3 2p 1 0 3 1k 1 12 4 2 0 3 3m 2
g 4 8 0 2 8bv 1 0 2 1 2 0 3 4j 1 0 2 8bs 3 0 2 1 2 0 3 5f 1 0 2 1x 1 0 2 1z 1 8 4 2q 0 3 g8 1 0 3 23 1 0 3
g8 1 0 3 g1 1 0 3 1n 1 0 3 1m 1 0 3 1h 1 0 3 g0 1 0 3 fz w 0 6 w li 1 0 6 w lj 1 0 6 w lm 1 0 6 w mg 1 0 6
w lf 1 0 6 w ln 3 0 3 3h 1 0 3 hh 1 0 3 hb 1 0 3 h7 1 0 3 27 2k 1 3 1s 2 0 3 1c 1 0 6 lk ld 1 0 2 38 a 0 1
x 2 4 2 0 3 57 2 0 2 1 2 1 0 1 0 6 w qh 4 0 3 n7 1 0 2 38 1 3 0 1 0 6 w ld 1 0 7 w lk ld 1 0 2 12 1 0 3 k0
1 2 2 11 1 0 0 1 0 2 1s 1 0 0 1 1 2 1r 2 g 2 w 1 0 0 1 8 2 w 10 0 2 8 1 0 3 u 1 0 3 p 1 0 3 d 1 0 3 6 1 0 3
9 1 0 3 f 1 0 3 m 2 m 4 2 0 3 1i 1 0 3 1c 1 0 3 1b 2 0 3 1o 1 0 3 1s 2 0 2 1 2 0 3 1i 1 0 2 1 3 2 3 3m 1 f
2 28 1 v 2 w 1d w 4 a 1g 4 2 0 2 f 1 c 4 3 2m 4 2 0 0 1 11 2 1c 1 0 0 1 0 2 f 1b 0 6 12d 136 4 0 3 w 1 0 0
4 0 0 1m 5 0 s 3 0 7 g 0 n 0 0 2h 0 6 17r 19w 1 0 6 18o 19w 1 0 6 1c7 19w 1 0 6 18q 19w 2t 0 0 1d 1 0 1o 1
0 2u d 0 1o 1 0 1e 1 0 g 0 0 t 1 0 2 0 0 c 4 0 x 6 0 24 0 0 3a 0 6 1sl 1to 1 0 6 1sm 1to 1 0 6 1sn 1to 1 0
6 1ss 1to 1 0 6 1sx 1to 1 0 6 1sy 1to 1 0 6 1t7 1to 1 0 6 1tb 1to 11 0 0 9 1 0 3 1 0 n 0 0 8 0 0 2 2 0 5 1
0 a 1 0 3 1 0 5 7 0 2 3 0 1 0 6 1wh 1x8 1 0 6 1wi 1x8 1 0 0 1 0 6 1wv 1x8 5 1 0 q 1 0 4 0 0 7 3 0 3 1 0 n 0
0 8 0 0 2 0 6 20i 20s 1 0 0 2 0 6 20o 20s 1 0 0 3 1 0 2 0 0 6 3 0 3 1 0 4 2 0 2 6 0 1 0 6 1zq 20s 1 0 6 1zr
20s 1 0 6 1zw 20s 2 0 0 1 0 6 20b 20s 1 6 0 i 9 0 4 0 0 a 0 0 4 0 0 n 0 0 8 0 0 3 0 0 6 1 0 b 0 0 4 0 0 4 1
0 2 e 0 5 1 0 d 6 0 8 0 0 4 0 0 9 1 0 3 1 0 n 0 0 8 0 0 3 0 0 6 1 0 a 1 0 3 1 0 4 4 0 6 3 0 1 0 6 275 27w 1
0 6 276 27w 1 0 0 6 1 0 j 9 0 3 0 0 7 2 0 4 0 0 5 2 0 3 0 0 2 0 0 3 2 0 3 2 0 4 2 0 d 3 0 6 2 0 4 0 0 5 1 0
2 5 0 2 d 0 m 4 0 e 0 0 4 0 0 o 0 0 h 1 0 a 0 0 4 0 0 5 6 0 3 0 0 4 0 0 3 1 0 5 1 0 b 6 0 n 0 0 4 0 0 o 0 0
b 0 0 6 1 0 a 0 0 4 0 0 5 6 0 3 4 0 4 0 0 5 1 0 b 0 0 4 b 0 e 0 0 4 0 0 1g 0 0 4 0 0 7 3 0 h 1 0 r 0 0 4 0
0 j 2 0 p 0 0 a 0 0 2 1 0 8 2 0 2 3 0 7 0 0 2 0 0 9 5 0 b 1 0 4 b 0 1f 0 6 2tp 2sy 8 3 0 u 10 0 3 0 0 2 0 0
6 0 0 p 0 0 2 0 0 d 0 6 2x9 2wi b 1 0 6 0 0 2 0 0 8 0 0 b 1 0 1 0 6 2wb 2vt 1 0 6 2wb 2w1 3 v 0 d 0 3 1 1j
0 6 30i 33r 5 0 0 5 0 6 30s 33r 5 0 6 30x 33r 5 0 6 312 33r 5 0 6 317 33r d 0 6 30g 33p 4 3 0 3 0 6 31t 31u
2 0 6 31t 31w 1 0 6 33m 328 1 0 7 33m 31t 328 1 0 6 33n 328 1 0 7 33n 31t 328 8 0 6 31t 328 i 0 6 32q 33r 5
0 0 5 0 6 330 33r 5 0 6 335 33r 5 0 6 33a 33r 5 0 6 33f 33r d 0 6 32o 33p 4 0 0 g 0 0 e 10 0 4h 11 2 5ls 1
0 0 1 0 2 5ls 1 4 0 1 0 2 5ls 1 1 0 19 0 3 w 2r 1 1 6h 0 0 5 1 0 8 0 0 2 0 0 5 1 0 16 0 0 5 1 0 y 0 0 5 1 0
8 0 0 2 0 0 5 1 0 g 0 0 1m 0 0 5 1 0 1w 1 0 x 2 0 r 5 0 2f 1 0 1 5 3 8 1 1 0 ht 0 0 t 2 0 2i 6 0 n 8 0 p 8
0 l b 0 e 0 0 4 0 0 3 b 0 1h 1 1 15 1 0 b 5 0 b 5 0 c 4 1 b 5 0 2i 6 0 18 4 0 1z 9 0 w 0 0 d 3 0 d 3 0 2 2
0 17 1 0 6 a 0 19 3 0 r 5 0 c 2 0 1r 1 0 1u 0 0 u 1 0 c 5 0 b 5 0 f 1 0 1p j 0 26 0 0 4n 7 0 1p 2 0 g 2 0
1g 0 3 4su 1 0 3 4st 1 0 3 4sk 1 1 3 4si 1 0 3 4sj 1 0 3 4sc 1 0 3 4ro 1 0 2 r7n 1 0 2 1 2 4 0 1 16 3 2bk 1
1 0 1 2 3 2bk 9 7 0 18 4 0 19 0 3 5or 1 0 3 5l3 1 0 3 5os 2 1 3 5os 1 0 3 5ed 1 7 3 5os 2 0 3 5ot 1 0 3 5cq
1 0 3 5ou 1 0 3 5ot 1 1 3 5os 1 0 3 5or 1 0 3 5pe 1 1 3 5bo 1 0 3 1w 1 0 3 5ph 1 1 3 5pg 1 0 3 5bl 1 1 3
5bk 1 0 3 5pi 2 0 3 5pg 1 0 3 5pf 1 0 3 5ja 1 0 3 5pf 1 0 3 5bz 1 1 3 1q 1 0 3 5pi 1 1 3 5pf 1 0 3 1o 1 0 3
5bf 1 0 3 5ph 1 0 3 1j 1 2 3 52j 1 1 3 522 1 0 3 5q1 1 0 3 5pt 1 1 3 5pr 1 1 3 52s 1 0 3 52f 1 1 3 52b e 0
3 4zf z 0 3 5e1 1 0 3 5rt 1 0 3 5e0 1 0 3 5ny 1 0 3 5dv 1 0 3 5ru 1 0 3 5du 1 0 3 5dt 1 0 3 5dq 1 2 3 5do 1
0 3 18 1 0 3 5cb 1 0 3 5do 1 0 3 11 1 0 3 5cc 1 0 3 5dn 1 0 3 5dp 1 3 3 5do 1 0 3 5dm 1 1 3 5dd 1 0 3 5je 1
1 3 5d9 1 0 3 4c 1 1 3 5da 1 0 3 5s1 1 2 3 5d8 1 0 3 553 1t 44 4 6 0 6 2p ji 1 0 3 1m 3 0 3 5vj 2 2m 4 a 7
3 8 7 1 0 1 5 3 8 1 1 0 9 7 3 8 9 7 3 8 7 1 0 1 5 3 8 1 1 0 9 0 0 1 0 3 8 1 0 0 1 0 3 8 1 0 0 1 0 3 8 1 0 0
1 0 3 8 9 7 3 8 2 0 3 5hh 2 0 3 5hi 2 0 3 5hj 2 0 3 5hk 2 0 3 5gt 2 0 3 5gu 2 0 3 5gv 1 1 0 1 0 6 64g qh 1
0 6 64h qh 1 0 6 64i qh 1 0 6 64j qh 1 0 6 64k qh 1 0 6 64l qh 1 0 6 64m qh 1 0 6 64n qh 1 0 6 64g qh 1 0 6
64h qh 1 0 6 64i qh 1 0 6 64j qh 1 0 6 64k qh 1 0 6 64l qh 1 0 6 64m qh 1 0 6 64n qh 1 0 6 65c qh 1 0 6 65d
qh 1 0 6 65e qh 1 0 6 65f qh 1 0 6 65g qh 1 0 6 65h qh 1 0 6 65i qh 1 0 6 65j qh 1 0 6 65c qh 1 0 6 65d qh
1 0 6 65e qh 1 0 6 65f qh 1 0 6 65g qh 1 0 6 65h qh 1 0 6 65i qh 1 0 6 65j qh 1 0 6 674 qh 1 0 6 675 qh 1 0
6 676 qh 1 0 6 677 qh 1 0 6 678 qh 1 0 6 679 qh 1 0 6 67a qh 1 0 6 67b qh 1 0 6 674 qh 1 0 6 675 qh 1 0 6
676 qh 1 0 6 677 qh 1 0 6 678 qh 1 0 6 679 qh 1 0 6 67a qh 1 0 6 67b qh 3 0 6 67k qh 1 0 6 q9 qh 1 0 6 q4
qh 1 0 0 2 0 6 69i qh 1 1 3 8 1 0 3 22 1 0 3 5jj 1 0 6 q9 qh 1 0 6 w lv 1 0 3 5j9 1 0 6 w lv 1 0 6 w n6 1 0
7 w lk n6 1 0 6 67o qh 1 0 6 qf qh 1 0 6 q6 qh 1 0 0 2 0 6 69y qh 1 0 3 2e 1 0 3 5jw 1 0 3 2e 1 0 3 5jx 1 0
6 qf qh 1 0 7 w lv lc 1 0 7 w lv ld 1 0 7 w lv n6 4 0 3 5kz 1 1 0 3 1 3 8 1 0 3 2s 1 0 3 5kc 1 0 0 1 0 7 w
lw lc 1 0 7 w lw ld 1 0 7 w lw n6 4 0 3 5kj 5 1 3 8 1 0 3 34 1 0 3 5jy 1 0 3 7 1 0 7 w lk lc 1 0 7 w lk ld
1 0 3 68f 1 1 0 1 0 6 67w qh 1 0 6 qx qh 1 0 6 r2 qh 1 0 0 2 0 6 6ba qh 1 0 3 3k 1 0 3 5kd 1 0 3 3i 1 0 3
5kd 1 0 6 qx qh 1 0 6 w ld 1 0 6 w lw 1 0 0 1 a 5 w 1 0 1 3 1 0 2 0 3 1 6 0 6 w mr d 2 0 2 6 0 1 0 3 6bz 4
0 6 6cy 6cy 1 0 7 6cy 6cy 6cy 2 0 6 6d1 6d1 1 0 7 6d1 6d1 6d1 5 0 6 x x 2 0 6 w lh 9 0 6 1r 1r 1 0 6 1r x 1
0 6 x 1r e 0 8 6cy 6cy 6cy 6cy 8 0 3 6db 1 4 1 1 4 0 1 5 1 1 0 3 6dc 1 0 3 6bs 1 1 0 1 5 3 6dc 1 0 3 6dr 1
0 2 bb 1 0 3 6db 1 1 3 6dx 1 0 3 6c1 1 9 3 6ds 1 0 3 6e7 1 0 2 av 1 0 3 6dr 1 1 3 6ed 2 0 3 6cv 1 0 3 6cs 1
0 3 6cj 1 0 3 6cb 1 0 3 5yz 1 0 3 6ct 1 3 3 6cr 1 0 3 6cq 1 1 3 6co 1 0 3 6cm 1 1 3 6cl 9 0 6 36 37 t a 0 y
e 0 1 0 7 2p 1b 2r 1 0 7 2p 1b 37 1 0 3 6fz 1 0 6 4w 2r 2 0 7 2r 1b 33 1 0 7 2r 1b 39 1 0 3 624 2 0 6 4w 2u
1 1 3 6g3 1 2 5 2w 1 0 3 6aw 1 1 5 2x 1 1 5 30 2 0 3 6g7 1 0 6 32 33 3 2 3 6g9 1 1 5 36 3 0 6 37 31 1 0 7
38 2t 30 1 0 6 38 31 2 0 3 6ga 2 0 3 5st 2 0 3 6ge 2 0 3 6gv 1 0 3 6di 1 1 3 6h6 2 1 5 2t 1 0 3 6h7 1 0 2 s
1 0 3 6h2 1 0 3 6h1 1 3 3 5et 1 0 3 6hc 2 0 7 2u 2p 3c 1 0 3 5to 1 1 5 qb 1 0 3 5tr 1 0 2 5t 5 1 5 2s 1 0 3
6hu 1 1 3 6hr 7 0 7 1d 6dg 1j 1 0 7 1d 6dg 1l 1 0 8 1d 6dg 1d 1c 1 0 7 1d 6dg 1f 1 0 7 1e 6dg 1f 1 0 7 1d
6dg 1h 1 0 7 1e 6dg 1h 1 0 7 1f 6dg 1h 1 0 7 1g 6dg 1h 1 0 7 1d 6dg 1i 1 0 7 1h 6dg 1i 1 0 7 1d 6dg 1k 1 0
7 1f 6dg 1k 1 0 7 1h 6dg 1k 1 0 7 1j 6dg 1k 1 0 6 1d 6dg 1 0 3 6if 1 0 6 2x 2x 1 0 7 2x 2x 2x 1 0 6 2x 3a 1
0 3 6i6 1 0 6 3a 2x 1 0 7 3a 2x 2x 1 0 8 3a 2x 2x 2x 1 0 6 2x 3c 1 0 3 6i9 1 0 6 3c 2x 1 0 7 3c 2x 2x 1 0 3
6io 1 1 3 6iy 1 0 3 6iq 1 0 3 6iv 1 0 6 2x 2x 1 0 7 2x 2x 2x 1 0 6 2x 3a 1 0 3 6im 1 0 6 3a 2x 1 0 7 3a 2x
2x 1 0 8 3a 2x 2x 2x 1 0 6 2x 3c 1 0 3 6ip 1 0 6 3c 2x 1 0 7 3c 2x 2x 1 0 3 6j4 1 1 3 6je 1 0 3 6j6 4 0 2 1
6 0 7 1c 6dg 1f 3 3 0 4d 0 6 6qz 6qz 1 0 7 6qz 6qz 6qz 2 0 6 6r2 6r2 1 0 7 6r2 6r2 6r2 6x 1 2 2jj 74 l 0 c
k 0 1 8 3 75b 1 0 6 1d 1c 1 0 6 1d 1d 1 0 6 1d 1e 1 0 6 1d 1f 1 0 6 1d 1g 1 0 6 1d 1h 1 0 6 1d 1i 1 0 6 1d
1j 1 0 6 1d 1k 1 0 6 1d 1l 1 0 6 1e 1c 1 0 7 14 1d 15 1 0 7 14 1e 15 1 0 7 14 1f 15 1 0 7 14 1g 15 1 0 7 14
1h 15 1 0 7 14 1i 15 1 0 7 14 1j 15 1 0 7 14 1k 15 1 0 7 14 1l 15 1 0 8 14 1d 1c 15 1 0 8 14 1d 1d 15 1 0 8
14 1d 1e 15 1 0 8 14 1d 1f 15 1 0 8 14 1d 1g 15 1 0 8 14 1d 1h 15 1 0 8 14 1d 1i 15 1 0 8 14 1d 1j 15 1 0 8
14 1d 1k 15 1 0 8 14 1d 1l 15 1 0 8 14 1e 1c 15 1 j 0 1 0 7 14 2p 15 1 0 7 14 2q 15 1 0 7 14 2r 15 1 0 7 14
2s 15 1 0 7 14 2t 15 1 0 7 14 2u 15 1 0 7 14 2v 15 1 0 7 14 2w 15 1 0 7 14 2x 15 1 0 7 14 2y 15 1 0 7 14 2z
15 1 0 7 14 30 15 1 0 7 14 31 15 1 0 7 14 32 15 1 0 7 14 33 15 1 0 7 14 34 15 1 0 7 14 35 15 1 0 7 14 36 15
1 0 7 14 37 15 1 0 7 14 38 15 1 0 7 14 39 15 1 0 7 14 3a 15 1 0 7 14 3b 15 1 0 7 14 3c 15 1 0 7 14 3d 15 1
0 7 14 3e 15 1 p 3 76d 1 p 3 773 1 0 3 796 10i 0 8 6qz 6qz 6qz 6qz 2w 0 7 1m 1m 1p 1 0 6 1p 1p 1 0 7 1p 1p
1p 2u 0 6 8gt mw 48 1 0 3v 1b 2 1c 1d 0 2 1 2 0 3 8af 1 0 3 2xy 1 0 3 89z 3 4 4 2 0 3 8bg 1 0 3 8al 1 0 3
8bj 1 0 3 8bi 2 0 2 1 3 0 2 1 7 0 3 8pe 1 0 3 8p3 1 1 3 8cf 1 2q 4 9 2 4 5 0 2 1 2 4 0 1a 0 0 2 4 0 2 1 0
1l 6 0 1 0 3 e 2 d 0 p 8 0 8 0 0 8 0 0 8 0 0 8 0 0 8 0 0 8 0 0 8 0 0 8 0 0 3m u 0 r 0 0 5 0 2 c32 2c 0 2
m98 1 b 0 1 0 2 64g 1 0 2 65j 1 0 2 65w 1 0 2 664 1 0 2 66t 1 0 2 680 1 0 2 686 1 0 2 68p 1 0 2 69e 1 0 2
6ra 1 0 2 6sb 1 0 2 6sg 1 0 2 6t2 1 0 2 6tl 1 0 2 6u5 1 0 2 6vl 1 0 2 6w5 1 0 2 6wf 1 0 2 70p 1 0 2 73a 1 0
2 741 1 0 2 745 1 0 2 74y 1 0 2 756 1 0 2 75w 1 0 2 768 1 0 2 76w 1 0 2 78b 1 0 2 78s 1 0 2 79i 1 0 2 7uh 1
0 2 7wg 1 0 2 897 1 0 2 89t 1 0 2 8a0 1 0 2 8aa 1 0 2 8ar 1 0 2 8cu 1 0 2 8q2 1 0 2 8rd 1 0 2 8uo 1 0 2 8va
1 0 2 8vs 1 0 2 8wd 1 0 2 8xu 1 0 2 8xw 1 0 2 97x 1 0 2 986 1 0 2 98h 1 0 2 98t 1 0 2 9c0 1 0 2 9c7 1 0 2
9cb 1 0 2 9fj 1 0 2 9fs 1 0 2 9g4 1 0 2 9gb 1 0 2 9hz 1 0 2 9if 1 0 2 9iw 1 0 2 9l3 1 0 2 a17 1 0 2 a2g 1 0
2 a30 1 0 2 anj 1 0 2 ann 1 0 2 apx 1 0 2 aqc 1 0 2 aqo 1 0 2 ar8 1 0 2 asa 1 0 2 ase 1 0 2 azs 1 0 2 b0f 1
0 2 b1a 1 0 2 bth 1 0 2 bva 1 0 2 bvw 1 0 2 bxh 1 0 2 by4 1 0 2 byc 1 0 2 byi 1 0 2 bzx 1 0 2 c01 1 0 2 c0w
1 0 2 cuu 1 0 2 d78 1 0 2 d7j 1 0 2 d7n 1 0 2 d7q 1 0 2 d7x 1 0 2 d8e 1 0 2 d8f 1 0 2 dan 1 0 2 dgm 1 0 2
dgq 1 0 2 dq4 1 0 2 dqd 1 0 2 drq 1 0 2 drw 1 0 2 ds4 1 0 2 dsb 1 0 2 dut 1 0 2 duz 1 0 2 e1a 1 0 2 e1g 1 0
2 e2s 1 0 2 e38 1 0 2 e4i 1 0 2 eb2 1 0 2 eb8 1 0 2 ebo 1 0 2 ekq 1 0 2 eo7 1 0 2 eoc 1 0 2 etd 1 0 2 evr 1
0 2 ex0 1 0 2 f7h 1 0 2 fb5 1 0 2 fr2 1 0 2 frs 1 0 2 ftc 1 0 2 fuq 1 0 2 fwl 1 0 2 fwv 1 0 2 fx0 1 0 2 fxw
1 0 2 fzz 1 0 2 g08 1 0 2 g9t 1 0 2 g9z 1 0 2 ga7 1 0 2 gaf 1 0 2 gau 1 0 2 gb8 1 0 2 gbb 1 0 2 gdh 1 0 2
gdk 1 0 2 gdp 1 0 2 h4x 1 0 2 h5q 1 0 2 hiq 1 0 2 hj1 1 0 2 hjn 1 0 2 hrh 1 0 2 hrt 1 0 2 htr 1 0 2 hv0 1 0
2 iaq 1 0 2 ib4 1 0 2 ibi 1 0 2 icg 1 0 2 idg 1 0 2 iiy 1 0 2 ij9 1 0 2 il3 1 0 2 iry 1 0 2 iss 1 0 2 iyk 1
0 2 iz4 1 0 2 iz8 1 0 2 j5b 1 0 2 jae 1 0 2 jdu 1 0 2 jdz 1 0 2 je3 1 0 2 k40 1 0 2 k48 1 0 2 k8j 1 0 2 kcs
1 0 2 kcu 1 0 2 ke4 1 0 2 kh0 1 0 2 khc 1 0 2 khf 1 0 2 khl 1 0 2 kka 1 0 2 kl7 1 0 2 klc 1 0 2 klp 1 0 2
kqb 1 0 2 krp 1 0 2 krs 1 0 2 kwu 1 0 2 kww 1 0 2 kxe 1 0 2 l4d 1 0 2 l5o 1 0 2 l5u 1 0 2 l7r 1 0 2 l80 1 0
2 l82 1 0 2 l8b 1 0 2 l94 1 0 2 lk2 1 0 2 lv5 1 0 2 lve 1 0 2 lwf 1 0 2 lx0 1 0 2 lx7 1 0 2 lxg 1 0 2 lxj 1
0 2 lym 1 0 2 lyp 1 0 2 lz5 1 0 2 lz9 1 0 2 lzl 1 0 2 m0b 1 0 2 m0p 1 0 2 m0w 1 0 2 m2i 1 0 2 m2w 1 0 2 m2z
1 15 0 1 0 3 9gg 2 0 3 9g4 1g 0 3 10 2 0 2 6x5 1 1 2 6x7 6 0 0 2f 1 0 3 0 6 w 9ll 1 0 6 w 9lm 3 0 6 9l4 9l6
2o 0 6 9mb 9mw 1 4 0 18 0 0 1 1 3 6cx 1 0 3 689 1 0 3 6cy 1 1 3 689 1 2 3 6d0 1 5 3 68a 1 0 3 6cm 1 2 3 6d7
1 0 3 6cj 1 9 3 6d8 1 k 3 6b2 1 0 1 1 1 3 6dt 1 1 3 68w 1 0 3 68t 1 0 3 68s 1 0 3 68o 1 0 3 68l 1 0 3 68k 1
0 3 6du 1 0 3 68i 1 0 3 68h 1 1 3 6dw 1 0 3 6dv 1 1 3 6du 1 0 3 6dr 1 0 3 6dq 1 4 3 6dp 1 0 3 6dn 1 0 3 6dk
1 0 3 6db 1 0 3 6d5 1 0 3 6d1 1 1 3 68h 1 2 3 6ct 1 1 3 6bn 1 0 3 6bl 1 1 3 6bd 1 0 3 6bc 1 0 3 6b3 1 0 3
6b1 1 0 0 3 0 2 5m6 1 0 2 5q1 1 0 2 5md 1 0 2 7d2 1 0 2 5mc 1 0 2 5na 1 0 2 5mb 1 0 2 dcp 1 0 2 5of 1 0 2
5mm 1 0 2 5lx 1 0 2 7t8 1 0 2 7f6 1 0 2 5qz 1z 9 0 h 0 7 14 3cw 15 1 0 7 14 3cy 15 1 0 7 14 3cz 15 1 0 7 14
3d1 15 1 0 7 14 3d2 15 1 0 7 14 3d3 15 1 0 7 14 3d5 15 1 0 7 14 3d7 15 1 0 7 14 3d8 15 1 0 7 14 3da 15 1 0
7 14 3db 15 1 0 7 14 3dc 15 1 0 7 14 3dd 15 1 0 7 14 3de 15 1 0 7 14 xz4 15 1 0 7 14 yvs 15 1 0 7 14 zc4 15
1 0 7 14 108s 15 1 0 7 14 10p4 15 1 0 7 14 115g 15 1 0 7 14 1224 15 1 0 7 14 12ys 15 1 0 7 14 13f4 15 1 0 7
14 14bs 15 1 0 7 14 14s4 15 1 0 7 14 158g 15 1 0 7 14 15os 15 1 0 7 14 1654 15 1 0 7 14 13p8 15 1 0 8 14
1350 13ic 15 1 0 8 14 1350 16f8 15 1 0 0 1 0 7 14 feo 15 1 0 7 14 fik 15 1 0 7 14 fex 15 1 0 7 14 h5n 15 1
0 7 14 fis 15 1 0 7 14 g31 15 1 0 7 14 fer 15 1 0 7 14 g2z 15 1 0 7 14 fh9 15 1 0 7 14 gg1 15 1 0 7 14 kco
15 1 0 7 14 m7f 15 1 0 7 14 ldg 15 1 0 7 14 kdk 15 1 0 7 14 ssx 15 1 0 7 14 h7j 15 1 0 7 14 k4l 15 1 0 7 14
kkq 15 1 0 7 14 kcp 15 1 0 7 14 ny6 15 1 0 7 14 glp 15 1 0 7 14 mm1 15 1 0 7 14 rs1 15 1 0 7 14 nz1 15 1 0
7 14 gc4 15 1 0 7 14 fkz 15 1 0 7 14 gos 15 1 0 7 14 i1y 15 1 0 7 14 nhf 15 1 0 7 14 flt 15 1 0 7 14 rt3 15
1 0 7 14 ggk 15 1 0 7 14 nzh 15 1 0 7 14 fm9 15 1 0 7 14 pnu 15 1 0 7 14 po3 15 1 0 2 6x7 1 0 2 8qf 1 0 2
a4h 1 0 2 eh4 9 0 7 34 38 2t 1 0 6 1e 1d 1 0 6 1e 1e 1 0 6 1e 1f 1 0 6 1e 1g 1 0 6 1e 1h 1 0 6 1e 1i 1 0 6
1e 1j 1 0 6 1e 1k 1 0 6 1e 1l 1 0 6 1f 1c 1 0 6 1f 1d 1 0 6 1f 1e 1 0 6 1f 1f 1 0 6 1f 1g 1 0 6 1f 1h 1 0 3
6lc 1 1 3 6lb 1 2 3 6la 1 0 3 6l9 1 1 3 6l8 1 4 3 6l7 1 0 2 o0i 1 0 2 ox5 1 0 2 pdg 1 0 2 qa3 1 0 2 qqe 1 0
2 r6p 1 0 2 s3c 1 0 2 szz 1 0 2 tga 1 0 2 ucx 1 0 2 ut8 1 0 2 v9j 1 0 2 vpu 1 0 2 w65 1 0 6 14c8 y5c 1 0 6
13p8 13dk 1 0 2 t9u 2 0 2 5fk 1 0 2 5jf 1 0 2 5fr 1 0 2 76g 1 0 2 5jk 1 0 2 63s 1 0 2 5fh 1 0 2 63o 1 0 2
5hx 1 0 2 6go 1 0 2 ada 1 0 2 c80 1 0 2 be0 1 0 2 ae3 1 0 2 itf 1 0 2 780 1 0 2 a51 1 0 2 al5 1 0 2 ad3 1 0
2 dyj 1 0 2 6m1 1 0 2 cmc 1 0 2 hsb 1 0 2 dza 1 0 2 6cc 1 0 2 e2n 1 0 2 d5p 1 0 2 7o8 1 0 2 ij1 1 0 2 619 1
0 2 6he 1 0 2 bih 1 0 2 k11 1 0 2 5m8 1 0 2 647 1 0 2 b7k 1 0 2 5eu 1 0 2 5fs 1 0 2 5et 1 0 2 8jj 1 0 2 6kr
1 0 2 6fm 1 0 2 831 1 0 2 81n 1 0 2 dh3 1 0 2 5lg 1 0 2 hsp 1 0 2 6g5 1 0 2 7l8 1 0 6 1f 1i 1 0 6 1f 1j 1 0
6 1f 1k 1 0 6 1f 1l 1 0 6 1g 1c 1 0 6 1g 1d 1 0 6 1g 1e 1 0 6 1g 1f 1 0 6 1g 1g 1 0 6 1g 1h 1 0 6 1g 1i 1 0
6 1g 1j 1 0 6 1g 1k 1 0 6 1g 1l 1 0 6 1h 1c 1 0 6 1d kco 1 0 6 1e kco 1 0 6 1f kco 1 0 6 1g kco 1 0 6 1h
kco 1 0 6 1i kco 1 0 6 1j kco 1 0 6 1k kco 1 0 6 1l kco 1 0 7 1d 1c kco 1 0 7 1d 1d kco 1 0 7 1d 1e kco 1 0
6 2w 2v 1 0 7 2t 36 2v 1 0 6 2t 3a 1 0 7 30 38 2s 1 0 3 fi 1 0 3 fh 1 0 3 fg 1 0 3 ff 1 1 3 fe 1 0 3 fd 1 0
3 fc 1 0 3 fb 1 0 3 fa 1 0 3 f9 1 0 3 f8 1 0 3 f7 1 0 3 f6 1 0 3 f5 1 0 3 f4 1 0 3 f3 1 0 3 f1 1 0 3 f0 1 0
3 ez 1 5 3 ey 1 0 3 ew 1 0 3 eu 1 0 3 es 1 0 3 eq 1 4 3 eo 1 0 3 en 1 0 3 em 1 5 3 el 1 3 3 ek 1 0 6 fl0
gp8 1 0 8 9lu 9n5 9oc 9mw 1 0 8 9lu 9nv 9n9 9lt 1 0 8 9lu 9o3 9ne 9lu 1 0 7 9lu 9oc 9nv 1 0 8 9lw 9mz 9o3
9m8 1 0 7 9lw 9o3 9mp 1 0 7 9ly 9m1 9o3 1 0 9 9m0 9mh 9m7 9oc 9mx 1 0 8 9m0 9oc 9m3 9oc 1 0 7 9m2 9o3 9mh 1
0 7 9m2 9oc 9nk 1 0 7 9m3 9lw 9nu 1 0 8 9m3 9nt 9mr 9mw 1 0 8 9m3 9nx 9nu 9oc 1 0 7 9m4 9nx 9o3 1 0 7 9m4
9o3 9ni 1 0 6 9m6 9m4 1 0 7 9m6 9mz 9oc 1 0 8 9m5 9np 9nu 9oc 1 0 8 9m6 9nv 9mo 9oc 1 0 6 9m5 9nx 1 0 9 9m5
9nx 9m8 9nt 9nk 1 0 a 9m5 9nx 9nl 9oc 9mw 9nv 1 0 9 9m5 9nx 9nz 9mr 9mw 1 0 7 9m8 9nt 9nk 1 0 9 9m8 9nt 9nk
9mw 9o3 1 0 9 9m7 9nv 9mk 9lw 9nx 1 0 8 9m7 9nx 9oc 9n1 1 0 7 9m9 9oc 9mh 1 0 7 9mb 9nv 9my 1 0 7 9mb 9oc
9nh 1 0 8 9md 9lw 9m7 9nv 1 0 9 9md 9o3 9mp 9oc 9nk 1 0 8 9mf 9nu 9o3 9m8 1 0 7 9mj 9o3 9mp 1 0 7 9mj 9o3
9mw 1 0 7 9mo 9oc 9mh 1 0 6 9mv 9mf 1 0 6 9mx 9nv 1 0 6 9mw 9o3 1 0 6 9my 9n2 1 0 7 9n2 9mr 9mw 1 0 7 9n3
9lw 9ms 1 0 9 9n5 9oc 9mj 9o3 9mw 1 0 7 9n5 9oc 9ms 1 0 8 9n4 9oc 9nw 9nv 1 0 9 9n8 9lu 9mh 9mw 9nv 1 0 7
9n8 9m7 9nv 1 0 6 9n8 9mb 1 0 6 9n7 9nv 1 0 9 9n9 9lt 9nt 9mr 9mx 1 0 8 9n9 9lv 9oc 9mw 1 0 9 9na 9mr 9mf
9lz 9nv 1 0 7 9n9 9nt 9o3 1 0 9 9nc 9m7 9mn 9oc 9nv 1 0 6 9ne 9ml 1 0 7 9ne 9mz 9n6 1 0 7 9nc 9nv 9ms 1 0 7
9ne 9o3 9mh 1 0 7 9ne 9oc 9mg 1 0 7 9nd 9oc 9mn 1 0 8 9nh 9lw 9o3 9mw 1 0 7 9ng 9nv 9mw 1 0 6 9nf 9o3 1 0 7
9nh 9o3 9mx 1 0 7 9nf 9oc 9nv 1 0 7 9nf 9oc 9o3 1 0 8 9ni 9lw 9m7 9nx 1 0 7 9ni 9lw 9nv 1 0 7 9ni 9mr 9n3 1
0 7 9ni 9nv 9m7 1 0 9 9ni 9o3 9mf 9nr 9o3 1 0 8 9nj 9m7 9nx 9o3 1 0 6 9nj 9nu 1 0 9 9nj 9nu 9n4 9oc 9nv 1 0
6 9nl 9m4 1 0 8 9nl 9m4 9mw 9o3 1 0 8 9nl 9oc 9mw 9nv 1 0 7 9no 9oc 9mx 1 0 7 9no 9oc 9nv 1 0 7 9nq 9lu 9o3
1 0 8 9nu 9mr 9mw 9nv 1 0 6 9nu 9nt 1 0 7 9nv 9n8 9oc 1 0 8 9nv 9oc 9na 9nv 1 0 6 9nw 9nk 1 0 9 9nw 9o3 9mw
9ma 9o3 1 0 7 9nz 9mr 9mw 1 0 6 1c m9l 1 0 6 1d m9l 1 0 6 1e m9l 1 0 6 1f m9l 1 0 6 1g m9l 1 0 6 1h m9l 1 0
6 1i m9l 1 0 6 1j m9l 1 0 6 1k m9l 1 0 6 1l m9l 1 0 7 1d 1c m9l 1 0 7 1d 1d m9l 1 0 7 1d 1e m9l 1 0 7 1d 1f
m9l 1 0 7 1d 1g m9l 1 0 7 1d 1h m9l 1 0 7 1d 1i m9l 1 0 7 1d 1j m9l 1 0 7 1d 1k m9l 1 0 7 1d 1l m9l 1 0 7
1e 1c m9l 1 0 7 1e 1d m9l 1 0 7 1e 1e m9l 1 0 7 1e 1f m9l 1 0 7 1e 1g m9l 1 0 7 2w 34 2p 1 0 6 2s 2p 1 0 6
2p 39 1 0 7 2q 2p 36 1 0 6 33 3a 1 0 6 34 2r 1 0 6 2s 31 1 0 7 2s 31 1e 1 0 7 2s 31 1f 1 0 6 2x 39 1 0 6
inn jdc 1 0 6 k6l gp8 1 0 6 hlz l7n 1 0 6 k5q lh7 1 0 8 kkq irz fmi ny6 1 0 6 34 2p 1 0 6 32 2p 1 0 6 qk 2p
1 0 6 31 2p 1 0 6 2z 2p 1 0 6 2z 2q 1 0 6 31 2q 1 0 6 2v 2q 1 0 7 2r 2p 30 1 0 8 2z 2r 2p 30 1 0 6 34 2u 1
0 6 32 2u 1 0 6 qk 2u 1 0 6 qk 2v 1 0 6 31 2v 1 0 6 2z 2v 1 0 6 2w 3e 1 0 7 2z 2w 3e 1 0 7 31 2w 3e 1 0 7
2v 2w 3e 1 0 7 38 2w 3e 1 0 6 qk 30 1 0 6 31 30 1 0 6 2s 30 1 0 6 2z 30 1 0 6 2u 31 1 0 6 32 31 1 0 6 qk 31
1 0 6 31 31 1 0 6 2r 31 1 0 6 2z 31 1 0 7 31 31 1e 1 0 7 2r 31 1e 1 0 6 31 1e 1 0 7 2z 31 1e 1 0 7 31 31 1f
1 0 7 2r 31 1f 1 0 6 31 1f 1 0 7 2z 31 1f 1 0 7 31 6qd 37 1 0 8 31 6qd 37 1e 1 0 6 34 2p 1 0 7 2z 34 2p 1 0
7 31 34 2p 1 0 7 2v 34 2p 1 0 7 36 2p 2s 1 0 9 36 2p 2s 6qd 37 1 0 a 36 2p 2s 6qd 37 1e 1 0 6 34 37 1 0 6
32 37 1 0 6 qk 37 1 0 6 31 37 1 0 6 34 3a 1 0 6 32 3a 1 0 6 qk 3a 1 0 6 31 3a 1 0 6 2z 3a 1 0 6 31 3a 1 0 6
34 3b 1 0 6 32 3b 1 0 6 qk 3b 1 0 6 31 3b 1 0 6 2z 3b 1 0 6 31 3b 1 0 6 2z qx 1 0 6 31 qx 1 0 0 1 0 6 2q 35
1 0 6 2r 2r 1 0 6 2r 2s 1 0 8 2r 6qd 2z 2v 1 0 0 1 0 6 2s 2q 1 0 6 2v 3d 1 0 6 2w 2p 1 0 6 2w 34 1 0 6 2x
32 1 0 6 2z 2z 1 0 6 2z 31 1 0 6 2z 38 1 0 6 30 31 1 0 6 30 32 1 0 7 30 33 2v 1 0 6 30 3c 1 0 6 31 2q 1 0 7
31 2x 30 1 0 7 31 33 30 1 0 6 34 2w 1 0 0 1 0 7 34 34 31 1 0 6 34 36 1 0 6 37 36 1 0 6 37 3a 1 0 6 3b 2q 1
0 7 3a 6qd 31 1 0 7 2p 6qd 31 1 0 6 1d k4l 1 0 6 1e k4l 1 0 6 1f k4l 1 0 6 1g k4l 1 0 6 1h k4l 1 0 6 1i k4l
1 0 6 1j k4l 1 0 6 1k k4l 1 0 6 1l k4l 1 0 7 1d 1c k4l 1 0 7 1d 1d k4l 1 0 7 1d 1e k4l 1 0 7 1d 1f k4l 1 0
7 1d 1g k4l 1 0 7 1d 1h k4l 1 0 7 1d 1i k4l 1 0 7 1d 1j k4l 1 0 7 1d 1k k4l 1 0 7 1d 1l k4l 1 0 7 1e 1c k4l
1 0 7 1e 1d k4l 1 0 7 1e 1e k4l 1 0 7 1e 1f k4l 1 0 7 1e 1g k4l 1 0 7 1e 1h k4l 1 0 7 1e 1i k4l 1 0 7 1e 1j
k4l 1 0 7 1e 1k k4l 1 0 7 1e 1l k4l 1 0 7 1f 1c k4l 1 0 7 1f 1d k4l 1 0 7 2v 2p 30 m8e 2 0 1k 8 0 9p j 0 1
18 4 k q 4 2 0 3 w2a 1 0 3 w29 2j 7 0 z c 4 4 1o 4 2 0 3 1 9 2 4 2 0 3 r9g 1 8 4 5 0 2 1 2 0 3 wmg 3 2 4 4
i 4 2 0 3 wn8 1 0 3 wnj 1 0 3 wnf 1 0 3 wn5 1 0 3 wn8 2 0 3 wlu 1 0 3 wmi 1 0 3 wlx 1 0 2 ps 1 e 4 2 0 3 1c
1 0 3 wn7 1 0 3 raw 1 2 4 2 0 3 wo7 1 e 4 2 0 3 wu9 1 5 3 wo6 1 d 0 1 0 3 x32 1 0 3 x3j 1 0 3 x3h 1 0 3 x37
1 0 2 1 3 0 3 wy9 1 0 3 wx2 1g 2 0 b 5 0 1l 7 0 1z 7 0 d 5 0 39 a 0 v 2 0 27 0 0 c 3 0 y 0 0 1k 8 0 f 1 0 b
1 0 2w n 0 t 9 0 7 1 0 7 1 0 7 8 0 8 0 0 8 0 0 19 0 3 tx 1 0 3 12 1 0 3 xdf 1 0 3 d a 0 3 xcs 3 0 3 x 1 2 0
1 27 3 tzk 1b 1 0 b 5 0 8md b 0 o 3 0 1e 6ir 0 1 0 3 lh4 1 0 3 sul 1 0 3 kzc 1 0 3 ldn 1 0 3 rar 1 0 3 xqr
1 0 3 wm9 1 1 5 vj0 1 0 3 vjs 1 0 3 ke1 1 0 3 was 1 0 3 vk4 1 0 3 tuf 1 0 3 pt1 1 0 3 o0a 1 0 3 moh 1 0 3
mdz 1 0 3 m56 1 0 3 kn8 1 0 3 s9e 1 0 3 rne 1 0 3 qwt 1 0 3 qbd 1 0 3 n2z 1 0 3 khb 1 0 3 isp 1 0 3 xp5 1 0
3 wpz 1 0 3 s2h 1 0 3 qo3 1 0 3 mpe 1 0 3 hz6 1 0 3 us1 1 0 3 r3r 1 0 3 ms6 1 0 3 m2o 1 0 3 tp8 1 0 3 nke 1
0 3 mbs 1 0 3 uhq 1 0 3 suq 1 0 3 rls 1 0 3 qi7 1 0 3 km6 1 0 3 xif 1 0 3 x2v 1 0 3 wup 1 0 3 tbg 1 0 3 s4e
1 0 3 qoy 1 0 3 pqk 1 0 3 nxv 1 0 3 mr3 1 0 3 moq 1 0 3 l6w 1 0 3 jd2 1 0 3 iiy 1 0 3 i0w 1 0 3 pf3 1 0 3
p8d 1 0 3 of1 1 0 3 n79 1 0 3 k6z 1 0 3 hxd 1 0 3 lt7 1 0 3 voj 1 0 3 ugv 1 0 3 oo4 1 0 3 nuv 1 0 3 qn8 1 0
3 pdp 1 0 3 lfq 1 0 3 jf6 1 0 3 voy 1 0 3 uzt 1 0 3 sah 1 0 3 rjn 1 0 3 rb3 1 0 3 oio 1 0 3 obd 1 0 3 jk6 1
0 3 ww0 1 0 3 nuw 1 0 3 x2w 1 0 3 x3d 1 0 3 p4q 1 0 3 oex 1 0 3 n6v 1 0 3 jj8 1 0 3 lp6 1 0 3 tqk 1 0 3 sbe
1 0 3 lsv 1 0 3 xt1 1 0 3 v3s 1 0 3 ua6 1 0 3 qfu 1 0 3 q2a 1 0 3 wuk 1 0 3 pd5 1 0 3 xie 1 0 3 ud9 1 0 3
xui 1 0 3 rrw 1 0 3 t81 1 0 3 ojs 1 0 3 wq0 1 0 3 vta 1 0 3 prg 1 0 3 n51 1 0 3 lvp 1 0 3 rzq 1 0 3 kw1 1 0
3 ru2 1 0 3 tpx 1 0 3 nf3 1 0 3 tlh 1 0 3 q35 1 0 3 xqh 1 0 3 x73 1 0 3 x4g 1 0 3 smx 1 0 3 olw 1 0 3 nil 1
0 3 luz 1 0 3 khb 1 0 3 wwa 1 0 3 wn2 1 0 3 vm6 1 0 3 uja 1 0 3 t6m 1 0 3 r5y 1 0 3 pcr 1 0 3 jq1 1 0 3 isd
1 0 3 hyp 1 0 3 hx7 1 0 3 wz3 1 0 3 szp 1 0 3 s2d 1 0 3 kyz 1 0 3 umy 1 0 3 u0v 1 0 3 txs 1 0 3 tfb 1 0 3
rcf 1 0 3 qx6 1 0 3 qa3 1 0 3 p8r 1 0 3 of6 1 0 3 nxk 1 0 3 l0y 1 0 3 n1n 1 0 3 ktz 1 0 3 k7l 1 0 3 x39 1 0
3 wze 1 0 3 wkh 1 0 3 r13 1 0 3 mam 1 0 3 lx3 1 0 3 ul5 1 0 3 ucu 1 0 3 tnt 1 0 3 s1j 1 0 3 ors 1 0 3 qia 1
0 3 xqc 1 0 3 w4w 1 0 3 v5v 1 0 3 usx 1 0 3 uc0 1 0 3 qgr 1 0 3 qbp 1 0 3 o45 1 0 3 nze 1 0 3 kfx 1 0 3 ji4
1 0 3 jfv 1 0 3 ja4 1 0 3 xm2 1 0 3 pag 1 0 3 kjn 1 0 3 jk0 1 0 3 u6w 1 0 3 xtg 1 0 3 xcx 1 0 3 v66 1 0 3
v3y 1 0 3 t9h 1 0 3 se5 1 0 3 quq 1 0 3 pz3 1 0 3 n2e 1 0 3 ksn 1 0 3 htj 1 0 3 t31 1 0 3 jo8 1 0 3 x1a 1 0
3 swd 1 0 3 st2 1 0 3 rrd 1 0 3 rhr 1 0 3 qf7 1 0 3 q5w 1 0 3 pk3 1 0 3 on3 1 0 3 j8y 1 0 3 x9g 1 0 3 tyc 1
0 3 jmj 1 0 3 xih 1 0 3 uyk 1 0 3 rn0 1 0 3 l2l 1 0 3 uh9 1 0 3 u51 1 0 3 ssj 1 0 3 qj8 1 0 3 jme 1 0 3 x4k
1 0 3 wr3 1 0 3 v3u 1 0 3 t71 1 0 3 syb 1 0 3 soq 1 0 3 rum 1 0 3 qfy 1 0 3 q2r 1 0 3 o6l 1 0 3 mc8 1 0 3
mbr 1 0 3 kkd 1 0 3 jk8 1 0 3 wx8 1 0 3 rhu 1 0 3 wr4 1 0 3 qvy 1 0 3 qc7 1 0 3 mwm 1 0 3 jm6 1 0 3 ihn 1 0
3 i1g 1 0 3 swt 1 0 3 roq 1 0 3 npq 1 0 3 p4c 1 0 3 p20 1 0 3 orr 1 0 3 qpm 1 0 3 r4y 1 0 3 lus 1 0 3 xtp 1
0 3 ngo 1 0 3 x51 1 0 3 x6h 1 0 3 uor 1 0 3 tv3 1 0 3 oq5 1 0 3 vb3 1 0 3 rtz 1 0 3 t3m 1 0 3 l3g 1 0 3 mgs
1 0 3 jp8 1 0 3 m7z 1 0 3 uns 1 0 3 xcc 1 0 3 wgd 3 0 3 vxy 2 0 3 t5q 3 0 3 x87 1 0 3 qng 1 0 3 pxp 1 0 3
pgc 1 0 3 pff 1 0 3 pf9 1 0 3 pe4 1 0 3 jie 1 0 3 orj 1 0 3 o69 2 0 3 mxa 2 0 3 lyi 3 0 3 kx9 1 0 3 krt 4 0
3 j7f 1 0 3 j73 1 0 3 j5w 1 0 3 i9l 1 0 3 ksw 1 0 3 jnc 1 0 3 xoi 1 0 3 xfu 1 0 3 xd1 1 0 3 x2i 1 0 3 x1s 1
0 3 wys 1 0 3 wih 1 0 3 wfl 1 0 3 wcw 1 0 3 vzt 1 0 3 vwy 1 0 3 v6f 1 0 3 v66 1 0 3 ucp 1 0 3 u6u 1 0 3 u5t
1 0 3 u32 1 0 3 tf6 1 0 3 tb4 1 0 3 t6a 1 0 3 ssf 1 0 3 rta 1 0 3 ros 1 0 3 rhh 1 0 3 r16 1 0 3 qvy 1 0 3
qi0 1 0 3 pmi 1 0 3 phq 1 0 3 phg 1 0 3 phi 1 0 3 phb 1 0 3 ph6 1 0 3 ph0 1 1 3 pfp 1 0 3 pas 1 0 3 p90 1 0
3 p06 1 0 3 okj 1 0 3 ojz 1 0 3 oig 1 0 3 oa0 1 0 3 o5y 1 0 3 nsf 1 1 5 prt 1 0 3 nbc 1 0 3 mds 1 0 3 ma3 1
0 3 m01 1 0 3 lyi 1 0 3 ln5 1 0 3 llp 1 0 3 l2o 1 0 3 kz3 1 0 3 jnp 1 0 3 jfu 1 0 3 je7 1 0 3 ueu 1 0 2
1sw2 1 0 3 nrp 1 1 0 1 0 3 y16 1 0 3 xbw 1 0 3 xe2 1 0 3 xrn 1 0 3 xf3 1 0 3 xdh 1 0 3 x4f 1 0 3 x31 1 0 3
wkb 1 0 3 wmc 1 0 3 wkh 1 0 3 wih 1 0 3 w0y 1 0 3 vyi 1 0 3 vui 1 0 3 vu3 1 0 3 vmm 1 0 3 vh5 1 0 3 ur4 1 0
3 uqy 1 0 3 umz 1 0 3 ul4 1 0 3 ucu 1 0 3 u9l 1 0 3 ubk 1 0 3 u7v 1 0 3 u96 1 0 3 u55 1 0 3 u3c 1 0 3 ts9 1
0 3 tpu 1 0 3 tod 1 0 3 th6 1 0 3 t99 1 0 3 t4r 1 0 3 t4o 1 0 3 t32 1 0 3 s9o 1 0 3 s7w 1 0 3 rx2 1 0 3 rlp
1 0 3 rm6 1 0 3 rjs 1 0 3 rct 1 0 3 r3i 1 0 3 pva 1 0 3 qy1 1 0 3 quo 1 0 3 qra 1 0 3 qi8 1 0 3 qe4 1 0 3
qco 1 0 3 q6f 1 0 3 q6e 1 0 3 q1o 1 0 3 q18 1 0 3 q0k 1 0 3 py7 1 0 3 pyi 1 0 3 pnj 1 0 3 pa3 1 0 3 p2l 1 0
3 oxf 1 0 3 or8 1 0 3 on0 1 0 3 odv 1 0 3 o8d 1 0 3 nkx 1 0 3 ngl 1 0 3 mrg 1 0 3 met 1 0 3 mcx 1 0 3 mci 1
0 3 m4a 1 0 3 m2q 1 0 3 m40 1 0 3 m2j 1 0 3 m2n 1 0 3 m35 1 0 3 m12 1 0 3 lyu 1 0 3 lo9 1 0 3 l8q 1 0 3 l01
1 0 3 krv 1 0 3 klr 1 0 3 jt6 1 0 3 jqc 1 0 3 jn6 1 0 3 jji 1 0 3 jij 1 0 3 ji8 1 0 3 jgx 1 0 3 iwr 1 0 3
i0i 1 0 2 1njv 1 0 2 1njo 1 0 2 1ptw 1 0 3 11rp 1 0 3 10vv 1 0 3 10uz 1 0 2 1vuc 1 0 2 1xx6 1 0 2 24n0 1 0
3 i39 1 0 3 i17 1 11 0 1 0 6 2u 2u 1 0 6 2u 2x 1 0 6 2u 30 1 0 7 2u 2u 2x 1 0 7 2u 2u 30 1 1 6 37 38 1 b 0
1 0 6 12s 12u 1 0 6 12s 12d 1 0 6 12s 12j 1 0 6 132 12u 1 0 6 12s 12l 1 4 0 1 0 6 15l 14k 2 0 6 16a 14n 1 0
3 1cfy 1 0 3 1cgh 1 1 3 1cgf 1 2 3 1cg9 1 0 3 1cfz 1 0 3 1cfy 1 0 3 1dku 1 0 6 161 14x 1 0 6 161 14y 1 0 7
161 14s 14x 1 0 7 161 14s 14y 1 0 6 15c 14n 1 0 6 15c 14o 1 0 6 15c 14s 1 0 6 15d 14s 1 0 6 15e 14s 1 0 6
15f 14s 1 0 6 15g 14s 1 0 6 15h 14s 1 0 6 15i 14s 1 0 0 1 0 6 15k 14s 1 0 6 15l 14s 1 0 6 15m 14s 1 0 6 15n
14s 1 0 6 15o 14s 1 0 0 1 0 6 15q 14s 1 0 0 1 0 6 15s 14s 1 0 6 15t 14s 1 0 0 1 0 6 15v 14s 1 0 6 15w 14s 1
0 0 1 0 6 15y 14s 1 0 6 15z 14s 1 0 6 160 14s 1 0 6 161 14s 1 0 6 162 14s 1 0 6 15h 14p 1 0 6 15d 14v 1 0 6
15n 14v 1 0 6 15w 14v 1 0 6 15c 15o 1 1 5 19t 1 3 5 1a3 1 3 5 1a6 1 3 5 1a8 1 3 5 1a2 1 3 5 1a7 1 3 5 1a1 1
3 5 1b8 1 3 5 1ba 1 3 5 1ac 1 3 5 1ab 1 3 5 1ae 1 3 5 1af 1 1 5 1al 1 1 5 1ak 1 1 5 1am 1 1 5 1ag 1 1 5 1aw
1 1 5 1ap 1 3 5 1bd 1 3 5 1bj 1 3 5 1bn 1 3 5 1bl 1 1 5 1bu 1 3 5 1bv 1 1 5 1c0 1 3 5 1c1 1 3 5 1by 1 1 5
1ci 1 1 5 1cj y 3 5 1bh 1 1 5 1c7 1 1 5 1c6 1 1 5 1c8 1 0 6 1c7 19w 1 1 5 1cb 1 1 5 1c5 1 1 5 1c9 1 3 5 1cg
1 1 5 18p 1 1 6 17q 17r 1 1 6 17q 1cl 1 1 6 17q 18o 1 1 6 17q 1c7 1 1 6 17q 1c6 1 1 6 17q 1c8 1 2 6 17q 1cg
1 2 6 17q 18p 1 3 5 1cc 1 0 6 17q 17w 1 0 6 17q 17x 1 0 6 17q 18l 1 0 6 17q 18p 1 0 6 17q 18q 1 0 6 17s 17w
1 0 6 17s 17x 1 0 6 17s 17y 1 0 6 17s 18l 1 0 6 17s 18p 1 0 6 17s 18q 1 0 6 17u 17w 1 0 6 17u 17x 1 0 6 17u
17y 1 0 6 17u 18l 1 0 6 17u 18p 1 0 6 17u 18q 1 0 6 17v 17w 1 0 6 17v 18l 1 0 6 17v 18p 1 0 6 17v 18q 1 0 6
17w 17x 1 0 6 17w 18l 1 0 6 17x 17w 1 0 6 17x 18l 1 0 6 17y 17w 1 0 6 17y 17x 1 0 6 17y 18l 1 0 6 183 17w 1
0 6 183 17x 1 0 6 183 17y 1 0 6 183 18l 1 0 6 185 17x 1 0 6 185 18l 1 0 6 186 17w 1 0 6 186 17x 1 0 6 186
17y 1 0 6 186 18l 1 0 6 187 17x 1 0 6 187 18l 1 0 6 188 18l 1 0 6 189 17w 1 0 6 189 18l 1 0 6 18a 17w 1 0 6
18a 18l 1 0 6 18h 17w 1 0 6 18h 17x 1 0 6 18h 17y 1 0 6 18h 18l 1 0 6 18h 18p 1 0 6 18h 18q 1 0 6 18i 17x 1
0 6 18i 18l 1 0 6 18i 18p 1 0 6 18i 18q 1 0 6 18j 17r 1 0 6 18j 17w 1 0 6 18j 17x 1 0 6 18j 17y 1 0 6 18j
18k 1 0 6 18j 18l 1 0 6 18j 18p 1 0 6 18j 18q 1 0 6 18k 17w 1 0 6 18k 17x 1 0 6 18k 17y 1 0 6 18k 18l 1 0 6
18k 18p 1 0 6 18k 18q 1 0 6 18l 17w 1 0 6 18l 17x 1 0 6 18l 17y 1 0 6 18l 18l 1 0 6 18l 18p 1 0 6 18l 18q 1
0 6 18m 17w 1 0 6 18m 17x 1 0 6 18m 17y 1 0 6 18m 18l 1 0 6 18m 18p 1 0 6 18m 18q 1 0 6 18n 17w 1 0 6 18n
18l 1 0 6 18n 18p 1 0 6 18n 18q 1 0 6 18q 17w 1 0 6 18q 17x 1 0 6 18q 17y 1 0 6 18q 18l 1 0 6 18q 18p 1 0 6
18q 18q 1 0 6 180 19s 1 0 6 181 19s 1 0 6 18p 19s 1 0 7 w 18s 18x 1 0 7 w 18t 18x 1 0 7 w 18u 18x 1 0 7 w
18v 18x 1 0 7 w 18w 18x 1 0 7 w 18x 19s 1 0 6 17q 181 1 0 6 17q 182 1 0 6 17q 18l 1 0 6 17q 18m 1 0 6 17q
18p 1 0 6 17q 18q 1 0 6 17s 181 1 0 6 17s 182 1 0 6 17s 18l 1 0 6 17s 18m 1 0 6 17s 18p 1 0 6 17s 18q 1 0 6
17u 181 1 0 6 17u 182 1 0 6 17u 18l 1 0 6 17u 18m 1 0 6 17u 18p 1 0 6 17u 18q 1 0 6 17v 181 1 0 6 17v 182 1
0 6 17v 18l 1 0 6 17v 18m 1 0 6 17v 18p 1 0 6 17v 18q 1 0 6 18h 18p 1 0 6 18h 18q 1 0 6 18i 18p 1 0 6 18i
18q 1 0 6 18j 17r 1 0 6 18j 18k 1 0 6 18j 18l 1 0 6 18j 18p 1 0 6 18j 18q 1 0 6 18k 18l 1 0 6 18k 18p 1 0 6
18k 18q 1 0 6 18l 17r 1 0 6 18l 18l 1 0 6 18m 181 1 0 6 18m 182 1 0 6 18m 18l 1 0 6 18m 18m 1 0 6 18m 18p 1
0 6 18m 18q 1 0 6 18p 19s 1 0 6 18q 181 1 0 6 18q 182 1 0 6 18q 18l 1 0 6 18q 18m 1 0 6 18q 18p 1 0 6 18q
18q 1 0 6 17q 17w 1 0 6 17q 17x 1 0 6 17q 17y 1 0 6 17q 18l 1 0 6 17q 18n 1 0 6 17s 17w 1 0 6 17s 17x 1 0 6
17s 17y 1 0 6 17s 18l 1 0 6 17s 18n 1 0 6 17u 17w 1 0 6 17u 17x 1 0 6 17u 17y 1 0 6 17u 18l 1 0 6 17u 18n 1
0 6 17v 18l 1 0 6 17w 17x 1 0 6 17w 18l 1 0 6 17x 17w 1 0 6 17x 18l 1 0 6 17y 17w 1 0 6 17y 18l 1 0 6 183
17w 1 0 6 183 17x 1 0 6 183 17y 1 0 6 183 18l 1 0 6 185 17x 1 0 6 185 17y 1 0 6 185 18l 1 0 6 186 17w 1 0 6
186 17x 1 0 6 186 17y 1 0 6 186 18l 1 0 6 187 17x 1 0 6 188 18l 1 0 6 189 17w 1 0 6 189 18l 1 0 6 18a 17w 1
0 6 18a 18l 1 0 6 18h 17w 1 0 6 18h 17x 1 0 6 18h 17y 1 0 6 18h 18l 1 0 6 18i 17x 1 0 6 18i 18l 1 0 6 18j
17w 1 0 6 18j 17x 1 0 6 18j 17y 1 0 6 18j 18k 1 0 6 18j 18l 1 0 6 18k 17w 1 0 6 18k 17x 1 0 6 18k 17y 1 0 6
18k 18l 1 0 6 18k 18n 1 0 6 18l 17w 1 0 6 18l 17x 1 0 6 18l 17y 1 0 6 18l 18l 1 0 6 18m 17w 1 0 6 18m 17x 1
0 6 18m 17y 1 0 6 18m 18l 1 0 6 18m 18n 1 0 6 18n 17w 1 0 6 18n 18l 1 0 6 18n 19s 1 0 6 18q 17w 1 0 6 18q
17x 1 0 6 18q 17y 1 0 6 18q 18l 1 0 6 18q 18n 1 0 6 17q 18l 1 0 6 17q 18n 1 0 6 17s 18l 1 0 6 17s 18n 1 0 6
17u 18l 1 0 6 17u 18n 1 0 6 17v 18l 1 0 6 17v 18n 1 0 6 183 18l 1 0 6 183 18n 1 0 6 184 18l 1 0 6 184 18n 1
0 6 18j 18k 1 0 6 18j 18l 1 0 6 18k 18l 1 0 6 18m 18l 1 0 6 18m 18n 1 0 6 18q 18l 1 0 6 18q 18n 1 0 7 18g
18u 18x 1 0 7 18g 18v 18x 1 0 7 18g 18w 18x 1 0 6 187 18p 1 0 6 187 18q 1 0 6 189 18p 1 0 6 189 18q 1 0 6
18a 18p 1 0 6 18a 18q 1 0 6 183 18p 1 0 6 183 18q 1 0 6 184 18p 1 0 6 184 18q 1 0 6 17x 18p 1 0 6 17x 18q 1
0 6 17w 18p 1 0 6 17w 18q 1 0 6 17y 18p 1 0 6 17y 18q 1 0 6 185 18p 1 0 6 185 18q 1 0 6 186 18p 1 0 6 186
18q 1 0 6 184 17w 1 0 6 184 17x 1 0 6 184 17y 1 0 6 184 18l 1 0 6 184 181 1 0 6 183 181 1 0 6 185 181 1 0 6
186 181 1 0 6 187 18p 1 0 6 187 18q 1 0 6 189 18p 1 0 6 189 18q 1 0 6 18a 18p 1 0 6 18a 18q 1 0 6 183 18p 1
0 6 183 18q 1 0 6 184 18p 1 0 6 184 18q 1 0 6 17x 18p 1 0 6 17x 18q 1 0 6 17w 18p 1 0 6 17w 18q 1 0 6 17y
18p 1 0 6 17y 18q 1 0 6 185 18p 1 0 6 185 18q 1 0 6 186 18p 1 0 6 186 18q 1 0 6 184 17w 1 0 6 184 17x 1 0 6
184 17y 1 0 6 184 18l 1 0 6 184 181 1 0 6 183 181 1 0 6 185 181 1 0 6 186 181 1 0 6 184 17w 1 0 6 184 17x 1
0 6 184 17y 1 0 6 184 18l 1 0 6 183 18n 1 0 6 184 18n 1 0 6 187 18l 1 0 6 183 17w 1 0 6 183 17x 1 0 6 183
17y 1 0 6 184 17w 1 0 6 184 17x 1 0 6 184 17y 1 0 6 187 18l 1 0 6 188 18l 1 1 6 17r 18r j 0 7 17u 17w 18l 1
1 7 17u 17x 17w 1 0 7 17u 17x 18l 1 0 7 17u 17y 18l 1 0 7 17u 18l 17w 1 0 7 17u 18l 17x 1 0 7 17u 18l 17y 1
1 7 17w 18l 17x 1 0 7 17x 18l 18q 1 0 7 17x 18l 18p 1 0 7 183 17x 17w 1 0 7 183 17w 17x 1 0 7 183 17w 18p 1
1 7 183 18l 17x 1 0 7 183 18l 17w 1 1 7 183 18l 18l 1 1 7 185 17x 17x 1 0 7 185 18l 18l 1 1 7 184 17x 18l 1
0 7 184 17w 18q 1 1 7 184 18l 17y 1 1 7 184 18l 18l 1 0 7 186 17x 18p 1 1 7 186 17y 18l 1 1 7 187 18l 17x 1
0 7 187 18l 18l 1 0 7 187 18l 18q 1 0 7 189 17w 18l 1 1 7 189 18l 18l 1 0 7 189 18l 18p 1 0 7 18a 18l 18l 1
0 7 18a 18l 18q 1 0 7 18a 18l 18p 1 1 7 18h 17y 18l 1 0 7 18i 18l 17x 1 0 7 18i 18l 18l 1 0 7 18k 17x 18l 1
0 7 18k 17x 18q 1 0 7 18k 17x 18p 1 1 7 18k 17w 17w 1 1 7 18k 17y 18l 1 1 7 18k 18l 17x 1 0 7 18l 17x 17w 1
0 7 18l 17x 18l 1 0 7 18l 17x 18q 1 0 7 18l 17w 17x 1 0 7 18l 17w 18l 1 0 7 18l 17y 17w 1 0 7 18l 17y 18l 3
0 7 18l 17w 17y 1 0 7 18n 18l 17w 1 0 7 18n 18l 18l 1 0 7 18m 17x 18l 1 0 7 18m 17x 18p 1 1 7 18m 17w 18l 1
0 7 18m 17w 18p 1 0 7 18m 18l 18q 1 0 7 18m 18l 18p 1 1 7 18q 18l 18l 1 0 7 17s 17y 18q 1 0 7 17u 17w 18q 1
0 7 17u 17w 18p 1 0 7 17u 17y 18q 1 0 7 17u 17y 18p 1 0 7 17u 18l 18q 1 0 7 17u 18l 18p 1 0 7 17w 18l 18q 1
0 7 17w 17x 18p 1 0 7 17w 18l 18p 1 0 7 183 17y 18p 1 0 7 185 17x 18q 1 0 7 184 17x 18q 1 0 7 186 17x 18q 1
0 7 18k 17w 18q 1 0 7 18k 18l 18q 1 0 7 18q 17x 18q 1 0 7 18q 17w 18q 1 0 7 18q 18l 18q 1 0 7 18l 18l 18q 1
0 7 18i 18l 18q 1 0 7 18m 17x 18q 1 0 7 18i 18l 17x 1 0 7 18k 17x 18l 1 0 7 189 18l 18q 1 0 7 18j 18l 18q 1
0 7 18m 17w 17x 1 0 7 18l 17y 18q 1 0 7 18k 17w 18l 1 0 7 18j 18l 18l 1 0 7 18k 17w 18l 1 0 7 18m 17w 17x 1
0 7 17w 17x 18q 1 0 7 17x 17w 18q 1 0 7 18l 17w 18q 1 0 7 18h 18l 18q 1 0 7 17s 17x 18q 1 0 7 18j 18l 18l 1
0 7 189 17w 18l 1 0 7 185 18l 18l 1 0 7 183 17y 18q 1 0 7 18m 17w 18q 9 v 0 1 0 7 185 18k 1ci 1 0 7 18i 18k
1ci 1 0 8 17r 18k 18k 18n 1 0 8 17r 18j 17s 181 1 0 8 18l 17x 18l 17z 1 0 8 185 18k 189 18l 1 0 8 181 183
18o 18k 1 0 8 189 18k 18q 18n 1 0 8 18o 183 18k 18l 1 0 7 185 18k 18p 1 0 m 185 18k 18p w 17r 18k 18k 18n w
189 18k 18q 18n w 18o 183 18k 18l 1 0 c 17w 18k w 17w 18k 17r 18k 18n 1 0 8 181 1cc 17r 18k 4 f 1 1 0 3
1e5g 1 0 3 14pc 1 0 0 1 1 3 1e55 1 0 3 1e5w 1 0 3 1e53 1 1 3 14ox 1 6 0 h 0 0 1 0 3 17vh 1 0 3 17vj 1 1 5
2n 1 1 3 1e6l 1 0 3 1e4c 1 0 3 1e4b 1 1 3 14px 1 1 3 14q3 1 1 3 14qb 1 1 3 14qf 1 3 3 14qd 3 0 3 1e5o 1 0 3
1e5n 1 3 6 w lh 1 2 5 2n 1 0 3 1e78 1 0 3 14r4 1 1 0 1 0 3 1e6x 1 0 3 1e6z 1 0 3 1e6v 1 0 3 1e7q 1 0 3 17wk
1 1 3 1e7l 1 0 3 1e5c 1 0 3 1e5b 1 1 3 14qx 1 0 3 1e7w 1 0 3 1e7u 1 1 3 1e7r 1 0 3 1e7q 1 0 3 1e7c 1 0 3
1e7b 1 0 3 1e7d 1 0 0 1 0 3 1e6k 1 1 3 1e85 1 0 3 1e7f 1 3 0 1 0 6 w 18r 1 0 6 18g 18r 1 0 6 w 18s 2 0 6 w
18t 1 0 0 1 0 6 w 18u 1 0 6 18g 18u 1 0 6 w 18v 1 0 6 18g 18v 1 0 6 w 18w 1 0 6 18g 18w 1 0 6 w 18x 1 0 6
18g 18x 1 0 6 w 18y 1 0 6 18g 18y 1 1 3 1d27 1 1 3 1d28 1 1 3 1d29 1 1 3 1d2a 1 1 3 1d2b 1 2 5 17q 1 1 5
17r 1 3 5 17s 1 1 5 17t 1 3 5 17u 1 3 5 17v 1 3 5 17w 1 3 5 17x 1 3 5 17y 1 1 5 17z 1 1 5 180 1 1 5 181 1 1
5 182 1 3 5 183 1 3 5 184 1 3 5 185 1 3 5 186 1 3 5 187 1 3 5 188 1 3 5 189 1 3 5 18a 1 3 5 18h 1 3 5 18i 1
3 5 18j 1 3 5 18k 1 3 5 18l 1 3 5 18m 1 3 5 18n 1 1 5 18o 1 1 5 18p 1 3 5 18q 1 1 6 18k 17m 1 1 6 18k 17n 1
1 6 18k 17p 1 1 6 18k 17r 1 1 0 1 0 1 1 0 0 1 v 3 1ecg 1 p 3 1ebk 1 z 3 1ecg 1 1 3 168q 1 0 3 1eer 1 1 3
14ye 1 0 3 14yr 1 0 3 14ru 1 0 3 14s4 1 0 3 14ue 1 0 3 14ud 1 0 3 14uc 1 0 3 14ub 1 0 3 14ua 1 0 3 14sp 1 0
3 14so 1 0 3 14sn 1 0 3 14to 1 0 3 14s4 1 0 3 14un 1 0 3 14um 1 0 3 14ul 1 0 3 14uk 1 1 3 14uj 1 0 3 14ui 1
0 3 14uh 1 0 3 14ug 1 0 3 14uf 1 0 3 14ue 1 0 3 14ud 1 0 3 14uc 1 0 3 14ub 1 0 3 14ua 1 0 3 14u9 1 0 3 14u8
1 0 3 14u6 1 0 3 14u5 1 0 3 14u4 1 5 3 14u3 1 0 3 14u1 1 0 3 14tz 1 0 3 14tx 1 0 3 14tv 1 4 3 14tt 1 0 3
14ts 1 0 3 14tr 1 5 3 14tq 1 0 3 14tp 1 0 3 14tm 1 1 3 14w5 1 0 1 1 1 3 1b4x 1 0 3 1b09 1 0 3 1b4y 1 1 3
1b09 1 2 3 1b50 1 5 3 1b0a 1 0 3 1b4m 1 2 3 1b57 1 0 3 1b4j 1 9 3 1b58 1 2 0 1 5 3 1b35 1 1 0 1 5 3 1b37 1
1 0 1 5 3 1b39 1 1 0 1 2 3 1b3b 1 2 0 1 1 3 1ef2 1 0 3 1eeu 1 0 6 w lg 1 0 3 1ef2 1 0 3 1ef4 1 0 3 183h 1 0
0 1 0 3 178m 1 3 3 17x5 1 0 3 174d 1 0 3 1737 1 g 0 d 0 0 r 0 0 k 0 0 3 0 0 g 1 0 f x 0 3g 4 0 4 3 0 1a 2 0
2h 0 0 e 2 0 2 1a 0 1b 3l 0 u 2 0 1e e 0 t 3 0 11 8 0 v 4 0 18 4 0 v 0 0 12 3 0 f 15 0 1 13 2 14 3b 1 0 b 5
0 1 z 2 14 1 3 0 11 3 0 15 7 0 1h a 0 2 a 2 13 1 0 0 1 e 2 13 1 0 0 1 6 2 13 1 0 0 1 1 2 13 1 0 0 c 0 0 g 0
0 8 0 0 3 2 0 1h b 0 8o 8 0 n 9 0 9 n 0 2 1 3 1fht 1 0 3 1fvh 1 0 3 1fjf 1 0 3 1fle 1 0 0 1 0 3 1fj8 1 0 3
i76 1 0 3 1fj8 1 0 3 1fja 1 1 3 1flh 1 0 3 1a7w 1 0 3 1fli 1 0 3 1fld 1 0 3 1fjb 1 0 3 1fl9 1 0 3 1flc 1 0
3 1flf 1 0 3 1fjt 1 0 3 1fu6 1 0 3 1fju 1 0 3 1flc 1 0 3 1fkk 1 1 3 1fjj 1 0 3 1flb 1 0 2 16js 1 0 3 iz3 1
0 3 1flc 1 0 2 16jq 1 0 3 1fki 1 0 2 16jp 1 0 3 1fvu 1 1 3 1fl9 1 0 3 1fzo 1 0 3 1fl8 1 0 2 16jl 1 1 3 1fl7
1 0 3 1fl6 1 0 3 1fk3 1 0 3 1fk6 1 0 3 i86 1 0 3 1fk7 1 0 3 1fl3 1 0 3 17b3 1 0 0 1 0 3 1fkz 1 1 3 1fki 1 0
3 1fkt 1 2 3 1fqu 1 0 2 16j5 1 0 2 16jo 1 0 3 1flg 1 1v 0 7 1 0 2 0 0 19 0 0 3 2 0 2 1 0 o 0 0 21 7 0 a 1b
0 k 0 0 3 4 0 y 2 0 s 4 0 s 11 0 1l 3 0 l 1 0 1f 0 0 3 4 0 9 0 0 4 0 0 u 1 0 4 3 0 b 6 0 a 6 0 1t v 0 14 3
0 d 8 0 1j 2 0 u 1 0 s 4 0 r 6 0 5 b 0 8 27 0 22 1i 0 1 1e 2 1s 1 c 0 1g 6 0 1b 7 0 b 5 0 h l 2 w 1 2 0 u 7
0 3 5r 0 w 0 0 17 0 0 4 1 0 3 f 0 7 7 0 a m 0 1l 7 0 17 l 0 r 11 0 t j 0 o 8 0 27 3 0 11 8 0 1r 0 0 6 c 0 q
6 0 b 5 0 1i 0 0 j 7 0 14 8 0 2p 0 0 l a 0 j 0 0 1c 1p 0 8 0 0 2 0 0 5 0 0 g 0 0 c 5 0 1o 4 0 b 5 0 5 0 0 9
1 0 3 1 0 n 0 0 8 0 0 3 0 0 6 0 0 b 1 0 3 1 0 4 1 0 2 5 0 2 4 0 8 1 0 8 2 0 6 a 0 b 0 0 2 1 0 2 0 0 13 0 0
b 0 0 2 1 0 2 0 0 5 0 0 b 0 0 3 7 0 3 s 0 2l 0 0 6 t 0 21 7 0 b 4l 0 1j 1 0 13 x 0 1y a 0 b 5 0 e i 0 1n 5
0 b 5 0 l r 0 s 1 0 g 3 0 o 54 0 1p 2r 0 1 v 2 w 1g b 0 9 1 0 2 1 0 9 0 0 3 0 0 v 0 0 3 1 0 d 8 0 b 1x 0 9
1 0 1b 1 0 c q 0 21 7 0 2c c 0 22 6 0 b 2d 0 9 2f 0 z d 0 b 5 0 a 0 0 1a 0 0 f 9 0 u 2 0 x 1 0 n 0 0 f 20 0
8 0 0 3 0 0 19 2 0 2 0 0 3 0 0 a 7 0 b 5 0 7 0 0 3 0 0 12 0 0 3 0 0 7 6 0 b 5 0 19 3 0 b 6t 0 q 6 0 i 0 0
16 2 0 u 2c 0 2 e 0 1f c 0 po 2t 0 34 0 0 6 a 0 5h b 0 8o 1s8 0 2s c 0 tt f 0 n 9 0 330 4 0 g8 5a0 0 1n 1c5
0 fu 6 0 w 0 0 b 3 0 2a 0 0 b 5 0 v 1 0 7 9 0 1z 9 0 b 0 0 8 0 0 m 4 0 k bz 0 1n 5 0 17 45 0 1 v 2 w 1o 4 0
1 o 2 r 1 1 0 q 17 0 24 3 0 1m 6 0 i 1r 0 6 a 0 8 8 0 5p3 14 0 x 2o 0 38 c 0 pf d 0 1g 5y4 0 5 0 0 8 0 0 3
0 0 84 e 0 2 s 0 4 1 0 2 d 0 5 7 0 b1 1s3 0 30 4 0 e 2 0 a 6 0 b 1 0 5 3 1 1 317 0 5z p 3 2iyd 1 9 3 2j0g 4
2 0 c5 5 0 q c 0 i e 0 1b 1 0 o 8 0 39 1n 0 6v 9 0 14 1 0 1i 0 6 2jx3 2jxh 1 0 6 2jx4 2jxh 1 0 7 2jx4 2jxh
2jxq 1 0 7 2jx4 2jxh 2jxr 1 0 7 2jx4 2jxh 2jxs 1 0 7 2jx4 2jxh 2jxt 1 0 7 2jx4 2jxh 2jxu f 7 1 1t 0 6 2jzt
2jxh 1 0 6 2jzu 2jxh 1 0 7 2jzt 2jxh 2jxq 1 0 7 2jzu 2jxh 2jxq 1 0 7 2jzt 2jxh 2jxr 1 0 7 2jzu 2jxh 2jxr 17
k 0 1z 9 0 1t 1b 0 l b 0 l b 0 2g 8 0 q 3q 0 1 p 3 2kdb 1 p 3 2ke1 1 p 3 2ker 1 6 3 2kfh 1 0 0 1 h 3 2kfh 1
p 3 2kg7 1 p 3 2kgx 1 0 3 2khn 1 0 0 1 1 3 2khn 1 1 0 1 0 3 2khn 1 1 0 1 1 3 2khn 1 1 0 1 3 3 2khn 1 0 0 1
7 3 2khn 1 3 3 2kid 1 0 0 1 0 3 2kid 1 0 0 1 6 3 2kid 1 0 0 1 a 3 2kid 1 p 3 2kj3 1 p 3 2kjt 1 1 3 2kkj 1 0
0 1 3 3 2kkj 1 1 0 1 7 3 2kkj 1 0 0 1 6 3 2kkj 1 0 0 1 p 3 2kl9 1 1 3 2klz 1 0 0 1 3 3 2klz 1 0 0 1 4 3
2klz 1 0 0 1 0 3 2klz 1 2 0 1 6 3 2klz 1 0 0 1 p 3 2kmp 1 p 3 2knf 1 p 3 2ko5 1 p 3 2kov 1 p 3 2kpl 1 p 3
2kqb 1 p 3 2kr1 1 p 3 2krr 1 p 3 2ksh 1 p 3 2kt7 1 p 3 2ktx 1 p 3 2kun 1 p 3 2kvd 1 0 3 2kqb 1 0 3 2kj2 1 0
6 37 37 1 0 0 1 g 3 2k8n 1 0 3 2k8x 1 6 3 2k8n 1 0 3 2e9m 1 g 3 2k9d 1 1 5 qr 1 5 3 2k9d 1 0 3 2eah 1 0 3
2k9z 1 0 3 2k9x 1 0 3 2k9w 1 0 3 2k9l 1 0 3 2k9r 1 0 3 2k9t 1 g 3 2ka9 1 0 3 2kaj 1 6 3 2ka9 1 0 3 2eb8 1 g
3 2kaz 1 1 5 qr 1 5 3 2kaz 1 0 3 2ec3 1 0 3 2kbl 1 0 3 2kbj 1 0 3 2kbi 1 0 3 2kb7 1 0 3 2kbd 1 0 3 2kbf 1 g
3 2kbv 1 0 3 2kc5 1 6 3 2kbv 1 0 3 2ecu 1 g 3 2kcl 1 1 5 qr 1 5 3 2kcl 1 0 3 2edp 1 0 3 2kd7 1 0 3 2kd5 1 0
3 2kd4 1 0 3 2kct 1 0 3 2kcz 1 0 3 2kd1 1 g 3 2kdh 1 0 3 2kdr 1 6 3 2kdh 1 0 3 2eeg 1 g 3 2ke7 1 1 5 qr 1 5
3 2ke7 1 0 3 2efb 1 0 3 2ket 1 0 3 2ker 1 0 3 2keq 1 0 3 2kef 1 0 3 2kel 1 0 3 2ken 1 g 3 2kf3 1 0 3 2kfd 1
6 3 2kf3 1 0 3 2eg2 1 g 3 2kft 1 1 5 qr 1 5 3 2kft 1 0 3 2egx 1 0 3 2kgf 1 0 3 2kgd 1 0 3 2kgc 1 0 3 2kg1 1
0 3 2kg7 1 0 3 2kg9 1 1 5 rh 1 1 0 1 9 3 2l5q 1 9 3 2l60 1 9 3 2l6a 1 9 3 2l6k 1 9 3 2l6u i5 e 0 6 0 0 g 27
0 4x nj 0 w 5 0 7 5w 0 8 0 0 i 1 0 8 0 0 3 0 0 6 4 0 1 8 3 2m0w 1 2 3 2m0v 1 a 3 2m0u 1 0 3 2m0s 1 1 3 2m0r
1 0 3 1pz5 1 0 3 2lwy 1 0 3 2m0m 1 0 3 2m0l 1 0 3 2lwl 1 0 3 2ly8 1 0 3 2lxd 1 8 3 2m1t 1 1 3 2m1s 1 1 3
2m1q 1 0 3 2m1p 1 5 3 2m1o 1 1 3 2m1n 1 0 3 2lzq 1 0 3 2m1e 1 0 3 2m1g 1 0 3 2m17 1 0 3 2lz4 1 0 3 1q1n 1 0
3 2lz0 1 w 0 2 33 0 1a 2 0 f 1 0 b 3 0 3 8v 0 w g 0 1n 4 0 2 cv 0 17 5x 0 18 3 0 2 5b 0 w 0 0 n 7 0 3 67 0
8 0 0 5 0 0 3 0 0 g 0 0 5i 1 0 h 14 0 1 x 2 y 17 3 0 b 3 0 3 ls 0 1x 23 0 1q 5d 0 1 1 3 2od5 1 0 3 2od2 1 0
3 2od0 1 0 0 1 0 3 2ocd 1 0 3 2od0 1 0 3 2od6 1 0 3 2ocx 1 0 3 2ocf 1 3 3 2ocn 1 0 3 2od7 1 0 3 2od2 1 0 3
2ocv 1 0 3 2od8 1 0 3 2ocw 1 0 3 2ode 1 0 3 2odc 1 1 3 2odn 1 0 3 2odl 1 0 3 2odk 1 0 3 2odf 1 0 3 2ode 1 0
3 2odd 1 0 3 2oby 1 0 3 2o9v 1 0 3 2oal 1 0 3 2oc0 1 0 0 1 0 3 2oe1 1 0 3 2ody 1 0 0 1 0 3 2od9 1 1 0 1 0 3
2oe2 1 0 0 1 0 3 2odb 1 3 3 2odj 1 0 3 2oe3 1 0 3 2ody 1 0 3 2odr 1 0 3 2oe4 1 0 3 2ods 1 0 0 1 0 3 2oe8 1
1 3 2oej 1 0 3 2oeh 1 0 0 1 0 3 2oeb 1 0 0 1 0 3 2oe9 1 5 0 1 0 3 2oeu 1 3 0 1 0 3 2oey 1 0 0 1 0 3 2oe7 1
0 0 1 0 3 2oef 1 0 0 1 0 3 2oef 1 0 3 2oez 1 0 3 2oeu 1 0 0 1 0 3 2of0 1 0 3 2oeo 1 0 0 1 0 3 2of4 1 1 0 1
0 3 2ofd 1 0 0 1 0 3 2of7 1 0 0 1 0 3 2of5 1 0 0 1 0 3 2obn 1 0 0 1 0 3 2ods 1 0 0 1 0 3 2oft 1 0 3 2ofq 1
0 0 1 0 3 2of1 1 1 0 1 0 3 2ofu 1 0 3 2ofl 1 0 3 2of3 1 0 3 2ofb 1 0 0 1 1 3 2ofb 1 0 3 2ofv 1 0 3 2ofq 1 0
3 2ofj 1 0 3 2ofw 1 0 3 2ofk 1 0 0 1 0 3 2og0 1 1 3 2ogb 1 0 3 2og9 1 0 0 1 0 3 2og3 1 0 3 2og2 1 0 3 2og1
1 0 3 2oem 1 0 0 1 0 3 2od9 1 0 0 1 1 3 2ogp 1 0 3 2ogm 1 0 3 2ogk 1 1 3 2ofx 1 0 3 2ogk 1 0 3 2ogq 1 0 3
2ogh 1 0 3 2ofz 1 0 0 1 2 3 2og7 1 0 3 2ogr 1 0 3 2ogm 1 0 3 2ogf 1 0 3 2ogs 1 0 3 2ogg 1 0 3 2ogy 1 0 3
2ogw 1 1 3 2oh7 1 0 3 2oh5 1 0 3 2oh4 1 0 3 2ogz 1 0 3 2ogy 1 0 3 2ogx 1 4 0 1 0 3 2ohl 1 0 3 2ohi 1 0 3
2ohg 1 0 0 1 0 3 2ogt 1 0 3 2ohg 1 0 3 2ohm 1 0 3 2ohd 1 0 3 2ogv 1 0 0 1 2 3 2oh3 1 0 3 2ohn 1 0 3 2ohi 1
0 3 2ohb 1 0 3 2oho 1 0 3 2ohc 1 0 3 2ohu 1 0 3 2ohs 1 1 3 2oi3 1 0 3 2oi1 1 0 3 2oi0 1 0 3 2ohv 1 0 3 2ohu
1 0 3 2oht 1 1f 0 3 7h 0 19 3 0 2t b 0 g 1 0 g 0 0 g 0 0 12 a 0 1 0 6 1c 18 1 0 6 1d 18 1 0 6 1e 18 1 0 6
1f 18 1 0 6 1g 18 1 0 6 1h 18 1 0 6 1i 18 1 0 6 1j 18 1 0 6 1k 18 1 0 6 1l 18 6 0 7 14 2p 15 1 0 7 14 2q 15
1 0 7 14 2r 15 1 0 7 14 2s 15 1 0 7 14 2t 15 1 0 7 14 2u 15 1 0 7 14 2v 15 1 0 7 14 2w 15 1 0 7 14 2x 15 1
0 7 14 2y 15 1 0 7 14 2z 15 1 0 7 14 30 15 1 0 7 14 31 15 1 0 7 14 32 15 1 0 7 14 33 15 1 0 7 14 34 15 1 0
7 14 35 15 1 0 7 14 36 15 1 0 7 14 37 15 1 0 7 14 38 15 1 0 7 14 39 15 1 0 7 14 3a 15 1 0 7 14 3b 15 1 0 7
14 3c 15 1 0 7 14 3d 15 1 0 7 14 3e 15 1 0 7 9hw 37 9hx 1 0 3 2q4o 1 0 3 2q4a 1 0 6 2r 2s 1 0 6 3b 3e 2 p 3
2q4v 1 0 6 2w 3a 1 0 6 31 3a 1 0 6 37 2s 1 0 6 37 37 1 0 7 34 34 3a 1 0 6 3b 2r r 0 6 31 2r 1 0 6 31 2s 1 0
6 31 36 10 0 6 2s 2y u 1j 0 r 0 6 9kr 9jf 1 0 6 9mb 9mb 1 0 3 2gr1 1 c 0 1 0 3 26yt 1 0 3 28ca 1 0 3 29ty 1
0 3 2gr0 1 0 3 2avc 1 0 3 28sb 1 0 3 1z5f 1 0 3 28ry 1 0 3 2aus 1 0 3 267t 1 0 3 241l 1 0 3 26bm 1 0 3 2a4v
1 0 3 27ip 1 0 3 2aa9 1 0 3 26b3 1 0 3 2a6b 1 0 3 21nj 1 0 3 239f 1 0 3 1ym2 1 0 3 28tw 1 0 3 29rg 1 0 3
24gi 1 0 3 26xe 1 0 3 26s3 1 0 3 2azt 1 0 3 2azl 1 0 3 1xwh 1 0 3 27uu 1 0 3 2ayo 1 0 3 29tn 1 0 3 26ug 1 0
3 1ygw 1 0 3 26zi 1 0 3 22ep 1 0 3 227t 1 0 3 29t8 1 0 3 24l1 1 0 3 2625 1 0 3 2627 1 0 3 239h 1 0 3 2a4n 1
0 3 29hg 1 0 3 1xpq 1 3 0 1 0 7 9hw kdo 9hx 1 0 7 9hw fex 9hx 1 0 7 9hw fik 9hx 1 0 7 9hw i2x 9hx 1 0 7 9hw
m9l 9hx 1 0 7 9hw jf7 9hx 1 0 7 9hw nh3 9hx 1 0 7 9hw gd9 9hx 1 0 7 9hw k0n 9hx 1 6 0 1 0 3 27jt 1 0 3 29uq
1 d 0 7 49 0 re 2 0 i 2 0 e 2 0 63 5 0 d 3 0 2 e 0 d 3 0 1l 7 0 b 5 0 15 7 0 v 1 0 d 3 0 3 d 0 a 12 0 9l 7
0 f 1 0 e 2 0 c 2 0 1m 0 0 2 3 0 h 1 0 d 3 0 b 6 0 44 0 0 2l 9 3 2sao 2 sk 0 wyp v 0 3dr 1 0 4gf 1 0 5rm e
0 hb 1wh 0 1 0 3 3qo3 1 0 3 3qo9 1 0 3 3qo1 1 0 3 1crl 1 0 3 3qg4 1 0 3 3qdz 1 0 3 3qdn 1 0 3 3qbp 1 0 3
3q8e 1 0 3 3q7k 1 0 3 3q5f 1 0 3 3q64 1 0 3 3vqm 1 0 3 1brn 1 0 3 3q2p 1 0 3 3q2j 1 0 3 3q24 1 0 3 3q1m 1 0
3 1bzq 1 0 3 3vq2 1 0 3 3q25 1 0 3 3q14 1 0 3 1byj 1 0 3 3q0w 1 0 3 3q0k 1 0 3 3qkt 1 0 3 3q0e 1 0 3 3q06 1
0 3 k71 1 0 3 3pyg 1 0 3 3py3 1 0 3 3vpc 1 0 3 3pwl 1 0 3 3pwb 1 0 3 3pv4 1 0 3 3pv0 1 0 3 3vnz 1 0 3 3psu
1 0 3 3pst 1 0 3 3ps3 1 0 3 3pri 1 1 3 3pr8 1 0 3 3pqs 1 0 3 3ppf 1 0 3 3pp8 1 0 3 3pp0 1 0 3 3poc 1 0 3
3po3 1 2 5 ghr 1 0 3 1b0o 1 0 3 3jyd 1 0 3 3pm4 1 0 3 3plk 1 0 3 1as5 1 0 3 3pla 1 0 3 3pl5 1 0 3 3pkl 1 0
3 3pge 1 0 3 3pj9 1 0 3 3piu 1 0 3 3phz 1 0 3 3pge 1 0 3 3pe3 1 0 3 3pde 1 0 3 3pbk 1 0 3 3pb5 1 1 5 gw4 1
0 3 3p9q 1 0 3 3p99 1 0 3 3p92 1 0 3 3p8o 1 0 3 3oz9 1 0 3 3p6u 1 0 3 3oza 1 0 3 3p4t 1 0 3 3p3v 1 0 3 3pzd
1 0 3 3omb 1 0 3 3ouc 1 0 3 3otb 1 0 3 3osn 1 0 3 3owa 1 0 3 3oro 1 0 3 3orq 1 0 3 3ooc 1 0 3 18xh 1 0 3
3omg 1 0 3 3omc 1 0 3 3oly 1 0 3 3olf 1 0 3 3ol8 1 0 3 3ojh 1 0 3 18l4 1 0 3 18jb 1 0 3 3ofq 1 0 3 3oeg 1 0
3 3oe5 1 0 3 3ogd 1 0 3 3ocg 1 0 3 3vcp 1 0 3 3vcc 1 0 3 3o81 1 1 5 i0u 1 0 3 17z8 1 0 3 3o2y 1 0 3 3o2e 1
0 3 3o20 1 0 3 3o1p 1 0 3 17q1 1 0 3 3o1f 1 0 3 3o19 1 0 3 3ndt 1 0 3 3o0j 1 0 3 3v91 1 0 3 3nyv 1 0 3 3nyi
1 0 3 3nw9 1 0 3 3nxp 1 0 3 176f 1 0 3 3nsp 1 0 3 176f 1 0 3 3nrk 1 0 3 3nro 1 0 3 3nr8 1 1 3 3nog 1 0 3
3v4k 1 0 3 3nnr 1 0 3 3nml 1 0 3 3nm1 1 0 3 3nku 1 0 3 3v3a 1 0 3 16h2 1 0 3 3v2m 1 0 3 3niz 1 0 3 3nix 1 0
3 3niv 1 0 3 3nic 1 0 3 gsd 1 0 3 3ngy 1 1 5 3035 1 0 3 3gk2 1 1 5 isi 1 0 3 3v0v 1 0 3 1333 1 0 3 try 1 0
3 3nef 1 0 3 3ne7 1 0 3 3v08 1 0 3 3ncy 1 0 3 3nbk 1 0 3 3nbb 1 0 3 3nae 1 0 3 3n6n 1 0 3 3uxz 1 0 3 3uyu 1
0 3 3n67 1 0 3 15g0 1 0 3 3n4u 1 0 3 3n1a 1 0 3 3n17 1 0 3 3n16 1 0 3 3n19 1 0 3 3n00 1 0 3 3mzh 1 0 3 3myi
1 0 3 3myx 1 0 3 3myn 1 0 3 3mxd 1 0 3 3mwu 1 0 3 3mwr 1 0 3 3mw2 1 0 3 3mvs 1 0 3 3mtz 1 0 3 3mro 1 0 3
3mqq 1 0 3 3mnb 1 0 3 14mk 1 0 3 3mnw 1 0 3 3mpq 1 0 3 3mmr 1 0 3 3mm1 1 0 3 3mjd 1 0 3 14gd 1 0 3 3mhp 1 0
3 3mkb 1 0 3 3ml4 1 0 3 3us4 1 0 3 3mfu 1 0 3 3mfa 1 0 3 3meg 1 0 3 3mfj 1 0 3 3uqj 1 0 3 3m9l 1 0 3 3m8t 1
0 3 13nk 1 0 3 3m5k 1 0 3 3lxw 1 0 3 3m2s 1 0 3 3ulx 1 0 3 3m0u 1 0 3 3umg 1 0 3 3unh 1 0 3 3q68 1 0 3 3q66
1 0 3 3lxw 1 0 3 3m0p 1 0 3 3gvd 1 0 3 3svy 1 0 3 3lxd 1 0 3 3lxa 1 0 3 3lx5 1 0 3 3lvh 1 0 3 3lvt 1 0 3
12xm 1 0 3 3ul1 1 0 3 3lr9 1 0 3 3luj 1 0 3 3lov 1 0 3 3lnh 1 0 3 12t2 1 0 3 3lna 1 0 3 3lqe 1 0 3 3ljm 1 0
3 3uiy 1 0 3 3lie 1 0 3 3lfq 1 0 3 3lds 1 0 3 3l8j 1 0 3 12dl 1 0 3 3l76 1 0 3 3ufq 1 0 3 3l5a 1 0 3 11zd 1
0 3 3l3x 1 0 3 3uec 1 0 3 3l35 1 0 3 3l1x 1 1 3 3l17 1 0 3 11m2 1 0 3 17fx 1 0 3 11j3 1 0 3 3kx8 1 0 3 116n
1 0 3 3ku5 1 0 3 3kts 1 0 3 3kwn 1 0 3 3krt 1 0 3 3kqq 1 0 3 3kp6 1 0 3 3kqp 1 0 3 3kpm 1 0 3 3kp8 1 0 3
3kow 1 0 3 1148 1 0 3 3kr7 1 0 3 3kk9 1 0 3 3kij 1 0 3 3u8n 1 0 3 3kg0 1 0 3 3kg5 1 0 3 10sc 1 0 3 3klx 1 0
3 3kbl 1 0 3 10oi 1 0 3 10n7 1 0 3 3k98 1 0 3 3k62 1 0 3 3k6u 1 0 3 3k6y 1 0 3 3u68 1 0 3 3k5p 1 0 3 3k4b 1
0 3 3k4i 1 0 3 3k31 1 0 3 1c6u 1 0 3 3jyv 1 0 3 103e 1 0 3 3jwi 1 0 3 zuc 1 0 3 3jso 1 0 3 3jsc 1 0 3 3jrm
1 0 3 zdn 1 0 3 3jqc 1 0 3 3jps 1 0 3 z5d 1 0 3 yz7 1 0 3 3jji 1 0 3 3jj2 1 0 3 3tz2 1 0 3 3jie 1 1 5 ce0 1
0 3 3jdz 1 0 3 3jdf 1 0 3 3jcv 1 0 3 3jcc 1 0 3 3jag 1 0 3 3tw8 1 0 3 3j80 1 0 3 y67 1 0 3 3j7c 1 0 3 y3p 1
0 3 3j60 1 0 3 16l6 1 0 3 3j1m 1 0 3 xi2 1 0 3 xhg 1 0 3 xdl 1 0 3 3tqa 1 0 3 3tpz 1 0 3 3ivg 1 0 3 x8u 1 0
3 x8w 1 0 3 x7u 1 0 3 x75 1 1 3 3iuf 1 0 3 3iug 1 0 3 3ita 1 0 3 3tow 1 0 3 3irj 1 0 3 3tol 1 0 3 3tme 1 0
3 wmo 1 0 3 3im8 1 0 3 3ikj 1 0 3 3iis 1 0 3 3tke 1 0 3 w8c 1 0 3 3if1 1 0 3 w56 1 0 3 w40 1 0 3 3idj 1 0 3
3ib0 1 0 3 3tih 1 0 3 3i8p 1 0 3 3i8g 1 0 3 3i8c 1 0 3 vkw 1 1 5 3b1j 1 0 3 3i41 1 0 3 3tcu 1 0 3 v5i 1 0 3
3hy4 1 0 3 3hy2 1 0 3 3tbx 1 0 3 uzp 1 0 3 3hqs 1 0 3 3t8n 1 0 3 3hq8 1 0 3 3hqe 1 0 3 3hpm 1 0 3 ued 1 0 3
3hmx 1 0 3 3t64 1 0 3 3hk7 1 0 3 3hil 1 0 3 3hgr 1 0 3 3t4t 1 0 3 tvu 1 0 3 tv0 1 0 3 3t3v 1 0 3 tr0 1 0 3
3h8c 1 0 3 to9 1 0 3 3h7n 1 0 3 3h4v 1 0 3 3h4l 1 0 3 tcx 1 0 3 tax 1 0 3 3h25 1 0 3 t7a 1 0 3 3h1r 1 0 3
134x 1 0 3 3t0s 1 0 3 3h00 1 0 3 3gxs 1 0 3 3szd 1 0 3 3gw7 1 0 3 3oi9 1 0 3 stc 1 0 3 ssz 1 0 3 133q 1 0 3
133i 1 0 3 3gqy 1 0 3 3gqw 1 0 3 3e27 1 0 3 3swz 1 0 3 3gn2 1 0 3 3gn9 1 0 3 3gms 1 0 3 3q3j 1 0 3 3gma 1 0
3 3gm9 1 0 3 3gm0 1 0 3 3gkw 1 0 3 s4b 1 0 3 3gkz 1 0 3 3gjg 1 0 3 3ghj 1 0 3 3gfi 1 0 3 3gjd 1 0 3 3gf4 1
0 3 3gdz 1 0 3 3gaw 1 0 3 3gi5 1 0 3 3gev 1 0 3 3geu 1 0 3 3gef 1 0 3 rxq 1 0 3 rp6 1 0 3 rtd 1 0 3 3ssc 1
0 3 3g6v 1 0 3 3g6u 1 0 3 3g5w 1 0 3 qg1 1 0 3 3g3s 1 0 3 rcx 1 0 3 3sr5 1 0 3 3sr2 1 0 3 r9b 1 0 3 r1b 1 0
3 3sqv 1 0 3 3fxf 1 0 3 3fx4 1 0 3 3fwu 1 0 3 3fwt 1 0 3 3fv2 1 0 3 3fw0 1 0 3 3fsb 1 0 3 3ftk 1 0 3 3fpe 1
0 3 3fro 1 0 3 3fpu 1 0 3 3fp4 1 0 3 3so8 1 0 3 3fmn 1 0 3 3fls 1 0 3 3snd 1 0 3 3fj7 1 0 3 3fj5 1 0 3 py6
1 0 3 3ffz 1 0 3 3fft 1 0 3 3slv 1 0 3 3ff3 1 0 3 3w27 1 0 3 pi5 1 0 3 pd2 1 0 3 3si7 1 0 3 3shz 1 0 3 3f3j
1 0 3 3f1f 1 0 3 3ex3 1 0 3 3erh 1 0 3 oq3 1 0 3 3ep5 1 0 3 3eok 1 0 3 3em3 1 0 3 3ejk 1 0 3 o89 1 0 3 1brp
1 0 3 3ehb 1 0 3 3ehr 1 0 3 3egc 1 0 3 1blr 1 0 3 3ea2 1 0 3 3e7b 1 0 3 mxa 1 0 3 mwk 1 0 3 3dxq 1 0 3 3dv6
1 0 3 3dub 1 0 3 mnr 1 0 3 3du3 1 0 3 3dm7 1 1 3 3dht 1 0 3 3dke 1 0 3 3d9u 1 0 3 3d93 1 0 3 lpv 1 0 3 3cyr
1 0 3 3ryy 1 0 3 3cxl 1 0 3 lfe 1 0 3 3rws 1 0 3 3cq8 1 0 3 3o02 1 0 3 3cnm 1 0 3 koh 1 0 3 kil 1 0 3 3rt6
1 0 3 3rsz 1 0 3 3cii 1 0 3 k4x 1 0 3 3rre 1 0 3 k13 1 1 5 u17 1 0 3 3cgn 1 0 3 jt7 1 0 3 3cbk 1 0 3 3ro0 1
0 3 3c9n 1 0 3 3c66 1 0 3 3c5g 1 0 3 3c3t 1 0 3 3rju 1 0 3 iqh 1 0 3 3bw8 1 0 3 3bnv 1 0 3 3bin 1 0 3 3rcv
1 0 3 3rc1 1 0 3 3bfs 1 0 3 hmq 1 0 3 3rbt 1 0 3 hl9 1 0 3 hdx 1 0 3 hab 1 0 3 3b6i 1 0 3 3r9c 1 0 3 3b4u 1
0 3 3b4q 1 0 3 3b4k 1 0 3 3b4b 1 0 3 3b45 1 0 3 3b35 1 0 3 gm5 1 15t 0 3t8 4 0 6jv upx 0 8qp e2m7 0 1 6n 1
1 47bj 0")).toArray

/-- What stands for a character in a domain name, if the character is allowed. -/
def mapChar? (c : Char) : Option (List Char) :=
  match CodeRange.find? mappings c.toNat with
  | none => some [c]
  | some r =>
    match r.value with
    | .disallowed => none
    | .ignored => some []
    | .up d => some [Char.ofNat (c.toNat + d)]
    | .down d => some [Char.ofNat (c.toNat - d)]
    | .pairs => some [if (c.toNat - r.first) % 2 = 0 then Char.ofNat (c.toNat + 1) else c]
    | .into codes => some (codes.map Char.ofNat)

end AlarmClock.Domain
