import AlarmClock.Text.CodeRange

/-! Characters that are written as a sequence of others. A composite stands for two
characters and is what they compose to; the other decompositions are never undone. -/

namespace AlarmClock.Text

/-- A composite and the two code points it stands for. -/
structure Composite where
  code : Nat
  base : Nat
  mark : Nat
  deriving Repr

/-- Composites from triples of numbers: the distance from the composite before, and the two parts. -/
def compositesFrom (before : Nat) : List Nat → List Composite
  | gap :: base :: mark :: r => ⟨before + gap, base, mark⟩ :: compositesFrom (before + gap) r
  | _ => []

/-- Single code points with sequences: the distance from the one before, the length, and the codes. -/
def sequencesFrom (before : Nat) (s : List Nat) : List (CodeRange (List Nat)) :=
  match s with
  | gap :: n :: r => ⟨before + gap, before + gap, r.take n⟩ :: sequencesFrom (before + gap) (r.drop n)
  | _ => []
termination_by s.length
decreasing_by simp; omega

def composites : Array Composite := (compositesFrom 0 (numbers36
  "5c 1t lc 1 1t ld 1 1t le 1 1t lf 1 1t lk 1 1t lm 2 1v mf 1 1x lc 1 1x ld 1 1x le 1 1x lk 1 21 lc 1 21 ld 1
21 le 1 21 lk 2 26 lf 1 27 lc 1 27 ld 1 27 le 1 27 lf 1 27 lk 3 2d lc 1 2d ld 1 2d le 1 2d lk 1 2h ld 3 2p
lc 1 2p ld 1 2p le 1 2p lf 1 2p lk 1 2p lm 2 2r mf 1 2t lc 1 2t ld 1 2t le 1 2t lk 1 2x lc 1 2x ld 1 2x le
1 2x lk 2 32 lf 1 33 lc 1 33 ld 1 33 le 1 33 lf 1 33 lk 3 39 lc 1 39 ld 1 39 le 1 39 lk 1 3d ld 2 3d lk 1
1t lg 1 2p lg 1 1t li 1 2p li 1 1t mg 1 2p mg 1 1v ld 1 2r ld 1 1v le 1 2r le 1 1v lj 1 2r lj 1 1v lo 1 2r
lo 1 1w lo 1 2s lo 3 1x lg 1 2t lg 1 1x li 1 2t li 1 1x lj 1 2t lj 1 1x mg 1 2t mg 1 1x lo 1 2t lo 1 1z le
1 2v le 1 1z li 1 2v li 1 1z lj 1 2v lj 1 1z mf 1 2v mf 1 20 le 1 2w le 3 21 lf 1 2x lf 1 21 lg 1 2x lg 1
21 li 1 2x li 1 21 mg 1 2x mg 1 21 lj 4 22 le 1 2y le 1 23 mf 1 2z mf 2 24 ld 1 30 ld 1 24 mf 1 30 mf 1 24
lo 1 30 lo 5 26 ld 1 32 ld 1 26 mf 1 32 mf 1 26 lo 1 32 lo 4 27 lg 1 33 lg 1 27 li 1 33 li 1 27 ln 1 33 ln
3 2a ld 1 36 ld 1 2a mf 1 36 mf 1 2a lo 1 36 lo 1 2b ld 1 37 ld 1 2b le 1 37 le 1 2b mf 1 37 mf 1 2b lo 1
37 lo 1 2c mf 1 38 mf 1 2c lo 1 38 lo 3 2d lf 1 39 lf 1 2d lg 1 39 lg 1 2d li 1 39 li 1 2d lm 1 39 lm 1 2d
ln 1 39 ln 1 2d mg 1 39 mg 1 2f le 1 3b le 1 2h le 1 3d le 1 2h lk 1 2i ld 1 3e ld 1 2i lj 1 3e lj 1 2i lo
1 3e lo y 27 m3 1 33 m3 e 2d m3 1 39 m3 t 1t lo 1 2p lo 1 21 lo 1 2x lo 1 27 lo 1 33 lo 1 2d lo 1 39 lo 1
64 lg 1 70 lg 1 64 ld 1 70 ld 1 64 lo 1 70 lo 1 64 lc 1 70 lc 2 5g lg 1 6c lg 1 fa lg 1 fb lg 1 5i lg 1 6e
lg 3 1z lo 1 2v lo 1 23 lo 1 2z lo 1 27 mg 1 33 mg 1 dm lg 1 dn lg 1 c7 lo 1 ia lo 1 2y lo 4 1z ld 1 2v ld
3 26 lc 1 32 lc 1 5h ld 1 6d ld 1 5i ld 1 6e ld 1 60 ld 1 6w ld 1 1t lr 1 2p lr 1 1t lt 1 2p lt 1 1x lr 1
2t lr 1 1x lt 1 2t lt 1 21 lr 1 2x lr 1 21 lt 1 2x lt 1 27 lr 1 33 lr 1 27 lt 1 33 lt 1 2a lr 1 36 lr 1 2a
lt 1 36 lt 1 2d lr 1 39 lr 1 2d lt 1 39 lt 1 2b me 1 37 me 1 2c me 1 38 me 3 20 lo 1 2w lo 7 1t lj 1 2p lj
1 1x mf 1 2t mf 1 5y lg 1 6u lg 1 5x lg 1 6t lg 1 27 lj 1 33 lj 1 fi lg 1 fj lg 1 2h lg 1 3d lg 9e 4o ld 1
pd ld 2 ph ld 1 pj ld 1 pl ld 2 pr ld 2 px ld 1 q1 ld 1 qy ld q pl lk 1 px lk 1 q9 ld 1 qd ld 1 qf ld 1 qh
ld 1 qz ld q qh lk 1 qt lk 1 qn ld 1 qt ld 1 qx ld 5 r6 ld 1 r6 lk 18 t1 lc 1 t1 lk 2 sz ld 4 sm lk 5 t6 ld
1 t4 lc 1 tf li b t4 li w u0 li n tx lc 1 tx lk 2 tv ld 4 uu lk 5 u2 ld 1 u0 lc 1 ub li o vo lr 1 vp lr 22
t2 li 1 ty li e sw li 1 ts li 1 sw lk 1 ts lk 3 t1 li 1 tx li 3 yg lk 1 yh lk 1 t2 lk 1 ty lk 1 t3 lk 1 tz
lk 3 t4 lg 1 u0 lg 1 t4 lk 1 u0 lk 1 ta lk 1 u6 lk 3 yw lk 1 yx lk 1 tp lk 1 ul lk 1 tf lg 1 ub lg 1 tf lk
1 ub lk 1 tf ln 1 ub ln 1 tj lk 1 uf lk 3 tn lk 1 uj lk 89 17r 18z 1 17r 190 1 18o 190 1 17r 191 1 18q 190
4a 1cl 190 2 1c1 190 h 1ci 190 gm 1t4 1to 8 1tc 1to 3 1tf 1to 47 1xj 1xa 1 1xj 1xz ak 287 28m 3 287 27y 1
287 28n 20 2aa 2c7 1i 2bq 2bi 1 2br 2bi 1 2bq 2c7 3g 2fa 2fq 3c 2in 2j9 7 2iu 2j9 1 2iu 2ja 2 2iu 2iq 1 2iy
2j9 3j 2me 2m6 1 2mf 2m6 1 2me 2mv 3y 2qh 2q2 2 2qh 2q7 1 2qk 2q2 1 2qh 2qn g8 36t 372 25c 5c5 5dh 2 5c7
5dh 2 5c9 5dh 2 5cb 5dh 2 5cd 5dh 4 5ch 5dh 15 5dm 5dh 2 5do 5dh 3 5dq 5dh 1 5dr 5dh 2 5du 5dh jh 1t md 1
2p md 1 1u lj 1 2q lj 1 1u mb 1 2q mb 1 1u mp 1 2q mp 1 5j ld 1 6f ld 1 1w lj 1 2s lj 1 1w mb 1 2s mb 1 1w
mp 1 2s mp 1 1w mf 1 2s mf 1 1w ml 1 2s ml 1 7m lc 1 7n lc 1 7m ld 1 7n ld 1 1x ml 1 2t ml 1 1x mo 1 2t mo
1 fc li 1 fd li 1 1y lj 1 2u lj 1 1z lg 1 2v lg 1 20 lj 1 2w lj 1 20 mb 1 2w mb 1 20 lk 1 2w lk 1 20 mf 1
2w mf 1 20 mm 1 2w mm 1 21 mo 1 2x mo 1 5r ld 1 6n ld 1 23 ld 1 2z ld 1 23 mb 1 2z mb 1 23 mp 1 2z mp 1 24
mb 1 30 mb 1 5yu lg 1 5yv lg 1 24 mp 1 30 mp 1 24 ml 1 30 ml 1 25 ld 1 31 ld 1 25 lj 1 31 lj 1 25 mb 1 31
mb 1 26 lj 1 32 lj 1 26 mb 1 32 mb 1 26 mp 1 32 mp 1 26 ml 1 32 ml 1 5x ld 1 6t ld 1 5x lk 1 6t lk 1 98 lc
1 99 lc 1 98 ld 1 99 ld 1 28 ld 1 34 ld 1 28 lj 1 34 lj 1 2a lj 1 36 lj 1 2a mb 1 36 mb 1 5zu lg 1 5zv lg 1
2a mp 1 36 mp 1 2b lj 1 37 lj 1 2b mb 1 37 mb 1 9m lj 1 9n lj 1 9s lj 1 9t lj 1 602 lj 1 603 lj 1 2c lj 1
38 lj 1 2c mb 1 38 mb 1 2c mp 1 38 mp 1 2c ml 1 38 ml 1 2d mc 1 39 mc 1 2d mo 1 39 mo 1 2d ml 1 39 ml 1 a0
ld 1 a1 ld 1 a2 lk 1 a3 lk 1 2e lf 1 3a lf 1 2e mb 1 3a mb 1 2f lc 1 3b lc 1 2f ld 1 3b ld 1 2f lk 1 3b lk
1 2f lj 1 3b lj 1 2f mb 1 3b mb 1 2g lj 1 3c lj 1 2g lk 1 3c lk 1 2h lj 1 3d lj 1 2i le 1 3e le 1 2i mb 1
3e mb 1 2i mp 1 3e mp 1 2w mp 1 38 lk 1 3b lm 1 3d lm 2 an lj 5 1t mb 1 2p mb 1 1t ll 1 2p ll 1 5e ld 1 6a
ld 1 5e lc 1 6a lc 1 5e ll 1 6a ll 1 5e lf 1 6a lf 1 61s le 1 61t le 1 76 ld 1 77 ld 1 76 lc 1 77 lc 1 76
ll 1 77 ll 1 76 lf 1 77 lf 1 61s li 1 61t li 1 1x mb 1 2t mb 1 1x ll 1 2t ll 1 1x lf 1 2t lf 1 5m ld 1 6i
ld 1 5m lc 1 6i lc 1 5m ll 1 6i ll 1 5m lf 1 6i lf 1 62g le 1 62h le 1 21 ll 1 2x ll 1 21 mb 1 2x mb 1 27
mb 1 33 mb 1 27 ll 1 33 ll 1 5w ld 1 6s ld 1 5w lc 1 6s lc 1 5w ll 1 6s ll 1 5w lf 1 6s lf 1 630 le 1 631
le 1 bk ld 1 bl ld 1 bk lc 1 bl lc 1 bk ll 1 bl ll 1 bk lf 1 bl lf 1 bk mb 1 bl mb 1 2d mb 1 39 mb 1 2d ll
1 39 ll 1 bz ld 1 c0 ld 1 bz lc 1 c0 lc 1 bz ll 1 c0 ll 1 bz lf 1 c0 lf 1 bz mb 1 c0 mb 1 2h lc 1 3d lc 1
2h mb 1 3d mb 1 2h ll 1 3d ll 1 2h lf 1 3d lf 7 q9 lv 1 q9 lw 1 64g lc 1 64h lc 1 64g ld 1 64h ld 1 64g n6
1 64h n6 1 pd lv 1 pd lw 1 64o lc 1 64p lc 1 64o ld 1 64p ld 1 64o n6 1 64p n6 1 qd lv 1 qd lw 1 64w lc 1
64x lc 1 64w ld 1 64x ld 3 ph lv 1 ph lw 1 654 lc 1 655 lc 1 654 ld 1 655 ld 3 qf lv 1 qf lw 1 65c lc 1 65d
lc 1 65c ld 1 65d ld 1 65c n6 1 65d n6 1 pj lv 1 pj lw 1 65k lc 1 65l lc 1 65k ld 1 65l ld 1 65k n6 1 65l
n6 1 qh lv 1 qh lw 1 65s lc 1 65t lc 1 65s ld 1 65t ld 1 65s n6 1 65t n6 1 pl lv 1 pl lw 1 660 lc 1 661 lc
1 660 ld 1 661 ld 1 660 n6 1 661 n6 1 qn lv 1 qn lw 1 668 lc 1 669 lc 1 668 ld 1 669 ld 3 pr lv 1 pr lw 1
66g lc 1 66h lc 1 66g ld 1 66h ld 3 qt lv 1 qt lw 1 66o lc 1 66p lc 1 66o ld 1 66p ld 1 66o n6 1 66p n6 2
px lw 2 66x lc 2 66x ld 2 66x n6 1 qx lv 1 qx lw 1 674 lc 1 675 lc 1 674 ld 1 675 ld 1 674 n6 1 675 n6 1 q1
lv 1 q1 lw 1 67c lc 1 67d lc 1 67c ld 1 67d ld 1 67c n6 1 67d n6 1 q9 lc 2 qd lc 2 qf lc 2 qh lc 2 qn lc 2
qt lc 2 qx lc 4 64g n9 1 64h n9 1 64i n9 1 64j n9 1 64k n9 1 64l n9 1 64m n9 1 64n n9 1 64o n9 1 64p n9 1
64q n9 1 64r n9 1 64s n9 1 64t n9 1 64u n9 1 64v n9 1 65c n9 1 65d n9 1 65e n9 1 65f n9 1 65g n9 1 65h n9 1
65i n9 1 65j n9 1 65k n9 1 65l n9 1 65m n9 1 65n n9 1 65o n9 1 65p n9 1 65q n9 1 65r n9 1 674 n9 1 675 n9 1
676 n9 1 677 n9 1 678 n9 1 679 n9 1 67a n9 1 67b n9 1 67c n9 1 67d n9 1 67e n9 1 67f n9 1 67g n9 1 67h n9 1
67i n9 1 67j n9 1 q9 li 1 q9 lg 1 67k n9 1 q9 n9 1 q4 n9 2 q9 n6 1 69i n9 1 pd li 1 pd lg 1 pd lc 2 pd n9 5
4o n6 1 67o n9 1 qf n9 1 q6 n9 2 qf n6 1 69y n9 1 ph lc 2 pj lc 2 pj n9 1 69r lc 1 69r ld 1 69r n6 1 qh li
1 qh lg 1 qy lc 4 qh n6 1 qy n6 1 pl li 1 pl lg 1 pl lc 3 6bi lc 1 6bi ld 1 6bi n6 1 qt li 1 qt lg 1 qz lc
2 qp lv 1 qp lw 1 qt n6 1 qz n6 1 px li 1 px lg 1 px lc 2 pt lw 1 4o lc 5 67w n9 1 qx n9 1 r2 n9 2 qx n6 1
6ba n9 1 pr lc 2 q1 lc 2 q1 n9 bi 6mo mw 1 6mq mw j 6ms mw v 6og mw 1 6ok mw 1 6oi mw 1h 6pv mw 5 6q0 mw 3
6q3 mw o 6qr mw 2 6qt mw r 6rg mw 3 6rn mw 3 6rp mw 2 6rs mw n 1p mw 2 6sh mw b 6rx mw 1 1o mw 1 1q mw 1
6sk mw 1 6sl mw 3 6sy mw 1 6sz mw 3 6t2 mw 1 6t3 mw 7 6t6 mw 1 6t7 mw 3 6te mw 1 6tf mw 3 6ti mw 1 6tj mw z
6ua mw 1 6ug mw 1 6uh mw 1 6uj mw 1d 6t8 mw 1 6t9 mw 1 6tt mw 1 6tu mw 7 6uq mw 1 6ur mw 1 6us mw 1 6ut mw
2n3 9jf 9ll 2 9jh 9ll 2 9jj 9ll 2 9jl 9ll 2 9jn 9ll 2 9jp 9ll 2 9jr 9ll 2 9jt 9ll 2 9jv 9ll 2 9jx 9ll 2 9jz
9ll 2 9k1 9ll 3 9k4 9ll 2 9k6 9ll 2 9k8 9ll 7 9kf 9ll 1 9kf 9lm 2 9ki 9ll 1 9ki 9lm 2 9kl 9ll 1 9kl 9lm 2
9ko 9ll 1 9ko 9lm 2 9kr 9ll 1 9kr 9lm n 9ja 9ll a 9lp 9ll e 9m3 9ll 2 9m5 9ll 2 9m7 9ll 2 9m9 9ll 2 9mb 9ll
2 9md 9ll 2 9mf 9ll 2 9mh 9ll 2 9mj 9ll 2 9ml 9ll 2 9mn 9ll 2 9mp 9ll 3 9ms 9ll 2 9mu 9ll 2 9mw 9ll 7 9n3
9ll 1 9n3 9lm 2 9n6 9ll 1 9n6 9lm 2 9n9 9ll 1 9n9 9lm 2 9nc 9ll 1 9nc 9lm 2 9nf 9ll 1 9nf 9lm n 9ly 9ll 3
9nz 9ll 1 9o0 9ll 1 9o1 9ll 1 9o2 9ll 4 9od 9ll 1617 1fpu lj r 1fq2 lj 246 1huh 1hve 2 1huj 1hve f 1hut
1hve 3n 1hyp 1hyf 1 1hyq 1hyf f0 1idj 1ida 1 1idj 1idz 1j 1if6 1ih5 2 1if8 1igr 9 1iff 1igy 3 1ifk 1ih5 1g
1igy 1igy 2 1igy 1igo 1 1igy 1ih5 6r 1int 1inu 1 1int 1ink 2 1int 1inx 70 1iuw 1iun 1 1iux 1iun ot 1jjp
1jjk e7d 1xr2 1xr2 1 1xr2 1xrd 1 1xr2 1xr3 1 1xrd 1xr3 1 1xr2 1xr4 1 1xr5 1xr3 1 1xr6 1xr3 1 1xr5 1xr4 2f4
206f 206f 1 206b 206f 1 206h 206f")).toArray

/-- The composites by their own code. -/
def compositeRanges : Array (CodeRange (Nat × Nat)) := composites.map fun c => ⟨c.code, c.code, (c.base, c.mark)⟩

/-- The decompositions that are never undone. -/
def otherDecompositions : Array (CodeRange (List Nat)) := (sequencesFrom 0 (numbers36
  "n4 1 lc 1 1 ld 2 1 lv 1 2 lk ld 1c 1 jd a 1 1n 9 1 53 15d 2 1sl 1to 1 2 1sm 1to 1 2 1sn 1to 1 2 1ss 1to 1 2
1sx 1to 1 2 1sy 1to 1 2 1t7 1to 1 2 1tb 1to 3h 2 1wh 1x8 1 2 1wi 1x8 2 2 1wv 1x8 2c 2 20i 20s 3 2 20o 20s z
2 1zq 20s 1 2 1zr 20s 1 2 1zw 20s 3 2 20b 20s 72 2 275 27w 1 2 276 27w rq 2 30i 33r a 2 30s 33r 5 2 30x 33r
5 2 312 33r 5 2 317 33r d 2 30g 33p a 2 31t 31u 2 2 31t 31w 1 2 33m 328 2 2 33n 328 9 2 31t 328 i 2 32q 33r
a 2 330 33r 5 2 335 33r 5 2 33a 33r 5 2 33f 33r d 2 32o 33p 33s 2 q9 ld 2 2 qd ld 2 2 qf ld 2 2 qh ld 2 2
qn ld 2 2 qt ld 2 2 qx ld 1q 2 pd ld 3 1 qh b 2 ph ld 2 2 pj ld 8 3 qh lk ld 8 2 pl ld 8 3 qt lk ld 8 2 px
ld 3 2 4o ld 1 1 2o a 2 pr ld 2 2 q1 ld 2 1 50 3 1 6bm 1 1 6bn 85 1 q1 4 1 23 1 2 1t lm e6 1 9hk 1 1 9hl
1iq 2 8gt mw 14pw 1 rpk 1 1 kc4 1 1 s7e 1 1 rt4 1 1 lw1 1 1 fg2 1 1 gkl 1 1 vj0 1 1 vj0 1 1 hn5 1 1 ssx 1 1
gw7 1 1 hmw 1 1 jcm 1 1 ne1 1 1 p6t 1 1 qin 1 1 qt6 1 1 r20 1 1 sjz 1 1 kxu 1 1 ljv 1 1 mah 1 1 mvy 1 1 q4d
1 1 sq2 1 1 uep 1 1 fia 1 1 ghh 1 1 l50 1 1 mjf 1 1 qi5 1 1 v8e 1 1 ifk 1 1 m3v 1 1 qfh 1 1 r50 1 1 jih 1 1
pnc 1 1 qvz 1 1 iq2 1 1 kd3 1 1 lm2 1 1 mpo 1 1 slq 1 1 fpi 1 1 g53 1 1 gda 1 1 jwk 1 1 l3n 1 1 mj4 1 1 nhj
1 1 pa9 1 1 qh2 1 1 qjg 1 1 s1b 1 1 tv6 1 1 upb 1 1 v7e 1 1 nt8 1 1 nzz 1 1 otc 1 1 q15 1 1 t1g 1 1 vb3 1 1
rfa 1 1 hjz 1 1 iro 1 1 okg 1 1 pdq 1 1 mle 1 1 nuy 1 1 rsy 1 1 ttj 1 1 hjs 1 1 i8y 1 1 kyb 1 1 lp6 1 1 lxr
1 1 oq7 1 1 oxj 1 1 tor 1 1 gcy 1 1 pe3 1 1 g64 1 1 g5o 1 1 o4c 1 1 ou6 1 1 q29 1 1 tpx 1 1 rk0 1 1 jin 1 1
kxu 1 1 rge 1 1 fg9 1 1 i5j 1 1 iz6 1 1 mtj 1 1 n74 1 1 gev 1 1 nwb 1 1 fr3 1 1 iw9 1 1 ff1 1 1 lho 1 1 k1k
1 1 opu 1 1 gjn 1 1 hge 1 1 ni9 1 1 q4p 1 1 re2 1 1 la2 1 1 sds 1 1 lfs 1 1 jjy 1 1 put 1 1 jog 1 1 n6t 1 1
fji 1 1 g2x 1 1 g5l 1 1 kn5 1 1 oo7 1 1 prj 1 1 rf6 1 1 ssv 1 1 gdx 1 1 gn6 1 1 ho3 1 1 ir0 1 1 k3p 1 1 m4e
1 1 nxm 1 1 tkd 1 1 ui2 1 1 vbr 1 1 vda 1 1 gbf 1 1 kau 1 1 l87 1 1 sbm 1 1 ino 1 1 j9s 1 1 jcw 1 1 jve 1 1
lyb 1 1 mdl 1 1 n0p 1 1 o22 1 1 ovo 1 1 pdb 1 1 s9y 1 1 q9a 1 1 sgz 1 1 t3e 1 1 g7r 1 1 gbn 1 1 gql 1 1 ma0
1 1 r0i 1 1 re2 1 1 iq1 1 1 iyd 1 1 jnf 1 1 l9q 1 1 oji 1 1 mt1 1 1 fl0 1 1 h6h 1 1 i5j 1 1 iii 1 1 izg 1 1
muq 1 1 mzt 1 1 p7e 1 1 pc6 1 1 svo 1 1 tti 1 1 tvs 1 1 u1k 1 1 fpn 1 1 o1a 1 1 ss4 1 1 trs 1 1 j4x 1 1 fie
1 1 fyy 1 1 i5q 1 1 i7z 1 1 k2h 1 1 kxu 1 1 mha 1 1 ncy 1 1 q9o 1 1 sjg 1 1 vil 1 1 k94 1 1 tny 1 1 gax 1 1
kfv 1 1 kj7 1 1 lkx 1 1 luk 1 1 mx5 1 1 n6h 1 1 nsb 1 1 opc 1 1 u3i 1 1 g31 1 1 je6 1 1 tq0 1 1 fu3 1 1 ie1
1 1 lpm 1 1 sa2 1 1 ivf 1 1 j7o 1 1 kk7 1 1 mtj 1 1 tqe 1 1 g89 1 1 glr 1 1 i91 1 1 k5v 1 1 kem 1 1 ko8 1 1
lid 1 1 mx2 1 1 naa 1 1 p6h 1 1 r0v 1 1 r1d 1 1 sss 1 1 tsy 1 1 gfz 1 1 lve 1 1 gm5 1 1 mhc 1 1 n14 1 1 qgq
1 1 tr7 1 1 uvr 1 1 vbz 1 1 kgn 1 1 lor 1 1 pns 1 1 o97 1 1 obk 1 1 olu 1 1 mo0 1 1 m8p 1 1 riw 1 1 fk0 1 1
px2 1 1 g8q 1 1 g7b 1 1 ip2 1 1 jir 1 1 onq 1 1 i2t 1 1 ljy 1 1 kac 1 1 saj 1 1 qx8 1 1 tot 1 1 r63 1 1 iqb
1 1 g1s 1 1 gxs 3 1 hga 2 1 k8k 3 1 g66 1 1 mqy 1 1 ngq 1 1 ny4 1 1 nz2 1 1 nz9 1 1 o0f 1 1 tw6 1 1 on2 1 1
p8d 2 1 qhe 2 1 rg8 3 1 shk 1 1 sn1 4 1 u7j 1 1 u7w 1 1 u94 1 1 v5g 1 1 sm6 1 1 trr 1 1 fqm 1 1 fzb 1 1 g25
1 1 gcp 1 1 gdg 1 1 ggh 1 1 gwt 1 1 gzq 1 1 h2g 1 1 hfk 1 1 hig 1 1 i90 1 1 i9a 1 1 j2s 1 1 j8o 1 1 j9q 1 1
jci 1 1 k0f 1 1 k4i 1 1 k9d 1 1 kn9 1 1 lmf 1 1 lqy 1 1 lya 1 1 mem 1 1 mjv 1 1 mxu 1 1 ntd 1 1 ny6 1 1 nyh
1 1 nyg 1 1 nyo 1 1 nyu 1 1 nz1 1 1 o0d 1 1 o0e 1 1 o5c 1 1 o75 1 1 og0 1 1 ovo 1 1 ow9 1 1 oxt 1 1 p6a 1 1
pad 1 1 pnx 1 1 prt 1 1 prt 1 1 q53 1 1 r2o 1 1 r6e 1 1 rgh 1 1 ri1 1 1 rtf 1 1 ruw 1 1 sdy 1 1 shk 1 1 tsz
1 1 u0v 1 1 u2j 1 1 j1x 1 1 36cu 1 1 pp4 3 1 ffq 1 1 g51 1 1 g2w 1 1 fpc 1 1 g1x 1 1 g3k 1 1 gcn 1 1 ge2 1
1 gwt 1 1 gut 1 1 gwp 1 1 gyq 1 1 hga 1 1 hir 1 1 hms 1 1 hn8 1 1 huq 1 1 i08 1 1 iqa 1 1 iqh 1 1 iuh 1 1
iwd 1 1 j4o 1 1 j7y 1 1 j60 1 1 j9q 1 1 j8g 1 1 jci 1 1 jec 1 1 jpg 1 1 jrw 1 1 jte 1 1 k0m 1 1 k8k 1 1 kd3
1 1 kd7 1 1 keu 1 1 l89 1 1 la2 1 1 lkx 1 1 lwb 1 1 lvv 1 1 lya 1 1 m5a 1 1 mem 1 1 nmv 1 1 mk5 1 1 mnj 1 1
mqy 1 1 n01 1 1 n46 1 1 n5n 1 1 nbx 1 1 nbz 1 1 ngq 1 1 nh7 1 1 nhw 1 1 nka 1 1 nk0 1 1 nv0 1 1 o8h 1 1 og0
1 1 ol7 1 1 orf 1 1 ovo 1 1 p4u 1 1 pad 1 1 pxu 1 1 q27 1 1 qrd 1 1 r41 1 1 r5y 1 1 r6e 1 1 ren 1 1 rg8 1 1
rez 1 1 rgh 1 1 rge 1 1 rfx 1 1 ri1 1 1 rka 1 1 ruw 1 1 sag 1 1 sj6 1 1 srd 1 1 sxi 1 1 tq4 1 1 tsz 1 1 tw6
1 1 tzv 1 1 u0v 1 1 u17 1 1 u2j 1 1 umq 1 1 vj0 1 1 313e 1 1 3138 1 1 33dh 1 1 brx 1 1 cns 1 1 cop 1 1 39e1
1 1 3bgw 1 1 3i6r 1 1 vgj 1 1 vim 1w 2 15l 14k 2 2 16a 14n b 2 161 14x 1 2 161 14y 1 3 161 14s 14x 1 3 161
14s 14y 1 2 15c 14n 1 2 15c 14o 1 2 15c 14s 1 2 15d 14s 1 2 15e 14s 1 2 15f 14s 1 2 15g 14s 1 2 15h 14s 1 2
15i 14s 2 2 15k 14s 1 2 15l 14s 1 2 15m 14s 1 2 15n 14s 1 2 15o 14s 2 2 15q 14s 2 2 15s 14s 1 2 15t 14s 2 2
15v 14s 1 2 15w 14s 2 2 15y 14s 1 2 15z 14s 1 2 160 14s 1 2 161 14s 1 2 162 14s 1 2 15h 14p 1 2 15d 14v 1 2
15n 14v 1 2 15w 14v 16a8 2 2jx3 2jxh 1 2 2jx4 2jxh 1 3 2jx4 2jxh 2jxq 1 3 2jx4 2jxh 2jxr 1 3 2jx4 2jxh 2jxs
1 3 2jx4 2jxh 2jxt 1 3 2jx4 2jxh 2jxu 2f 2 2jzt 2jxh 1 2 2jzu 2jxh 1 3 2jzt 2jxh 2jxq 1 3 2jzu 2jxh 2jxq 1
3 2jzt 2jxh 2jxr 1 3 2jzu 2jxh 2jxr 1m4g 1 fgd 1 1 fg8 1 1 fgh 1 1 2tcy 1 1 fog 1 1 fqm 1 1 fqz 1 1 fsy 1 1
fwa 1 1 fx5 1 1 fzb 1 1 fyn 1 1 ae6 1 1 2ud6 1 1 g25 1 1 g2c 1 1 g2s 1 1 g3b 1 1 2u58 1 1 aex 1 1 g2v 1 1
g3x 1 1 2u6j 1 1 g47 1 1 g4k 1 1 fkc 1 1 g4s 1 1 g51 1 1 3ly7 1 1 g6t 1 1 g77 1 1 afz 1 1 g8r 1 1 g92 1 1
gaa 1 1 gaf 1 1 ahh 1 1 gcn 1 1 gcp 1 1 gdg 1 1 ge2 1 1 ged 1 1 gee 1 1 gev 1 1 gg9 1 1 ggh 1 1 ggq 1 1 ghf
1 1 ghp 1 1 ghr 1 1 ghr 1 1 ghr 1 1 2v58 1 1 m7k 1 1 gju 1 1 gkf 1 1 2vdv 1 1 gkr 1 1 gkx 1 1 gli 1 1 gpq 1
1 gmw 1 1 gnc 1 1 go8 1 1 gpu 1 1 gs6 1 1 gsw 1 1 gur 1 1 gv7 1 1 gw4 1 1 gw4 1 1 gwp 1 1 gx7 1 1 gxf 1 1
gxu 1 1 h7a 1 1 gzq 1 1 h7b 1 1 h1t 1 1 h2s 1 1 g7b 1 1 hke 1 1 hce 1 1 hdg 1 1 he5 1 1 haj 1 1 hf6 1 1 hf5
1 1 hik 1 1 2x9g 1 1 hki 1 1 hkn 1 1 hl2 1 1 hlm 1 1 hlu 1 1 hnm 1 1 2xm0 1 1 2xnu 1 1 hrg 1 1 hsr 1 1 ht3
1 1 hqw 1 1 huu 1 1 aum 1 1 av0 1 1 hzc 1 1 i0u 1 1 i0u 1 1 2y88 1 1 i4j 1 1 i54 1 1 i5j 1 1 i5v 1 1 2yhk 1
1 i67 1 1 i6e 1 1 itv 1 1 i76 1 1 ayp 1 1 i8w 1 1 i9a 1 1 ibk 1 1 ia5 1 1 2z1g 1 1 if7 1 1 2z1i 1 1 ige 1 1
igb 1 1 igs 1 1 ijl 1 1 ijm 1 1 b3j 1 1 ikd 1 1 ilk 1 1 im5 1 1 ind 1 1 b4y 1 1 2zr7 1 1 b5o 1 1 ipc 1 1
ipf 1 1 ipi 1 1 iq2 1 1 3pg2 1 1 iri 1 1 3035 1 1 3035 1 1 poh 1 1 isi 1 1 isi 1 1 b7r 1 1 335k 1 1 3cgq 1
1 iua 1 1 iuj 1 1 b8j 1 1 ivu 1 1 ix9 1 1 ixj 1 1 iyh 1 1 j29 1 1 bay 1 1 ba4 1 1 j2s 1 1 30t0 1 1 j47 1 1
j7s 1 1 j7w 1 1 j7y 1 1 j7w 1 1 j96 1 1 j9q 1 1 jaq 1 1 jac 1 1 jan 1 1 jby 1 1 jci 1 1 jcm 1 1 jdc 1 1 jdn
1 1 jfh 1 1 jht 1 1 jis 1 1 jm8 1 1 31n0 1 1 jlp 1 1 jjw 1 1 jmw 1 1 jnn 1 1 jqc 1 1 31td 1 1 js2 1 1 jph 1
1 jop 1 1 bhq 1 1 ju1 1 1 jum 1 1 jvh 1 1 juf 1 1 bjg 1 1 k0f 1 1 k18 1 1 32mi 1 1 k4j 1 1 kc8 1 1 k7d 1 1
bo9 1 1 k9d 1 1 bns 1 1 bms 1 1 g42 1 1 g45 1 1 kcg 1 1 k9o 1 1 pf1 1 1 deh 1 1 kd3 1 1 kd7 1 1 kdd 1 1 kf2
1 1 ker 1 1 33cz 1 1 bpl 1 1 kje 1 1 kg5 1 1 klu 1 1 kn9 1 1 33hp 1 1 kni 1 1 kkf 1 1 kr8 1 1 brx 1 1 ksi 1
1 kv7 1 1 kx6 1 1 l2g 1 1 33xf 1 1 l3v 1 1 bvc 1 1 l5t 1 1 34br 1 1 l78 1 1 bwu 1 1 l82 1 1 l9b 1 1 la2 1 1
la3 1 1 34p9 1 1 2yvf 1 1 34sa 1 1 le6 1 1 354s 1 1 lhb 1 1 lhp 1 1 lev 1 1 ljq 1 1 lku 1 1 lmf 1 1 lkx 1 1
lm1 1 1 lmg 1 1 lmt 1 1 357i 1 1 lkk 1 1 lrj 1 1 lta 1 1 c37 1 1 lvv 1 1 lvr 1 1 35jl 1 1 lq1 1 1 m0e 1 1
35ni 1 1 35ou 1 1 m2u 1 1 m61 1 1 m5a 1 1 m57 1 1 c5y 1 1 m6i 1 1 m7x 1 1 m7r 1 1 m99 1 1 2u5h 1 1 mdh 1 1
368z 1 1 mfw 1 1 36i3 1 1 mjs 1 1 mk5 1 1 mkw 1 1 36yw 1 1 mm8 1 1 mmt 1 1 3779 1 1 37dg 1 1 mt6 1 1 mtn 1
1 cdo 1 1 mud 1 1 ce0 1 1 ce0 1 1 myv 1 1 mzg 1 1 n01 1 1 n0l 1 1 n2i 1 1 cgr 1 1 n50 1 1 386u 1 1 n5q 1 1
389e 1 1 n74 1 1 2zrz 1 1 nbk 1 1 38v5 1 1 38vs 1 1 38zo 1 1 cn0 1 1 cnc 1 1 nhw 1 1 394j 1 1 394i 1 1 395l
1 1 396b 1 1 nj2 1 1 nj3 1 1 nj3 1 1 nka 1 1 cop 1 1 nm3 1 1 cp2 1 1 cra 1 1 39r1 1 1 nri 1 1 nt8 1 1 nv0 1
1 ctf 1 1 3a5i 1 1 nyu 1 1 3a8q 1 1 3a9x 1 1 o0f 1 1 o2z 1 1 cvj 1 1 o5c 1 1 o5m 1 1 o5r 1 1 3at8 1 1 3b1j
1 1 3b1j 1 1 oa6 1 1 d1e 1 1 3b8r 1 1 og6 1 1 og9 1 1 d2f 1 1 3beo 1 1 onm 1 1 d5s 1 1 oo8 1 1 oo3 1 1 oow
1 1 3c06 1 1 orn 1 1 d8h 1 1 ouf 1 1 ow2 1 1 oxx 1 1 d9w 1 1 3ciw 1 1 3cjr 1 1 dax 1 1 3cnt 1 1 p6i 1 1
3cqm 1 1 p79 1 1 pa2 1 1 pad 1 1 3d22 1 1 3d43 1 1 pcw 1 1 3d7s 1 1 pdc 1 1 33a7 1 1 ded 1 1 pf6 1 1 phf 1
1 dfv 1 1 pj2 1 1 hx1 1 1 3dlz 1 1 3dmd 1 1 33bn 1 1 33bw 1 1 poh 1 1 pok 1 1 sda 1 1 dij 1 1 psh 1 1 psb 1
1 pst 1 1 gc3 1 1 ptd 1 1 ptf 1 1 ptp 1 1 puu 1 1 3ebg 1 1 put 1 1 pwd 1 1 pyb 1 1 q0d 1 1 pwj 1 1 q0t 1 1
q1z 1 1 q53 1 1 pxv 1 1 q16 1 1 q18 1 1 q1o 1 1 3eie 1 1 3eqz 1 1 3emt 1 1 dnv 1 1 q9d 1 1 q9f 1 1 qae 1 1
3g0a 1 1 qck 1 1 3f3g 1 1 dp9 1 1 dpd 1 1 3f75 1 1 3ff6 1 1 dpn 1 1 qj4 1 1 qjg 1 1 qjr 1 1 qjt 1 1 qll 1 1
qko 1 1 qoe 1 1 qn6 1 1 qrd 1 1 qp4 1 1 qqz 1 1 qrq 1 1 dsn 1 1 qu9 1 1 qv5 1 1 dtl 1 1 qxs 1 1 qxv 1 1
3giv 1 1 r13 1 1 r1a 1 1 dv9 1 1 r22 1 1 aez 1 1 3gz2 1 1 3h46 1 1 dz2 1 1 dzb 1 1 rds 1 1 rfx 1 1 rka 1 1
rpx 1 1 3hrc 1 1 rsb 1 1 rsx 1 1 rvf 1 1 rxz 1 1 3i9b 1 1 2upw 1 1 s0b 1 1 rzw 1 1 s1c 1 1 2uvy 1 1 s7o 1 1
sag 1 1 3jki 1 1 3jl9 1 1 sk4 1 1 smp 1 1 snl 1 1 3ju6 1 1 snv 1 1 svs 1 1 t07 1 1 t08 1 1 sxo 1 1 t89 1 1
t91 1 1 3ksa 1 1 tjf 1 1 ej9 1 1 tkn 1 1 3l2v 1 1 eli 1 1 ts3 1 1 iia 1 1 tur 1 1 3ltx 1 1 3lzu 1 1 epa 1 1
epi 1 1 u00 1 1 3mdm 1 1 er6 1 1 3mhi 1 1 u17 1 1 u17 1 1 u21 1 1 3mpi 1 1 u76 1 1 eur 1 1 u95 1 1 ucn 1 1
ude 1 1 uf2 1 1 ez2 1 1 3nsg 1 1 umq 1 1 uv4 1 1 v0d 1 1 f66 1 1 f71 1 1 v3b 1 1 3owe 1 1 f7c 1 1 3oxx 1 1
3p5a 1 1 3p8x 1 1 vcr 1 1 f9y 1 1 veh 1 1 vem 1 1 vet 1 1 vf3 1 1 vfa 1 1 vgb 1 1 3pxc")).toArray

end AlarmClock.Text
