import Courier.Text.Ascii
import Courier.Text.Unicode.Packed

/-!
# Folding — one spelling for characters that are the same in a name

Names are compared without regard to case, width and other differences of form. `fold?` gives what
stands for a character in a name: mostly itself, its small letter where it is a capital, the plain
characters for those that only look different, nothing at all for those that do not show, and
`none` for characters that no name holds. ASCII characters all stay, capitals made small.
-/

namespace Courier.Text.Unicode.Folding

open Courier.Text

/-- Characters that are written by one other each: the first one and how many, how far they are
apart, the first of the others and how far those are apart. -/
structure Shift where
  first : Nat
  count : Nat
  step : Nat
  target : Nat
  targetStep : Nat

/-- The character that stands for another one. -/
def Shift.image? (s : Shift) (point : Nat) : Option Nat :=
  let n := (point - s.first) / s.step
  if s.first ≤ point && (point - s.first) % s.step == 0 && n < s.count then
    some (s.target + n * s.targetStep)
  else none

/-- Shifts of five numbers each; the first is the gap before it. -/
def shiftsFrom : Nat → List Nat → List Shift
  | start, gap :: count :: step :: target :: targetStep :: rest =>
    ⟨start + gap, count, step, target, targetStep⟩ ::
      shiftsFrom (start + gap + (count - 1) * step + 1) rest
  | _, _ => []

/-- Where reading a table of several characters for one stands. -/
inductive Expecting where
  | gap
  | count (point : Nat)
  | points (point : Nat) (owed : Nat) (done : List Nat)

/-- Characters with the several that stand for them: the gap before the character, how many they
are, and which. -/
def expansionsFrom : Nat → Expecting → List Nat → List (Nat × List Nat)
  | _, _, [] => []
  | start, .gap, gap :: rest => expansionsFrom start (.count (start + gap)) rest
  | start, .count point, n :: rest => expansionsFrom start (.points point n []) rest
  | start, .points point owed done, p :: rest =>
    if owed ≤ 1 then
      (point, (p :: done).reverse) :: expansionsFrom (point + 1) .gap rest
    else expansionsFrom start (.points point (owed - 1) (p :: done)) rest

/-- The characters that one other stands for. -/
def shifted : List Shift := shiftsFrom 0 (Packed.numbers
  ["4g 1 1 w 0 9 1 1 2p 0 7 2 1 1e 1 1 1 1 qk 0 3 2 1 1d 1q 5 n 1 68 1 1 7 1 6w 1 x o 2 75 2 5 2 2",
   "8l 2 2 3 2 8q 2 3 4 2 8y 2 2 n 2 97 2 1 2 1 73 3f 1 2 2 ak 2 1 2 2 37 dc 0 2 2 ar 2 1 1 1 gk 0",
   "0 2 2 aw 5q 0 1 1 gn 0 0 2 3 b0 29 0 2 1 gp 2 0 2 2 b6 5q 0 2 2 gz 6 0 1 1 h4 0 0 2 4 bd 5y 0",
   "2 2 he 3 0 3 2 bl 2 1 1 1 hs 0 0 2 2 bs 63 2 2 2 bx 63 0 2 2 c0 62 0 1 1 i3 0 0 2 2 c4 2 1 1 1",
   "ia 0 0 2 4 c9 4 g 8 2 cu 2 2 9 2 db 2 5 1 1 dx 0 1 2 1 b9 16 0 k 2 e1 2 1 2 2 bi 3p 1 8 2 f9 2",
   "7 1 1 8rp 0 0 1 1 fw 0 1 2 1 be 8gc 2 1 1 g2 0 1 2 1 ao 7d 0 1 1 i4 0 0 5 2 g7 2 2p 2 1 2w e6",
   "0 2 1 2y 8 0 2 1 hl 2 0 1 1 ht 0 0 2 1 3b 2 13 1 1 gz 0 0 2 1 30 7 0 2 1 3c f1 2j 2 1 lc 1 1 2",
   "2 lv 4m 16 2 2 oh 2 1 2 2 jd 5a 7 2 1 1n qg 6 1 1 q4 0 0 2 1 53 l2 0 2 1 q6 1 1 2 2 r0 1 0 1 1",
   "r2 0 1 h 1 q9 1 1 9 1 qr 1 z 1 1 rb 0 0 2 1 qa 6 0 2 1 qt 8 0 1 1 qz 0 0 1 1 qu 0 0 2 2 qo p 1",
   "b 2 rf 2 1 2 1 qi 7 0 1 1 qr 0 1 1 1 qg 0 0 2 2 qd 1v 1 2 1 qr 1k 2 3 1 or 1 0 g 1 uo 1 0 w 1",
   "ts 1 1c h 2 v5 2 9 r 2 wb 2 1 1 1 y7 0 0 7 2 xu 2 2 1c 2 y9 2 2 12 1 129 1 1x1 1 1 2yz 0 b7 12",
   "1 8w0 1 1 1 1 8x3 0 5 1 1 8x9 0 1a 1 1 3bw 0 l7 6 1 3xs 1 1oi 2 1 tu 2 0 2 1 u6 3 0 2 1 ua 0 0",
   "2 1 ui p 0 1 1 wuj 0 0 1 1 5my 0 6 17 1 3bk 1 2 3 1 3ct 1 30 2 1 2p 3p 0 2 2 2q 2 0 2 1 2t ag",
   "0 8 1 2v 1 1 2 1 33 c4 0 3 1 34 2 0 2 1 39 2 0 2 1 2p dr 0 2 1 gh 59t 0 2 1 2q 2 0 2 1 2t dw 0",
   "2 1 gr 1 0 2 2 2v 4 0 2 1 31 66 0 2 1 33 dh 0 2 1 5qu 1 0 2 1 34 4 0 2 1 39 5ns 0 1 1 hb 0 0 2",
   "1 3a 5nz 0 3 1 qa 1 0 2 1 qu 1 0 2 1 2x 9 0 2 1 39 1 0 2 1 qa 1 0 2 1 qp 5 0 1 1 qv 0 d 1 1 u5",
   "0 y 1 1 gi 0 0 2 1 2r du 0 2 1 6o a4 0 2 1 2u e1 0 2 1 gx 4 0 3 1 h4 1 0 1 1 5tn 0 0 1 1 il 0",
   "0 2 1 h9 5co 0 1 1 in 0 0 1 1 hd 0 0 2 1 hc 2 0 3 1 hf 1 0 2 1 hk a 0 1 1 hv 0 0 2 1 bv 66 0 2",
   "1 i2 58y 0 2 1 i3 1 0 2 1 3e eu 0 2 1 i9 1 0 1 1 qg 0 1s 23 2 5xd 2 6 1 1 601 0 2 2 2 67 5vm 1",
   "1b 2 61v 2 9 8 1 64g 1 8 6 1 64w 1 a 8 1 65c 1 8 8 1 65s 1 8 6 1 668 1 b 4 2 66p 2 8 8 1 674 1",
   "1 4 2 q4 1 1 3 2 r0 1 1m 2 1 69c 1 0 1 1 67k 0 0 2 3 q4 d 9 1 1 67m 0 0 2 1 q5 5hj 0 1 1 q6 0",
   "7 1 1 pc 0 4 2 1 6a8 1 0 1 1 67q 0 0 1 1 q7 0 7 1 1 q8 0 4 2 1 6ao 1 0 1 1 67u 0 0 2 1 r1 5js",
   "2 1 1 2o 0 8 1 1 67s 0 0 2 1 r0 5gw 0 1 1 r2 0 4 b 1 w 0 6 1 1 6c0 0 t 1 1 w 0 1b 1 1 w 0 g 2",
   "1 1c 1l 2 6 1 1g 1 0 2 1 17 6p3 0 1 1 1p 0 0 2 1 14 1 0 1 1 32 0 0 a 1 1c 1 0 2 1 17 6p3 0 1 1",
   "1p 0 0 2 1 14 1 1 2 1 2p 4 0 2 1 33 9 0 1 1 gp 0 0 2 1 2w 3 0 3 1 30 1 0 2 1 34 3 0 2 1 38 3 0",
   "2 1 3d 1 2q 1 1 2r 0 4 1 1 gr 0 2 2 1 2v 1 0 3 1 2w 0 0 1 1 87 0 0 2 1 2x 0 0 2 1 30 0 1 2 4",
   "32 2 0 2 1 35 1 0 2 1 36 0 6 2 2 3e nj 1 1 1 3e 0 1 2 1 2z 3e 0 2 1 2q 1 1 2 1 2t 0 0 2 1 2u",
   "6i0 0 2 1 31 2 0 4 1 15c 1 0 2 3 2x nr 0 2 1 qb 0 0 2 1 qo 5zl 4 2 1 2s 0 0 2 1 2t 4 0 1 1 2y",
   "0 m 2 4 2x d 4 1 1 3c 0 2 1 1 30 0 0 2 1 2r 1 0 1 1 31 0 0 2 4 2x d 4 1 1 3c 0 2 1 1 30 0 0 2",
   "1 2r 1 0 2 4 31 6jb bp 2 1 9hk 1 8l 9 1 1d 1 25 q 1 2p 1 0 q 1 2p 1 0 1 1 1c 0 1ed 1c 1 8q8 1",
   "1c 1 1 8rl 0 1 2 1 h7 5ci 0 2 3 hp 8a3 1 2 2 8ru 2 1 2 1 gh w 0 2 1 gg 2 1 2 3 8s3 3 6 2 1 2y",
   "c 0 2 1 fz 1 0 1e 2 8sh 2 8 2 2 8vg 2 4 1 1 8vn 0 3g 1 1 8yp 0 8f 1 1 lal 0 2b 1 1 vj3 0 c 2 1",
   "feo 14 0 2 1 fg6 9 0 2 1 fh5 18 0 2 1 fik k 0 2 1 fju hx 0 2 1 g2t 6 0 2 1 g3m k 0 2 1 g4r 1h",
   "0 2 1 g6t b 0 2 1 gbf 2m 0 2 1 get 5 0 2 1 gfs 9 0 2 1 ggs d 0 2 1 ghu 1g 0 2 1 gjs r 0 2 1",
   "h5j 20 0 2 1 hkb n 0 2 1 hl6 b 0 2 1 hlz 24 0 2 1 i1c 1c 0 2 1 i60 n 0 2 1 i76 m 0 2 1 i9a 3 0",
   "2 1 ijf a 0 2 1 ik1 d 0 2 1 inm 8 0 2 1 inz 39 0 2 1 iri d 0 2 1 is3 1p 0 2 1 iu9 i 0 2 1 iwz",
   "g5 0 2 1 jee l 0 2 1 jzj 5 0 2 1 k1z g 0 2 1 k2s l 0 2 1 k4g 5 0 2 1 kc0 o 0 2 1 kdk s8 0 2 1",
   "l7m n 0 2 1 l9v o 0 2 1 las 7 0 2 1 lcf 5 0 2 1 ldg tz 0 2 1 mju c 0 2 1 mkb 4 0 2 1 mkn i 0 2",
   "1 ml7 29 0 2 1 mtg 5 0 2 1 n30 a 0 2 1 n4o 7 0 2 1 n54 8 0 2 1 n7v 7 0 2 1 nee 7 0 2 1 nfy h 0",
   "2 1 nhq 6l 0 2 1 noi h 0 2 1 ny2 3i 0 2 1 o1q 52 0 2 1 o97 1a 0 2 1 okz 3p 0 2 1 p4m r 0 2 1",
   "p6y 1f 0 2 1 pa9 b 0 2 1 paq x 0 2 1 pdr a 0 2 1 pnn 7 0 2 1 po3 9 0 2 1 pos f 0 2 1 ppb 27 0",
   "2 1 prm 6 0 2 1 qj1 u 0 2 1 qww c 0 2 1 qxv 7v 0 2 1 r63 1z 0 2 1 r9c fr 0 2 1 rpi f 0 2 1 rqw",
   "11 0 2 1 rxg c 0 2 1 rzn 6w 0 2 1 s7e 5t 0 2 1 sds 5 0 2 1 sk1 54 0 2 1 ssm 6 0 2 1 ssx py 0 2",
   "1 tj4 4c 0 2 1 trq 3 0 2 1 tt4 2x 0 2 1 twe 4 0 2 1 twp 2q 0 2 1 u0d 6 0 2 1 u0x 4n 0 2 1 u6z",
   "4 0 2 1 uc6 3 0 2 1 ucs 70 0 2 1 ul4 7 0 2 1 un9 a 0 2 1 unm a 0 2 1 uoq az 0 2 1 vat a 0 2 1",
   "vc5 m 0 2 1 vcz a 0 2 1 vdd 14 0 2 1 vel h 0 2 1 vf7 d 0 2 1 vgb f 0 2 1 vgy 1n 0 2 1 vj0 4 16",
   "2 2 w e 1f 2 2 9hu 6y7 0 2 1 gg4 1 6u 2 1 3cw 1 0 1 1 3hm 0 0 2 1 3cy 4q 0 1 1 3hp 0 0 3 1 3cz",
   "1 0 6 1 3hs 1 0 1 1 3dm 0 0 3 1 3d2 1 0 1 1 3dt 0 0 a 1 3d5 1 0 l 1 3fl 1 1 2 1 3dg 1 0 2 1",
   "3if 1 0 2 1 3ik 2 0 2 1 3ir 4 0 1 1 3ix 0 0 2 1 3do 5d 0 1 1 3j3 0 0 2 1 3dp 1 0 2 1 3ds 2 0 2",
   "1 3dv 4 0 2 1 3e1 2 0 4 1 3e4 1 0 2 1 3ea 4 0 2 1 3eo 7 0 2 1 3f0 4l 0 1 1 3jm 0 0 3 1 3fb 1 0",
   "2 1 3gk 1 0 2 1 3go 9 0 2 1 3gy 2 0 2 1 3ha 3 3 2 1 feo 3w 0 2 1 fex 1qq 0 2 1 fey z 0 2 1 fez",
   "7qf 0 1 1 fh5 0 0 1 1 ffd 0 0 2 1 fep 27c 0 1 1 h80 0 0 1 1 fju 0 4k 2 1 gun 1t9 0 2 1 k1z 4co",
   "o 2 1 3cw 2 0 2 1 3cz 2 0 2 1 3d2 1 0 2 1 3d5 2 0 2 1 3d8 2 0 4 1 3db 1 0 2 1 xz4 wo 0 2 1 zc4",
   "wo 0 2 1 10p4 gc 0 2 1 1224 wo 0 2 1 13f4 wo 0 4 1 14s4 gc 2 1 1 138w 0 1 2 1 feo 3w 0 2 1 fex",
   "1qq 0 2 1 fis k9 0 2 1 fer o8 0 2 1 fh9 ys 0 2 1 kco 1ur 0 1 1 ldg 0 0 2 1 kdk 8fd 0 2 1 h7j",
   "2x2 0 1 1 kkq 0 0 2 1 kcp 3lh 0 2 1 glp 60c 0 1 1 rs1 0 0 1 1 nz1 0 0 2 1 gc4 7qc 0 1 1 n5j 0",
   "0 2 1 ho3 auu 0 2 1 g16 g6 0 2 1 lig 8il 0 2 1 fm9 i0 0 1 1 l7n 0 0 2 1 fey z 0 2 1 fez 34r 0",
   "1 1 gkz 0 0 2 1 gfv 1ng 0 2 1 i1y 5fh 0 2 1 flt c7a 0 2 1 ggk 154 v 5 1 9lu 2 0 c 1 9m3 2 0 4",
   "1 9ms 2 0 5 1 9mz 1 0 5 1 9n6 3 0 4 1 9nj 1 0 3 1 9no 2 0 5 1 9nt 1 0 4 1 9nz 1 mrl n 2 wu9 2",
   "j e 2 ww1 2 1 2 1 ui 2 3o 7 2 x0j 2 3 v 2 x0z 2 1 1 1 x2n 0 8 2 2 x2y 2 1 2 1 5tl r9i 1 4 2",
   "x35 2 4 1 1 x3g 0 1 2 3 h1 wmk 1 2 4 x3n 4 1 9 2 x3t 2 1 1 1 h2 0 0 2 1 gs 5 0 1 1 h8 0 0 2 2",
   "h6 1g 0 2 1 hz m 0 1 1 xub 0 0 8 2 x4l 2 1 1 1 x3o 0 0 2 1 hu 5cc 0 2 2 x54 2 1 2 1 h0 wo9 1 7",
   "2 x5b 2 1 2 1 bf 64 j 1 1 37 0 0 2 1 2r 3 0 2 1 35 x39 2 2 1 87 18 o2 2 1 x0n sw 0 2 1 h7 xd3",
   "9 1 1 i5 0 6 28 1 3vk 1 f9c 1 1 rpk 0 0 2 1 kc4 7va 0 1 1 rt4 0 0 1 1 lw1 0 0 2 1 fg2 14j 0 2",
   "1 vj0 0 0 2 1 hn5 b5s 0 2 1 gw7 qp 0 2 1 jcm 41f 0 2 1 p6t 1bu 0 2 1 qt6 8u 0 1 1 sjz 0 0 2 1",
   "kxu m1 0 2 1 mah lh 0 2 1 q4d 2lp 0 1 1 uep 0 0 2 1 fia z7 0 2 1 l50 1ef 0 2 1 qi5 4q9 0 2 1",
   "ifk 3ob 0 2 1 qfh pj 0 2 1 jih 64v 0 1 1 qvz 0 0 2 1 iq2 1n1 0 2 1 lm2 13m 0 1 1 slq 0 0 2 1",
   "fpi fl 0 2 1 gda 3ja 0 2 1 l3n 1fh 0 2 1 nhj 1sq 0 2 1 qh2 2e 0 2 1 s1b 1tv 0 2 1 upb i3 0 2 1",
   "nt8 6r 0 2 1 otc 17t 0 2 1 t1g 29n 0 1 1 rfa 0 0 2 1 hjz 17p 0 2 1 okg ta 0 2 1 mle 19k 0 2 1",
   "rsy 20l 0 2 1 hjs p6 0 2 1 kyb qv 0 2 1 lxr 2sg 0 2 1 oxj 4r8 0 2 1 gcy 915 0 1 1 g64 0 0 2 1",
   "g5o 7yo 0 2 1 ou6 183 0 1 1 tpx 0 0 1 1 rk0 0 0 2 1 jin 1f7 0 1 1 rge 0 0 2 1 fg9 2pa 0 2 1",
   "iz6 3ud 0 1 1 n74 0 0 2 1 gev 7hg 0 2 1 fr3 356 0 2 1 ff1 62n 0 2 1 k1k 4oa 0 2 1 gjn wr 0 2 1",
   "ni9 2mg 0 1 1 re2 0 0 2 1 la2 73q 0 1 1 lfs 0 0 2 1 jjy 6av 0 2 1 jog 3id 0 2 1 fji jf 0 2 1",
   "g5l 4hk 0 2 1 oo7 13c 0 2 1 rf6 1dp 0 2 1 gdx 99 0 2 1 ho3 12x 0 2 1 k3p 20p 0 2 1 nxm 5mr 0 2",
   "1 ui2 tp 0 1 1 vda 0 0 2 1 gbf 3zf 0 2 1 l87 73f 0 2 1 ino m4 0 2 1 jcw ii 0 2 1 lyb fa 0 2 1",
   "n0p 11d 0 2 1 ovo hn 0 1 1 s9y 0 0 2 1 q9a 27p 0 1 1 t3e 0 0 2 1 g7r 3w 0 2 1 gql 5jf 0 2 1",
   "r0i dk 0 2 1 iq1 8c 0 2 1 jnf 1mb 0 1 1 oji 0 0 1 1 mt1 0 0 2 1 fl0 1lh 0 2 1 i5j cz 0 2 1 izg",
   "3va 0 2 1 mzt 27l 0 2 1 pc6 3ji 0 2 1 tti 2a 0 1 1 u1k 0 0 2 1 fpn 8bn 0 2 1 ss4 zo 0 1 1 j4x",
   "0 0 2 1 fie gk 0 2 1 i5q 29 0 2 1 k2h vd 0 2 1 mha vo 0 2 1 q9o 29s 0 1 1 vil 0 0 2 1 k94 9eu",
   "0 2 1 gax 44y 0 2 1 kj7 11q 0 2 1 luk 12l 0 2 1 n6h lu 0 2 1 opc 5e6 0 2 1 g31 3b5 0 1 1 tq0 0",
   "0 2 1 fu3 2jy 0 2 1 lpm 6kg 0 2 1 ivf c9 0 2 1 kk7 29c 0 1 1 tqe 0 0 2 1 g89 di 0 2 1 i91 1wu",
   "0 2 1 kem 9m 0 2 1 lid 1ep 0 2 1 naa 1w7 0 2 1 r0v i 0 2 1 sss 106 0 2 1 gfz 5ff 0 2 1 gm5 5v7",
   "0 2 1 n14 3fm 0 2 1 tr7 14k 0 1 1 vbz 0 0 2 1 kgn 184 0 1 1 pns 0 0 2 1 o97 2d 0 1 1 olu 0 0 1",
   "1 mo0 0 0 2 1 m8p 5a7 0 2 1 fk0 ad2 0 1 1 g8q 0 0 2 1 g7b 2hr 0 2 1 jir 54z 0 2 1 i2t 3h5 0 2",
   "1 kac 807 0 2 1 qx8 2rl 0 1 1 r63 0 0 1 1 iqb 0 0 2 1 g1s w0 2 2 2 hga 2sa 2 2 1 g66 6ks 0 2 1",
   "ngq he 0 2 1 nz2 7 0 2 1 o0f 5vr 0 2 1 on2 lb 1 2 2 qhe yu 2 2 1 shk 5h 3 2 1 u7j d 0 2 1 u94",
   "wc 0 2 1 sm6 15l 0 2 1 fqm 8p 0 2 1 g25 ak 0 2 1 gdg 31 0 2 1 gwt 2x 0 2 1 h2g d4 0 2 1 hig qk",
   "0 2 1 i9a ti 0 2 1 j8o 12 0 2 1 jci nx 0 2 1 k4i 4v 0 2 1 kn9 z6 0 2 1 lqy 7c 0 2 1 mem 59 0 2",
   "1 mxu vj 0 2 1 ny6 b 0 2 1 nyg 8 0 2 1 nyu 7 0 2 1 o0d 1 0 2 1 o5c 1t 0 2 1 og0 fo 0 2 1 ow9",
   "1k 0 2 1 p6a 43 0 2 1 pnx 3w 0 2 1 prt da 0 2 1 r2o 3q 0 2 1 rgh 1k 0 2 1 rtf 1h 0 2 1 sdy 3m",
   "0 2 1 tsz 7w 0 1 1 u2j 0 0 2 1 j1x 2nax 0 1 1 pp4 0 2 2 1 ffq pb 0 1 1 g2w 0 0 2 1 fpc cl 0 2",
   "1 g3k 93 0 2 1 ge2 ir 0 2 1 gut 1w 0 2 1 gyq hk 0 2 1 hir 41 0 2 1 hn8 7i 0 2 1 i08 q2 0 2 1",
   "iqh 40 0 2 1 iwd 8b 0 1 1 j7y 0 0 2 1 j60 3q 0 2 1 j8g 42 0 2 1 jec b4 0 2 1 jrw 1i 0 2 1 k0m",
   "7y 0 2 1 kd3 4 0 2 1 keu tf 0 2 1 la2 av 0 1 1 lwb 0 0 2 1 lvv 2f 0 2 1 m5a 9c 0 1 1 nmv 0 0 2",
   "1 mk5 3e 0 2 1 mqy 93 0 2 1 n46 1h 0 2 1 nbx 2 0 2 1 ngq h 0 2 1 nhw 2e 0 2 1 nk0 b0 0 2 1 o8h",
   "7j 0 2 1 ol7 68 0 2 1 ovo 96 0 2 1 pad nh 0 2 1 q27 p6 0 2 1 r41 1x 0 2 1 r6e 89 0 1 1 rg8 0 0",
   "2 1 rez 1i 0 1 1 rge 0 0 2 1 rfx 24 0 2 1 rka am 0 2 1 sag 8q 0 2 1 srd 65 0 2 1 tq4 2v 0 2 1",
   "tw6 3p 0 2 1 u0v c 0 2 1 u2j k7 0 2 1 vj0 25ke 0 2 1 3138 2a9 0 2 1 brx vv 0 2 1 cop 2wpc 0 2",
   "1 3bgw 6pv 0 2 1 vgj 23 1y 1 1 15u 0 0 2 1 15c 3 0 2 1 15g 7 0 2 1 15o 1 0 2 1 160 2 0 1 1 17",
   "0 12 2 1 19t 0 0 4 1 1a3 0 0 4 1 1a6 0 0 4 1 1a8 0 0 4 1 1a2 0 0 4 1 1a7 0 0 4 1 1a1 0 0 4 1",
   "1b8 0 0 4 1 1ba 0 0 4 1 1ac 0 0 4 1 1ab 0 0 4 1 1ae 0 0 4 1 1af 0 0 2 1 1al 0 0 2 1 1ak 0 0 2",
   "1 1am 0 0 2 1 1ag 0 0 2 1 1aw 0 0 2 1 1ap 0 0 4 1 1bd 0 0 4 1 1bj 0 0 4 1 1bn 0 0 4 1 1bl 0 0",
   "2 1 1bu 0 0 4 1 1bv 0 0 2 1 1c0 0 0 4 1 1c1 0 0 4 1 1by 0 0 2 1 1ci 0 0 2 1 1cj 0 x 4 1 1bh 0",
   "0 2 1 1c7 0 0 2 1 1c6 0 0 2 1 1c8 0 1 2 1 1cb 0 0 2 1 1c5 0 0 2 1 1c9 0 0 4 1 1cg 0 0 2 1 18p",
   "0 i 4 1 1cc 0 eo 2 1 18 9g5 1 2 1 1m 1 0 2 1 x u 0 2 1 9hy 1 o 1 1 6c4 0 0 1 1 6c3 0 0 2 1 2n",
   "0 0 2 1 14 1 0 2 1 3f 2 0 2 1 9hw 1 0 2 1 9hs 1 0 2 1 9hm 1 0 2 1 9hk 1 0 4 1 9ho 1 2 2 1 2j 2",
   "4 3 1 2n 0 0 2 1 18 9g5 2 1 1 1n 0 0 2 1 1m 5 0 2 1 x 6b7 0 2 1 14 1 0 2 1 3f 2 0 2 1 9hw 1 0",
   "2 1 z 3 0 2 1 16 1 0 2 1 19 f 0 1 1 1q 0 0 2 2 1p v 0 2 1 10 1 0 1 1 1s 0 k 2 1 17l 1 0 2 1",
   "17m 1 0 2 1 17n 1 0 2 1 17o 1 0 2 1 17p 1 0 3 1 17q 0 0 2 1 17r 0 0 4 1 17s 0 0 2 1 17t 0 0 4",
   "1 17u 0 0 4 1 17v 0 0 4 1 17w 0 0 4 1 17x 0 0 4 1 17y 0 0 2 1 17z 0 0 2 1 180 0 0 2 1 181 0 0",
   "2 1 182 0 0 4 1 183 0 0 4 1 184 0 0 4 1 185 0 0 4 1 186 0 0 4 1 187 0 0 4 1 188 0 0 4 1 189 0",
   "0 4 1 18a 0 0 4 1 18h 0 0 4 1 18i 0 0 4 1 18j 0 0 4 1 18k 0 0 4 1 18l 0 0 4 1 18m 0 0 4 1 18n",
   "0 0 2 1 18o 0 0 2 1 18p 0 0 4 1 18q 0 c w 1 x 1 0 q 1 2p 1 0 10 1 2j 1 0 2 1 879 1 0 2 1 1a",
   "9ge 0 1 1 9hp 0 0 2 1 9hd 6y 0 1 1 9o2 0 0 5 1 9lt 2 0 3 1 9nn 2 0 2 1 9mr 1l 0 5 1 9lu 2 0 c",
   "1 9m3 2 0 4 1 9ms 2 0 5 1 9mz 1 0 5 1 9n6 3 0 4 1 9nj 1 0 3 1 9no 2 0 5 1 9nt 1 0 2 1 9nz 4 0",
   "2 1 9ll 1 1 2 1 3cw 1 0 1 1 3hm 0 0 2 1 3cy 4q 0 1 1 3hp 0 0 3 1 3cz 1 0 6 1 3hs 1 0 1 1 3dm 0",
   "0 3 1 3d2 1 0 1 1 3dt 0 0 a 1 3d5 1 3 6 1 3fl 1 2 6 1 3fr 1 2 6 1 3fx 1 2 3 1 3g3 1 3 2 1 4i 1",
   "0 1 1 4s 0 1 1 1 4m 0 0 2 1 4l 6bo 1 1 1 7b6 0 0 4 1 6mo 1 0 2 1 7fk 17 sx 14 1 1fe0 1 3s 10 1",
   "1fiw 1 4c b 1 1fo7 1 1 f 1 1foj 1 1 7 1 1foz 1 1 2 1 1fp7 1 dn 2 1 k0 1 0 2 1 6e c3 0 2 2 gj",
   "28 0 1 1 xuu 0 0 1 1 it 0 0 1 1 is 0 0 2 1 gm 1 0 1 1 5u9 0 0 2 1 go 6 0 1 1 ix 0 0 1 1 h0 0 0",
   "1 1 gy 0 0 2 1 gw 1n 0 2 1 87 ad 0 2 1 h3 t 0 2 1 iy 1 0 2 1 h8 2m54 0 1 1 x3i 0 0 2 1 ha 2m53",
   "0 2 1 i6 2m48 0 2 1 6w am 0 1 1 hj 0 0 2 1 35 eh 0 1 1 2mmg 0 0 2 1 hp 1 0 2 1 hs 14 0 2 1 iu",
   "xc1 0 1 1 iv 0 0 2 1 i0 8a1 1 2 1 i7 i 0 1 1 iq 0 0 1 1 ig 0 0 3 1 cg 1 0 2 1 2mmi k 0 1 1 hz",
   "0 xw 1f 1 1h34 1 4d m 1 1h80 1 27u w 1 1jgg 1 gw0 w 1 20dc 1 1s p 1 20fv 1 il9 q 1 2p 1 0 a 1",
   "1c 1 1dy q 1 2p 1 0 q 1 2p 1 0 q 1 2p 1 0 7 1 2p 1 1 i 1 2x 1 0 q 1 2p 1 0 q 1 2p 1 0 2 2 2p 2",
   "0 3 3 2s 3 0 2 3 2z 3 0 3 1 33 1 1 8 1 37 1 0 4 1 2p 1 1 2 2 2u 2 0 6 1 2x 1 1 b 1 34 1 0 q 1",
   "2p 1 0 q 1 2p 1 0 2 1 2p 1 1 4 1 2s 1 2 8 1 2y 1 1 7 1 37 1 1 q 1 2p 1 0 2 1 2p 1 1 4 1 2s 1 1",
   "5 1 2x 1 1 2 4 33 4 0 6 1 38 1 1 q 1 2p 1 0 q 1 2p 1 0 q 1 2p 1 0 q 1 2p 1 0 q 1 2p 1 0 q 1 2p",
   "1 0 q 1 2p 1 0 q 1 2p 1 0 q 1 2p 1 0 q 1 2p 1 0 q 1 2p 1 0 q 1 2p 1 0 q 1 2p 1 0 2 1 8h 7a 2 h",
   "1 q9 1 0 2 1 qg b 0 6 1 qs 1 0 1 1 6pz 0 0 h 1 q9 1 0 2 1 qr 0 0 6 1 qs 1 0 1 1 6pu 0 0 2 1 qd",
   "3 0 2 1 qi c 0 1 1 qp 0 0 1 1 qo 0 0 h 1 q9 1 0 2 1 qg b 0 6 1 qs 1 0 1 1 6pz 0 0 h 1 q9 1 0 2",
   "1 qr 0 0 6 1 qs 1 0 1 1 6pu 0 0 2 1 qd 3 0 2 1 qi c 0 1 1 qp 0 0 1 1 qo 0 0 h 1 q9 1 0 2 1 qg",
   "b 0 6 1 qs 1 0 1 1 6pz 0 0 h 1 q9 1 0 2 1 qr 0 0 6 1 qs 1 0 1 1 6pu 0 0 2 1 qd 3 0 2 1 qi c 0",
   "1 1 qp 0 0 1 1 qo 0 0 h 1 q9 1 0 2 1 qg b 0 6 1 qs 1 0 1 1 6pz 0 0 h 1 q9 1 0 2 1 qr 0 0 6 1",
   "qs 1 0 1 1 6pu 0 0 2 1 qd 3 0 2 1 qi c 0 1 1 qp 0 0 1 1 qo 0 0 h 1 q9 1 0 2 1 qg b 0 6 1 qs 1",
   "0 1 1 6pz 0 0 h 1 q9 1 0 2 1 qr 0 0 6 1 qs 1 0 1 1 6pu 0 0 2 1 qd 3 0 2 1 qi c 0 1 1 qp 0 0 2",
   "1 qo t 0 1 1 rh 0 2 a 1 1c 1 0 a 1 1c 1 0 a 1 1c 1 0 a 1 1c 1 0 a 1 1c 1 1k0 1 1 2mnf 0 27 9 1",
   "ts 1 0 3 1 u2 1 0 b 1 u6 1 0 2 1 uj 2 0 2 1 um w1n 0 1 1 yh 0 0 2 1 uu 2 0 1 1 yx 0 0 2 1 xb w",
   "0 9 1 ts 1 0 2 1 u2 1 0 2 1 u6 1 0 2 1 u9 2 0 5 1 uc 1 0 2 1 ui 1 0 1 1 wh 0 0 1 1 uu 0 0 2 1",
   "ut a 0 2 1 x7 vxi 0 1 1 xd 0 1oy y 1 2oma 1 ym 2 1 17r 1 0 2 1 17w 3 1 1 1 18o 0 0 1 1 182 0 0",
   "2 1 17x a 0 1 1 18q 0 0 4 1 18j 1 0 2 1 183 6 0 1 1 18h 0 0 2 1 185 d 0 2 1 181 3 0 2 1 17u 1",
   "0 2 1 17y 2 0 3 1 186 2 0 2 1 19q 24 0 1 1 1b5 0 0 1 1 19r 0 1 2 1 17s 4 1 1 1 18n 0 2 2 2 17x",
   "t 0 4 1 18j 1 0 2 1 183 6 0 1 1 18h 0 0 2 1 185 d 1 1 1 184 0 0 2 1 17u 1 0 2 2 17y 8 1 1 1",
   "18a 0 6 1 1 17w 0 4 2 2 17x t 1 2 2 18k 2 0 2 1 183 6 1 2 1 185 d 1 1 1 184 0 2 2 2 17y 8 1 2",
   "2 18a 3k 1 1 1 19r 0 1 2 1 17s 4 1 1 1 18n 0 2 2 1 17x a 0 1 1 18q 0 0 2 2 18j 2 0 1 1 18m 0 0",
   "2 1 183 6 0 1 1 18h 0 0 2 1 185 d 1 1 1 184 0 0 2 1 17u 1 0 2 2 17y 8 0 2 1 188 2 0 2 2 19q 1f",
   "1 2 1 17r 1 0 2 1 17w 3 0 2 1 18n 1 0 1 1 182 0 0 2 1 17x a 0 1 1 18q 0 1 3 1 18k 1 0 2 1 183",
   "6 0 1 1 18h 0 0 2 1 185 d 0 2 1 181 3 0 2 1 17u 1 0 2 1 17y 2 0 3 1 186 2 5 2 1 17s 4 0 2 2",
   "17z p 0 1 1 182 0 0 2 1 17x a 0 1 1 18q 0 1 3 1 18k 1 0 2 1 183 6 0 1 1 18h 0 0 2 1 185 d 0 2",
   "1 181 3 0 2 1 17u 1 0 2 1 17y 2 0 3 1 186 2 hb 2 1 2r f 3 q 1 2p 1 54 1 1 9md 0 d 1 1 jez 0 0",
   "1 1 i1j 0 0 1 1 gjw 0 0 2 1 9mv 5vp 0 2 1 hlm 9mx 0 1 1 hm1 0 0 2 1 fj8 4n0 0 1 1 mch 0 0 1 1",
   "k2h 0 0 2 1 g99 2m7 0 2 1 g3x 3z7 0 2 1 g7x 8it 0 2 1 n4v 4ne 0 1 1 hkg 0 0 2 1 gmx 5az 0 2 1",
   "jh1 5c 0 2 1 feo 9 0 1 1 si2 0 0 1 1 ijq 0 0 2 1 ffx 152 0 2 1 jk7 8dl 0 2 1 jf7 4ku 0 1 1 o6y",
   "0 0 2 1 glk 588 0 1 1 kcp 0 0 2 1 kco 2sr 0 2 1 gaa n8 0 1 1 sp9 0 k 1 1 ivr 0 0 1 1 gkv 0 1we",
   "a 1 1c 1 1ds6 1 1 fgd 0 0 2 1 fg8 9 0 1 1 2tcy 0 0 2 1 fog 26 0 2 1 fqz 1z 0 2 1 fwa v 0 1 1",
   "fzb 0 0 1 1 fyn 0 0 2 1 ae6 2jz0 0 2 1 g25 7 0 2 1 g2s j 0 1 1 2u58 0 0 2 1 aex 5ny 0 2 1 g3x",
   "2e2m 0 2 1 g47 d 0 2 1 fkc kg 0 2 1 g51 35t6 0 2 1 g6t e 0 2 1 afz 5ss 0 2 1 g92 18 0 1 1 gaf",
   "0 0 2 1 ahh 5v6 0 2 1 gcp r 0 2 1 ge2 b 0 2 1 gee h 0 2 1 gg9 8 0 2 1 ggq p 0 2 1 ghp 2 0 2 1",
   "ghr 0 0 1 1 2v58 0 0 1 1 m7k 0 0 2 1 gju l 0 1 1 2vdv 0 0 2 1 gkr 6 0 2 1 gli 48 0 2 1 gmw g 0",
   "2 1 go8 1m 0 2 1 gs6 q 0 2 1 gur g 0 2 1 gw4 0 0 2 1 gwp i 0 2 1 gxf f 0 1 1 h7a 0 0 2 1 gzq",
   "7l 0 2 1 h1t z 0 2 1 g7b 1d3 0 2 1 hce 12 0 1 1 he5 0 0 2 1 haj 4n 0 2 1 hf5 3f 0 1 1 2x9g 0 0",
   "2 1 hki 5 0 2 1 hl2 k 0 2 1 hlu 1s 0 2 1 2xm0 1u 0 2 1 hrg 1b 0 1 1 ht3 0 0 2 1 hqw 3y 0 2 1",
   "aum e 0 2 1 hzc 1i 0 2 1 i0u 2g7e 0 2 1 i4j l 0 2 1 i5j c 0 1 1 2yhk 0 0 2 1 i67 7 0 1 1 itv 0",
   "0 1 1 i76 0 0 2 1 ayp 7a7 0 2 1 i9a 2a 0 2 1 ia5 2grb 0 2 1 if7 2gmb 0 1 1 ige 0 0 2 1 igb h 0",
   "2 1 ijl 1 0 2 1 b3j 7gu 0 2 1 ilk l 0 1 1 ind 0 0 2 1 b4y 2om9 0 2 1 b5o 7jo 0 2 1 ipf 3 0 2 1",
   "iq2 36q0 0 2 1 iri 2hbn 0 1 1 3035 0 0 1 1 poh 0 0 2 1 isi 0 0 2 1 b7r 2rxt 0 1 1 3cgq 0 0 2 1",
   "iua 9 0 2 1 b8j 7nb 0 2 1 ix9 a 0 2 1 iyh 3s 0 1 1 bay 0 0 2 1 ba4 7so 0 1 1 30t0 0 0 2 1 j47",
   "3l 0 2 1 j7w 2 0 2 1 j7w 1a 0 2 1 j9q 10 0 2 1 jac b 0 2 1 jby k 0 2 1 jcm q 0 2 1 jdn 1u 0 2",
   "1 jht z 0 2 1 jm8 2i0s 0 1 1 jlp 0 0 2 1 jjw 30 0 2 1 jnn 2p 0 1 1 31td 0 0 1 1 js2 0 0 1 1",
   "jph 0 0 1 1 jop 0 0 2 1 bhq 8cb 0 2 1 jum v 0 1 1 juf 0 0 2 1 bjg 8gz 0 2 1 k18 2ila 0 2 1 k4j",
   "7p 0 1 1 k7d 0 0 2 1 bo9 8l4 0 1 1 bns 0 0 2 1 bms 4ha 0 2 1 g45 48b 0 2 1 k9o 55d 0 2 1 deh",
   "6ym 0 2 1 kd7 6 0 1 1 kf2 0 0 2 1 ker 2iy8 0 2 1 bpl 8tt 0 2 1 kg5 5p 0 2 1 kn9 2iug 0 1 1 kni",
   "0 0 2 1 kkf 6t 0 2 1 brx 90l 0 2 1 kv7 1z 0 2 1 l2g 2iuz 0 1 1 l3v 0 0 2 1 bvc 9ah 0 1 1 34br",
   "0 0 1 1 l78 0 0 2 1 bwu 9b8 0 2 1 l9b r 0 2 1 la3 2jf6 0 2 1 2yvf 5wv 0 2 1 le6 2jqm 0 2 1 lhb",
   "e 0 2 1 lev 4v 0 2 1 lku 1l 0 2 1 lkx 14 0 2 1 lmg d 0 1 1 357i 0 0 2 1 lkk 6z 0 1 1 lta 0 0 2",
   "1 c37 9so 0 2 1 lvr 2jnu 0 2 1 lq1 ad 0 2 1 35ni 1c 0 2 1 m2u 37 0 1 1 m5a 0 0 1 1 m57 0 0 2 1",
   "c5y a0k 0 1 1 m7x 0 0 2 1 m7r 1i 0 1 1 2u5h 0 0 2 1 mdh 2jvi 0 2 1 mfw 2k27 0 2 1 mjs d 0 2 1",
   "mkw 2ke0 0 2 1 mm8 l 0 2 1 3779 67 0 2 1 mt6 h 0 2 1 cdo agp 0 2 1 ce0 0 0 3 1 myv l 0 2 1 n0l",
   "1x 0 2 1 cgr ao9 0 1 1 386u 0 0 2 1 n5q 2l3o 0 2 1 n74 2ckv 0 2 1 nbk 2ljl 0 2 1 38vs 3w 0 2 1",
   "cn0 c 0 2 1 nhw 2lmn 0 2 1 394i 13 0 1 1 396b 0 0 2 1 nj2 1 0 2 1 nj3 17 0 2 1 cop axe 0 2 1",
   "cp2 28 0 1 1 39r1 0 0 2 1 nri 1q 0 1 1 nv0 0 0 2 1 ctf 2xc3 0 2 1 nyu 2m9w 0 1 1 3a9x 0 0 2 1",
   "o0f 2k 0 2 1 cvj b9t 0 2 1 o5m 5 0 2 1 3at8 8b 0 1 1 3b1j 0 0 1 1 oa6 0 0 2 1 d1e 2y7d 0 2 1",
   "og6 3 0 2 1 d2f 2yc9 0 1 1 onm 0 0 2 1 d5s big 0 2 1 oo3 t 0 1 1 3c06 0 0 1 1 orn 0 0 2 1 d8h",
   "bly 0 2 1 ow2 1v 0 2 1 d9w 2z90 0 1 1 3cjr 0 0 2 1 dax 2zcw 0 2 1 p6i 2nk4 0 2 1 p79 2t 0 2 1",
   "pad 2nrp 0 1 1 3d43 0 0 2 1 pcw 2nuw 0 2 1 pdc 2dwv 0 2 1 ded c0t 0 1 1 phf 0 0 2 1 dfv c37 0",
   "2 1 hx1 2voy 0 1 1 3dmd 0 0 2 1 33bn 9 0 2 1 poh 3 0 1 1 sda 0 0 2 1 dij c9y 0 2 1 psb i 0 2 1",
   "gc3 9ha 0 2 1 ptf a 0 2 1 puu 2ogm 0 2 1 put 1k 0 2 1 pyb 22 0 2 1 pwj 4a 0 2 1 q1z 34 0 2 1",
   "pxv 3b 0 2 1 q18 g 0 2 1 3eie 8l 0 1 1 3emt 0 0 2 1 dnv cli 0 2 1 q9f z 0 1 1 3g0a 0 0 2 1 qck",
   "2oqw 0 2 1 dp9 4 0 2 1 3f75 81 0 2 1 dpn cth 0 2 1 qjg b 0 2 1 qjt 1s 0 2 1 qko 3q 0 2 1 qn6",
   "47 0 2 1 qp4 1v 0 1 1 qrq 0 0 2 1 dsn d1m 0 1 1 qv5 0 0 2 1 dtl d47 0 2 1 qxv 2pl0 0 2 1 r13 7",
   "0 2 1 dv9 d6t 0 2 1 aez 36k3 0 1 1 3h46 0 0 2 1 dz2 9 0 2 1 rds 25 0 2 1 rka 5n 0 1 1 3hrc 0 0",
   "2 1 rsb m 0 2 1 rvf 2k 0 1 1 3i9b 0 0 1 1 2upw 0 0 1 1 s0b 0 0 2 1 rzw 1g 0 1 1 2uvy 0 0 2 1",
   "s7o 2s 0 2 1 3jki r 0 2 1 sk4 2l 0 2 1 snl 2r6l 0 2 1 snv 7x 0 2 1 t07 1 0 2 1 sxo al 0 2 1",
   "t91 2rj9 0 1 1 tjf 0 0 2 1 ej9 f1e 0 1 1 3l2v 0 0 2 1 eli f6l 0 2 1 iia bch 0 2 1 3ltx 5x 0 2",
   "1 epa 8 0 2 1 u00 2sdm 0 2 1 er6 37qc 0 2 1 u17 0 0 2 1 u21 2snh 0 1 1 u76 0 0 2 1 eur fee 0 2",
   "1 ucn r 0 1 1 uf2 0 0 2 1 ez2 38te 0 2 1 umq 8e 0 1 1 v0d 0 0 2 1 f66 v 0 2 1 v3b 2tt3 0 2 1",
   "f7c 39ql 0 2 1 3p5a 3n 0 1 1 vcr 0 0 2 1 f9y g4j 0 2 1 vem 7 0 2 1 vf3 7 0 2 1 vgb 2uh1"])

/-- The characters that several others stand for. -/
def expanded : List (Nat × List Nat) := expansionsFrom 0 .gap (Packed.numbers
  ["4o 2 w lk 6 2 w lg 4 2 w ld 3 2 w mf 3 3 1d 6dg 1g 0 3 1d 6dg 1e 0 3 1f 6dg 1g 35 2 2x lj 1 2",
   "2x 2y 0 2 2x 2y b 2 30 53 0 2 30 53 8 2 jg 32 3e 2 2s am 0 2 2s am 0 2 2s am 0 2 30 2y 0 2 30",
   "2y 0 2 30 2y 0 2 32 2y 0 2 32 2y 0 2 32 2y 10 2 2s 3e 0 2 2s 3e 0 2 2s 3e 6c 2 w li 0 2 w lj 0",
   "2 w lm 0 2 w mg 0 2 w lf 0 2 w ln 2u 2 lk ld 1h 2 w qh 9 2 w ld 0 3 w lk ld e9 2 12d 136 6l 2",
   "17r 19w 0 2 18o 19w 0 2 1c7 19w 0 2 18q 19w kf 2 1sl 1to 0 2 1sm 1to 0 2 1sn 1to 0 2 1ss 1to 0",
   "2 1sx 1to 0 2 1sy 1to 0 2 1t7 1to 0 2 1tb 1to 3g 2 1wh 1x8 0 2 1wi 1x8 1 2 1wv 1x8 2b 2 20i",
   "20s 2 2 20o 20s y 2 1zq 20s 0 2 1zr 20s 0 2 1zw 20s 2 2 20b 20s 71 2 275 27w 0 2 276 27w k5 2",
   "2tp 2sy 3j 2 2x9 2wi 14 2 2wb 2vt 0 2 2wb 2w1 2t 2 30i 33r 9 2 30s 33r 4 2 30x 33r 4 2 312 33r",
   "4 2 317 33r c 2 30g 33p 9 2 31t 31u 1 2 31t 31w 0 2 33m 328 0 3 33m 31t 328 0 2 33n 328 0 3",
   "33n 31t 328 7 2 31t 328 h 2 32q 33r 9 2 330 33r 4 2 335 33r 4 2 33a 33r 4 2 33f 33r c 2 32o",
   "33p 2xs 2 2p ji 6d 2 64g qh 0 2 64h qh 0 2 64i qh 0 2 64j qh 0 2 64k qh 0 2 64l qh 0 2 64m qh",
   "0 2 64n qh 0 2 64g qh 0 2 64h qh 0 2 64i qh 0 2 64j qh 0 2 64k qh 0 2 64l qh 0 2 64m qh 0 2",
   "64n qh 0 2 65c qh 0 2 65d qh 0 2 65e qh 0 2 65f qh 0 2 65g qh 0 2 65h qh 0 2 65i qh 0 2 65j qh",
   "0 2 65c qh 0 2 65d qh 0 2 65e qh 0 2 65f qh 0 2 65g qh 0 2 65h qh 0 2 65i qh 0 2 65j qh 0 2",
   "674 qh 0 2 675 qh 0 2 676 qh 0 2 677 qh 0 2 678 qh 0 2 679 qh 0 2 67a qh 0 2 67b qh 0 2 674 qh",
   "0 2 675 qh 0 2 676 qh 0 2 677 qh 0 2 678 qh 0 2 679 qh 0 2 67a qh 0 2 67b qh 2 2 67k qh 0 2 q9",
   "qh 0 2 q4 qh 2 2 69i qh 4 2 q9 qh 0 2 w lv 1 2 w lv 0 2 w n6 0 3 w lk n6 0 2 67o qh 0 2 qf qh",
   "0 2 q6 qh 2 2 69y qh 4 2 qf qh 0 3 w lv lc 0 3 w lv ld 0 3 w lv n6 d 3 w lw lc 0 3 w lw ld 0 3",
   "w lw n6 d 3 w lk lc 0 3 w lk ld 3 2 67w qh 0 2 qx qh 0 2 r2 qh 2 2 6ba qh 4 2 qx qh 0 2 w ld 0",
   "2 w lw o 2 w mr r 2 6cy 6cy 0 3 6cy 6cy 6cy 1 2 6d1 6d1 0 3 6d1 6d1 6d1 4 2 x x 1 2 w lh 8 2",
   "1r 1r 0 2 1r x 0 2 x 1r d 4 6cy 6cy 6cy 6cy 28 2 36 37 2f 3 2p 1b 2r 0 3 2p 1b 37 1 2 4w 2r 1",
   "3 2r 1b 33 0 3 2r 1b 39 2 2 4w 2u c 2 32 33 9 2 37 31 0 3 38 2t 30 0 2 38 31 o 3 2u 2p 3c k 3",
   "1d 6dg 1j 0 3 1d 6dg 1l 0 4 1d 6dg 1d 1c 0 3 1d 6dg 1f 0 3 1e 6dg 1f 0 3 1d 6dg 1h 0 3 1e 6dg",
   "1h 0 3 1f 6dg 1h 0 3 1g 6dg 1h 0 3 1d 6dg 1i 0 3 1h 6dg 1i 0 3 1d 6dg 1k 0 3 1f 6dg 1k 0 3 1h",
   "6dg 1k 0 3 1j 6dg 1k 0 2 1d 6dg 1 2 2x 2x 0 3 2x 2x 2x 0 2 2x 3a 1 2 3a 2x 0 3 3a 2x 2x 0 4 3a",
   "2x 2x 2x 0 2 2x 3c 1 2 3c 2x 0 3 3c 2x 2x 5 2 2x 2x 0 3 2x 2x 2x 0 2 2x 3a 1 2 3a 2x 0 3 3a 2x",
   "2x 0 4 3a 2x 2x 2x 0 2 2x 3c 1 2 3c 2x 0 3 3c 2x 2x d 3 1c 6dg 1f 4i 2 6qz 6qz 0 3 6qz 6qz 6qz",
   "1 2 6r2 6r2 0 3 6r2 6r2 6r2 fs 2 1d 1c 0 2 1d 1d 0 2 1d 1e 0 2 1d 1f 0 2 1d 1g 0 2 1d 1h 0 2",
   "1d 1i 0 2 1d 1j 0 2 1d 1k 0 2 1d 1l 0 2 1e 1c 0 3 14 1d 15 0 3 14 1e 15 0 3 14 1f 15 0 3 14 1g",
   "15 0 3 14 1h 15 0 3 14 1i 15 0 3 14 1j 15 0 3 14 1k 15 0 3 14 1l 15 0 4 14 1d 1c 15 0 4 14 1d",
   "1d 15 0 4 14 1d 1e 15 0 4 14 1d 1f 15 0 4 14 1d 1g 15 0 4 14 1d 1h 15 0 4 14 1d 1i 15 0 4 14",
   "1d 1j 15 0 4 14 1d 1k 15 0 4 14 1d 1l 15 0 4 14 1e 1c 15 k 3 14 2p 15 0 3 14 2q 15 0 3 14 2r",
   "15 0 3 14 2s 15 0 3 14 2t 15 0 3 14 2u 15 0 3 14 2v 15 0 3 14 2w 15 0 3 14 2x 15 0 3 14 2y 15",
   "0 3 14 2z 15 0 3 14 30 15 0 3 14 31 15 0 3 14 32 15 0 3 14 33 15 0 3 14 34 15 0 3 14 35 15 0 3",
   "14 36 15 0 3 14 37 15 0 3 14 38 15 0 3 14 39 15 0 3 14 3a 15 0 3 14 3b 15 0 3 14 3c 15 0 3 14",
   "3d 15 0 3 14 3e 15 11y 4 6qz 6qz 6qz 6qz 2v 3 1m 1m 1p 0 2 1p 1p 0 3 1p 1p 1p 2t 2 8gt mw 14u",
   "2 w 9ll 0 2 w 9lm 2 2 9l4 9l6 2n 2 9mb 9mw 74 3 14 3cw 15 0 3 14 3cy 15 0 3 14 3cz 15 0 3 14",
   "3d1 15 0 3 14 3d2 15 0 3 14 3d3 15 0 3 14 3d5 15 0 3 14 3d7 15 0 3 14 3d8 15 0 3 14 3da 15 0 3",
   "14 3db 15 0 3 14 3dc 15 0 3 14 3dd 15 0 3 14 3de 15 0 3 14 xz4 15 0 3 14 yvs 15 0 3 14 zc4 15",
   "0 3 14 108s 15 0 3 14 10p4 15 0 3 14 115g 15 0 3 14 1224 15 0 3 14 12ys 15 0 3 14 13f4 15 0 3",
   "14 14bs 15 0 3 14 14s4 15 0 3 14 158g 15 0 3 14 15os 15 0 3 14 1654 15 0 3 14 13p8 15 0 4 14",
   "1350 13ic 15 0 4 14 1350 16f8 15 1 3 14 feo 15 0 3 14 fik 15 0 3 14 fex 15 0 3 14 h5n 15 0 3",
   "14 fis 15 0 3 14 g31 15 0 3 14 fer 15 0 3 14 g2z 15 0 3 14 fh9 15 0 3 14 gg1 15 0 3 14 kco 15",
   "0 3 14 m7f 15 0 3 14 ldg 15 0 3 14 kdk 15 0 3 14 ssx 15 0 3 14 h7j 15 0 3 14 k4l 15 0 3 14 kkq",
   "15 0 3 14 kcp 15 0 3 14 ny6 15 0 3 14 glp 15 0 3 14 mm1 15 0 3 14 rs1 15 0 3 14 nz1 15 0 3 14",
   "gc4 15 0 3 14 fkz 15 0 3 14 gos 15 0 3 14 i1y 15 0 3 14 nhf 15 0 3 14 flt 15 0 3 14 rt3 15 0 3",
   "14 ggk 15 0 3 14 nzh 15 0 3 14 fm9 15 0 3 14 pnu 15 0 3 14 po3 15 c 3 34 38 2t 0 2 1e 1d 0 2",
   "1e 1e 0 2 1e 1f 0 2 1e 1g 0 2 1e 1h 0 2 1e 1i 0 2 1e 1j 0 2 1e 1k 0 2 1e 1l 0 2 1f 1c 0 2 1f",
   "1d 0 2 1f 1e 0 2 1f 1f 0 2 1f 1g 0 2 1f 1h s 2 14c8 y5c 0 2 13p8 13dk 1f 2 1f 1i 0 2 1f 1j 0 2",
   "1f 1k 0 2 1f 1l 0 2 1g 1c 0 2 1g 1d 0 2 1g 1e 0 2 1g 1f 0 2 1g 1g 0 2 1g 1h 0 2 1g 1i 0 2 1g",
   "1j 0 2 1g 1k 0 2 1g 1l 0 2 1h 1c 0 2 1d kco 0 2 1e kco 0 2 1f kco 0 2 1g kco 0 2 1h kco 0 2 1i",
   "kco 0 2 1j kco 0 2 1k kco 0 2 1l kco 0 3 1d 1c kco 0 3 1d 1d kco 0 3 1d 1e kco 0 2 2w 2v 0 3",
   "2t 36 2v 0 2 2t 3a 0 3 30 38 2s 1b 2 fl0 gp8 0 4 9lu 9n5 9oc 9mw 0 4 9lu 9nv 9n9 9lt 0 4 9lu",
   "9o3 9ne 9lu 0 3 9lu 9oc 9nv 0 4 9lw 9mz 9o3 9m8 0 3 9lw 9o3 9mp 0 3 9ly 9m1 9o3 0 5 9m0 9mh",
   "9m7 9oc 9mx 0 4 9m0 9oc 9m3 9oc 0 3 9m2 9o3 9mh 0 3 9m2 9oc 9nk 0 3 9m3 9lw 9nu 0 4 9m3 9nt",
   "9mr 9mw 0 4 9m3 9nx 9nu 9oc 0 3 9m4 9nx 9o3 0 3 9m4 9o3 9ni 0 2 9m6 9m4 0 3 9m6 9mz 9oc 0 4",
   "9m5 9np 9nu 9oc 0 4 9m6 9nv 9mo 9oc 0 2 9m5 9nx 0 5 9m5 9nx 9m8 9nt 9nk 0 6 9m5 9nx 9nl 9oc",
   "9mw 9nv 0 5 9m5 9nx 9nz 9mr 9mw 0 3 9m8 9nt 9nk 0 5 9m8 9nt 9nk 9mw 9o3 0 5 9m7 9nv 9mk 9lw",
   "9nx 0 4 9m7 9nx 9oc 9n1 0 3 9m9 9oc 9mh 0 3 9mb 9nv 9my 0 3 9mb 9oc 9nh 0 4 9md 9lw 9m7 9nv 0",
   "5 9md 9o3 9mp 9oc 9nk 0 4 9mf 9nu 9o3 9m8 0 3 9mj 9o3 9mp 0 3 9mj 9o3 9mw 0 3 9mo 9oc 9mh 0 2",
   "9mv 9mf 0 2 9mx 9nv 0 2 9mw 9o3 0 2 9my 9n2 0 3 9n2 9mr 9mw 0 3 9n3 9lw 9ms 0 5 9n5 9oc 9mj",
   "9o3 9mw 0 3 9n5 9oc 9ms 0 4 9n4 9oc 9nw 9nv 0 5 9n8 9lu 9mh 9mw 9nv 0 3 9n8 9m7 9nv 0 2 9n8",
   "9mb 0 2 9n7 9nv 0 5 9n9 9lt 9nt 9mr 9mx 0 4 9n9 9lv 9oc 9mw 0 5 9na 9mr 9mf 9lz 9nv 0 3 9n9",
   "9nt 9o3 0 5 9nc 9m7 9mn 9oc 9nv 0 2 9ne 9ml 0 3 9ne 9mz 9n6 0 3 9nc 9nv 9ms 0 3 9ne 9o3 9mh 0",
   "3 9ne 9oc 9mg 0 3 9nd 9oc 9mn 0 4 9nh 9lw 9o3 9mw 0 3 9ng 9nv 9mw 0 2 9nf 9o3 0 3 9nh 9o3 9mx",
   "0 3 9nf 9oc 9nv 0 3 9nf 9oc 9o3 0 4 9ni 9lw 9m7 9nx 0 3 9ni 9lw 9nv 0 3 9ni 9mr 9n3 0 3 9ni",
   "9nv 9m7 0 5 9ni 9o3 9mf 9nr 9o3 0 4 9nj 9m7 9nx 9o3 0 2 9nj 9nu 0 5 9nj 9nu 9n4 9oc 9nv 0 2",
   "9nl 9m4 0 4 9nl 9m4 9mw 9o3 0 4 9nl 9oc 9mw 9nv 0 3 9no 9oc 9mx 0 3 9no 9oc 9nv 0 3 9nq 9lu",
   "9o3 0 4 9nu 9mr 9mw 9nv 0 2 9nu 9nt 0 3 9nv 9n8 9oc 0 4 9nv 9oc 9na 9nv 0 2 9nw 9nk 0 5 9nw",
   "9o3 9mw 9ma 9o3 0 3 9nz 9mr 9mw 0 2 1c m9l 0 2 1d m9l 0 2 1e m9l 0 2 1f m9l 0 2 1g m9l 0 2 1h",
   "m9l 0 2 1i m9l 0 2 1j m9l 0 2 1k m9l 0 2 1l m9l 0 3 1d 1c m9l 0 3 1d 1d m9l 0 3 1d 1e m9l 0 3",
   "1d 1f m9l 0 3 1d 1g m9l 0 3 1d 1h m9l 0 3 1d 1i m9l 0 3 1d 1j m9l 0 3 1d 1k m9l 0 3 1d 1l m9l",
   "0 3 1e 1c m9l 0 3 1e 1d m9l 0 3 1e 1e m9l 0 3 1e 1f m9l 0 3 1e 1g m9l 0 3 2w 34 2p 0 2 2s 2p 0",
   "2 2p 39 0 3 2q 2p 36 0 2 33 3a 0 2 34 2r 0 2 2s 31 0 3 2s 31 1e 0 3 2s 31 1f 0 2 2x 39 0 2 inn",
   "jdc 0 2 k6l gp8 0 2 hlz l7n 0 2 k5q lh7 0 4 kkq irz fmi ny6 0 2 34 2p 0 2 32 2p 0 2 qk 2p 0 2",
   "31 2p 0 2 2z 2p 0 2 2z 2q 0 2 31 2q 0 2 2v 2q 0 3 2r 2p 30 0 4 2z 2r 2p 30 0 2 34 2u 0 2 32 2u",
   "0 2 qk 2u 0 2 qk 2v 0 2 31 2v 0 2 2z 2v 0 2 2w 3e 0 3 2z 2w 3e 0 3 31 2w 3e 0 3 2v 2w 3e 0 3",
   "38 2w 3e 0 2 qk 30 0 2 31 30 0 2 2s 30 0 2 2z 30 0 2 2u 31 0 2 32 31 0 2 qk 31 0 2 31 31 0 2",
   "2r 31 0 2 2z 31 0 3 31 31 1e 0 3 2r 31 1e 0 2 31 1e 0 3 2z 31 1e 0 3 31 31 1f 0 3 2r 31 1f 0 2",
   "31 1f 0 3 2z 31 1f 0 3 31 6qd 37 0 4 31 6qd 37 1e 0 2 34 2p 0 3 2z 34 2p 0 3 31 34 2p 0 3 2v",
   "34 2p 0 3 36 2p 2s 0 5 36 2p 2s 6qd 37 0 6 36 2p 2s 6qd 37 1e 0 2 34 37 0 2 32 37 0 2 qk 37 0",
   "2 31 37 0 2 34 3a 0 2 32 3a 0 2 qk 3a 0 2 31 3a 0 2 2z 3a 0 2 31 3a 0 2 34 3b 0 2 32 3b 0 2 qk",
   "3b 0 2 31 3b 0 2 2z 3b 0 2 31 3b 0 2 2z qx 0 2 31 qx 1 2 2q 35 0 2 2r 2r 0 2 2r 2s 0 4 2r 6qd",
   "2z 2v 1 2 2s 2q 0 2 2v 3d 0 2 2w 2p 0 2 2w 34 0 2 2x 32 0 2 2z 2z 0 2 2z 31 0 2 2z 38 0 2 30",
   "31 0 2 30 32 0 3 30 33 2v 0 2 30 3c 0 2 31 2q 0 3 31 2x 30 0 3 31 33 30 0 2 34 2w 1 3 34 34 31",
   "0 2 34 36 0 2 37 36 0 2 37 3a 0 2 3b 2q 0 3 3a 6qd 31 0 3 2p 6qd 31 0 2 1d k4l 0 2 1e k4l 0 2",
   "1f k4l 0 2 1g k4l 0 2 1h k4l 0 2 1i k4l 0 2 1j k4l 0 2 1k k4l 0 2 1l k4l 0 3 1d 1c k4l 0 3 1d",
   "1d k4l 0 3 1d 1e k4l 0 3 1d 1f k4l 0 3 1d 1g k4l 0 3 1d 1h k4l 0 3 1d 1i k4l 0 3 1d 1j k4l 0 3",
   "1d 1k k4l 0 3 1d 1l k4l 0 3 1e 1c k4l 0 3 1e 1d k4l 0 3 1e 1e k4l 0 3 1e 1f k4l 0 3 1e 1g k4l",
   "0 3 1e 1h k4l 0 3 1e 1i k4l 0 3 1e 1j k4l 0 3 1e 1k k4l 0 3 1e 1l k4l 0 3 1f 1c k4l 0 3 1f 1d",
   "k4l 0 3 2v 2p 30 13b4 2 2u 2u 0 2 2u 2x 0 2 2u 30 0 3 2u 2u 2x 0 3 2u 2u 30 0 2 37 38 0 2 37",
   "38 c 2 12s 12u 0 2 12s 12d 0 2 12s 12j 0 2 132 12u 0 2 12s 12l 5 2 15l 14k 1 2 16a 14n a 2 161",
   "14x 0 2 161 14y 0 3 161 14s 14x 0 3 161 14s 14y 0 2 15c 14n 0 2 15c 14o 0 2 15c 14s 0 2 15d",
   "14s 0 2 15e 14s 0 2 15f 14s 0 2 15g 14s 0 2 15h 14s 0 2 15i 14s 1 2 15k 14s 0 2 15l 14s 0 2",
   "15m 14s 0 2 15n 14s 0 2 15o 14s 1 2 15q 14s 1 2 15s 14s 0 2 15t 14s 1 2 15v 14s 0 2 15w 14s 1",
   "2 15y 14s 0 2 15z 14s 0 2 160 14s 0 2 161 14s 0 2 162 14s 0 2 15h 14p 0 2 15d 14v 0 2 15n 14v",
   "0 2 15w 14v 0 2 15c 15o 3x 2 1c7 19w c 2 17q 17r 0 2 17q 17r 0 2 17q 1cl 0 2 17q 1cl 0 2 17q",
   "18o 0 2 17q 18o 0 2 17q 1c7 0 2 17q 1c7 0 2 17q 1c6 0 2 17q 1c6 0 2 17q 1c8 0 2 17q 1c8 0 2",
   "17q 1cg 0 2 17q 1cg 0 2 17q 1cg 0 2 17q 18p 0 2 17q 18p 0 2 17q 18p 4 2 17q 17w 0 2 17q 17x 0",
   "2 17q 18l 0 2 17q 18p 0 2 17q 18q 0 2 17s 17w 0 2 17s 17x 0 2 17s 17y 0 2 17s 18l 0 2 17s 18p",
   "0 2 17s 18q 0 2 17u 17w 0 2 17u 17x 0 2 17u 17y 0 2 17u 18l 0 2 17u 18p 0 2 17u 18q 0 2 17v",
   "17w 0 2 17v 18l 0 2 17v 18p 0 2 17v 18q 0 2 17w 17x 0 2 17w 18l 0 2 17x 17w 0 2 17x 18l 0 2",
   "17y 17w 0 2 17y 17x 0 2 17y 18l 0 2 183 17w 0 2 183 17x 0 2 183 17y 0 2 183 18l 0 2 185 17x 0",
   "2 185 18l 0 2 186 17w 0 2 186 17x 0 2 186 17y 0 2 186 18l 0 2 187 17x 0 2 187 18l 0 2 188 18l",
   "0 2 189 17w 0 2 189 18l 0 2 18a 17w 0 2 18a 18l 0 2 18h 17w 0 2 18h 17x 0 2 18h 17y 0 2 18h",
   "18l 0 2 18h 18p 0 2 18h 18q 0 2 18i 17x 0 2 18i 18l 0 2 18i 18p 0 2 18i 18q 0 2 18j 17r 0 2",
   "18j 17w 0 2 18j 17x 0 2 18j 17y 0 2 18j 18k 0 2 18j 18l 0 2 18j 18p 0 2 18j 18q 0 2 18k 17w 0",
   "2 18k 17x 0 2 18k 17y 0 2 18k 18l 0 2 18k 18p 0 2 18k 18q 0 2 18l 17w 0 2 18l 17x 0 2 18l 17y",
   "0 2 18l 18l 0 2 18l 18p 0 2 18l 18q 0 2 18m 17w 0 2 18m 17x 0 2 18m 17y 0 2 18m 18l 0 2 18m",
   "18p 0 2 18m 18q 0 2 18n 17w 0 2 18n 18l 0 2 18n 18p 0 2 18n 18q 0 2 18q 17w 0 2 18q 17x 0 2",
   "18q 17y 0 2 18q 18l 0 2 18q 18p 0 2 18q 18q 0 2 180 19s 0 2 181 19s 0 2 18p 19s 0 3 w 18s 18x",
   "0 3 w 18t 18x 0 3 w 18u 18x 0 3 w 18v 18x 0 3 w 18w 18x 0 3 w 18x 19s 0 2 17q 181 0 2 17q 182",
   "0 2 17q 18l 0 2 17q 18m 0 2 17q 18p 0 2 17q 18q 0 2 17s 181 0 2 17s 182 0 2 17s 18l 0 2 17s",
   "18m 0 2 17s 18p 0 2 17s 18q 0 2 17u 181 0 2 17u 182 0 2 17u 18l 0 2 17u 18m 0 2 17u 18p 0 2",
   "17u 18q 0 2 17v 181 0 2 17v 182 0 2 17v 18l 0 2 17v 18m 0 2 17v 18p 0 2 17v 18q 0 2 18h 18p 0",
   "2 18h 18q 0 2 18i 18p 0 2 18i 18q 0 2 18j 17r 0 2 18j 18k 0 2 18j 18l 0 2 18j 18p 0 2 18j 18q",
   "0 2 18k 18l 0 2 18k 18p 0 2 18k 18q 0 2 18l 17r 0 2 18l 18l 0 2 18m 181 0 2 18m 182 0 2 18m",
   "18l 0 2 18m 18m 0 2 18m 18p 0 2 18m 18q 0 2 18p 19s 0 2 18q 181 0 2 18q 182 0 2 18q 18l 0 2",
   "18q 18m 0 2 18q 18p 0 2 18q 18q 0 2 17q 17w 0 2 17q 17x 0 2 17q 17y 0 2 17q 18l 0 2 17q 18n 0",
   "2 17s 17w 0 2 17s 17x 0 2 17s 17y 0 2 17s 18l 0 2 17s 18n 0 2 17u 17w 0 2 17u 17x 0 2 17u 17y",
   "0 2 17u 18l 0 2 17u 18n 0 2 17v 18l 0 2 17w 17x 0 2 17w 18l 0 2 17x 17w 0 2 17x 18l 0 2 17y",
   "17w 0 2 17y 18l 0 2 183 17w 0 2 183 17x 0 2 183 17y 0 2 183 18l 0 2 185 17x 0 2 185 17y 0 2",
   "185 18l 0 2 186 17w 0 2 186 17x 0 2 186 17y 0 2 186 18l 0 2 187 17x 0 2 188 18l 0 2 189 17w 0",
   "2 189 18l 0 2 18a 17w 0 2 18a 18l 0 2 18h 17w 0 2 18h 17x 0 2 18h 17y 0 2 18h 18l 0 2 18i 17x",
   "0 2 18i 18l 0 2 18j 17w 0 2 18j 17x 0 2 18j 17y 0 2 18j 18k 0 2 18j 18l 0 2 18k 17w 0 2 18k",
   "17x 0 2 18k 17y 0 2 18k 18l 0 2 18k 18n 0 2 18l 17w 0 2 18l 17x 0 2 18l 17y 0 2 18l 18l 0 2",
   "18m 17w 0 2 18m 17x 0 2 18m 17y 0 2 18m 18l 0 2 18m 18n 0 2 18n 17w 0 2 18n 18l 0 2 18n 19s 0",
   "2 18q 17w 0 2 18q 17x 0 2 18q 17y 0 2 18q 18l 0 2 18q 18n 0 2 17q 18l 0 2 17q 18n 0 2 17s 18l",
   "0 2 17s 18n 0 2 17u 18l 0 2 17u 18n 0 2 17v 18l 0 2 17v 18n 0 2 183 18l 0 2 183 18n 0 2 184",
   "18l 0 2 184 18n 0 2 18j 18k 0 2 18j 18l 0 2 18k 18l 0 2 18m 18l 0 2 18m 18n 0 2 18q 18l 0 2",
   "18q 18n 0 3 18g 18u 18x 0 3 18g 18v 18x 0 3 18g 18w 18x 0 2 187 18p 0 2 187 18q 0 2 189 18p 0",
   "2 189 18q 0 2 18a 18p 0 2 18a 18q 0 2 183 18p 0 2 183 18q 0 2 184 18p 0 2 184 18q 0 2 17x 18p",
   "0 2 17x 18q 0 2 17w 18p 0 2 17w 18q 0 2 17y 18p 0 2 17y 18q 0 2 185 18p 0 2 185 18q 0 2 186",
   "18p 0 2 186 18q 0 2 184 17w 0 2 184 17x 0 2 184 17y 0 2 184 18l 0 2 184 181 0 2 183 181 0 2",
   "185 181 0 2 186 181 0 2 187 18p 0 2 187 18q 0 2 189 18p 0 2 189 18q 0 2 18a 18p 0 2 18a 18q 0",
   "2 183 18p 0 2 183 18q 0 2 184 18p 0 2 184 18q 0 2 17x 18p 0 2 17x 18q 0 2 17w 18p 0 2 17w 18q",
   "0 2 17y 18p 0 2 17y 18q 0 2 185 18p 0 2 185 18q 0 2 186 18p 0 2 186 18q 0 2 184 17w 0 2 184",
   "17x 0 2 184 17y 0 2 184 18l 0 2 184 181 0 2 183 181 0 2 185 181 0 2 186 181 0 2 184 17w 0 2",
   "184 17x 0 2 184 17y 0 2 184 18l 0 2 183 18n 0 2 184 18n 0 2 187 18l 0 2 183 17w 0 2 183 17x 0",
   "2 183 17y 0 2 184 17w 0 2 184 17x 0 2 184 17y 0 2 187 18l 0 2 188 18l 0 2 17r 18r 0 2 17r 18r",
   "i 3 17u 17w 18l 0 3 17u 17x 17w 0 3 17u 17x 17w 0 3 17u 17x 18l 0 3 17u 17y 18l 0 3 17u 18l",
   "17w 0 3 17u 18l 17x 0 3 17u 18l 17y 0 3 17w 18l 17x 0 3 17w 18l 17x 0 3 17x 18l 18q 0 3 17x",
   "18l 18p 0 3 183 17x 17w 0 3 183 17w 17x 0 3 183 17w 18p 0 3 183 18l 17x 0 3 183 18l 17x 0 3",
   "183 18l 17w 0 3 183 18l 18l 0 3 183 18l 18l 0 3 185 17x 17x 0 3 185 17x 17x 0 3 185 18l 18l 0",
   "3 184 17x 18l 0 3 184 17x 18l 0 3 184 17w 18q 0 3 184 18l 17y 0 3 184 18l 17y 0 3 184 18l 18l",
   "0 3 184 18l 18l 0 3 186 17x 18p 0 3 186 17y 18l 0 3 186 17y 18l 0 3 187 18l 17x 0 3 187 18l",
   "17x 0 3 187 18l 18l 0 3 187 18l 18q 0 3 189 17w 18l 0 3 189 18l 18l 0 3 189 18l 18l 0 3 189",
   "18l 18p 0 3 18a 18l 18l 0 3 18a 18l 18q 0 3 18a 18l 18p 0 3 18h 17y 18l 0 3 18h 17y 18l 0 3",
   "18i 18l 17x 0 3 18i 18l 18l 0 3 18k 17x 18l 0 3 18k 17x 18q 0 3 18k 17x 18p 0 3 18k 17w 17w 0",
   "3 18k 17w 17w 0 3 18k 17y 18l 0 3 18k 17y 18l 0 3 18k 18l 17x 0 3 18k 18l 17x 0 3 18l 17x 17w",
   "0 3 18l 17x 18l 0 3 18l 17x 18q 0 3 18l 17w 17x 0 3 18l 17w 18l 0 3 18l 17y 17w 0 3 18l 17y",
   "18l 2 3 18l 17w 17y 0 3 18n 18l 17w 0 3 18n 18l 18l 0 3 18m 17x 18l 0 3 18m 17x 18p 0 3 18m",
   "17w 18l 0 3 18m 17w 18l 0 3 18m 17w 18p 0 3 18m 18l 18q 0 3 18m 18l 18p 0 3 18q 18l 18l 0 3",
   "18q 18l 18l 0 3 17s 17y 18q 0 3 17u 17w 18q 0 3 17u 17w 18p 0 3 17u 17y 18q 0 3 17u 17y 18p 0",
   "3 17u 18l 18q 0 3 17u 18l 18p 0 3 17w 18l 18q 0 3 17w 17x 18p 0 3 17w 18l 18p 0 3 183 17y 18p",
   "0 3 185 17x 18q 0 3 184 17x 18q 0 3 186 17x 18q 0 3 18k 17w 18q 0 3 18k 18l 18q 0 3 18q 17x",
   "18q 0 3 18q 17w 18q 0 3 18q 18l 18q 0 3 18l 18l 18q 0 3 18i 18l 18q 0 3 18m 17x 18q 0 3 18i",
   "18l 17x 0 3 18k 17x 18l 0 3 189 18l 18q 0 3 18j 18l 18q 0 3 18m 17w 17x 0 3 18l 17y 18q 0 3",
   "18k 17w 18l 0 3 18j 18l 18l 0 3 18k 17w 18l 0 3 18m 17w 17x 0 3 17w 17x 18q 0 3 17x 17w 18q 0",
   "3 18l 17w 18q 0 3 18h 18l 18q 0 3 17s 17x 18q 0 3 18j 18l 18l 0 3 189 17w 18l 0 3 185 18l 18l",
   "0 3 183 17y 18q 0 3 18m 17w 18q 14 3 185 18k 1ci 0 3 18i 18k 1ci 0 4 17r 18k 18k 18n 0 4 17r",
   "18j 17s 181 0 4 18l 17x 18l 17z 0 4 185 18k 189 18l 0 4 181 183 18o 18k 0 4 189 18k 18q 18n 0",
   "4 18o 183 18k 18l 0 3 185 18k 18p 0 i 185 18k 18p w 17r 18k 18k 18n w 189 18k 18q 18n w 18o",
   "183 18k 18l 0 8 17w 18k w 17w 18k 17r 18k 18n 0 4 181 1cc 17r 18k 24 2 w lh 0 2 w lh 0 2 w lh",
   "0 2 w lh z 2 w 18r 0 2 18g 18r 0 2 w 18s 1 2 w 18t 1 2 w 18u 0 2 18g 18u 0 2 w 18v 0 2 18g 18v",
   "0 2 w 18w 0 2 18g 18w 0 2 w 18x 0 2 18g 18x 0 2 w 18y 0 2 18g 18y 39 2 18k 17m 0 2 18k 17m 0 2",
   "18k 17n 0 2 18k 17n 0 2 18k 17p 0 2 18k 17p 0 2 18k 17r 0 2 18k 17r 6e 2 w lg 15dm 2 2jx3 2jxh",
   "0 2 2jx4 2jxh 0 3 2jx4 2jxh 2jxq 0 3 2jx4 2jxh 2jxr 0 3 2jx4 2jxh 2jxs 0 3 2jx4 2jxh 2jxt 0 3",
   "2jx4 2jxh 2jxu 2e 2 2jzt 2jxh 0 2 2jzu 2jxh 0 3 2jzt 2jxh 2jxq 0 3 2jzu 2jxh 2jxq 0 3 2jzt",
   "2jxh 2jxr 0 3 2jzu 2jxh 2jxr 668 2 1c 18 0 2 1d 18 0 2 1e 18 0 2 1f 18 0 2 1g 18 0 2 1h 18 0 2",
   "1i 18 0 2 1j 18 0 2 1k 18 0 2 1l 18 5 3 14 2p 15 0 3 14 2q 15 0 3 14 2r 15 0 3 14 2s 15 0 3 14",
   "2t 15 0 3 14 2u 15 0 3 14 2v 15 0 3 14 2w 15 0 3 14 2x 15 0 3 14 2y 15 0 3 14 2z 15 0 3 14 30",
   "15 0 3 14 31 15 0 3 14 32 15 0 3 14 33 15 0 3 14 34 15 0 3 14 35 15 0 3 14 36 15 0 3 14 37 15",
   "0 3 14 38 15 0 3 14 39 15 0 3 14 3a 15 0 3 14 3b 15 0 3 14 3c 15 0 3 14 3d 15 0 3 14 3e 15 0 3",
   "9hw 37 9hx 2 2 2r 2s 0 2 3b 3e r 2 2w 3a 0 2 31 3a 0 2 37 2s 0 2 37 37 0 3 34 34 3a 0 2 3b 2r",
   "q 2 31 2r 0 2 31 2s 0 2 31 36 z 2 2s 2y 33 2 9kr 9jf 0 2 9mb 9mb 1q 3 9hw kdo 9hx 0 3 9hw fex",
   "9hx 0 3 9hw fik 9hx 0 3 9hw i2x 9hx 0 3 9hw m9l 9hx 0 3 9hw jf7 9hx 0 3 9hw nh3 9hx 0 3 9hw",
   "gd9 9hx 0 3 9hw k0n 9hx"])

/-- The characters that do not show. -/
def dropped : List Packed.Range := Packed.members
  ["4t 1 ip 1 2rz 2 18z 2 2d 5 1kr 1 2c 5 5 6 3ck 1 14ez g 6n 1 4g 1 11bz 4 43z 8 h479 6o"]

/-- The characters that stand for themselves, if nothing else does. -/
def kept : List Packed.Range := Packed.members
  ["4h k7 3 3 i 1 r as 15 1e 2 3 1 1j 8 r 4 6 h m 1 5c 1 1c 2 1n 2 2t e 1n 2 1d 2 f 1 s 2 1 1 b 5",
   "w 7 23 1 4h 1 8 2 2 2 m 1 7 1 1 3 4 2 9 2 2 2 4 8 1 8 4 2 p 2 3 1 6 4 2 2 m 1 7 1 1 2 1 2 2 2",
   "1 1 5 4 2 2 3 3 1 a 1 9 h a 3 1 9 1 3 1 m 1 7 1 2 1 5 2 a 1 3 1 3 2 1 f 4 2 c 7 7 1 3 1 8 2 2",
   "2 m 1 7 1 2 1 5 2 9 2 2 2 3 5 5 7 5 2 i a 2 1 6 3 3 1 4 3 2 1 1 1 2 3 2 3 3 3 c 4 5 3 3 1 4 2",
   "1 6 1 e l 5 d 1 3 1 n 1 g 2 9 1 3 1 4 7 2 1 3 1 2 2 4 2 a 7 m 1 3 1 n 1 a 1 5 2 9 1 3 1 4 7 2",
   "5 3 1 4 2 a 1 3 c d 1 3 1 1f 1 3 1 6 4 g 2 q 1 3 1 i 3 o 1 9 1 1 2 7 3 1 4 6 1 1 1 8 6 a 2 3 c",
   "1m 4 t 11 2 1 1 1 5 1 o 1 1 1 n 2 5 1 1 1 7 1 a 4 2 w 20 1 10 4 13 1 10 1 f 1 d 11 4g 1c ah 1",
   "4 2 7 1 1 1 4 2 15 1 4 2 x 1 4 2 7 1 1 1 4 2 f 1 1l 1 4 2 1v 2 w 3 q 6 2e a hs 1 s 3 2h 7 m 9",
   "o 9 k c d 1 3 1 2 c 2m 2 a 6 a 6 q 6 2h 7 17 5 1y a v 1 c 4 c 4 1 3 16 2 5 b 18 4 q 6 b 3 1q 2",
   "1t 1 t 2 b 6 a 6 e 2 1a 2 c k 25 1 4m 8 1o 3 f 3 1q 1h 8 8 17 5 eu a 12 a 8 8 t 1f 2 4 1 f d 3",
   "2 8 8 e 1 l 2 2 k 3 1 8 1b 1t 11 b x j 3s 4 ii m b 4g 1ah 2 am 5 19 1 1 5 1 2 1k 8 1 e o 9 7 1",
   "7 1 7 1 7 1 7 1 7 1 7 1 7 1 3i y q 1 2g 7i 1r 1 2e 2 2u 6 17 2o 2e a g 20 1k ao m8d 3 1j 9 9o",
   "l 53 8 64 q 1j 3 a 6 1k 8 1y 8 c 6 38 b u 3 26 1 b 4 x 1 1j 9 e 2 a 2 2v o s a 6 2 6 2 6 9 7 1",
   "7 1 1o 2c 1a 2 a 6 8mc c n 4 1d 6qa s 6s 1 43 f2 19 3 w g l 2 18 1 b0 c 1 q 1 j 1 2 1 f 2 e y",
   "3f 5 3 4 19 3 2g 1 d 3 1 1b 1a 3m t 3 1d f s 4 10 9 u 5 17 5 u 1 11 4 e 2a 3a 2 a 1a 10 4 14 8",
   "1g b 1 13 b 1 f 1 7 1 2 3 1g c 8n 9 m a 8 o 1 3j 6 2 1 1 18 1 2 3 1 2 n 1 20 8 9 1c j 1 2 5 x",
   "3 r 5 r 12 1k 4 k 2 1e 1 2 5 8 1 3 1 t 2 3 4 a 7 9 7 1s w 13 4 c 9 1i 3 t 2 r 5 q 7 4 c 7 28",
   "21 3b 1f 7 1a 8 a 6 g p t 8 2 5s v 1 16 1 3 2 2 g 6 8 9 q 1h 8 16 m q 12 s k n 9 26 4 10 9 1q",
   "1 5 d p 7 a 6 1h 1 i 8 13 9 2o 1 k b i 1 1b 1q 7 1 1 1 4 1 f 1 b 6 1n 5 a 6 4 1 8 2 2 2 m 1 7",
   "1 2 1 5 1 a 2 2 2 3 2 1 6 1 5 7 2 7 3 5 b a 1 1 2 1 1 12 1 a 1 1 2 1 1 4 1 a 1 2 8 2 t 2k 1 5",
   "u 20 8 a 4m 1i 2 12 y 1x b a 6 d j 1m 6 a 6 k s r 2 f 4 n 55 1o 3o 1f c 8 2 1 2 8 1 2 1 u 1 2",
   "2 c 9 a 1y 8 2 1a 2 b r 20 8 2b d 21 7 a 2e 8 2g y e a 6 9 1 19 1 e a t 3 w 2 m 1 e 21 7 1 2 1",
   "18 3 1 1 2 1 9 8 a 6 6 1 2 1 11 1 2 1 6 7 a 6 18 4 a 6u p 7 h 1 15 3 t 2d 1 f 1e d pn 2u 39 b",
   "5g c 8w 1s0 2r d ts g m a 32z 5 g7 5a1 1m 1c6 ft 7 v 1 a 4 29 1 a 6 u 2 6 a 1y a a 1 7 1 l 5 j",
   "c0 1m 6 1c 4w 1n w p 18 23 4 1l 7 h 1s 5 b 7 9 5p2 15 w 2p 37 d sg 5ww 4 1 7 1 2 1 83 f 1 t 3",
   "2 1 e 4 8 b0 1s4 2z 5 d 3 9 7 a 2 4 31c 71 3 c4 6 n f h f 1a 2 n 9 38 1o 6u a 13 2 5e l 1y a r",
   "2d k c k c 2f 9 p w7 i4 f 5 1 f uo v 6 7 5w 7 1 h 2 7 1 2 1 5 2s 1 34 19 3 e 2 a 4 2 8w v h 1m",
   "5 1 cw 16 5y 17 4 1 5c v 1 m 8 2 68 7 1 4 1 2 1 f 1 5h 2 g 23 16 4 a 4 2 lt 1w 24 1p c2 2 7i",
   "18 4 2s c f 2 f 1 f 1 11 l 4j 1k q 2o 6 4a re 2 h 3 d 3 62 6 c 4 1 f c 4 1k 8 a 6 14 8 u 2 c 4",
   "2 e 9 13 9k 8 e 2 d 3 d 1 1l 1 1 4 h 1 d 3 c 5 43 1 2v sl wyo w 3dr 1 4ge 2 5rl f ha 3he 3t7 5",
   "6ju upy 8qo"]

/-- What stands for a character in a name. -/
def fold? (c : Char) : Option (List Char) :=
  if c.toNat < 0x80 then some [Ascii.lower c]
  else
    match shifted.findSome? (·.image? c.toNat) with
    | some p => some [Char.ofNat p]
    | none =>
      match expanded.lookup c.toNat with
      | some points => some (points.map Char.ofNat)
      | none =>
        if Packed.has dropped c then some []
        else if Packed.has kept c then some [c]
        else none

end Courier.Text.Unicode.Folding
