import Courier.Text.Unicode.Packed

/-!
# Composition — one sequence for a letter and its marks

A letter with a mark is one character where Unicode has one. `compose` brings a text into that
form: every character is taken apart, the marks after a letter are brought into the order of their
classes, and then each letter takes up the marks it has a character with. The syllables of Hangul
are put together by rule. The tables hold the characters that `Folding` leaves in a name.
-/

namespace Courier.Text.Unicode.Composition

/-- Characters with the two they are made of: the gap before the character, and the two. -/
def pairsFrom : Nat → List Nat → List (Nat × Nat × Nat)
  | start, gap :: a :: b :: rest => (start + gap, a, b) :: pairsFrom (start + gap + 1) rest
  | _, _ => []

/-- The characters that are made of two others. -/
def pairs : List (Nat × Nat × Nat) := pairsFrom 0 (Packed.numbers
  ["68 2p lc 0 2p ld 0 2p le 0 2p lf 0 2p lk 0 2p lm 1 2r mf 0 2t lc 0 2t ld 0 2t le 0 2t lk 0 2x",
   "lc 0 2x ld 0 2x le 0 2x lk 1 32 lf 0 33 lc 0 33 ld 0 33 le 0 33 lf 0 33 lk 2 39 lc 0 39 ld 0",
   "39 le 0 39 lk 0 3d ld 1 3d lk 1 2p lg 1 2p li 1 2p mg 1 2r ld 1 2r le 1 2r lj 1 2r lo 1 2s lo",
   "3 2t lg 1 2t li 1 2t lj 1 2t mg 1 2t lo 1 2v le 1 2v li 1 2v lj 1 2v mf 1 2w le 3 2x lf 1 2x",
   "lg 1 2x li 1 2x mg 5 2y le 1 2z mf 2 30 ld 1 30 mf 1 30 lo 5 32 ld 1 32 mf 1 32 lo 4 33 lg 1",
   "33 li 1 33 ln 3 36 ld 1 36 mf 1 36 lo 1 37 ld 1 37 le 1 37 mf 1 37 lo 1 38 mf 1 38 lo 3 39 lf",
   "1 39 lg 1 39 li 1 39 lm 1 39 ln 1 39 mg 1 3b le 1 3d le 2 3e ld 1 3e lj 1 3e lo y 33 m3 e 39",
   "m3 t 2p lo 1 2x lo 1 33 lo 1 39 lo 1 70 lg 1 70 ld 1 70 lo 1 70 lc 2 6c lg 1 fb lg 1 6e lg 3",
   "2v lo 1 2z lo 1 33 mg 1 dn lg 1 ia lo 0 2y lo 4 2v ld 3 32 lc 1 6d ld 1 6e ld 1 6w ld 1 2p lr",
   "1 2p lt 1 2t lr 1 2t lt 1 2x lr 1 2x lt 1 33 lr 1 33 lt 1 36 lr 1 36 lt 1 39 lr 1 39 lt 1 37",
   "me 1 38 me 3 2w lo 7 2p lj 1 2t mf 1 6u lg 1 6t lg 1 33 lj 1 fj lg 1 3d lg 9o qy ld r q9 ld 0",
   "qd ld 0 qf ld 0 qh ld 0 qz ld p qh lk 0 qt lk 0 qn ld 0 qt ld 0 qx ld 2y u0 li m tx lc 0 tx lk",
   "1 tv ld 3 uu lk 4 u2 ld 0 u0 lc 0 ub li o vp lr 22 ty li e ts li 1 ts lk 3 tx li 3 yh lk 1 ty",
   "lk 1 tz lk 3 u0 lg 1 u0 lk 1 u6 lk 3 yx lk 1 ul lk 1 ub lg 1 ub lk 1 ub ln 1 uf lk 3 uj lk 88",
   "17r 18z 0 17r 190 0 18o 190 0 17r 191 0 18q 190 49 1cl 190 1 1c1 190 g 1ci 190 gl 1t4 1to 7",
   "1tc 1to 2 1tf 1to 46 1xj 1xa 0 1xj 1xz aj 287 28m 2 287 27y 0 287 28n 1z 2aa 2c7 1h 2bq 2bi 0",
   "2br 2bi 0 2bq 2c7 3f 2fa 2fq 3b 2in 2j9 6 2iu 2j9 0 2iu 2ja 1 2iu 2iq 0 2iy 2j9 3i 2me 2m6 0",
   "2mf 2m6 0 2me 2mv 3x 2qh 2q2 1 2qh 2q7 0 2qk 2q2 0 2qh 2qn g7 36t 372 25b 5c5 5dh 1 5c7 5dh 1",
   "5c9 5dh 1 5cb 5dh 1 5cd 5dh 3 5ch 5dh 14 5dm 5dh 1 5do 5dh 2 5dq 5dh 0 5dr 5dh 1 5du 5dh jh 2p",
   "md 1 2q lj 1 2q mb 1 2q mp 1 6f ld 1 2s lj 1 2s mb 1 2s mp 1 2s mf 1 2s ml 1 7n lc 1 7n ld 1",
   "2t ml 1 2t mo 1 fd li 1 2u lj 1 2v lg 1 2w lj 1 2w mb 1 2w lk 1 2w mf 1 2w mm 1 2x mo 1 6n ld",
   "1 2z ld 1 2z mb 1 2z mp 1 30 mb 1 5yv lg 1 30 mp 1 30 ml 1 31 ld 1 31 lj 1 31 mb 1 32 lj 1 32",
   "mb 1 32 mp 1 32 ml 1 6t ld 1 6t lk 1 99 lc 1 99 ld 1 34 ld 1 34 lj 1 36 lj 1 36 mb 1 5zv lg 1",
   "36 mp 1 37 lj 1 37 mb 1 9n lj 1 9t lj 1 603 lj 1 38 lj 1 38 mb 1 38 mp 1 38 ml 1 39 mc 1 39 mo",
   "1 39 ml 1 a1 ld 1 a3 lk 1 3a lf 1 3a mb 1 3b lc 1 3b ld 1 3b lk 1 3b lj 1 3b mb 1 3c lj 1 3c",
   "lk 1 3d lj 1 3e le 1 3e mb 1 3e mp 0 2w mp 0 38 lk 0 3b lm 0 3d lm 7 2p mb 1 2p ll 1 6a ld 1",
   "6a lc 1 6a ll 1 6a lf 1 61t le 1 77 ld 1 77 lc 1 77 ll 1 77 lf 1 61t li 1 2t mb 1 2t ll 1 2t",
   "lf 1 6i ld 1 6i lc 1 6i ll 1 6i lf 1 62h le 1 2x ll 1 2x mb 1 33 mb 1 33 ll 1 6s ld 1 6s lc 1",
   "6s ll 1 6s lf 1 631 le 1 bl ld 1 bl lc 1 bl ll 1 bl lf 1 bl mb 1 39 mb 1 39 ll 1 c0 ld 1 c0 lc",
   "1 c0 ll 1 c0 lf 1 c0 mb 1 3d lc 1 3d mb 1 3d ll 1 3d lf 6 q9 lv 0 q9 lw 0 64g lc 0 64h lc 0",
   "64g ld 0 64h ld 0 64g n6 0 64h n6 8 qd lv 0 qd lw 0 64w lc 0 64x lc 0 64w ld 0 64x ld a qf lv",
   "0 qf lw 0 65c lc 0 65d lc 0 65c ld 0 65d ld 0 65c n6 0 65d n6 8 qh lv 0 qh lw 0 65s lc 0 65t",
   "lc 0 65s ld 0 65t ld 0 65s n6 0 65t n6 8 qn lv 0 qn lw 0 668 lc 0 669 lc 0 668 ld 0 669 ld a",
   "qt lv 0 qt lw 0 66o lc 0 66p lc 0 66o ld 0 66p ld 0 66o n6 0 66p n6 8 qx lv 0 qx lw 0 674 lc 0",
   "675 lc 0 674 ld 0 675 ld 0 674 n6 0 675 n6 8 q9 lc 1 qd lc 1 qf lc 1 qh lc 1 qn lc 1 qt lc 1",
   "qx lc 1f q9 li 0 q9 lg 4 q9 n6 f qf n6 9 qh li 0 qh lg 0 qy lc 3 qh n6 0 qy n6 8 qt li 0 qt lg",
   "0 qz lc 1 qp lv 0 qp lw 0 qt n6 0 qz n6 e qx n6 bn 6mo mw 0 6mq mw i 6ms mw u 6og mw 0 6ok mw",
   "0 6oi mw 1g 6pv mw 4 6q0 mw 2 6q3 mw n 6qr mw 1 6qt mw q 6rg mw 2 6rn mw 2 6rp mw 1 6rs mw m",
   "1p mw 1 6sh mw a 6rx mw 0 1o mw 0 1q mw 0 6sk mw 0 6sl mw 2 6sy mw 0 6sz mw 2 6t2 mw 0 6t3 mw",
   "6 6t6 mw 0 6t7 mw 2 6te mw 0 6tf mw 2 6ti mw 0 6tj mw y 6ua mw 0 6ug mw 0 6uh mw 0 6uj mw 1c",
   "6t8 mw 0 6t9 mw 0 6tt mw 0 6tu mw 6 6uq mw 0 6ur mw 0 6us mw 0 6ut mw 2n2 9jf 9ll 1 9jh 9ll 1",
   "9jj 9ll 1 9jl 9ll 1 9jn 9ll 1 9jp 9ll 1 9jr 9ll 1 9jt 9ll 1 9jv 9ll 1 9jx 9ll 1 9jz 9ll 1 9k1",
   "9ll 2 9k4 9ll 1 9k6 9ll 1 9k8 9ll 6 9kf 9ll 0 9kf 9lm 1 9ki 9ll 0 9ki 9lm 1 9kl 9ll 0 9kl 9lm",
   "1 9ko 9ll 0 9ko 9lm 1 9kr 9ll 0 9kr 9lm m 9ja 9ll 9 9lp 9ll d 9m3 9ll 1 9m5 9ll 1 9m7 9ll 1",
   "9m9 9ll 1 9mb 9ll 1 9md 9ll 1 9mf 9ll 1 9mh 9ll 1 9mj 9ll 1 9ml 9ll 1 9mn 9ll 1 9mp 9ll 2 9ms",
   "9ll 1 9mu 9ll 1 9mw 9ll 6 9n3 9ll 0 9n3 9lm 1 9n6 9ll 0 9n6 9lm 1 9n9 9ll 0 9n9 9lm 1 9nc 9ll",
   "0 9nc 9lm 1 9nf 9ll 0 9nf 9lm m 9ly 9ll 2 9nz 9ll 0 9o0 9ll 0 9o1 9ll 0 9o2 9ll 3 9od 9ll 1616",
   "1fpu lj q 1fq2 lj 245 1huh 1hve 1 1huj 1hve e 1hut 1hve 3m 1hyp 1hyf 0 1hyq 1hyf ez 1idj 1ida",
   "0 1idj 1idz 1i 1if6 1ih5 1 1if8 1igr 8 1iff 1igy 2 1ifk 1ih5 1f 1igy 1igy 1 1igy 1igo 0 1igy",
   "1ih5 6q 1int 1inu 0 1int 1ink 1 1int 1inx 6z 1iuw 1iun 0 1iux 1iun os 1jjp 1jjk e7c 1xr2 1xr2",
   "0 1xr2 1xrd 0 1xr2 1xr3 0 1xrd 1xr3 0 1xr2 1xr4 0 1xr5 1xr3 0 1xr6 1xr3 0 1xr5 1xr4 2f3 206f",
   "206f 0 206b 206f 0 206h 206f"])

/-- The classes of marks. -/
def classes : List Packed.Range := Packed.ranges
  ["lc l 6e 0 1 6g 0 4 64 0 1 6g 0 1 60 0 5 64 0 2 5m 0 4 64 0 2 5m 0 b 64 0 5 1 0 4 64 0 a 6e 0 3",
   "64 0 3 6e 0 2 64 1 3 6e 0 4 64 0 1 6e 0 1 6g 0 2 64 0 1 6e 0 1 6h 0 2 6i 0 1 6h 0 2 6i 0 1 6h",
   "0 d 6e 7n 5 6e 7d 1 64 0 4 6e 0 1 64 0 3 6e 0 1 66 0 1 64 0 6 6e 0 6 64 0 2 6e 0 1 64 0 2 6e 0",
   "1 66 0 1 6c 0 1 6e 0 1 a 0 1 b 0 1 c 0 1 d 0 1 e 0 1 f 0 1 g 0 1 h 0 1 i 0 2 j 0 1 k 0 1 l 0 1",
   "m 1 1 n 1 1 o 0 1 p 1 1 6e 0 1 64 1 1 i 20 8 6e 0 1 u 0 1 v 0 1 w 1c 1 r 0 1 s 0 1 t 0 1 u 0 1",
   "v 0 1 w 0 1 x 0 1 y 0 2 6e 0 2 64 0 5 6e 0 1 64 0 2 6e 0 1 64 g 1 z 2t 7 6e 2 4 6e 0 1 64 0 1",
   "6e 2 2 6e 1 1 64 0 2 6e 0 1 64 z 1 10 u 1 6e 0 1 64 0 2 6e 0 1 64 0 2 6e 0 3 64 0 1 6e 0 2 64",
   "0 1 6e 0 1 64 0 3 6e 0 1 64 0 1 6e 0 1 64 0 1 6e 0 1 64 0 1 6e 0 1 64 0 2 6e 4g 7 6e 0 1 64 0",
   "1 6e 9 1 64 o 4 6e 1 9 6e 1 3 6e 1 5 6e 17 3 64 1n 2 6e 0 3 64 0 4 6e 16 5 6e 0 5 64 0 e 6e 1",
   "1 64 0 2 6e 0 1 64 0 2 6e 0 1 64 0 3 6e 0 3 64 0 1 r 0 1 s 0 1 t 0 3 6e 0 1 64 0 2 6e 0 2 64 0",
   "5 6e 1o 1 7 g 1 9 3 1 6e 0 1 64 0 2 6e 2v 1 7 g 1 9 1c 1 6e 1p 1 7 g 1 9 32 1 7 g 1 9 32 1 7 g",
   "1 9 3j 1 9 32 1 7 g 1 9 7 1 2c 0 1 2j 2t 1 7 g 1 9 31 2 9 g 1 9 3g 1 9 31 2 2v 0 1 9 d 4 2z 30",
   "2 3a 0 1 9 d 4 3e 24 2 64 r 1 64 1 1 64 1 1 60 1j 1 3l 0 1 3m 1 1 3o 5 4 3m 2 1 3m 1 2 6e 0 1",
   "9 1 2 6e 1q 1 64 34 1 7 1 2 9 2a 1 64 jz 3 6e qc 2 9 u 1 9 4d 1 9 a 1 6e 5n 1 6c 3z 1 66 0 1",
   "6e 0 1 64 63 1 6e 0 1 64 1z 1 9 k 8 6e 2 1 64 1c 5 6e 0 6 64 0 2 6e 0 1 64 1 2 64 0 2 6e 0 2",
   "64 0 5 6e 0 1 64 0 i 6e 0 1 64 2 6 6e 0 1 64 0 4 6e 0 1 6i 20 1 7 f 1 9 12 1 6e 0 1 64 0 7 6e",
   "1i 2 9 1m 1 7 b 2 9 1v 1 7 48 3 6e 1 1 1 0 5 64 0 2 6e 0 4 64 0 1 6e 1 7 1 4 1 64 6 1 6e 3 2",
   "6e 5i 2 6e 0 1 64 0 7 6e 0 1 64 0 2 6e 0 1 6i 0 1 5y 0 1 64 0 1 5m 0 11 6e 0 1 6g 0 2 6c 0 1",
   "64 0 1 62 0 1 6e 0 1 6h 0 1 64 0 1 6e 0 1 64 k0 2 6e 0 2 1 0 4 6e 0 3 1 0 2 6e 4 1 6e 3 2 1 0",
   "1 6e 0 1 64 0 1 6e 0 2 1 0 4 64 0 1 6e 2da 3 6e 3x 1 9 2o w 6e fe 1 62 0 1 6c 0 1 6g 0 1 66 0",
   "2 68 2x 2 8 n9w 1 6e 4 a 6e w 2 6e 28 2 6e 7o 1 9 11 1 9 47 1 9 r i 6e 1l 3 64 11 1 9 2n 1 7 c",
   "1 9 6n 1 6e 1 2 6e 0 1 64 2 2 6e 5 2 6e 1 1 6e 1g 1 9 6u 1 9 fn4 1 q ld 7 6e 0 7 64 0 2 6e r1",
   "1 64 6a 1 64 45 5 6e 1aq 1 64 1 1 6e 14 1 6e 0 1 1 0 1 64 4 1 9 4l 1 6e 0 1 64 fx 4 6e 1t 5 6e",
   "8t 2 6e 25 2 64 1 3 64 1y 2 64 0 3 6e 0 1 64 0 1 6e 0 4 64 1d 1 6e 0 1 64 0 1 6e 0 1 64 5c 1 9",
   "15 1 9 e 1 9 1l 1 9 0 1 7 1x 3 6e 1c 2 9 1q 1 7 24 1 9 9 1 7 2y 1 9 0 1 7 4y 1 7 0 1 9 28 2 7",
   "g 1 9 o f 6e 2h 3 9 35 1 9 3 1 7 n 1 6e 2r 1 9 0 1 7 6z 1 9 0 1 7 3i 1 9 3a 1 9 0 1 7 37 1 9",
   "7h 1 9 0 1 7 76 2 9 4 1 7 4c 1 9 2b 1 9 i 1 9 29 1 9 bp 1 9 76 1 7 1 2 9 29 1 9 bt 2 9 d0s 1 9",
   "1xc 5 1 1n 7 6e xl 2 6 f58 1 1 43q 2 60 0 3 1 3 1 6a 0 5 60 8 8 64 2 5 6e 0 2 64 u 4 6e 44 3",
   "6e 2pn 17 6e 2s 1 6e 4g 7 6e af 1 6e 1p 4 6e e4 2 6g 0 1 64 0 1 6e 72 1 6e 0 1 64 6r 1 6e 2 1",
   "6e 7 2 6e 5 1 6e d6 7 64 31 6 6e 0 1 7"]

/-- The class of a mark, and zero for every other character. -/
def markClass (c : Char) : Nat :=
  (Packed.value? classes c).getD 0

/-- The parts of a syllable: an initial, a vowel and maybe a final. -/
def syllable? (c : Char) : Option (List Char) :=
  if 0xAC00 ≤ c.toNat && c.toNat < 0xAC00 + 11172 then
    let n := c.toNat - 0xAC00
    let front := [Char.ofNat (0x1100 + n / 588), Char.ofNat (0x1161 + n % 588 / 28)]
    some (if n % 28 = 0 then front else front ++ [Char.ofNat (0x11A7 + n % 28)])
  else none

/-- The parts of a character. What starts a pair may be a pair itself, up to three times. -/
def partsOf : Nat → Char → List Char
  | 0, c => [c]
  | depth + 1, c =>
    match pairs.lookup c.toNat with
    | some (a, b) => partsOf depth (Char.ofNat a) ++ [Char.ofNat b]
    | none => [c]

/-- A character taken apart. -/
def decompose (c : Char) : List Char :=
  match syllable? c with
  | some parts => parts
  | none => partsOf 4 c

/-- Puts a mark before those of a higher class. The list has the last mark first. -/
def place (c : Char) : List Char → List Char
  | [] => [c]
  | d :: rest => if markClass c < markClass d then d :: place c rest else c :: d :: rest

/-- Brings the marks after each letter into order. The marks so far have the last one first. -/
def order : List Char → List Char → List Char
  | marks, [] => marks.reverse
  | marks, c :: rest =>
    if markClass c = 0 then marks.reverse ++ c :: order [] rest else order (place c marks) rest

/-- The character that two make. -/
def join? (a b : Char) : Option Char :=
  let x := a.toNat
  let y := b.toNat
  if 0x1100 ≤ x && x < 0x1113 && 0x1161 ≤ y && y < 0x1176 then
    some (Char.ofNat (0xAC00 + ((x - 0x1100) * 21 + (y - 0x1161)) * 28))
  else if 0xAC00 ≤ x && x < 0xAC00 + 11172 && (x - 0xAC00) % 28 == 0 && 0x11A7 < y && y < 0x11C3 then
    some (Char.ofNat (x + (y - 0x11A7)))
  else (pairs.find? fun p => p.2.1 == x && p.2.2 == y).map fun p => Char.ofNat p.1

/-- Puts letters and marks together: the letter so far, and the marks after it that it did not take
up, the last one first. A letter takes up what no mark of the same or a higher class stands
before. -/
def joinAll : Option Char → List Char → List Char → List Char
  | letter, marks, [] => letter.toList ++ marks.reverse
  | none, marks, c :: rest =>
    if markClass c = 0 then marks.reverse ++ joinAll (some c) [] rest
    else joinAll none (c :: marks) rest
  | some a, marks, c :: rest =>
    let free := match marks with
      | [] => true
      | d :: _ => markClass d < markClass c
    match if free then join? a c else none with
    | some joined => joinAll (some joined) marks rest
    | none =>
      if markClass c = 0 then a :: (marks.reverse ++ joinAll (some c) [] rest)
      else joinAll (some a) (c :: marks) rest

/-- The text with letters and marks put together. -/
def compose (cs : List Char) : List Char :=
  joinAll none [] (order [] (cs.flatMap decompose))

end Courier.Text.Unicode.Composition
