import Courier.Text.Unicode.Composition

/-!
# Joining — where characters that only join may stand

Marks do not start a word. The two characters that only say whether their neighbours join may
follow a character that suppresses a vowel, and the one that says they do not may also stand
between letters that would join there.
-/

namespace Courier.Text.Unicode.Joining

/-- The marks. -/
def marks : List Packed.Range := Packed.members
  ["lc 34 7n 7 7b 19 1 1 1 2 1 2 1 1 20 b 1c l g 1 2t 7 2 6 2 2 1 4 z 1 u r 2j b 1m 9 9 1 o 4 1 9",
   "1 3 1 5 17 3 1n 9 16 1m 1i 3 1 i 1 7 a 2 t 3 1k 1 1 g 9 1 a 2 q 6 1k m u 2 3 1 b 3 1k 1 1 g k",
   "2 m a 1k 1 1 q a 2 u 1 1n g 9 1 14 5 1j 1 1 p b 2 t 3 1k 1 1 p b 2 f h 1j 2 1 g 9 1 a 2 t 3 1y",
   "m i 2 1p 1 2 7 c 8 2q 1 2 9 b 7 21 2 r 1 1 1 1 1 4 2 1d k 1 2 5 1c 9 1 2s k n 4 4 3 1 3 2 7 3",
   "4 d c 1 1 a 4 jj 3 qa 4 s 3 t 2 u 2 1u u 9 1 4n 2 y 1 3a s 63 5 1l 17 1c 2d 1b h 12 9 c 3 u d",
   "1k e 1c k 48 3 1 l 4 1 6 1 2 3 5i 1s k0 x 2da 3 3x 1 2o w fe 6 2x 2 n9w 4 1 a w 2 28 2 7k 1 3",
   "1 4 1 n 5 4 1 2b 2 1e i q i d 1 12 8 p d 18 4 1b e 10 1 1v e c 1 8 2 19 3 1e 1 1 3 2 2 5 2 1 1",
   "15 5 5 2 6k 8 1 2 fn4 1 ld g r1 1 6a 1 45 5 1ae f 14 8 4l 2 fx 4 1t 5 8t 2 1y d 1y b 1d 4 3e 3",
   "1h f 15 1 2 2 a 4 19 b 7 1 1p 3 10 e g 2 18 1 c 3 1c e 8 4 1 2 2k c 6 1 2 1 4d c l 4 1j 2 1 g",
   "9 1 a j 1v p 1 1 e 2 2a i n 1 29 k 6j i r 2 2a h 2y d 2t f 74 f 6t f 1 1 1 2 3x g 3 1 s a 14 7",
   "1 4 8 1 9 b 1a g 5i 8 5j h 2a 11 3e l 1 1 1u e 9n 4 9 2 1 1 1c f n 1 44l 1 6 f 8ug i 1xc 5 1n",
   "7 t4 1 1 1u 29 e f57 2 3mp 1z f2 5 3 m 2 7 u 4 44 3 1iz 1j 4 1e 8 1 e 1 m l 11s 17 2s 1 4g 7",
   "af 1 1p 4 e4 4 72 2 6r 1 2 1 7 2 5 1 d6 7 31 7"]

/-- How letters join: on both sides (1), to the left (2), to the right (3), or not at all but
without keeping others from it (4). -/
def sides : List Packed.Range := Packed.ranges
  ["lc 34 4 7n 7 4 7b 19 4 1 1 4 1 2 4 1 2 4 1 1 4 20 b 4 5 1 1 1 4 3 0 1 1 0 1 3 0 1 1 0 1 3 0 5",
   "1 0 4 3 0 d 1 1 7 1 0 1 3 0 2 1 0 l 4 e 2 1 0 1 4 0 3 3 5 f 1 0 i 3 0 12 1 0 1 3 0 2 1 0 9 3 0",
   "1 1 0 1 3 0 1 1 0 1 3 0 2 1 0 2 3 1 1 3 0 7 4 2 6 4 2 2 4 1 4 4 0 2 3 a 3 1 2 1 1 g 1 3 0 1 4",
   "0 3 1 0 5 3 0 4 1 0 1 3 0 9 1 0 1 3 0 1 1 0 1 3 0 1 1 0 1 3 0 2 1 0 1 3 0 r 4 2 1 3 0 b 1 0 3",
   "3 0 f 1 0 2 3 0 4 1 0 1 3 0 1 1 0 2 3 0 3 1 0 2 3 0 6 1 12 b 4 p x 1 0 9 4 9 1 4 o 4 4 1 9 4 1",
   "3 4 1 5 4 i 1 3 0 5 1 0 2 3 0 1 1 0 1 3 0 a 1 0 1 3 0 1 1 0 3 3 0 3 4 4 1 1 1 4 1 1 1 3 0 1 1",
   "0 q 3 3 1 1 2 5 1 0 1 3 0 1 1 7 9 4 0 a 1 0 3 3 1 1 3 0 2 1 0 2 3 0 6 1 0 1 3 0 f 1 1 1l 4 1j",
   "1 4 1 1 4 4 8 4 4 1 4 3 7 4 a 2 4 t 1 4 1m 1 4 4 4 4 8 1 4 k 2 4 q 5 4 1l 1 4 4 h 4 u 2 4 3 1",
   "4 b 2 4 1l 1 4 4 8 4 4 1 4 k 2 4 m 8 4 1m 1 4 2 1 4 1 4 4 8 1 4 7 2 4 b 2 4 u 1 4 1p 1 4 c 1 4",
   "1e 1 4 3 1 4 1j 1 4 1 3 4 5 h 4 b 2 4 t 1 4 1m 1 4 2 1 4 6 1 4 5 2 4 k 2 4 s 2 4 1l 2 4 4 4 4",
   "8 1 4 k 2 4 t 1 4 20 1 4 7 5 4 2i 1 4 2 7 4 c 8 4 2q 1 4 2 9 4 b 7 4 21 2 4 r 1 4 1 1 4 1 1 4",
   "1j e 4 1 5 4 1 2 4 5 1c 4 9 1 4 2u 4 4 1 6 4 1 2 4 2 2 4 p 2 4 4 3 4 g 4 4 d 1 4 2 2 4 6 1 4 f",
   "1 4 jj 3 4 qa 3 4 t 2 4 u 2 4 u 2 4 1v 7 4 8 1 4 2 b 4 9 1 4 15 1 1 o 2h 1 c 2 4 0 y 1 0 1 4 0",
   "1 1 39 3 4 4 2 4 9 1 4 6 3 4 63 2 4 2 1 4 1m 1 4 1 9 4 1 1 4 2 8 4 6 d 4 1c 2c 4 1c 1 4 1 5 4",
   "1 1 4 5 1 4 14 9 4 c 2 4 w 4 4 2 2 4 1 3 4 1k 1 4 1 2 4 3 1 4 1 3 4 1m 8 4 2 2 4 48 3 4 1 d 4",
   "1 7 4 4 1 4 6 1 4 3 2 4 5i 1s 4 k0 x 4 2da 3 4 3x 1 4 2o w 4 fe 4 4 2z 2 4 n9w 4 4 1 a 4 w 2 4",
   "28 2 4 7k 1 4 3 1 4 4 1 4 p 2 4 5 1 4 j 1e 1 0 1 2 29 2 4 q i 4 d 1 4 12 8 4 p b 4 1a 3 4 1c 1",
   "4 2 4 4 2 2 4 13 1 4 1v 6 4 2 2 4 2 2 4 c 1 4 8 1 4 1b 1 4 1f 1 4 1 3 4 2 2 4 5 2 4 1 1 4 16 2",
   "4 8 1 4 6m 1 4 2 1 4 4 1 4 fn4 1 4 ld g 4 r1 1 4 6a 1 4 45 5 4 1ae f 4 14 8 4 3k 5 1 0 1 3 1 1",
   "3 1 2 3 2 1 2 0 5 3 0 4 1 0 1 2 0 5 1 0 1 3 0 3 1 0 1 3 2 1 3 0 2 4 4 4 1 0 1 3 40 1 1 0 1 3 0",
   "1 1 0 3 3 0 3 1 0 1 3 0 2 1 0 1 3 0 1 1 0 2 3 0 1 1 0 1 3 n 4 3 0 2 1 9d 1 2 0 x 1 0 1 3 0 1 1",
   "0 4 4 1t 5 4 8t 2 4 l 1 3 0 2 1 1 2 1 1e 6 4 1c 3 1 0 1 3 0 h 1 1 b 4 0 3 1 0 1 3 r 4 1 0 2 3",
   "0 c 1 0 4 4 16 1 1 1 2 1 0 3 3 1 1 1 0 2 3 0 2 1 0 1 3 0 2 1 1 1 1 0 2 3 0 1 1 4 1 3 0 1 1 0 1",
   "2 1h 1 4 1i f 4 15 1 4 2 2 4 a 3 4 1d 4 4 2 2 4 7 1 4 1p 3 4 10 5 4 1 8 4 1q 1 4 c 2 4 1g 9 4",
   "a 4 4 2 1 4 2n 3 4 2 1 4 1 2 4 6 1 4 2 1 4 4d 1 4 3 8 4 l 2 4 1l 2 4 3 1 4 11 f 4 1y 6 4 d 1 4",
   "1 1 4 1 1 4 e 2 4 2d 8 4 2 3 4 1 1 4 n 1 4 2c 6 4 1 1 4 4 2 4 1 2 4 6m 4 4 6 2 4 1 2 4 r 2 4",
   "2d 8 4 2 1 4 1 2 4 2y 1 4 1 1 4 2 6 4 1 1 4 2t 1 4 1 1 4 2 4 4 1 5 4 77 9 4 1 2 4 74 2 4 1 1 4",
   "4 1 4 40 8 4 4 1 4 w a 4 14 6 4 2 4 4 8 1 4 9 6 4 2 3 4 1a d 4 1 2 4 5i 1 4 1 3 4 1 1 4 5l e 4",
   "1 1 4 2a m 4 2 7 4 1 2 4 1 2 4 3e l 4 1 1 4 20 2 4 3 1 4 1 1 4 9n 2 4 b 2 4 1g 5 4 5 1 4 1 1 4",
   "n 1 4 44l 1 4 6 f 4 8ug c 4 3 3 4 1xc 5 4 1n 7 4 t4 1 4 1r 4 4 29 1 4 f5k 2 4 3mp 1z 4 f4 3 4",
   "h 8 4 2 7 4 u 4 4 44 3 4 1iz 1j 4 4 1e 4 8 1 4 e 1 4 m l 4 11s 17 4 2s 1 4 4g 7 4 af 1 4 1p 4",
   "4 e4 4 4 72 2 4 6r 1 4 2 1 4 7 2 4 5 1 4 d6 7 4 23 y 1 0 8 4"]

/-- Whether a character is a mark. -/
def isMark (c : Char) : Bool :=
  Packed.has marks c

/-- The first letter that is not passed over. -/
def side? (cs : List Char) : Option Nat :=
  (cs.map (Packed.value? sides)).find? (· != some 4) |>.join

/-- Whether a character suppresses the vowel of the one before it. -/
def suppresses (c : Char) : Bool :=
  Composition.markClass c == 9

/-- Whether a joining character may stand between what is before it, last first, and after it. -/
def mayStand (c : Char) (before after : List Char) : Bool :=
  if c.toNat == 0x200C || c.toNat == 0x200D then
    (before.head?.map suppresses).getD false ||
      (c.toNat == 0x200C && (side? before == some 1 || side? before == some 2) &&
        (side? after == some 1 || side? after == some 3))
  else true

/-- Whether all joining characters may stand where they are. -/
def areRight : List Char → List Char → Bool
  | _, [] => true
  | before, c :: after => mayStand c before after && areRight (c :: before) after

end Courier.Text.Unicode.Joining
