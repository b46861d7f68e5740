import Courier.Text.Unicode.Packed

/-!
# Direction — words that are written from right to left

A name that has a word with characters written from right to left must not change when it is shown:
each of its words keeps to one direction. `isRight` says whether a word does.
-/

namespace Courier.Text.Unicode.Direction

/-- The direction of a character, as far as it matters for a word. -/
inductive Class where
  | left
  | right
  | arabicLetter
  | arabicNumber
  | number
  | numberSign
  | separator
  | terminator
  | neutral
  | boundary
  | mark
  deriving Repr, DecidableEq, Inhabited

/-- The class with a number in the table. -/
def Class.ofCode : Nat → Class
  | 0 => .right
  | 1 => .arabicLetter
  | 2 => .arabicNumber
  | 3 => .number
  | 4 => .numberSign
  | 5 => .separator
  | 6 => .terminator
  | 7 => .neutral
  | 8 => .boundary
  | _ => .mark

/-- The characters that are not written from left to right. -/
def classes : List Packed.Range := Packed.ranges
  ["0 9 8 5 e 8 5 2 7 0 3 6 0 5 7 0 1 4 0 1 5 0 1 4 0 2 5 0 a 3 0 1 5 0 12 7 q 4 7 0 1 8 x 1 7 0 4",
   "6 0 9 7 1 2 6 4 y 7 v 1 7 ch 2 7 7 e 7 2 s 7 1 h 7 0 34 9 5 1 7 3k 1 7 3w 7 9 74 5 7 0 1 6 1",
   "19 9 0 1 0 0 1 9 0 1 0 0 2 9 0 1 0 0 2 9 0 1 0 0 1 9 8 11 0 h 2 7 0 1 1 0 2 6 0 1 1 0 1 5 0 1",
   "1 0 2 7 0 b 9 0 1c 1 0 l 9 0 a 2 0 1 6 0 2 2 0 3 1 0 1 9 0 2t 1 0 7 9 1 1 7 0 6 9 0 2 1 0 2 9",
   "0 1 7 0 4 9 0 2 1 0 a 3 0 n 1 0 1 9 0 u 1 0 r 9 2 2h 1 0 b 9 0 1 1 e 17 0 0 9 9 0 2 0 0 4 7 0",
   "1 0 2 1 9 0 o 0 0 4 9 0 1 0 0 9 9 0 1 0 0 3 9 0 1 0 0 5 9 2 15 0 0 3 9 2 1 0 1 1c 1 7 9 9 0 16",
   "1 0 1l 9 1j 1 9 1 1 9 4 8 9 4 1 9 3 7 9 a 2 9 t 1 9 1m 1 9 4 4 9 8 1 9 k 2 9 e 2 6 7 1 6 2 5 9",
   "1l 1 9 4 h 9 u 2 9 3 1 9 b 2 9 1l 1 9 4 8 9 4 1 9 k 2 9 d 1 6 8 8 9 1m 1 9 2 1 9 1 4 9 8 a 9 b",
   "2 9 u 1 9 1p 1 9 c 1 9 11 6 7 0 1 6 0 1 7 5 1 9 3 1 9 1j 1 9 1 3 9 5 h 9 b 2 9 k 7 7 2 1 9 1m",
   "1 9 f 2 9 k 2 9 s 2 9 1l 2 9 4 4 9 8 1 9 k 2 9 t 1 9 20 1 9 7 5 9 2i 1 9 2 7 9 4 1 6 7 8 9 2q",
   "1 9 2 9 9 b 7 9 21 2 9 r 1 9 1 1 9 1 1 9 0 4 7 1f e 9 1 5 9 1 2 9 5 1c 9 9 1 9 2u 4 9 1 6 9 1",
   "2 9 2 2 9 p 2 9 4 3 9 g 4 9 d 1 9 2 2 9 6 1 9 f 1 9 jj 3 9 1c a 7 2u 1 7 ii 2 7 39 3 9 t 2 9 u",
   "2 9 u 2 9 1v 7 9 8 1 9 2 b 9 7 1 6 1 1 9 i r 7 3e 2 9 y 1 9 3a 3 9 4 2 9 9 1 9 6 3 9 4 6 7 48",
   "y 7 n 2 9 2 1 9 1m 1 9 1 9 9 1 1 9 2 8 9 6 d 9 1c 2c 9 1c 1 9 1 5 9 1 1 9 5 1 9 14 9 9 c 2 9 w",
   "4 9 2 2 9 1 3 9 1k 1 9 1 2 9 3 1 9 1 3 9 1m 8 9 2 2 9 48 3 9 1 d 9 1 7 9 4 1 9 6 1 9 3 2 9 5i",
   "1s 9 ek 2 8 2 o 7 8 3 6 2 f 7 0 1 5 0 q 7 1t 11 6 b x 9 j 12 7 4 1 6 b k 7 1o 3s 7 0 1 4 0 1 6",
   "0 82 7 1x q 7 1 51 7 4g ch 7 1 9f 7 74 lc 7 6d 6 7 4 3 9 7 7 7 3j 1 9 2o w 9 0 6r 7 7i 4 7 3 p",
   "7 9 4 9 2 1 7 6 1 7 5 3 7 2h 2 9 5 1 7 2i 1 7 5g 12 7 5i2 1s 7 h3k 1j 7 92 3 7 2n 4 9 0 1 7 0",
   "a 9 0 2 7 u 2 9 28 2 9 e y 7 2u 1 7 3d 1 9 3 1 9 4 1 9 p 2 9 1 4 7 0 1 9 b 2 6 1m 4 7 24 2 9 q",
   "i 9 d 1 9 12 8 9 p b 9 1a 3 9 1c 1 9 2 4 9 2 2 9 13 1 9 1v 6 9 2 2 9 2 2 9 c 1 9 8 1 9 1b 1 9",
   "1f 1 9 1 3 9 2 2 9 5 2 9 1 1 9 16 2 9 8 1 9 37 2 7 3d 1 9 2 1 9 4 1 9 fn4 1 9 43 h 1 0 g 7 a3",
   "i 7 1s 2 7 1i 1k 7 w g 9 l 2 7 18 1 1 i5 1 7 1q 25 7 3 h 7 2k 1 9 6a 1 9 0 r 3 3e 5 9 w5 7w 0",
   "3 1 7 0 69 0 0 f 9 0 12 0 2 8 9 0 4l 0 0 2 9 4 23 0 3 7 7 0 34 0 28 21 0 3b 1s 0 0 10 1 0 4 9",
   "8 q 2 0 6 0 p 5 9 0 1 7 0 x 0 5s v 2 1 16 0 1 2 9 0 5 0 g 6 1 8 9 7 q d 9 0 14 0 8 m 1 0 b 9 0",
   "9 1 m i 0 0 4 9 0 35 0 a 1 9 1i f 9 b k 7 a 1 9 2 2 9 a 3 9 1d 4 9 2 2 9 7 1 9 1p 3 9 10 5 9 1",
   "8 9 1q 1 9 c 2 9 1g 9 9 a 4 9 2 1 9 2n 3 9 2 1 9 1 2 9 6 1 9 2 1 9 4d 1 9 3 8 9 l 2 9 1l 2 9 3",
   "1 9 11 f 9 1y 6 9 d 1 9 1 1 9 1 1 9 e 2 9 2d 8 9 2 3 9 1 1 9 n 1 9 2c 6 9 1 1 9 4 2 9 1 2 9 6m",
   "4 9 6 2 9 1 2 9 r 2 9 2d 8 9 2 1 9 1 2 9 v d 7 1q 1 9 1 1 9 2 6 9 1 1 9 2t 1 9 1 1 9 2 4 9 1 5",
   "9 77 9 9 1 2 9 74 2 9 1 1 9 4 1 9 40 8 9 4 1 9 w 6 9 2 2 9 14 6 9 2 4 9 8 1 9 9 6 9 2 3 9 1a d",
   "9 1 2 9 5i 1 9 1 3 9 1 1 9 5l e 9 2c m 9 2 7 9 1 2 9 1 2 9 3e l 9 1 1 9 20 2 9 3 1 9 1 1 9 9n",
   "2 9 b 2 9 1g 5 9 5 1 9 1 1 9 n 1 9 3e 8 7 0 4 6 0 h 7 40e 1 9 6 f 9 8ug c 9 3 3 9 1xc 5 9 1n 7",
   "9 t4 1 9 1r 4 9 27 1 7 1 1 9 f5k 2 9 31d kx 7 f 1z 9 f4 3 9 h 8 9 2 7 9 u 4 9 1n 2h 7 0 3 9 0",
   "12 7 45 2f 7 1bd 1j 9 4 1e 9 8 1 9 e 1 9 m l 9 11s 17 9 2s 1 9 4g 7 9 af 1 9 1p 4 9 f 1 6 do 4",
   "9 72 2 9 6r 1 9 2 1 9 7 2 9 5 1 9 7e 5s 0 0 7 9 23 y 0 0 7 9 0 l 0 lt 1w 1 24 1p 1 c2 2 7 7i",
   "8g 7 1p 3 7 1p 1 7 4y 6 7 4a 1rv 7"]

/-- The class of a character. -/
def classOf (c : Char) : Class :=
  match Packed.value? classes c with
  | some code => .ofCode code
  | none => .left

/-- Whether a word has characters that are written from right to left. -/
def turns (word : List Char) : Bool :=
  word.any fun c => [Class.right, .arabicLetter, .arabicNumber].contains (classOf c)

/-- The last class that is not a mark's. -/
def ending? (word : List Class) : Option Class :=
  word.reverse.find? (· ≠ .mark)

/-- Whether a word keeps to one direction. -/
def isRight (word : List Char) : Bool :=
  let list := word.map classOf
  match list.head? with
  | none => true
  | some .left =>
    list.all (fun k =>
        [Class.left, .number, .numberSign, .separator, .terminator, .neutral, .boundary, .mark].contains k) &&
      [some Class.left, some .number].contains (ending? list)
  | some first =>
    (first == .right || first == .arabicLetter) &&
      list.all (· ≠ .left) &&
      [some Class.right, some .arabicLetter, some .number, some .arabicNumber].contains (ending? list) &&
      !(list.contains .number && list.contains .arabicNumber)

end Courier.Text.Unicode.Direction
