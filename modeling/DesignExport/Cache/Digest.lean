/-
# The 256-bit digest

The digest of a sequence of bytes: the bytes are padded to whole blocks of 64,
and every block is mixed into a state of eight words in 64 rounds.
-/

import DesignExport.Text.Utf8

namespace DesignExport.Digest

/-- The eight words that blocks are mixed into. -/
structure State where
  a : UInt32
  b : UInt32
  c : UInt32
  d : UInt32
  e : UInt32
  f : UInt32
  g : UInt32
  h : UInt32

/-- The words before the first block. -/
def start : State :=
  ⟨0x6a09e667, 0xbb67ae85, 0x3c6ef372, 0xa54ff53a, 0x510e527f, 0x9b05688c, 0x1f83d9ab,
   0x5be0cd19⟩

/-- The constant of each round. -/
def roundConstants : List UInt32 :=
  [0x428a2f98, 0x71374491, 0xb5c0fbcf, 0xe9b5dba5, 0x3956c25b, 0x59f111f1, 0x923f82a4, 0xab1c5ed5,
   0xd807aa98, 0x12835b01, 0x243185be, 0x550c7dc3, 0x72be5d74, 0x80deb1fe, 0x9bdc06a7, 0xc19bf174,
   0xe49b69c1, 0xefbe4786, 0x0fc19dc6, 0x240ca1cc, 0x2de92c6f, 0x4a7484aa, 0x5cb0a9dc, 0x76f988da,
   0x983e5152, 0xa831c66d, 0xb00327c8, 0xbf597fc7, 0xc6e00bf3, 0xd5a79147, 0x06ca6351, 0x14292967,
   0x27b70a85, 0x2e1b2138, 0x4d2c6dfc, 0x53380d13, 0x650a7354, 0x766a0abb, 0x81c2c92e, 0x92722c85,
   0xa2bfe8a1, 0xa81a664b, 0xc24b8b70, 0xc76c51a3, 0xd192e819, 0xd6990624, 0xf40e3585, 0x106aa070,
   0x19a4c116, 0x1e376c08, 0x2748774c, 0x34b0bcb5, 0x391c0cb3, 0x4ed8aa4a, 0x5b9cca4f, 0x682e6ff3,
   0x748f82ee, 0x78a5636f, 0x84c87814, 0x8cc70208, 0x90befffa, 0xa4506ceb, 0xbef9a3f7, 0xc67178f2]

/-- A word rotated to the right. -/
def rotate (word : UInt32) (places : UInt32) : UInt32 :=
  (word >>> places) ||| (word <<< (32 - places))

/-- The bytes, a mark, zeros up to a whole number of blocks, and the length in bits. -/
def pad (bytes : List UInt8) : List UInt8 :=
  let length := bytes.length
  let zeros := (119 - length % 64) % 64
  let bits := 8 * length
  let tail := (List.range 8).map fun place => (bits >>> (8 * (7 - place))).toUInt8
  bytes ++ 0x80 :: (List.replicate zeros 0 ++ tail)

/-- The words of four bytes each, the first byte highest. -/
def wordsOf : List UInt8 → List UInt32
  | a :: b :: c :: d :: rest =>
    ((a.toUInt32 <<< 24) ||| (b.toUInt32 <<< 16) ||| (c.toUInt32 <<< 8) ||| d.toUInt32) ::
      wordsOf rest
  | _ => []

/-- Sixteen words at a time. -/
def blocks : Nat → List UInt32 → List (List UInt32)
  | 0, _ => []
  | count + 1, words => words.take 16 :: blocks count (words.drop 16)

/-- The next word of a schedule, given the sixteen last ones, latest first. -/
def nextWord (last : List UInt32) : UInt32 :=
  let two := last.getD 1 0
  let fifteen := last.getD 14 0
  let small0 := rotate fifteen 7 ^^^ rotate fifteen 18 ^^^ (fifteen >>> 3)
  let small1 := rotate two 17 ^^^ rotate two 19 ^^^ (two >>> 10)
  last.getD 15 0 + small0 + last.getD 6 0 + small1

/-- The schedule of a block, latest word first, extended by so many words. -/
def extend : Nat → List UInt32 → List UInt32
  | 0, words => words
  | more + 1, words => extend more (nextWord words :: words)

/-- One round. -/
def round (state : State) (constant word : UInt32) : State :=
  let big1 := rotate state.e 6 ^^^ rotate state.e 11 ^^^ rotate state.e 25
  let choice := (state.e &&& state.f) ^^^ ((~~~state.e) &&& state.g)
  let first := state.h + big1 + choice + constant + word
  let big0 := rotate state.a 2 ^^^ rotate state.a 13 ^^^ rotate state.a 22
  let majority := (state.a &&& state.b) ^^^ (state.a &&& state.c) ^^^ (state.b &&& state.c)
  ⟨first + (big0 + majority), state.a, state.b, state.c, state.d + first, state.e, state.f, state.g⟩

/-- One block mixed into the state. -/
def mix (state : State) (block : List UInt32) : State :=
  let schedule := (extend 48 block.reverse).reverse
  let mixed := (roundConstants.zip schedule).foldl
    (fun state pair => round state pair.1 pair.2) state
  ⟨state.a + mixed.a, state.b + mixed.b, state.c + mixed.c, state.d + mixed.d, state.e + mixed.e,
   state.f + mixed.f, state.g + mixed.g, state.h + mixed.h⟩

/-- The digest of a sequence of bytes in hexadecimal digits. -/
def hexDigest (bytes : List UInt8) : Text :=
  let words := wordsOf (pad bytes)
  let final := (blocks (words.length / 16) words).foldl mix start
  [final.a, final.b, final.c, final.d, final.e, final.f, final.g, final.h].flatMap
    fun word => Text.hex 8 word.toNat

end DesignExport.Digest
