/-
# UTF-8

Characters are encoded in one to four bytes. Decoding accepts exactly the
shortest encodings of characters; at the first byte sequence that is none it
stops and tells where the sequence begins, how many of its bytes could still
begin a character, and what is wrong with it.
-/

import DesignExport.Text.Quoted

namespace DesignExport.Text

/-- The bytes of one character. -/
def utf8Char (c : Char) : List UInt8 :=
  let n := c.toNat
  if n < 0x80 then [n.toUInt8]
  else if n < 0x800 then [(0xC0 + n / 0x40).toUInt8, (0x80 + n % 0x40).toUInt8]
  else if n < 0x10000 then
    [(0xE0 + n / 0x1000).toUInt8, (0x80 + n / 0x40 % 0x40).toUInt8, (0x80 + n % 0x40).toUInt8]
  else
    [(0xF0 + n / 0x40000).toUInt8, (0x80 + n / 0x1000 % 0x40).toUInt8,
     (0x80 + n / 0x40 % 0x40).toUInt8, (0x80 + n % 0x40).toUInt8]

/-- The bytes of a text. -/
def utf8 (text : Text) : List UInt8 := text.flatMap utf8Char

/-- What is wrong with a sequence of bytes. -/
inductive Utf8Flaw where
  | badStart
  | badContinuation
  | cutOff
deriving DecidableEq

/-- The words for a flaw. -/
def Utf8Flaw.message : Utf8Flaw → Text
  | badStart => "invalid start byte"
  | badContinuation => "invalid continuation byte"
  | cutOff => "unexpected end of data"

/-- The first sequence that is no character: its flaw, its first byte, the
offset of that byte, and how many bytes belong to it. -/
structure Utf8Error where
  flaw : Utf8Flaw
  byte : UInt8
  offset : Nat
  length : Nat
deriving DecidableEq

/-- The message of a refusal. -/
def Utf8Error.message (error : Utf8Error) : Text :=
  let place : Text :=
    if error.length = 1 then
      "byte 0x" ++ hex 2 error.byte.toNat ++ " in position " ++ ofNat error.offset
    else
      "bytes in position " ++ ofNat error.offset ++ "-" ++
        ofNat (error.offset + error.length - 1)
  "'utf-8' codec can't decode " ++ place ++ ": " ++ error.flaw.message

/-- How many bytes continue a character that begins with the byte, and the
bounds of the first of them; nothing if no character begins so. -/
def continuation? (first : Nat) : Option (Nat × Nat × Nat) :=
  if first < 0x80 then some (0, 0, 0)
  else if first < 0xC2 then none
  else if first < 0xE0 then some (1, 0x80, 0xBF)
  else if first = 0xE0 then some (2, 0xA0, 0xBF)
  else if first = 0xED then some (2, 0x80, 0x9F)
  else if first < 0xF0 then some (2, 0x80, 0xBF)
  else if first = 0xF0 then some (3, 0x90, 0xBF)
  else if first < 0xF4 then some (3, 0x80, 0xBF)
  else if first = 0xF4 then some (3, 0x80, 0x8F)
  else none

/-- The bits of the first byte of a character of this length. -/
def leadBits (more first : Nat) : Nat :=
  match more with
  | 0 => first
  | 1 => first % 0x20
  | 2 => first % 0x10
  | _ => first % 0x08

/-- A character being decoded: its first byte with its offset, how many bytes
have come, how many are owed, the bounds of the next, and the bits so far. -/
structure PartialChar where
  first : UInt8
  offset : Nat
  come : Nat
  owed : Nat
  low : Nat
  high : Nat
  bits : Nat

/-- Decode byte by byte, with the character that is not yet complete. -/
def decodeFrom (offset : Nat) (done : Text) :
    Option PartialChar → List UInt8 → Except Utf8Error Text
  | none, [] => .ok done.reverse
  | some part, [] => .error ⟨.cutOff, part.first, part.offset, part.come⟩
  | none, byte :: rest =>
    match continuation? byte.toNat with
    | none => .error ⟨.badStart, byte, offset, 1⟩
    | some (0, _, _) => decodeFrom (offset + 1) (Char.ofNat byte.toNat :: done) none rest
    | some (more, low, high) =>
      decodeFrom (offset + 1) done
        (some ⟨byte, offset, 1, more, low, high, leadBits more byte.toNat⟩) rest
  | some part, byte :: rest =>
    if part.low ≤ byte.toNat && byte.toNat ≤ part.high then
      let bits := part.bits * 0x40 + byte.toNat % 0x40
      if part.owed ≤ 1 then decodeFrom (offset + 1) (Char.ofNat bits :: done) none rest
      else
        decodeFrom (offset + 1) done
          (some ⟨part.first, part.offset, part.come + 1, part.owed - 1, 0x80, 0xBF, bits⟩) rest
    else .error ⟨.badContinuation, part.first, part.offset, part.come⟩

/-- The text of a sequence of bytes. -/
def decodeUtf8 (bytes : List UInt8) : Except Utf8Error Text := decodeFrom 0 [] none bytes

/-- The text of a sequence of bytes, with the replacement character in place of
every sequence that is no character. -/
def decodeUtf8Replacing (bytes : List UInt8) : Text :=
  match bytes with
  | [] => []
  | first :: rest =>
    match decodeUtf8 (first :: rest) with
    | .ok text => text
    | .error error =>
      let good := (decodeUtf8 ((first :: rest).take error.offset)).toOption.getD []
      good ++ Char.ofNat 0xFFFD ::
        decodeUtf8Replacing (rest.drop (error.offset + error.length - 1))
termination_by bytes.length
decreasing_by simp only [List.length_drop, List.length_cons]; omega

end DesignExport.Text
