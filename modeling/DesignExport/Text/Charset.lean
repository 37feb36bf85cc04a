/-
# Charsets

A text is encoded only if its charset has all of its characters. ASCII has the
first 128. UTF-8 has all but the codes that are halves of a pair of units: no
character stands for a half, but an escape can name one. What cannot be encoded
is reported with the first run of missing codes. Two halves of one character can
also stand next to each other without being the character.
-/

import DesignExport.Text.Hexadecimal

namespace DesignExport.Text

/-- Whether a code is half of a pair of units. -/
def isHalf (code : Nat) : Bool := decide (0xD800 ≤ code) && decide (code < 0xE000)

/-- The character of a code; a half has the replacement character. -/
def charOfCode (code : Nat) : Char :=
  if isHalf code then Char.ofNat 0xFFFD else Char.ofNat code

/-- A code as an escape. -/
def escapedCode (code : Nat) : Text :=
  if code < 0x100 then "\\x" ++ hex 2 code
  else if code < 0x10000 then "\\u" ++ hex 4 code
  else "\\U" ++ hex 8 code

/-- What texts are encoded in. -/
inductive Charset where
  | ascii
  | utf8
deriving DecidableEq

namespace Charset

/-- The name of a charset. -/
def name : Charset → Text
  | ascii => "ascii"
  | utf8 => "utf-8"

/-- Whether a charset has the character of a code. -/
def has : Charset → Nat → Bool
  | ascii, code => decide (code < 128)
  | utf8, code => !isHalf code

/-- Why codes are missing in a charset. -/
def reason : Charset → Text
  | ascii => "ordinal not in range(128)"
  | utf8 => "surrogates not allowed"

end Charset

/-- The first run of codes that a charset does not have: its first code, the
offset of that code, and the length of the run. -/
structure CharsetError where
  charset : Charset
  first : Nat
  offset : Nat
  length : Nat
deriving DecidableEq

/-- The message of a refusal. -/
def CharsetError.message (error : CharsetError) : Text :=
  let place : Text :=
    if error.length = 1 then
      "character '" ++ escapedCode error.first ++ "' in position " ++ ofNat error.offset
    else
      "characters in position " ++ ofNat error.offset ++ "-" ++
        ofNat (error.offset + error.length - 1)
  "'" ++ error.charset.name ++ "' codec can't encode " ++ place ++ ": " ++ error.charset.reason

/-- Whether a charset has all codes of a text. -/
def Charset.check (charset : Charset) (codes : List Nat) : Except CharsetError Unit :=
  match codes.dropWhile charset.has with
  | [] => .ok ()
  | first :: rest =>
    .error
      { charset := charset
        first := first
        offset := codes.length - (first :: rest).length
        length := ((first :: rest).takeWhile fun code => !charset.has code).length }

/-- The codes of a text. -/
def codes (text : Text) : List Nat := text.map Char.toNat

/-- The text of codes, if a character stands for each of them. -/
def ofCodes (codes : List Nat) : Except CharsetError Text := do
  Charset.utf8.check codes
  pure (codes.map Char.ofNat)

/-- Codes with the character in place of its halves, where the second half comes right
behind the first. -/
def joinHalves : List Nat → List Nat
  | high :: low :: rest =>
    if 0xD800 ≤ high && high ≤ 0xDBFF && 0xDC00 ≤ low && low ≤ 0xDFFF then
      (0x10000 + (high - 0xD800) * 0x400 + (low - 0xDC00)) :: joinHalves rest
    else high :: joinHalves (low :: rest)
  | codes => codes

end DesignExport.Text
