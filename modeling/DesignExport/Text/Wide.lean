/-
# Wide units

A text may be encoded in units of two or of four bytes, with the great or the
small end first. In units of two bytes a character beyond the first plane takes
two units; a unit that is half of such a pair, but has no other half, reads as
the replacement character.
-/

import DesignExport.Text.Charset

namespace DesignExport.Text

/-- The size of a unit, and whether its great end comes first. -/
structure WideForm where
  isLong : Bool
  isGreatFirst : Bool
deriving DecidableEq

/-- The name of a form. -/
def WideForm.name (form : WideForm) : Text :=
  (if form.isLong then "utf-32" else "utf-16") ++ (if form.isGreatFirst then "-be" else "-le")

/-- The form that the zeros among the first bytes of an ASCII text show. Three
bytes show none. -/
def WideForm.ofBytes? : List UInt8 → Option WideForm
  | 0 :: 0 :: _ :: _ :: _ => some ⟨true, true⟩
  | 0 :: _ :: _ :: _ :: _ => some ⟨false, true⟩
  | _ :: 0 :: 0 :: 0 :: _ => some ⟨true, false⟩
  | _ :: 0 :: _ :: _ :: _ => some ⟨false, false⟩
  | [0, _] => some ⟨false, true⟩
  | [_, 0] => some ⟨false, false⟩
  | _ => none

/-- What is wrong with a unit. -/
inductive WideFlaw where
  | cutOff
  | noCharacter
deriving DecidableEq

/-- The words for a flaw. -/
def WideFlaw.message : WideFlaw → Text
  | cutOff => "truncated data"
  | noCharacter => "code point not in range(0x110000)"

/-- The first unit that is no character: its flaw, its bytes and their offset. -/
structure WideError where
  form : WideForm
  flaw : WideFlaw
  bytes : List UInt8
  offset : Nat
deriving DecidableEq

/-- The message of a refusal. -/
def WideError.message (error : WideError) : Text :=
  let place : Text :=
    match error.bytes with
    | [byte] => "byte 0x" ++ hex 2 byte.toNat ++ " in position " ++ ofNat error.offset
    | bytes =>
      "bytes in position " ++ ofNat error.offset ++ "-" ++
        ofNat (error.offset + bytes.length - 1)
  "'" ++ error.form.name ++ "' codec can't decode " ++ place ++ ": " ++ error.flaw.message

/-- The units of two bytes, and the bytes left over. -/
def shortUnits : List UInt8 → List (List UInt8) × List UInt8
  | a :: b :: rest =>
    let found := shortUnits rest
    ([a, b] :: found.1, found.2)
  | rest => ([], rest)

/-- The units of four bytes, and the bytes left over. -/
def longUnits : List UInt8 → List (List UInt8) × List UInt8
  | a :: b :: c :: d :: rest =>
    let found := longUnits rest
    ([a, b, c, d] :: found.1, found.2)
  | rest => ([], rest)

/-- The units of a form, and the bytes left over. -/
def WideForm.units (form : WideForm) (bytes : List UInt8) : List (List UInt8) × List UInt8 :=
  if form.isLong then longUnits bytes else shortUnits bytes

/-- The number that a unit shows. -/
def WideForm.number (form : WideForm) (unit : List UInt8) : Nat :=
  (if form.isGreatFirst then unit else unit.reverse).foldl
    (fun sum byte => sum * 256 + byte.toNat) 0

/-- The text of numbers, with pairs joined. -/
def ofUnits : List Nat → Text
  | first :: second :: rest =>
    if 0xD800 ≤ first && first < 0xDC00 && 0xDC00 ≤ second && second < 0xE000 then
      Char.ofNat (0x10000 + (first - 0xD800) * 0x400 + (second - 0xDC00)) :: ofUnits rest
    else charOfCode first :: ofUnits (second :: rest)
  | [last] => [charOfCode last]
  | [] => []

/-- The text of a sequence of bytes. -/
def WideForm.decode (form : WideForm) (bytes : List UInt8) : Except WideError Text :=
  let found := form.units bytes
  let numbers := found.1.map form.number
  match numbers.findIdx? fun n => decide (0x10FFFF < n) with
  | some index => .error ⟨form, .noCharacter, (bytes.drop (4 * index)).take 4, 4 * index⟩
  | none =>
    match found.2 with
    | [] => .ok (if form.isLong then numbers.map charOfCode else ofUnits numbers)
    | left => .error ⟨form, .cutOff, left, bytes.length - left.length⟩

end DesignExport.Text
