/-
# Numeric host addresses

An address of version 4 is four decimal numbers below 256 without leading
zeros. An address of version 6 is eight groups of up to four hexadecimal
digits, where one run of groups may be left out between two colons and the
last two groups may be written as an address of version 4.
-/

import DesignExport.Text.Hexadecimal

namespace DesignExport.Address

/-- A decimal number below 256 without leading zeros. -/
def isOctet (part : Text) : Bool :=
  !part.isEmpty && part.all Char.isDigit && decide (part.length ≤ 3) &&
    (part == "0" || part.head? != some '0') &&
    decide (part.foldl (fun sum digit => sum * 10 + (digit.toNat - 48)) 0 ≤ 255)

/-- An address of version 4. -/
def isVersion4 (text : Text) : Bool :=
  let parts := Text.splitOn '.' text
  parts.length == 4 && parts.all isOctet

/-- A hexadecimal digit. -/
def isHexDigit (c : Char) : Bool := (Text.hexValue? c).isSome

/-- Up to four hexadecimal digits. -/
def isGroup (part : Text) : Bool :=
  !part.isEmpty && decide (part.length ≤ 4) && part.all isHexDigit

/-- The parts between colons, with an address of version 4 at the end taken as
two groups. -/
def groups? (text : Text) : Option (List Text) :=
  let parts := Text.splitOn ':' text
  match parts.getLast? with
  | some last =>
    if last.contains '.' then
      if isVersion4 last then some (parts.dropLast ++ [['0'], ['0']]) else none
    else some parts
  | none => some parts

/-- Groups on one side of the gap; a lone empty part is none. -/
def isSide (side : List Text) : Bool := side == [[]] || side.all isGroup

/-- How many groups a side of the gap holds. -/
def sideLength (side : List Text) : Nat := if side == [[]] then 0 else side.length

/-- Whether the parts form an address: eight groups, or fewer around one gap. -/
def areGroups (parts : List Text) : Bool :=
  let inner := (parts.drop 1).dropLast
  match inner.findIdx? List.isEmpty with
  | none => parts.length == 8 && parts.all isGroup
  | some gap =>
    let front := parts.take (gap + 1)
    let back := parts.drop (gap + 2)
    (inner.filter List.isEmpty).length == 1 && isSide front && isSide back &&
      decide (sideLength front + sideLength back ≤ 7)

/-- The address without a zone, which follows a percent sign and may not be empty. -/
def dropZone? (text : Text) : Option Text :=
  match Text.cut '%' text with
  | (address, none) => some address
  | (address, some zone) => if zone.isEmpty || zone.contains '%' then none else some address

/-- An address of version 6. -/
def isVersion6 (text : Text) : Bool :=
  match dropZone? text with
  | none => false
  | some address =>
    decide (3 ≤ (Text.splitOn ':' address).length) &&
      match groups? address with
      | none => false
      | some parts => decide (parts.length ≤ 9) && areGroups parts

end DesignExport.Address
