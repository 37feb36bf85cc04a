/-
# Hexadecimal digits

Numbers are written in lower-case digits, and digits of both cases are read.
-/

import DesignExport.Text.Basic

namespace DesignExport.Text

/-- A number in lower-case hexadecimal digits, padded with zeros to a width. -/
def hex (width n : Nat) : Text :=
  let digits := Nat.toDigits 16 n
  List.replicate (width - digits.length) '0' ++ digits

/-- The value of a hexadecimal digit. -/
def hexValue? (c : Char) : Option Nat :=
  if c.isDigit then some (c.toNat - 48)
  else if 'a' ≤ c && c ≤ 'f' then some (c.toNat - 87)
  else if 'A' ≤ c && c ≤ 'F' then some (c.toNat - 55)
  else none

end DesignExport.Text
