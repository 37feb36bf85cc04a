/-
# Percent escapes

In URLs a percent sign and two hexadecimal digits stand for a byte; all other
characters stand for their bytes in UTF-8. In forms a plus sign stands for a
space. Bytes that are no UTF-8 read as replacement characters.
-/

import DesignExport.Text.Hexadecimal
import DesignExport.Text.Utf8

namespace DesignExport.Text

/-- The bytes that a text with percent escapes stands for. -/
def percentBytes : Text → List UInt8
  | '%' :: high :: low :: rest =>
    match hexValue? high, hexValue? low with
    | some h, some l => (h * 16 + l).toUInt8 :: percentBytes rest
    | _, _ => utf8Char '%' ++ percentBytes (high :: low :: rest)
  | c :: rest => utf8Char c ++ percentBytes rest
  | [] => []

/-- The text that a part of a URL stands for. -/
def percentDecode (text : Text) : Text := decodeUtf8Replacing (percentBytes text)

/-- The text that a part of a form stands for. -/
def formDecode (text : Text) : Text :=
  percentDecode (text.map fun c => if c = '+' then ' ' else c)

/-- A byte as a percent escape with upper-case digits. -/
def percentByte (byte : UInt8) : Text := '%' :: (hex 2 byte.toNat).map Char.toUpper

/-- A text with percent escapes for all characters but those of the class `keep`. -/
def percentEncode (keep : Char → Bool) (text : Text) : Text :=
  text.flatMap fun c => if keep c then [c] else (utf8Char c).flatMap percentByte

end DesignExport.Text
