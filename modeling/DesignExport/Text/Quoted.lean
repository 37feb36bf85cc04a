/-
# Quoted text

A text inside quotes, as messages show it. Single quotes are used unless the
text holds a single quote and no double quote. Characters that are not
printable are written by their code in hexadecimal.
-/

import DesignExport.Text.Charset
import DesignExport.Text.Printable

namespace DesignExport.Text

/-- One character inside quotes of the given kind. -/
def quotedChar (quote c : Char) : Text :=
  if c = quote || c = '\\' then ['\\', c]
  else if c = '\n' then "\\n"
  else if c = '\r' then "\\r"
  else if c = '\t' then "\\t"
  else if isPrintable c then [c]
  else escapedCode c.toNat

/-- The quotes around a text. -/
def quoteOf (text : Text) : Char :=
  if text.contains '\'' && !text.contains '"' then '"' else '\''

/-- The text inside quotes. -/
def quoted (text : Text) : Text :=
  let quote := quoteOf text
  quote :: text.flatMap (quotedChar quote) ++ [quote]

/-- A text with halves of characters inside quotes. -/
def quotedCodes (codes : List Nat) : Text :=
  let quote := quoteOf (codes.map charOfCode)
  let inside (code : Nat) : Text :=
    if isHalf code then escapedCode code else quotedChar quote (Char.ofNat code)
  quote :: codes.flatMap inside ++ [quote]

end DesignExport.Text
