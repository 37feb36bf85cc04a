/-
# Blanks

The white space of Unicode, together with the four information separators
U+001C to U+001F. Zero-width characters such as U+200B and U+FEFF are not
blank. Trimming and splitting into words are defined by this class.
-/

import DesignExport.Text.Basic

namespace DesignExport.Text

/-- White space: a line or paragraph break, a tab, an information separator or
a space of any width above zero. -/
def isBlank (c : Char) : Bool :=
  let n := c.toNat
  (9 ≤ n && n ≤ 13) || (28 ≤ n && n ≤ 32) || n == 0x85 || n == 0xA0 || n == 0x1680 ||
    (0x2000 ≤ n && n ≤ 0x200A) || n == 0x2028 || n == 0x2029 || n == 0x202F ||
    n == 0x205F || n == 0x3000

/-- The text without leading and trailing blanks. -/
def trim (text : Text) : Text := stripOf isBlank text

/-- Whether the text holds nothing but blanks. -/
def allBlank (text : Text) : Bool := text.all isBlank

/-- The maximal runs of characters that are not blank, in order. -/
def words (text : Text) : List Text :=
  let state := text.foldr
    (fun c (state : Text × List Text) =>
      if isBlank c then
        ([], if state.1.isEmpty then state.2 else state.1 :: state.2)
      else (c :: state.1, state.2))
    ([], [])
  if state.1.isEmpty then state.2 else state.1 :: state.2

end DesignExport.Text
