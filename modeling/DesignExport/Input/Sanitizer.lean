/-
# Removing injection vectors

Five patterns are erased from CSS text, one after the other and each once:
script elements, the script scheme, expressions, behaviours and imports. Case
does not matter, and two letters also stand for relatives beyond ASCII.
-/

import DesignExport.Scan
import DesignExport.Text.Blank
import DesignExport.Text.Charset

namespace DesignExport.Sanitizer

/-- Whether a character is the given lower-case letter in any case. The letter i
also has a capital with a dot and a small form without one, and the letter s
also has a long form. -/
def isLetter (letter c : Char) : Bool :=
  c.toLower == letter ||
    (letter == 'i' && (c.toNat == 0x130 || c.toNat == 0x131)) ||
    (letter == 's' && c.toNat == 0x17F)

/-- Whether the text begins with the word in any case. -/
def beginsWith : Text → Text → Bool
  | [], _ => true
  | _ :: _, [] => false
  | letter :: word, c :: rest => isLetter letter c && beginsWith word rest

/-- A word in any case. -/
def word (letters : Text) : Pattern Unit := fun text =>
  if beginsWith letters text then some ((), letters.length) else none

/-- A word in any case, blanks, and a mark. -/
def wordThen (letters : Text) (mark : Char) : Pattern Unit := fun text =>
  if beginsWith letters text then
    let blanks := (text.drop letters.length).takeWhile Text.isBlank
    if ((text.drop letters.length).drop blanks.length).head? = some mark then
      some ((), letters.length + blanks.length + 1)
    else none
  else none

/-- A script element, from its opening tag to the nearest closing tag. -/
def scriptElement : Pattern Unit := fun text =>
  if beginsWith "<script" text then
    let attributes := (text.drop 7).takeWhile (· != '>')
    match (text.drop 7).dropWhile (· != '>') with
    | _ :: inside =>
      (Text.seek (beginsWith "</script>") inside).map fun length =>
        ((), attributes.length + length + 17)
    | [] => none
  else none

/-- The patterns, in the order in which they are erased. -/
def patterns : List (Pattern Unit) :=
  [scriptElement, word "javascript:", wordThen "expression" '(', wordThen "behavior" ':',
   word "@import"]

/-- The text without the patterns, trimmed. -/
def sanitize (text : Text) : Text :=
  Text.trim (patterns.foldl (fun left pattern => pattern.erase left) text)

/-- The codes outside the matches of a pattern. -/
def eraseCodes (codes : List Nat) (pattern : Pattern Unit) : List Nat :=
  pattern.keptBeside 0 (codes.map Text.charOfCode) codes

/-- The codes of a text with halves of characters that are left of it. -/
def sanitizeCodes (codes : List Nat) : List Nat :=
  let drop := fun code => Text.isBlank (Text.charOfCode code)
  (((patterns.foldl eraseCodes codes).dropWhile drop).reverse.dropWhile drop).reverse

end DesignExport.Sanitizer
