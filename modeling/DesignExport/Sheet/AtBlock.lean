/-
# At-blocks and variables

Media blocks and animations are kept verbatim. Both have a body that holds
groups in braces; inside a group, the next closing brace ends it. A block that
is cut off before its closing brace is left out. Variables are found anywhere
in the text, also inside rules.
-/

import DesignExport.Scan
import DesignExport.Sheet.Basic
import DesignExport.Text.Blank
import DesignExport.Text.WordChar

namespace DesignExport.AtBlock

/-- How many characters a body has, with the brace that closes it. `inGroup` says
whether a group of the body is open; in a group only a closing brace counts. -/
def bodyLength? (inGroup : Bool) : Text → Option Nat
  | [] => none
  | c :: rest =>
    if inGroup then (bodyLength? (c != '}') rest).map (· + 1)
    else if c = '}' then some 1
    else (bodyLength? (c == '{') rest).map (· + 1)

/-- How many characters a media block has: the keyword, a condition in
parentheses that is not empty, and a body in braces, with blanks between. -/
def mediaLength? (text : Text) : Option Nat :=
  if ("@media" : Text).isPrefixOf text then
    let blanks := (text.drop 6).takeWhile Text.isBlank
    match (text.drop 6).dropWhile Text.isBlank with
    | '(' :: inside =>
      let condition := inside.takeWhile (· != ')')
      match condition, inside.dropWhile (· != ')') with
      | _ :: _, _ :: after =>
        let gap := after.takeWhile Text.isBlank
        match after.dropWhile Text.isBlank with
        | '{' :: body =>
          (bodyLength? false body).map fun length =>
            blanks.length + condition.length + gap.length + length + 9
        | _ => none
      | _, _ => none
    | _ => none
  else none

/-- A media block, with its verbatim text. -/
def media : Pattern Text := fun text =>
  (mediaLength? text).map fun length => (text.take length, length)

/-- The media blocks of a text. -/
def mediaBlocks (text : Text) : List Text := media.all text

/-- An animation, with its verbatim text: the keyword, a blank, at least one more
character up to the opening brace, and a body in braces. -/
def keyframes : Pattern Animation := fun text =>
  if ("@keyframes" : Text).isPrefixOf text then
    let heading := (text.drop 10).takeWhile (· != '{')
    match heading, (text.drop 10).dropWhile (· != '{') with
    | blank :: _ :: _, _ :: body =>
      if Text.isBlank blank then
        (bodyLength? false body).map fun length =>
          (⟨Text.trim heading, text.take (heading.length + length + 11)⟩,
            heading.length + length + 11)
      else none
    | _, _ => none
  else none

/-- The animations of a text. -/
def animations (text : Text) : List Animation := keyframes.all text

/-- A character of a variable's name. -/
def isNameChar (c : Char) : Bool := Text.isWordChar c || c == '-'

/-- A variable: two dashes, a name, a colon, and a value up to the next
semicolon, however far that is. -/
def variableDeclaration : Pattern CustomProperty
  | '-' :: '-' :: rest =>
    let name := rest.takeWhile isNameChar
    match name, rest.dropWhile isNameChar with
    | _ :: _, ':' :: after =>
      let value := after.takeWhile (· != ';')
      match value, after.dropWhile (· != ';') with
      | _ :: _, _ :: _ => some (⟨name, Text.trim value⟩, name.length + value.length + 4)
      | _, _ => none
    | _, _ => none
  | _ => none

/-- The variables of a text, also those inside rules. -/
def customProperties (text : Text) : List CustomProperty := variableDeclaration.all text

end DesignExport.AtBlock
