/-
# Naming a component

The name comes from the first label comment that says something about the
component, else from the first class name, else it is a default. Labels are
cut down to ASCII letters and digits that begin with a letter, so a name from
a comment is always an identifier.
-/

import DesignExport.Scan
import DesignExport.Text.Blank

namespace DesignExport.ComponentName

/-- The name of a component that nothing names. -/
def fallback : Text := "FigmaButton"

/-- A comment that can name a component. Its inside holds no star and, once
trimmed, no line break; the value is the trimmed inside. Blanks alone count
when they are more than line breaks. -/
def comment : Pattern Text
  | '/' :: '*' :: rest =>
    let inside := rest.takeWhile (· != '*')
    match rest.dropWhile (· != '*') with
    | '*' :: '/' :: _ =>
      let label := Text.trim inside
      if label.isEmpty then
        if inside.any (· != '\n') then some ([], inside.length + 4) else none
      else if label.contains '\n' then none
      else some (label, inside.length + 4)
    | _ => none
  | _ => none

/-- The label as an identifier: its ASCII letters and digits from the first
letter on, that letter in upper case. -/
def identifier (label : Text) : Text :=
  Text.capitalize ((label.filter Char.isAlphanum).dropWhile fun c => !c.isAlpha)

/-- A name made from a text that a user gives: its ASCII letters and digits, a
word in place of a digit in front, in upper case at the start. -/
def ofUserText (text : Text) : Text :=
  let kept : Text := match text.filter Char.isAlphanum with
    | c :: rest => if c.isDigit then "Component" ++ rest else c :: rest
    | [] => []
  Text.orElse (Text.capitalize kept) "FigmaComponent"

/-- Phrases that keep the first comment from naming the component. -/
def firstCommentNoise : List Text :=
  ["Auto layout", "Inside auto layout", "input-light", "depth-light"]

/-- Phrases that keep a later comment from naming the component. -/
def anyCommentNoise : List Text := ["Auto layout", "Inside", "identical"]

/-- A label has fewer characters than this to name a component as a later comment. -/
def labelLimit : Nat := 50

/-- The name that the first comment gives, empty when it gives none. -/
def ofFirstComment (labels : List Text) : Text :=
  match labels with
  | [] => []
  | label :: _ =>
    if label.isEmpty || label == "button" || Text.occursAny firstCommentNoise label then []
    else identifier label

/-- The first name that any comment gives, empty when there is none. -/
def ofAnyComment (labels : List Text) : Text :=
  let names := (labels.filter fun label =>
    !label.isEmpty && decide (label.length < labelLimit) &&
      !Text.occursAny anyCommentNoise label).map identifier
  (names.find? fun name => !name.isEmpty).getD []

/-- A character of a class name. -/
def isClassChar (c : Char) : Bool := c.isAlphanum || c == '-' || c == '_'

/-- A class name behind its dot, beginning with a letter. -/
def className : Pattern Text
  | '.' :: c :: rest =>
    if c.isAlpha then
      let name := c :: rest.takeWhile isClassChar
      some (name, name.length + 1)
    else none
  | _ => none

/-- The first class name with the words between its dashes capitalized and joined. -/
def ofClassName (text : Text) : Text :=
  match className.first? text with
  | none => []
  | some name => ((Text.splitOn '-' name).map Text.capitalize).flatten

/-- The name of the component that a text describes. -/
def ofText (text : Text) : Text :=
  let labels := comment.all text
  Text.orElse (ofFirstComment labels)
    (Text.orElse (ofAnyComment labels) (Text.orElse (ofClassName text) fallback))

end DesignExport.ComponentName
