/-
# Reading declarations

Two ways to write declarations are read. In a braced rule, declarations end
with a semicolon and may stand on one line. In a layer of a design export,
every line with a colon begins a declaration and lines without one continue
it, which is how long shadows and gradients are wrapped.
-/

import DesignExport.Sheet.Basic
import DesignExport.Text.Blank

namespace DesignExport.Declaration

/-- The declaration of one segment, split at its first colon. A segment without
a colon is none. -/
def ofSegment? (segment : Text) : Option Declaration :=
  match Text.cut ':' segment with
  | (property, some value) => some ⟨Text.trim property, Text.trim value⟩
  | (_, none) => none

/-- The declarations of the body of a braced rule. -/
def ofRuleBody (body : Text) : List Declaration :=
  (Text.splitOn ';' body).filterMap ofSegment?

/-- A trimmed line that belongs to a comment or to a braced rule. -/
def isStructural (line : Text) : Bool :=
  ("/*" : Text).isPrefixOf line || ("*/" : Text).isSuffixOf line ||
    line.contains '{' || line.contains '}'

/-- The value without one semicolon at its end. -/
def dropSemicolon (value : Text) : Text :=
  if value.getLast? = some ';' then value.dropLast else value

/-- The declaration read so far, when it has both a property and a value. -/
def finished (property value : Text) : List Declaration :=
  if property.isEmpty || value.isEmpty then []
  else [⟨Text.trim property, Text.trim (dropSemicolon value)⟩]

/-- Read on line by line, with the declaration that a line may still continue. -/
def ofLines (property value : Text) : List Text → List Declaration
  | [] => finished property value
  | raw :: rest =>
    let line := Text.trim raw
    if line.isEmpty || isStructural line then ofLines property value rest
    else match Text.cut ':' line with
      | (before, some after) =>
        finished property value ++ ofLines (Text.trim before) (Text.trim after) rest
      | (_, none) =>
        if property.isEmpty then ofLines property value rest
        else ofLines property (Text.trim (value ++ ' ' :: line)) rest

/-- The declarations of a layer of a design export. -/
def ofLayerBody (body : Text) : List Declaration := ofLines [] [] (Text.splitOn '\n' body)

end DesignExport.Declaration
