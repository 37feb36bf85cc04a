/-
# JSON values

Integers of any size are kept apart from floating-point numbers, and an object
keeps its members in the order in which their names came. Accessors answer
with nothing where a value has another shape.
-/

import DesignExport.Keyed
import DesignExport.Number.Binary64
import DesignExport.Text.Charset

namespace DesignExport

/-- A JSON value. -/
inductive Json where
  | null
  | bool (value : Bool)
  | int (value : Int)
  | float (value : Binary64)
  | text (value : Text)
  /-- A text in which halves of characters stand alone, by its codes. -/
  | broken (codes : List Nat)
  | array (items : List Json)
  | object (members : List (Text × Json))

namespace Json

/-- Values that count as not given: null, false, a zero, and everything empty. -/
def isFalsy : Json → Bool
  | null => true
  | bool value => !value
  | int value => value == 0
  | float (.finite _ significand _) => significand == 0
  | float _ => false
  | text value => value.isEmpty
  | broken codes => codes.isEmpty
  | array items => items.isEmpty
  | object members => members.isEmpty

/-- The text of a text value. -/
def text? : Json → Option Text
  | text value => some value
  | _ => none

/-- The text of codes, among which there may be halves of characters. -/
def ofCodes (codes : List Nat) : Json :=
  if codes.any Text.isHalf then broken codes else text (codes.map Char.ofNat)

/-- The member of an object under a name. -/
def member? (name : Text) : Json → Option Json
  | object members => Keyed.get? name members
  | _ => none

/-- The member under a name; null where there is none. -/
def memberOrNull (name : Text) (value : Json) : Json := (member? name value).getD null

/-- A list of texts. -/
def ofTexts (texts : List Text) : Json := array (texts.map text)

/-- An optional text, null when it is absent. -/
def ofText? : Option Text → Json
  | some value => text value
  | none => null

/-- A text, null when it is empty. -/
def ofNonEmpty (value : Text) : Json := if value.isEmpty then null else text value

end Json

end DesignExport
