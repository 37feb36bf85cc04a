/-
# Design documents

A document is listed by its name and its pages, each with its name and the
number of its frames. The listing goes on until a part does not have the shape
that is needed, or has a name that cannot be shown.
-/

import DesignExport.Json.Printer
import DesignExport.Text.Terminal

namespace DesignExport

/-- The word for the shape of a value in messages. -/
def Json.shape : Json → Text
  | .null => "NoneType"
  | .bool _ => "bool"
  | .int _ => "int"
  | .float _ => "float"
  | .text _ | .broken _ => "str"
  | .array _ => "list"
  | .object _ => "dict"

/-- The codes of a value inside a line: a text as it is, anything else as in
messages. -/
def Json.plain : Json → List Nat
  | .text value => value.map Char.toNat
  | .broken codes => codes
  | value => value.display.map Char.toNat

namespace Figma

/-- The part of a document that does not have the shape that is needed. -/
inductive DocumentError where
  | noMembers (shape : Text)
  | noLength (shape : Text)
  | notShown (error : Text.CharsetError)
deriving DecidableEq

/-- The message of an error. -/
def DocumentError.message : DocumentError → Text
  | noMembers shape => "'" ++ shape ++ "' object has no attribute 'get'"
  | noLength shape => "object of type '" ++ shape ++ "' has no len()"
  | notShown error => error.message

/-- The line that begins with a title, shows a value and ends with a remark. -/
def lineOf (title : Text) (value : Json) (remark : Text) : Except DocumentError Text :=
  let codes := title.map Char.toNat ++ value.plain ++ remark.map Char.toNat
  match Text.Charset.check .utf8 codes with
  | .ok () => .ok (codes.map Char.ofNat)
  | .error error => .error (.notShown { error with offset := error.offset - hidden error codes })
where
  /-- How many characters in front of an error are not shown. -/
  hidden (error : Text.CharsetError) (codes : List Nat) : Nat :=
    let front := (codes.take error.offset).map Char.ofNat
    front.length - (Text.withoutCodes front).length

/-- The member of an object under a name, or a default. -/
def memberOr (name : Text) (byDefault : Json) : Json → Except DocumentError Json
  | .object members => .ok ((Keyed.get? name members).getD byDefault)
  | value => .error (.noMembers value.shape)

/-- The parts of a value: items, names of members, or characters. -/
def partsOf : Json → Except DocumentError (List Json)
  | .array items => .ok items
  | .object members => .ok (members.map fun member => .text member.1)
  | .text value => .ok (value.map fun c => .text [c])
  | .broken codes => .ok (codes.map fun code => .ofCodes [code])
  | value => .error (.noLength value.shape)

/-- The line of a page. -/
def pageLine (page : Json) : Except DocumentError Text := do
  let name ← memberOr "name" (.text "?") page
  let frames ← partsOf (← memberOr "children" (.array []) page)
  lineOf "  " name (" (" ++ Text.ofNat frames.length ++ " frames)")

/-- Lines up to the first that cannot be made, and why it cannot. -/
def linesUntil {α : Type} (line : α → Except DocumentError Text) :
    List α → List Text × Option DocumentError
  | [] => ([], none)
  | part :: rest =>
    match line part with
    | .error error => ([], some error)
    | .ok text =>
      let others := linesUntil line rest
      (text :: others.1, others.2)

/-- The pages of a document. -/
def pagesOf (document : Json) : Except DocumentError (List Json) := do
  let tree ← memberOr "document" (.object []) document
  partsOf (← memberOr "children" (.array []) tree)

/-- The listing of a document; the file identifier stands in for a name. -/
def listing (fileId : Text) (document : Json) : List Text × Option DocumentError :=
  let title := (memberOr "name" (.text fileId) document).bind fun name => lineOf "File: " name []
  match title with
  | .error error => ([], some error)
  | .ok title =>
    match pagesOf document with
    | .error error => ([title], some error)
    | .ok pages =>
      let lines := linesUntil pageLine pages
      (title :: ("Pages (" ++ Text.ofNat pages.length ++ "):") :: lines.1, lines.2)

end Figma

end DesignExport
