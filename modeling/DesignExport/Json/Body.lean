/-
# JSON as the body of a message

A body is sent in UTF-8, with or without a mark in front. A body whose first
bytes show the zeros of wide units is read in those units instead.
-/

import DesignExport.Json.Reader
import DesignExport.Text.Utf8
import DesignExport.Text.Wide

namespace DesignExport.Json

/-- Why a body is not read: its bytes are no text, or its text is not JSON. -/
inductive BodyError where
  | encoding (error : Text.WideError)
  | text (error : ReadError) (read : Text)
deriving DecidableEq

/-- The message of a refusal. -/
def BodyError.message : BodyError → Text
  | encoding error => error.message
  | .text error read => error.message read

/-- The text without one byte order mark in front. -/
def dropMark : Text → Text
  | c :: rest => if c.toNat = 0xFEFF then rest else c :: rest
  | [] => []

/-- The text of a body. -/
def bodyText (body : Text) : Except Text.WideError Text :=
  match Text.WideForm.ofBytes? (Text.utf8 (body.take 4)) with
  | some form => form.decode (Text.utf8 body)
  | none => .ok (dropMark body)

/-- The value that a body shows. -/
def ofBody (body : Text) : Except BodyError Json := do
  let text ← (bodyText body).mapError .encoding
  (read text).mapError fun error => .text error text

end DesignExport.Json
