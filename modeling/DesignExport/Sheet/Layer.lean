/-
# Layers of a design export

A design tool writes each layer as a comment with the layer's label, followed
by the declarations of that layer. This module finds the label comments, pairs
each with the text up to the next one, and leaves out boilerplate labels and
layers without text.
-/

import DesignExport.Scan
import DesignExport.Text.Blank

namespace DesignExport

/-- A layer's label and the text that belongs to it, both trimmed. -/
structure Layer where
  label : Text
  body : Text
deriving DecidableEq

namespace Layer

/-- A label comment: a comment whose inside is not empty and holds no star. -/
def comment : Pattern Text
  | '/' :: '*' :: rest =>
    match rest.takeWhile (· != '*'), rest.dropWhile (· != '*') with
    | c :: label, '*' :: '/' :: _ => some (c :: label, label.length + 5)
    | _, _ => none
  | _ => none

/-- The boilerplate phrases that a design tool adds to arranged layers. -/
def noisePhrases : List Text := ["Auto layout", "Inside auto layout"]

/-- A label that contains a boilerplate phrase says nothing about the layer. -/
def isNoise (label : Text) : Bool := Text.occursAny noisePhrases label

/-- The layer of a label and the text behind it, unless one of them is blank or
the label is noise. -/
def ofPair? (pair : Text × Text) : Option Layer :=
  let label := Text.trim pair.1
  let body := Text.trim pair.2
  if label.isEmpty || body.isEmpty || isNoise label then none else some ⟨label, body⟩

/-- The layers of a text, in order. -/
def ofText (text : Text) : List Layer := (comment.pieces text).found.filterMap ofPair?

/-- The class name of a label: every character but ASCII letters and digits
becomes a dash, dashes at the ends go, and the rest is in lower case. -/
def className (label : Text) : Text :=
  (Text.stripOf (· == '-') (label.map fun c => if c.isAlphanum then c else '-')).map
    Char.toLower

end Layer

end DesignExport
