/-
# Words outside a vocabulary

Layouts, categories, job types and job states are named by fixed words. A word
that names none of them is refused with the vocabulary and the word.
-/

import DesignExport.Text.Quoted

namespace DesignExport

/-- A word that a vocabulary does not have. -/
structure UnknownName where
  vocabulary : Text
  given : Text
deriving DecidableEq

/-- The message of the refusal. -/
def UnknownName.message (unknown : UnknownName) : Text :=
  Text.quoted unknown.given ++ " is not a valid " ++ unknown.vocabulary

end DesignExport
