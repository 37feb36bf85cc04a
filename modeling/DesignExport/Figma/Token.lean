/-
# Access tokens

An access token of the design service begins with a fixed mark and is longer
than a fixed number of characters.
-/

import DesignExport.Text.Basic

namespace DesignExport.AccessToken

/-- How every token begins. -/
def mark : Text := "figd_"

/-- A token is longer than this. -/
def leastLength : Nat := 20

/-- Whether a text has the form of a token. -/
def isValid (token : Text) : Bool := mark.isPrefixOf token && decide (leastLength < token.length)

end DesignExport.AccessToken
