/-
# Line ends

A line may end with a line feed, a carriage return, or both in this order.
-/

import DesignExport.Text.Basic

namespace DesignExport.Text

/-- The text with every line end written as a line feed. -/
def unifyLines : Text → Text
  | '\r' :: '\n' :: rest => '\n' :: unifyLines rest
  | '\r' :: rest => '\n' :: unifyLines rest
  | c :: rest => c :: unifyLines rest
  | [] => []

end DesignExport.Text
