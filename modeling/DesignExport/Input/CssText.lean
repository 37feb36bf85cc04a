/-
# Checking CSS input

Input is usable when it is a text that is not blank, not longer than a limit,
and has as many opening as closing braces. The three checks are made in this
order and the first that fails is reported.
-/

import DesignExport.Fault.Basic
import DesignExport.Text.Blank

namespace DesignExport

/-- Why CSS input is refused. -/
inductive CssRefusal where
  | missing
  | tooLong (limit : Int) (length : Nat)
  | unbalanced (opening closing : Nat)
deriving DecidableEq

namespace CssRefusal

/-- The fault of a refusal. -/
def fault : CssRefusal → Fault
  | missing => Fault.make .validation "CSS code is required" { code := "VALIDATION_EMPTY_CSS" }
  | tooLong limit length =>
    Fault.make .validation
      ("CSS code exceeds the " ++ Text.ofInt limit ++ " character limit")
      { code := "VALIDATION_CSS_TOO_LARGE", context := [("length", .int length)] }
  | unbalanced opening closing =>
    Fault.make .validation
      ("Mismatched braces: " ++ Text.ofNat opening ++ " '\x7b' vs " ++ Text.ofNat closing ++
        " '\x7d'")
      { code := "VALIDATION_UNBALANCED_BRACES"
        context := [("opening", .int opening), ("closing", .int closing)] }

end CssRefusal

namespace CssText

/-- The greatest length where no other is set. -/
def defaultLimit : Int := 500000

/-- The checks of a text. -/
def checkText (limit : Int) (text : Text) : Except CssRefusal Text :=
  if Text.allBlank text then .error .missing
  else if limit < text.length then .error (.tooLong limit text.length)
  else
    let opening := text.count '\x7b'
    let closing := text.count '\x7d'
    if opening = closing then .ok text else .error (.unbalanced opening closing)

/-- The checks of any value; only a text can pass. Halves of characters in it
read as replacement characters, which changes neither its length nor its braces,
and blank is neither the one nor the other. -/
def check (limit : Int) : Json → Except CssRefusal Text
  | .text text => checkText limit text
  | .broken codes => checkText limit (codes.map Text.charOfCode)
  | _ => .error .missing

end CssText

end DesignExport
