/-
# Terminal codes

A control sequence begins with an escape character and a bracket; parameters,
marks and a final character follow. Text that is not shown on a terminal goes
without them.
-/

import DesignExport.Scan

namespace DesignExport.Text

/-- Whether the code of a character lies between two codes. -/
def isBetween (low high : Nat) (c : Char) : Bool :=
  decide (low ≤ c.toNat) && decide (c.toNat ≤ high)

/-- A control sequence. -/
def controlSequence : Pattern Unit
  | '\x1b' :: '[' :: rest =>
    let parameters := rest.takeWhile (isBetween 0x30 0x3F)
    let behind := rest.dropWhile (isBetween 0x30 0x3F)
    let marks := behind.takeWhile (isBetween 0x20 0x2F)
    match behind.dropWhile (isBetween 0x20 0x2F) with
    | c :: _ =>
      if isBetween 0x40 0x7E c then some ((), parameters.length + marks.length + 3) else none
    | [] => none
  | _ => none

/-- The text without its control sequences. -/
def withoutCodes (text : Text) : Text := controlSequence.erase text

end DesignExport.Text
