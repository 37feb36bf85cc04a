/-
# Punycode

A label with characters beyond ASCII has an ASCII form: its ASCII characters,
a hyphen if there are any, and then numbers that tell which other characters
stand where. The other characters come in increasing order; a number counts the
steps from one insertion to the next, over all places of the label and all
characters between. Numbers are written in letters and digits, the least first,
with a last digit below a threshold that adapts to the numbers before.
-/

import DesignExport.Text.Basic

namespace DesignExport.Text.Punycode

/-- A digit below thirty-six: letters, then decimal digits. -/
def digit (n : Nat) : Char := Char.ofNat (if n < 26 then 97 + n else 22 + n)

/-- The threshold of the digit at a place, which counts in steps of thirty-six. -/
def threshold (place bias : Nat) : Nat :=
  if place ≤ bias then 1 else if bias + 26 ≤ place then 26 else place - bias

/-- A threshold is at least one and at most twenty-six. -/
theorem threshold_bounds (place bias : Nat) :
    1 ≤ threshold place bias ∧ threshold place bias ≤ 26 := by
  unfold threshold
  split
  · omega
  · split <;> omega

/-- A number in digits, from a place on. -/
def digits (bias place n : Nat) : Text :=
  let least := threshold place bias
  if n < least then [digit n]
  else
    digit (least + (n - least) % (36 - least)) ::
      digits bias (place + 36) ((n - least) / (36 - least))
termination_by n
decreasing_by
  have bounds := threshold_bounds place bias
  have shrinks := Nat.div_le_self (n - threshold place bias) (36 - threshold place bias)
  omega

/-- Divide a number down to what one digit tells apart; every division adds
thirty-six to the bias. -/
def settle (bias n : Nat) : Nat :=
  if n ≤ 455 then bias + 36 * n / (n + 38) else settle (bias + 36) (n / 35)
termination_by n
decreasing_by exact Nat.div_lt_self (by omega) (by omega)

/-- The bias after a number, when so many characters stand; the first number of
a label counts less. -/
def adapt (isFirst : Bool) (count n : Nat) : Nat :=
  let share := if isFirst then n / 700 else n / 2
  settle 0 (share + share / count)

/-- What is known while numbers are written: the text so far, the steps since
the last insertion, the bias, and how many characters stand. -/
structure Progress where
  text : Text
  steps : Nat
  bias : Nat
  standing : Nat

/-- Pass one place of the label while a character is inserted; `basic` tells how
many characters stood at first. -/
def pass (basic : Nat) (inserted : Nat) (progress : Progress) (c : Char) : Progress :=
  if c.toNat < inserted then { progress with steps := progress.steps + 1 }
  else if c.toNat = inserted then
    { text := progress.text ++ digits progress.bias 36 progress.steps
      steps := 0
      bias := adapt (progress.standing == basic) (progress.standing + 1) progress.steps
      standing := progress.standing + 1 }
  else progress

/-- Insert characters in increasing order, from the least that may come. -/
def insertAll (label : Text) (basic : Nat) (least : Nat) (progress : Progress) :
    List Nat → Progress
  | [] => progress
  | next :: more =>
    let skipped :=
      { progress with steps := progress.steps + (next - least) * (progress.standing + 1) }
    let passed := label.foldl (pass basic next) skipped
    insertAll label basic (next + 1) { passed with steps := passed.steps + 1 } more

/-- Put a number into an increasing list without repeating it. -/
def insertOnce (n : Nat) : List Nat → List Nat
  | [] => [n]
  | m :: more =>
    if n < m then n :: m :: more
    else if n = m then m :: more
    else m :: insertOnce n more

/-- Whether a character is one of ASCII. -/
def isBasic (c : Char) : Bool := decide (c.toNat < 128)

/-- The ASCII form of a label. -/
def encode (label : Text) : Text :=
  let basic := label.filter isBasic
  let others := ((label.filter fun c => !isBasic c).map Char.toNat).foldr insertOnce []
  let start : Progress := { text := [], steps := 0, bias := 72, standing := basic.length }
  basic ++ (if basic.isEmpty then [] else ['-']) ++
    (insertAll label basic.length 128 start others).text

end DesignExport.Text.Punycode
