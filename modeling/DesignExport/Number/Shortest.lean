/-
# Shortest decimals

The decimal of a finite number is the one with the fewest digits that rounds
back to it, and of those the nearest. A grid of decimals with a given number
of digits has such a decimal only if one of the number's two neighbours on the
grid is one, so two candidates for each number of digits are enough. How the
digits are laid out is a matter of the format that shows them.
-/

import DesignExport.Number.Binary64
import DesignExport.Text.Basic

namespace DesignExport

/-- A number between the ends of the interval that rounds to it, all as
numerators over one denominator. -/
structure RoundingWindow where
  low : Nat
  value : Nat
  high : Nat
  denominator : Nat
  closed : Bool

namespace RoundingWindow

/-- The interval that rounds to a positive finite number. The gap below a power
of two is half as wide, and the ends belong to an even significand. -/
def ofFinite (significand : Nat) (exponent : Int) : RoundingWindow :=
  let scale := 1 <<< exponent.toNat
  let narrow := decide (significand = Binary64.leastFull) && decide (Binary64.leastExponent < exponent)
  { low := (4 * significand - if narrow then 1 else 2) * scale
    value := 4 * significand * scale
    high := (4 * significand + 2) * scale
    denominator := 4 <<< (-exponent).toNat
    closed := significand % 2 == 0 }

/-- How many factors of ten, at most `fuel`, lift a numerator to the denominator. -/
def stepsBelowOne (denominator : Nat) : Nat → Nat → Nat
  | 0, _ => 0
  | fuel + 1, numerator =>
    if denominator ≤ numerator then 0
    else stepsBelowOne denominator fuel (numerator * 10) + 1

/-- The power of ten of the number's first digit. -/
def leadingPower (window : RoundingWindow) : Int :=
  if window.denominator ≤ window.value then
    ((Nat.toDigits 10 (window.value / window.denominator)).length : Int) - 1
  else -(stepsBelowOne window.denominator 400 window.value : Int)

/-- The multiple of ten to `power` that rounds back and is nearest, if there is
one next to the number. -/
def onGrid? (window : RoundingWindow) (power : Int) : Option Nat :=
  let lift := Binary64.tenTo (-power).toNat
  let unit := window.denominator * Binary64.tenTo power.toNat
  let below := window.value * lift / unit
  let inside (candidate : Nat) : Bool :=
    if window.closed then
      decide (window.low * lift ≤ candidate * unit) && decide (candidate * unit ≤ window.high * lift)
    else
      decide (window.low * lift < candidate * unit) && decide (candidate * unit < window.high * lift)
  let doubled := 2 * (window.value * lift)
  let between := below * unit + (below + 1) * unit
  if inside below && inside (below + 1) then
    if doubled < between then some below
    else if between < doubled then some (below + 1)
    else if below % 2 = 0 then some below else some (below + 1)
  else if inside below then some below
  else if inside (below + 1) then some (below + 1)
  else none

end RoundingWindow

/-- A decimal by its digits, without zeros at the end, and the power of ten of
the first digit. -/
structure ShortestDecimal where
  digits : Text
  power : Int
deriving DecidableEq

namespace ShortestDecimal

/-- The digits of a grid point, given the power of ten of its last digit. -/
def ofGrid (point : Nat) (power : Int) : ShortestDecimal :=
  let digits := Nat.toDigits 10 point
  { digits := (digits.reverse.dropWhile (· == '0')).reverse
    power := power + digits.length - 1 }

/-- The shortest decimal of a positive finite number. Seventeen digits always do. -/
def ofFinite (significand : Nat) (exponent : Int) : ShortestDecimal :=
  let window := RoundingWindow.ofFinite significand exponent
  let leading := window.leadingPower
  let found := (List.range 17).findSome? fun (more : Nat) =>
    let power := leading - more
    (window.onGrid? power).map fun point => ofGrid point power
  found.getD ⟨['0'], 0⟩

end ShortestDecimal

/-- How a format shows floating-point numbers. -/
structure FloatStyle where
  /-- Numbers whose first digit has at least this power of ten are written out. -/
  positionalFrom : Int
  /-- Numbers whose first digit has at least this power of ten are not written out. -/
  positionalBelow : Int
  /-- The exponent has at least this many digits. -/
  exponentWidth : Nat
  infinityText : Text
  nanText : Text

namespace FloatStyle

/-- Digits written out around the decimal point, with at least one on each side. -/
def positional (decimal : ShortestDecimal) : Text :=
  let digits := decimal.digits
  if decimal.power < 0 then
    "0." ++ List.replicate (-decimal.power - 1).toNat '0' ++ digits
  else
    let whole := decimal.power.toNat + 1
    let front := digits.take whole ++ List.replicate (whole - digits.length) '0'
    let back := digits.drop whole
    front ++ '.' :: (if back.isEmpty then ['0'] else back)

/-- One digit in front of the point and a signed exponent. -/
def scientific (style : FloatStyle) (decimal : ShortestDecimal) : Text :=
  let size := Text.ofNat decimal.power.natAbs
  let mantissa := match decimal.digits with
    | first :: second :: more => first :: '.' :: second :: more
    | digits => digits
  mantissa ++ 'e' :: (if decimal.power < 0 then '-' else '+') ::
    (List.replicate (style.exponentWidth - size.length) '0' ++ size)

/-- The text of a number in a style. -/
def text (style : FloatStyle) : Binary64 → Text
  | .nan => style.nanText
  | .infinite negative => if negative then '-' :: style.infinityText else style.infinityText
  | .finite negative significand exponent =>
    let unsigned : Text :=
      if significand = 0 then "0.0"
      else
        let decimal := ShortestDecimal.ofFinite significand exponent
        if style.positionalFrom ≤ decimal.power && decimal.power < style.positionalBelow then
          positional decimal
        else scientific style decimal
    if negative then '-' :: unsigned else unsigned

/-- Numbers in messages and settings: written out from 0.0001 up to sixteen
digits in front of the point. -/
def plain : FloatStyle :=
  { positionalFrom := -4, positionalBelow := 16, exponentWidth := 2
    infinityText := "inf", nanText := "nan" }

end FloatStyle

end DesignExport
