/-
# Binary floating-point numbers

The numbers of the 64-bit binary format, as a sign, a significand of at most
53 bits and a power of two. Ratios and decimals are rounded to the nearest
number, a tie to the even significand, in exact arithmetic.
-/

namespace DesignExport

/-- A 64-bit binary floating-point number. The finite number is the significand
times two to the exponent, with the sign given apart so that zero has one. -/
inductive Binary64 where
  | nan
  | infinite (negative : Bool)
  | finite (negative : Bool) (significand : Nat) (exponent : Int)
deriving DecidableEq

namespace Binary64

/-- The least exponent of the format. -/
def leastExponent : Int := -1074

/-- The greatest exponent of the format. -/
def greatestExponent : Int := 971

/-- Zero with a sign. -/
def zero (negative : Bool) : Binary64 := finite negative 0 leastExponent

/-- The natural number nearest to a ratio; of two, the even one. -/
def roundRatio (num den : Nat) : Nat :=
  let below := num / den
  let twice := 2 * (num % den)
  if twice < den then below
  else if den < twice then below + 1
  else if below % 2 = 0 then below else below + 1

/-- The least significand of 53 bits. -/
def leastFull : Nat := 0x10000000000000

/-- A ratio divided by two to an exponent. -/
def dividePower (num den : Nat) (exponent : Int) : Nat × Nat :=
  (num <<< (-exponent).toNat, den <<< exponent.toNat)

/-- The exponent at which a positive ratio has a significand of 53 bits, or the
least exponent for ratios too small for that. -/
def exponentOf (num den : Nat) : Int :=
  let guess := (num.log2 : Int) - (den.log2 : Int) - 52
  let scaled := dividePower num den guess
  max leastExponent (if scaled.1 < scaled.2 * leastFull then guess - 1 else guess)

/-- The number nearest to a ratio. -/
def ofRatio (negative : Bool) (num den : Nat) : Binary64 :=
  if num = 0 then zero negative
  else
    let exponent := exponentOf num den
    let scaled := dividePower num den exponent
    let significand := roundRatio scaled.1 scaled.2
    let carried := decide (significand = 2 * leastFull)
    let exponent := if carried then exponent + 1 else exponent
    if greatestExponent < exponent then infinite negative
    else finite negative (if carried then leastFull else significand) exponent

/-- A power of ten. -/
def tenTo (exponent : Nat) : Nat := Nat.pow 10 exponent

/-- The number nearest to `digits` times ten to an exponent. Exponents far out
of the format's range are answered without computing the power. -/
def ofDecimal (negative : Bool) (digits : Nat) (exponent : Int) : Binary64 :=
  if digits = 0 then zero negative
  else if 400 < exponent then infinite negative
  else if exponent < -((digits.log2 : Int) + 400) then zero negative
  else ofRatio negative (digits * tenTo exponent.toNat) (tenTo (-exponent).toNat)

/-- The integer next to a finite number on the side of zero. -/
def truncate (negative : Bool) (significand : Nat) (exponent : Int) : Int :=
  let size := (significand <<< exponent.toNat) >>> (-exponent).toNat
  if negative then -(size : Int) else size

end Binary64

end DesignExport
