/-
# Reading numbers from text

Integers and floating-point numbers are read with blanks around them, decimal
digits of any script, and single underscores between digits. The information
separators are not blanks here. An integer has at most 4300 digits.
-/

import DesignExport.Number.Binary64
import DesignExport.Text.Blank
import DesignExport.Text.DecimalDigit
import DesignExport.Text.Quoted

namespace DesignExport

/-- Why a text is not read as a number. -/
inductive NumberError where
  | notAnInteger (given : Text)
  | tooManyDigits (count : Nat)
  | notANumber (given : Text)
deriving DecidableEq

namespace NumberError

/-- The greatest number of digits that is read as an integer. -/
def digitLimit : Nat := 4300

/-- How much of the quoted text a message about an integer shows. -/
def shownLength : Nat := 200

/-- The message of a refusal. -/
def message : NumberError → Text
  | notAnInteger given =>
    "invalid literal for int() with base 10: " ++ (Text.quoted given).take shownLength
  | tooManyDigits count =>
    "Exceeds the limit (" ++ Text.ofNat digitLimit ++
      " digits) for integer string conversion: value has " ++ Text.ofNat count ++
      " digits; use sys.set_int_max_str_digits() to increase the limit"
  | notANumber given => "could not convert string to float: " ++ Text.quoted given

end NumberError

namespace Numeral

/-- A blank around a number. -/
def isBlank (c : Char) : Bool :=
  Text.isBlank c && !(decide (28 ≤ c.toNat) && decide (c.toNat ≤ 31))

/-- A decimal digit beyond ASCII as its ASCII digit; any other character as itself. -/
def asciiDigit (c : Char) : Char :=
  if c.toNat < 128 then c
  else match Text.digitValue? c with
    | some value => Char.ofNat (48 + value)
    | none => c

/-- The text without blanks around it, its digits in ASCII. -/
def core (text : Text) : Text := (Text.stripOf isBlank text).map asciiDigit

/-- A sign in front of a numeral, and the rest. -/
def cutSign : Text → Bool × Text
  | '-' :: rest => (true, rest)
  | '+' :: rest => (false, rest)
  | text => (false, text)

/-- The value of a run of ASCII digits. -/
def value (digits : Text) : Nat :=
  digits.foldl (fun sum digit => sum * 10 + (digit.toNat - 48)) 0

/-- Whether every underscore stands between two digits. `afterDigit` says whether
the character in front is a digit. -/
def underscoresFit (afterDigit : Bool) : Text → Bool
  | [] => true
  | '_' :: next :: rest => afterDigit && next.isDigit && underscoresFit true rest
  | '_' :: [] => false
  | c :: rest => underscoresFit c.isDigit rest

/-- The text without its underscores. -/
def dropUnderscores (text : Text) : Text := text.filter (· != '_')

/-- The integer that a text shows. -/
def readInt (text : Text) : Except NumberError Int :=
  let signed := cutSign (core text)
  let run := signed.2.takeWhile fun c => c.isDigit || c == '_'
  let digits := dropUnderscores run
  if digits.isEmpty || !underscoresFit false run then .error (.notAnInteger text)
  else if NumberError.digitLimit < digits.length then .error (.tooManyDigits digits.length)
  else if run.length ≠ signed.2.length then .error (.notAnInteger text)
  else .ok (if signed.1 then -(value digits : Int) else value digits)

/-- An exponent mark with a signed exponent, or nothing. -/
def readExponent? : Text → Option Int
  | [] => some 0
  | mark :: rest =>
    let signed := cutSign rest
    if (mark == 'e' || mark == 'E') && !signed.2.isEmpty && signed.2.all Char.isDigit then
      some (if signed.1 then -(value signed.2 : Int) else value signed.2)
    else none

/-- A decimal without a sign: digits around an optional point, at least one, and
an optional exponent. -/
def readDecimal? (text : Text) : Option (Nat × Int) :=
  let whole := text.takeWhile Char.isDigit
  let afterWhole := text.dropWhile Char.isDigit
  let behindPoint := match afterWhole with
    | '.' :: rest => rest
    | _ => []
  let hasPoint := afterWhole.head? == some '.'
  let fraction := behindPoint.takeWhile Char.isDigit
  let tail := if hasPoint then behindPoint.dropWhile Char.isDigit else afterWhole
  if whole.isEmpty && fraction.isEmpty then none
  else (readExponent? tail).map fun exponent =>
    (value (whole ++ fraction), exponent - fraction.length)

/-- The floating-point number that a text shows. -/
def readFloat (text : Text) : Except NumberError Binary64 :=
  let shown := core text
  let signed := cutSign (dropUnderscores shown)
  let word := signed.2.map Char.toLower
  if !underscoresFit false shown then .error (.notANumber text)
  else if word == "inf" || word == "infinity" then .ok (.infinite signed.1)
  else if word == "nan" then .ok .nan
  else match readDecimal? signed.2 with
    | some (digits, exponent) => .ok (Binary64.ofDecimal signed.1 digits exponent)
    | none => .error (.notANumber text)

end Numeral

end DesignExport
