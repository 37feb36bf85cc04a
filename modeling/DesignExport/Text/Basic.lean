/-
# Text

A text is a list of characters. Every scan of this library is a recursion on
that list, so lengths and positions count characters and a fact about a scan
is an induction on the text it reads.

Only the ASCII classes of `Char` are used here. The wider classes (blanks,
word characters, decimal digits of any script) have modules of their own.
-/

namespace DesignExport

/-- A text, read character by character. -/
abbrev Text := List Char

instance : Coe String Text := ⟨String.toList⟩

namespace Text

/-- Whether `part` occurs in the text without a gap. -/
def occurs (part : Text) : Text → Bool
  | [] => part.isEmpty
  | c :: rest => part.isPrefixOf (c :: rest) || occurs part rest

/-- Whether one of the parts occurs in the text. -/
def occursAny (parts : List Text) (text : Text) : Bool :=
  parts.any fun part => occurs part text

/-- How many characters stand in front of the first place where `here` holds of
what follows. -/
def seek (here : Text → Bool) : Text → Option Nat
  | [] => if here [] then some 0 else none
  | c :: rest => if here (c :: rest) then some 0 else (seek here rest).map (· + 1)

/-- The text in front of the first `mark`, and what follows that mark when
there is one. -/
def cut (mark : Char) : Text → Text × Option Text
  | [] => ([], none)
  | c :: rest =>
    if c = mark then ([], some rest)
    else
      let found := cut mark rest
      (c :: found.1, found.2)

/-- The pieces between the marks; one piece more than there are marks. -/
def splitOn (mark : Char) (text : Text) : List Text :=
  text.foldr
    (fun c pieces =>
      if c = mark then [] :: pieces
      else match pieces with
        | [] => [[c]]
        | piece :: more => (c :: piece) :: more)
    [[]]

/-- What follows the last character of the class `stop`, or the whole text. -/
def afterLast (stop : Char → Bool) (text : Text) : Text :=
  (text.reverse.takeWhile fun c => !stop c).reverse

/-- The text without leading and trailing characters of the class `drop`. -/
def stripOf (drop : Char → Bool) (text : Text) : Text :=
  ((text.dropWhile drop).reverse.dropWhile drop).reverse

/-- The text with its first character in ASCII upper case. -/
def capitalize : Text → Text
  | [] => []
  | c :: rest => c.toUpper :: rest

/-- A natural number in decimal digits. -/
def ofNat (n : Nat) : Text := Nat.toDigits 10 n

/-- An integer in decimal digits, with a minus sign when it is negative. -/
def ofInt (i : Int) : Text :=
  if i < 0 then '-' :: ofNat i.natAbs else ofNat i.natAbs

/-- The texts one after the other, `mark` between neighbours. -/
def joinWith (mark : Text) (texts : List Text) : Text := mark.intercalate texts

/-- Lines of a fixed template, one below the other. -/
def lines (rows : List Text) : Text := joinWith ['\n'] rows

/-- The text, or the fallback where the text is empty. -/
def orElse (text fallback : Text) : Text := if text.isEmpty then fallback else text

end Text

end DesignExport
