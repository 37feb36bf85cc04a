/-
# Writing JSON

Values are written on one line, or indented over several; both forms use ASCII
alone and keep the order of members. A third form shows a value inside a
message.
-/

import DesignExport.Json.Basic
import DesignExport.Number.Shortest
import DesignExport.Text.Quoted

namespace DesignExport.Json

/-- Numbers are laid out as in messages, but for the words of the values that
are not finite. -/
def floatStyle : FloatStyle :=
  { FloatStyle.plain with infinityText := "Infinity", nanText := "NaN" }

/-- The code of one character beyond the basic plane is written as two halves. -/
def escapeCode (n : Nat) : Text :=
  if n < 0x10000 then "\\u" ++ Text.hex 4 n
  else
    let rest := n - 0x10000
    "\\u" ++ Text.hex 4 (0xD800 + rest / 0x400) ++ "\\u" ++ Text.hex 4 (0xDC00 + rest % 0x400)

/-- One character of a written text. -/
def escapeChar (c : Char) : Text :=
  if c = '"' then "\\\""
  else if c = '\\' then "\\\\"
  else if c = '\n' then "\\n"
  else if c = '\r' then "\\r"
  else if c = '\t' then "\\t"
  else if c = Char.ofNat 8 then "\\b"
  else if c = Char.ofNat 12 then "\\f"
  else if 32 ≤ c.toNat && c.toNat < 127 then [c]
  else escapeCode c.toNat

/-- A text in its written form. -/
def writeText (value : Text) : Text := '"' :: value.flatMap escapeChar ++ ['"']

/-- A text with halves of characters in its written form. -/
def writeCodes (codes : List Nat) : Text :=
  let escape (code : Nat) : Text :=
    if Text.isHalf code then escapeCode code else escapeChar (Char.ofNat code)
  '"' :: codes.flatMap escape ++ ['"']

/-- A value without parts. -/
def writeAtom : Json → Text
  | null => "null"
  | bool true => "true"
  | bool false => "false"
  | int value => Text.ofInt value
  | float value => floatStyle.text value
  | text value => writeText value
  | broken codes => writeCodes codes
  | array _ => "[]"
  | object _ => "\x7b\x7d"

mutual

/-- A value on one line. -/
def write : Json → Text
  | array (first :: more) => '[' :: write first ++ writeItems more ++ [']']
  | object ((name, first) :: more) =>
    '\x7b' :: writeText name ++ ": " ++ write first ++ writeMembers more ++ ['\x7d']
  | atom => writeAtom atom

/-- The items behind the first. -/
def writeItems : List Json → Text
  | [] => []
  | item :: rest => ", " ++ write item ++ writeItems rest

/-- The members behind the first. -/
def writeMembers : List (Text × Json) → Text
  | [] => []
  | (name, value) :: rest => ", " ++ writeText name ++ ": " ++ write value ++ writeMembers rest

end

/-- A new line indented by a number of blanks. -/
def newline (depth : Nat) : Text := '\n' :: List.replicate depth ' '

mutual

/-- A value over several lines, two more blanks at every level. -/
def indent (depth : Nat) : Json → Text
  | array (first :: more) =>
    '[' :: newline (depth + 2) ++ indent (depth + 2) first ++ indentItems (depth + 2) more ++
      newline depth ++ [']']
  | object ((name, first) :: more) =>
    '\x7b' :: newline (depth + 2) ++ writeText name ++ ": " ++ indent (depth + 2) first ++
      indentMembers (depth + 2) more ++ newline depth ++ ['\x7d']
  | atom => writeAtom atom

/-- The items behind the first, each on a new line. -/
def indentItems (depth : Nat) : List Json → Text
  | [] => []
  | item :: rest => ',' :: newline depth ++ indent depth item ++ indentItems depth rest

/-- The members behind the first, each on a new line. -/
def indentMembers (depth : Nat) : List (Text × Json) → Text
  | [] => []
  | (name, value) :: rest =>
    ',' :: newline depth ++ writeText name ++ ": " ++ indent depth value ++
      indentMembers depth rest

end

mutual

/-- A value as a message shows it: quoted texts, capitalized words. -/
def display : Json → Text
  | null => "None"
  | bool true => "True"
  | bool false => "False"
  | int value => Text.ofInt value
  | float value => FloatStyle.plain.text value
  | text value => Text.quoted value
  | broken codes => Text.quotedCodes codes
  | array [] => "[]"
  | array (first :: more) => '[' :: display first ++ displayItems more ++ [']']
  | object [] => "\x7b\x7d"
  | object ((name, first) :: more) =>
    '\x7b' :: Text.quoted name ++ ": " ++ display first ++ displayMembers more ++ ['\x7d']

/-- The items behind the first. -/
def displayItems : List Json → Text
  | [] => []
  | item :: rest => ", " ++ display item ++ displayItems rest

/-- The members behind the first. -/
def displayMembers : List (Text × Json) → Text
  | [] => []
  | (name, value) :: rest =>
    ", " ++ Text.quoted name ++ ": " ++ display value ++ displayMembers rest

end

end DesignExport.Json
