/-
# Reading JSON

The reader accepts the standard's texts and three more words: NaN and the two
infinities. Of two members with one name the later value wins. A refusal tells
its cause and its place by line, column and offset. An escape may stand for half
a character; in the name of a member it reads as the replacement character.

Every step of the reader takes at least one character, so the length of the
text bounds the steps; nesting has a limit of its own.
-/

import DesignExport.Json.Basic
import DesignExport.Number.Reading

namespace DesignExport.Json

/-- What is wrong with a text that is not JSON. -/
inductive Flaw where
  | noValue
  | noName
  | noColon
  | noComma
  | extraData
  | openText
  | controlCharacter
  | badEscape
  | badCode
deriving DecidableEq

/-- The words for a flaw. -/
def Flaw.message : Flaw → Text
  | noValue => "Expecting value"
  | noName => "Expecting property name enclosed in double quotes"
  | noColon => "Expecting ':' delimiter"
  | noComma => "Expecting ',' delimiter"
  | extraData => "Extra data"
  | openText => "Unterminated string starting at"
  | controlCharacter => "Invalid control character at"
  | badEscape => "Invalid \\escape"
  | badCode => "Invalid \\uXXXX escape"

/-- Why a text is not read: it is malformed at an offset, an integer is too
long, or the nesting is too deep. -/
inductive ReadError where
  | malformed (flaw : Flaw) (offset : Nat)
  | number (error : NumberError)
  | tooDeep (container : Text)
deriving DecidableEq

/-- The line and column of an offset, both counted from one. -/
def place (text : Text) (offset : Nat) : Nat × Nat :=
  let front := text.take offset
  (front.count '\n' + 1, (Text.afterLast (· == '\n') front).length + 1)

/-- The message of a refusal of a text. -/
def ReadError.message (text : Text) : ReadError → Text
  | malformed flaw offset =>
    let spot := place text offset
    flaw.message ++ ": line " ++ Text.ofNat spot.1 ++ " column " ++ Text.ofNat spot.2 ++
      " (char " ++ Text.ofNat offset ++ ")"
  | number error => error.message
  | tooDeep container =>
    "maximum recursion depth exceeded while decoding a JSON " ++ container ++
      " from a unicode string"

/-- A refusal while reading, with the text that is left at its place. -/
inductive Stop where
  | flawed (flaw : Flaw) (left : Text)
  | number (error : NumberError)
  | tooDeep (container : Text)

/-- The text behind blanks: spaces, tabs and line ends. -/
def skipBlanks (text : Text) : Text :=
  text.dropWhile fun c => c == ' ' || c == '\t' || c == '\n' || c == '\r'

/-- The value of four hexadecimal digits in front of a text. -/
def hexCode? : Text → Option Nat
  | a :: b :: c :: d :: _ => do
    let a ← Text.hexValue? a
    let b ← Text.hexValue? b
    let c ← Text.hexValue? c
    let d ← Text.hexValue? d
    pure (((a * 16 + b) * 16 + c) * 16 + d)
  | _ => none

/-- The character of a short escape. -/
def shortEscape? : Char → Option Char
  | '"' => some '"'
  | '\\' => some '\\'
  | '/' => some '/'
  | 'b' => some (Char.ofNat 8)
  | 'f' => some (Char.ofNat 12)
  | 'n' => some '\n'
  | 'r' => some '\r'
  | 't' => some '\t'
  | _ => none

/-- A code escape, given the text from the letter `u` on: its code and how many
characters it takes, counted from that letter. Two halves make one code when
something follows the second. -/
def codeEscape (text : Text) : Except Stop (Nat × Nat) :=
  let behind := text.drop 1
  if (behind.drop 4).isEmpty then .error (.flawed .badCode text)
  else match hexCode? behind with
    | none => .error (.flawed .badCode text)
    | some code =>
      if 0xD800 ≤ code && code ≤ 0xDBFF then
        match behind.drop 4 with
        | '\\' :: 'u' :: more =>
          if (more.drop 4).isEmpty then .ok (code, 5)
          else match hexCode? more with
            | none => .error (.flawed .badCode ('u' :: more))
            | some low =>
              if 0xDC00 ≤ low && low ≤ 0xDFFF then
                .ok (0x10000 + (code - 0xD800) * 0x400 + (low - 0xDC00), 11)
              else .ok (code, 5)
        | _ => .ok (code, 5)
      else .ok (code, 5)

/-- The rest of a text value behind its opening quote: its codes, and what
follows the closing quote. `opening` is the text from the opening quote on,
and `taken` characters still belong to the last escape. -/
def readText (opening : Text) : Nat → List Nat → Text → Except Stop (List Nat × Text)
  | _, _, [] => .error (.flawed .openText opening)
  | taken + 1, done, _ :: rest => readText opening taken done rest
  | 0, done, c :: rest =>
    if c = '"' then .ok (done.reverse, rest)
    else if c = '\\' then
      match rest with
      | [] => .error (.flawed .openText opening)
      | mark :: _ =>
        if mark = 'u' then
          match codeEscape rest with
          | .error stop => .error stop
          | .ok (code, length) => readText opening length (code :: done) rest
        else match shortEscape? mark with
          | some char => readText opening 1 (char.toNat :: done) rest
          | none => .error (.flawed .badEscape (c :: rest))
    else if c.toNat < 32 then .error (.flawed .controlCharacter (c :: rest))
    else readText opening 0 (c.toNat :: done) rest

/-- The exponent of a number in front of a text, empty when there is none. -/
def exponentPart (text : Text) : Text :=
  match text with
  | mark :: rest =>
    if mark == 'e' || mark == 'E' then
      let sign := match rest with
        | c :: _ => if c == '-' || c == '+' then [c] else []
        | [] => []
      let digits := (rest.drop sign.length).takeWhile Char.isDigit
      if digits.isEmpty then [] else mark :: sign ++ digits
    else []
  | [] => []

/-- The fraction of a number in front of a text, empty when there is none. -/
def fractionPart (text : Text) : Text :=
  match text with
  | '.' :: rest =>
    let digits := rest.takeWhile Char.isDigit
    if digits.isEmpty then [] else '.' :: digits
  | _ => []

/-- The whole digits of a number: a lone zero, or digits that do not begin with one. -/
def wholePart (text : Text) : Text :=
  match text with
  | '0' :: _ => ['0']
  | _ => text.takeWhile Char.isDigit

/-- A number in front of a text, and what follows it. -/
def readNumber (text : Text) : Except Stop (Json × Text) :=
  let sign : Text := if text.head? = some '-' then ['-'] else []
  let unsigned := text.drop sign.length
  let whole := wholePart unsigned
  let behindWhole := unsigned.drop whole.length
  let fraction := fractionPart behindWhole
  let behindFraction := behindWhole.drop fraction.length
  let exponent := exponentPart behindFraction
  let rest := behindFraction.drop exponent.length
  if whole.isEmpty then .error (.flawed .noValue text)
  else if fraction.isEmpty && exponent.isEmpty then
    match Numeral.readInt (sign ++ whole) with
    | .ok value => .ok (.int value, rest)
    | .error error => .error (.number error)
  else
    match Numeral.readFloat (sign ++ whole ++ fraction ++ exponent) with
    | .ok value => .ok (.float value, rest)
    | .error error => .error (.number error)

/-- The words that stand for values. -/
def valueWords : List (Text × Json) :=
  [("null", .null), ("true", .bool true), ("false", .bool false), ("NaN", .float .nan),
   ("Infinity", .float (.infinite false)), ("-Infinity", .float (.infinite true))]

/-- A value without parts in front of a text, and what follows it. -/
def readAtom (text : Text) : Except Stop (Json × Text) :=
  match text with
  | '"' :: rest => (readText text 0 [] rest).map fun found => (.ofCodes found.1, found.2)
  | _ =>
    match valueWords.find? fun word => word.1.isPrefixOf text with
    | some word => .ok (word.2, text.drop word.1.length)
    | none => readNumber text

/-- The nesting that is read at most, and written at most. What stops the reader and the
writer is the room that is left for calls within calls, which differs a little from place
to place; this one number stands for all of them. -/
def nestingLimit : Nat := 960

mutual

/-- A value in front of a text, and what follows it. -/
def readValue (fuel depth : Nat) (text : Text) : Except Stop (Json × Text) :=
  match fuel, text with
  | fuel + 1, '[' :: rest =>
    if depth = 0 then .error (.tooDeep "array")
    else match skipBlanks rest with
      | ']' :: rest => .ok (.array [], rest)
      | rest => (readItems fuel (depth - 1) [] rest).map fun found => (.array found.1, found.2)
  | fuel + 1, '\x7b' :: rest =>
    if depth = 0 then .error (.tooDeep "object")
    else match skipBlanks rest with
      | '\x7d' :: rest => .ok (.object [], rest)
      | rest => (readMembers fuel (depth - 1) [] rest).map fun found => (.object found.1, found.2)
  | _, _ => readAtom text

/-- The items of an array up to its closing bracket. -/
def readItems (fuel depth : Nat) (done : List Json) (text : Text) :
    Except Stop (List Json × Text) :=
  match fuel with
  | 0 => .error (.flawed .noValue text)
  | fuel + 1 =>
    match readValue fuel depth text with
    | .error stop => .error stop
    | .ok (value, rest) =>
      match skipBlanks rest with
      | ']' :: rest => .ok ((value :: done).reverse, rest)
      | ',' :: rest => readItems fuel depth (value :: done) (skipBlanks rest)
      | rest => .error (.flawed .noComma rest)

/-- The members of an object up to its closing brace. -/
def readMembers (fuel depth : Nat) (done : Keyed Text Json) (text : Text) :
    Except Stop (Keyed Text Json × Text) :=
  match fuel, text with
  | fuel + 1, '"' :: rest =>
    match readText text 0 [] rest with
    | .error stop => .error stop
    | .ok (codes, rest) =>
      let name := codes.map Text.charOfCode
      match skipBlanks rest with
      | ':' :: rest =>
        match readValue fuel depth (skipBlanks rest) with
        | .error stop => .error stop
        | .ok (value, rest) =>
          match skipBlanks rest with
          | '\x7d' :: rest => .ok (Keyed.put name value done, rest)
          | ',' :: rest => readMembers fuel depth (Keyed.put name value done) (skipBlanks rest)
          | rest => .error (.flawed .noComma rest)
      | rest => .error (.flawed .noColon rest)
  | _, _ => .error (.flawed .noName text)

end

/-- The refusal with its offset in the whole text. -/
def Stop.toError (whole : Text) : Stop → ReadError
  | .flawed flaw left => .malformed flaw (whole.length - left.length)
  | .number error => .number error
  | .tooDeep container => .tooDeep container

/-- The value that a whole text shows. -/
def read (text : Text) : Except ReadError Json :=
  match readValue (2 * text.length + 2) nestingLimit (skipBlanks text) with
  | .error stop => .error (stop.toError text)
  | .ok (value, rest) =>
    match skipBlanks rest with
    | [] => .ok value
    | rest => .error (Stop.toError text (.flawed .extraData rest))

end DesignExport.Json
