/-
# Names of hosts

A host is named by a numeric address or by labels between dots. Four numbers,
whatever stands between them, must be an address of version 4; a name in
brackets must be an address of version 6. Any other name is brought into lower
case, and into ASCII: labels with characters beyond it are encoded one by one.
-/

import DesignExport.Figma.Address
import DesignExport.Text.LabelChar
import DesignExport.Text.Lowercase
import DesignExport.Text.Percent
import DesignExport.Text.Punycode
import DesignExport.Text.Quoted

namespace DesignExport

/-- Why a text does not name a host. -/
inductive HostError where
  | notVersion4 (host : Text)
  | notVersion6 (host : Text)
  | badLabels (host : Text)
deriving DecidableEq

/-- The message of a refusal. -/
def HostError.message : HostError → Text
  | notVersion4 host => "Invalid IPv4 address: " ++ Text.quoted host
  | notVersion6 host => "Invalid IPv6 address: " ++ Text.quoted host
  | badLabels host => "Invalid IDNA hostname: " ++ Text.quoted host

namespace HostName

/-- How far four numbers are read: how many characters between numbers are
still to come, and whether the present number has begun. -/
structure NumberPlace where
  between : Nat
  begun : Bool
deriving DecidableEq

/-- The places reached from a place by one character, which may belong to a
number or stand between two. -/
def NumberPlace.next (c : Char) (place : NumberPlace) : List NumberPlace :=
  (if c.isDigit then [⟨place.between, true⟩] else []) ++
    (if place.begun && 0 < place.between then [⟨place.between - 1, false⟩] else [])

/-- Whether a name looks like four numbers with one character between any two. -/
def isFourNumbers (host : Text) : Bool :=
  let reached := host.foldl
    (fun places c => (places.flatMap (NumberPlace.next c)).eraseDups) [⟨3, false⟩]
  reached.contains ⟨0, true⟩

/-- The name between brackets at both ends. -/
def bracketed? : Text → Option Text
  | '[' :: rest => if rest.getLast? == some ']' then some rest.dropLast else none
  | _ => none

/-- The characters of a name that need no escape, besides letters and digits. -/
def plainMarks : Text := "-._~!$&'()*+,;=\"`\x7b\x7d%|\\"

/-- Whether a character of a name needs no escape. -/
def isPlain (c : Char) : Bool := c.isAlphanum || plainMarks.contains c

/-- The dots that end a label. -/
def labelDots : List Nat := [0x2E, 0x3002, 0xFF0E, 0xFF61]

/-- The labels of a name. -/
def labels (host : Text) : List Text :=
  Text.splitOn '.' (host.map fun c => if labelDots.contains c.toNat then '.' else c)

/-- How an encoded label begins. -/
def encodedMark : Text := "xn--"

/-- Whether a label may be used as it is: it neither begins nor ends with a
hyphen, holds no two in its third and fourth place, begins with no mark, and
has only characters of labels. -/
def isLabel (label : Text) : Bool :=
  !label.isEmpty && label.head? != some '-' && label.getLast? != some '-' &&
    (label.drop 2).take 2 != ['-', '-'] && !(label.take 1).any Text.isLabelMark &&
    label.all Text.isLabelChar

/-- The greatest length of an encoded label. -/
def longestLabel : Nat := 63

/-- The ASCII form of a label. -/
def encodeLabel (label : Text) : Option Text :=
  let isBasic := label.all Text.Punycode.isBasic
  let encoded := if isBasic then label else encodedMark ++ Text.Punycode.encode label
  let isFit := isLabel label || (isBasic && encodedMark.isPrefixOf label)
  if isFit && decide (encoded.length ≤ longestLabel) then some encoded else none

/-- The greatest length of an encoded name, without a dot at its end. -/
def longestName : Nat := 253

/-- The ASCII form of a name, which may end with a dot. -/
def encode (host : Text) : Option Text := do
  let parts := labels host
  let isClosed := parts.getLast? == some []
  let encoded ← (if isClosed then parts.dropLast else parts).mapM encodeLabel
  let name := Text.joinWith ['.'] encoded
  if encoded.isEmpty || longestName < name.length then none
  else some (if isClosed then name ++ ['.'] else name)

/-- The one form of a name. -/
def normalize (host : Text) : Except HostError Text :=
  if isFourNumbers host then
    if Address.isVersion4 host then .ok host else .error (.notVersion4 host)
  else match bracketed? host with
    | some address =>
      if Address.isVersion6 address then .ok address else .error (.notVersion6 host)
    | none =>
      if host.all Text.Punycode.isBasic then .ok (Text.percentEncode isPlain (Text.lower host))
      else match encode (Text.lower host) with
        | some encoded => .ok encoded
        | none => .error (.badLabels host)

end HostName

end DesignExport
