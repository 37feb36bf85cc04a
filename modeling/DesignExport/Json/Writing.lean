/-
# Values that are written

Not every value has a written form. An integer has at most as many digits as are
read, and the nesting has the limit of the reader. The first part of a value that
exceeds a limit is the reason of the refusal.

Two halves of a character that stand next to each other are written like the
character, and so it is the character that is read back.
-/

import DesignExport.Json.Printer
import DesignExport.Json.Reader

namespace DesignExport.Json

/-- Why a value is not written. -/
inductive WriteError where
  | tooManyDigits
  | tooDeep
deriving DecidableEq

/-- The name of the kind of problem. -/
def WriteError.kind : WriteError → Text
  | tooManyDigits => "ValueError"
  | tooDeep => "RecursionError"

/-- The message of a refusal. -/
def WriteError.message : WriteError → Text
  | tooManyDigits =>
    "Exceeds the limit (" ++ Text.ofNat NumberError.digitLimit ++
      " digits) for integer string conversion; " ++
      "use sys.set_int_max_str_digits() to increase the limit"
  | tooDeep => "maximum recursion depth exceeded while encoding a JSON object"

mutual

/-- Check a value against the limits, with so many levels of nesting left. -/
def checkLimits (depth : Nat) : Json → Except WriteError Unit
  | int value =>
    if NumberError.digitLimit < (Text.ofNat value.natAbs).length then .error .tooManyDigits
    else .ok ()
  | array items => if depth = 0 then .error .tooDeep else checkItems (depth - 1) items
  | object members => if depth = 0 then .error .tooDeep else checkMembers (depth - 1) members
  | _ => .ok ()

/-- Check the items of an array. -/
def checkItems (depth : Nat) : List Json → Except WriteError Unit
  | [] => .ok ()
  | item :: rest => do
    checkLimits depth item
    checkItems depth rest

/-- Check the members of an object. -/
def checkMembers (depth : Nat) : List (Text × Json) → Except WriteError Unit
  | [] => .ok ()
  | (_, value) :: rest => do
    checkLimits depth value
    checkMembers depth rest

end

/-- Check whether a value has a written form. -/
def checkWritten (value : Json) : Except WriteError Unit := checkLimits nestingLimit value

/-- The written form of a value within the limits. -/
def written (value : Json) : Except WriteError Text := do
  checkWritten value
  pure value.write

mutual

/-- A value as it is read back from its written form: characters in place of their halves. -/
def joined : Json → Json
  | broken codes => ofCodes (Text.joinHalves codes)
  | array items => array (joinedItems items)
  | object members => object (joinedMembers members)
  | value => value

/-- The items of an array as they are read back. -/
def joinedItems : List Json → List Json
  | [] => []
  | item :: rest => joined item :: joinedItems rest

/-- The members of an object as they are read back. -/
def joinedMembers : List (Text × Json) → List (Text × Json)
  | [] => []
  | (name, value) :: rest => (name, joined value) :: joinedMembers rest

end

end DesignExport.Json
