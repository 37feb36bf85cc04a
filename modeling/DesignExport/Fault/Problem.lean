/-
# Problems

Anything that can go wrong while a sheet is converted and recorded: a fault, a
refusal of the store, or an unexpected problem that is known only by the name
of its kind and its message. A message is given by codes, for there may be halves
of characters in it.
-/

import DesignExport.Fault.Basic
import DesignExport.Json.Writing
import DesignExport.Store.Error

namespace DesignExport

/-- Anything that can go wrong. -/
inductive Problem where
  | fault (fault : Fault)
  | store (error : StoreError)
  | unexpected (kind : Text) (message : List Nat)

namespace Problem

/-- An unexpected problem whose message is a text. -/
def ofText (kind message : Text) : Problem := unexpected kind message.codes

/-- The problem of codes that are no text. -/
def ofCharsetError (error : Text.CharsetError) : Problem :=
  ofText "UnicodeEncodeError" error.message

/-- The problem of a value without a written form. -/
def ofWriteError (error : Json.WriteError) : Problem := ofText error.kind error.message

/-- The message of a problem, which may be empty. -/
def message : Problem → List Nat
  | fault given => given.message
  | store error => error.message.codes
  | unexpected _ message => message

/-- What is to be recorded about a problem: its message, or for an unexpected problem
without one the name of its kind. -/
def record : Problem → List Nat
  | unexpected kind message => if message.isEmpty then kind.codes else message
  | problem => problem.message

end Problem

end DesignExport
