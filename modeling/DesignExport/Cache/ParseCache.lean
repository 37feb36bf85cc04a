/-
# Remembering sheets

Reading a text is pure, so remembered sheets only save work. A bounded memory
drops the entry whose key came first; finding an entry does not make it newer.
A memory that may hold fewer than no entries cannot be brought within its
bound: it is emptied and entering fails.

A text is given by its codes here. It is encoded to find its key, and that fails where
there are halves of characters in it.
-/

import DesignExport.Cache.Digest
import DesignExport.Fault.Problem
import DesignExport.Sheet.Basic

namespace DesignExport

/-- Remembered sheets by key, oldest key first, and how many there may be. -/
structure SheetMemory where
  bound : Option Int
  entries : Keyed Text StyleSheet := []

namespace SheetMemory

/-- The key of a text of characters: its length, and the digest of its bytes. -/
def keyOfText (text : Text) : Text :=
  "css_" ++ Text.ofNat text.length ++ "_" ++ Digest.hexDigest (Text.utf8 text)

/-- The key of a text, which is encoded for it. -/
def keyOf (codes : List Nat) : Except Text.CharsetError Text :=
  (Text.ofCodes codes).map keyOfText

/-- The problem of a memory that is empty and still holds too many entries. -/
def cannotDrop : Problem := .unexpected "StopIteration" []

/-- The sheet under a key. -/
def get? (key : Text) (memory : SheetMemory) : Option StyleSheet :=
  Keyed.get? key memory.entries

/-- Enter a sheet under a key, then drop the oldest entries beyond the bound. -/
def enter (key : Text) (sheet : StyleSheet) (memory : SheetMemory) :
    Except Problem Unit × SheetMemory :=
  let entries := Keyed.put key sheet memory.entries
  match memory.bound with
  | none => (.ok (), { memory with entries := entries })
  | some bound =>
    let kept := entries.drop (entries.length - bound.toNat)
    (if bound < 0 then .error cannotDrop else .ok (), { memory with entries := kept })

/-- Forget everything. -/
def clear (memory : SheetMemory) : SheetMemory := { memory with entries := [] }

end SheetMemory

/-- A reader with a memory, or with none that keeps anything, and counts of the
texts found and not found in it. -/
structure CachingReader where
  memory : Option SheetMemory
  hits : Nat := 0
  misses : Nat := 0

namespace CachingReader

/-- A reader with an empty memory of a bound. -/
def bounded (bound : Option Int) : CachingReader := { memory := some { bound := bound } }

/-- A reader that remembers nothing. -/
def forgetful : CachingReader := { memory := none }

/-- The sheet under a key. -/
def get? (key : Text) (reader : CachingReader) : Option StyleSheet :=
  reader.memory.bind (SheetMemory.get? key)

/-- Enter a sheet under a key. -/
def enter (key : Text) (sheet : StyleSheet) (reader : CachingReader) :
    Except Problem Unit × CachingReader :=
  match reader.memory with
  | none => (.ok (), reader)
  | some memory =>
    let entered := memory.enter key sheet
    (entered.1, { reader with memory := some entered.2 })

/-- Forget everything; the counts stay. -/
def clear (reader : CachingReader) : CachingReader :=
  { reader with memory := reader.memory.map SheetMemory.clear }

/-- How many sheets are remembered, if any are ever kept. -/
def size? (reader : CachingReader) : Option Nat :=
  reader.memory.map fun memory => memory.entries.length

/-- The sheet of a text under its key: the remembered one, or else the one that `readSheet`
makes, which is then remembered. -/
def readUnder (key : Text) (readSheet : List Nat → StyleSheet) (codes : List Nat)
    (reader : CachingReader) : Except Problem StyleSheet × CachingReader :=
  match reader.get? key with
  | some sheet => (.ok sheet, { reader with hits := reader.hits + 1 })
  | none =>
    let sheet := readSheet codes
    let entered := { reader with misses := reader.misses + 1 }.enter key sheet
    (entered.1.map fun _ => sheet, entered.2)

/-- The sheet of a text. A text without a key is neither counted nor read. -/
def read (readSheet : List Nat → StyleSheet) (codes : List Nat) (reader : CachingReader) :
    Except Problem StyleSheet × CachingReader :=
  match SheetMemory.keyOf codes with
  | .ok key => reader.readUnder key readSheet codes
  | .error error => (.error (.ofCharsetError error), reader)

end CachingReader

end DesignExport
