/-
# Memories under every bound

A memory with a bound drops its oldest entry as long as it holds too many. There is always an
entry left to drop unless the bound is negative; then the memory ends up empty, still holds
too many, and entering fails. So whatever is asked of a memory and of its reader, in any
order and under any keys, the memory never holds more sheets than its bound, and all of it
is answered exactly when the bound is not negative. Only a text that has no key is refused
under every bound, for the memory is not even asked for it.
-/

import DesignExport.Proofs.Cache.FirstInFirstOut
import DesignExport.Settings
import DesignExport.Sheet.Reading

namespace DesignExport

namespace SheetMemory

/-- What becomes of entering under a bound: it fails exactly where the bound is negative. -/
def entered (bound : Int) : Except Problem Unit := if bound < 0 then .error cannotDrop else .ok ()

/-- Drop the oldest entry as long as there are more than the bound. This fails where none is
left to drop. -/
def dropOldest (bound : Int) : Keyed Text StyleSheet → Except Problem Unit × Keyed Text StyleSheet
  | [] => if bound < 0 then (.error cannotDrop, []) else (.ok (), [])
  | entry :: rest =>
    if bound < (entry :: rest).length then dropOldest bound rest else (.ok (), entry :: rest)

theorem entered_of_negative {bound : Int} (negative : bound < 0) :
    entered bound = .error cannotDrop := if_pos negative

theorem entered_of_nonnegative {bound : Int} (nonnegative : 0 ≤ bound) : entered bound = .ok () :=
  if_neg (Int.not_lt.mpr nonnegative)

theorem entered_eq_ok_iff {bound : Int} : entered bound = .ok () ↔ 0 ≤ bound := by
  refine ⟨fun succeeds => Int.not_lt.mp fun negative => ?_, entered_of_nonnegative⟩
  rw [entered_of_negative negative] at succeeds
  cases succeeds

/-- Entries are dropped until the latest ones are left, as many as the bound lets stay. -/
theorem dropOldest_eq (bound : Int) (entries : Keyed Text StyleSheet) :
    dropOldest bound entries = (entered bound, entries.drop (entries.length - bound.toNat)) := by
  induction entries with
  | nil =>
      rw [dropOldest, List.drop_nil]
      split
      · next negative => rw [entered_of_negative negative]
      · next fits => rw [entered_of_nonnegative (Int.not_lt.mp fits)]
  | cons entry rest ih =>
      rw [dropOldest]
      split
      · next more =>
          rw [List.length_cons] at more
          have excess : (entry :: rest).length - bound.toNat =
              (rest.length - bound.toNat) + 1 := by
            rw [List.length_cons]
            omega
          rw [ih, excess, List.drop_succ_cons]
      · next fits =>
          rw [List.length_cons] at fits
          have stays : (entry :: rest).length - bound.toNat = 0 := by
            rw [List.length_cons]
            omega
          rw [entered_of_nonnegative (by omega), stays, List.drop_zero]

/-- Entering a sheet puts it under its key and then drops the oldest entries one by one. -/
theorem enter_eq_dropOldest (bound : Int) (entries : Keyed Text StyleSheet) (key : Text)
    (sheet : StyleSheet) :
    let dropped := dropOldest bound (Keyed.put key sheet entries)
    enter key sheet ⟨some bound, entries⟩ = (dropped.1, ⟨some bound, dropped.2⟩) := by
  intro dropped
  rw [show dropped = _ from dropOldest_eq bound _]
  rfl

end SheetMemory

/-- What is asked of a reader and of the memory that it reads through. -/
inductive MemoryUse where
  | read (text : List Nat)
  | enter (key : Text) (sheet : StyleSheet)
  | clear

/-- A use has a key unless it reads a text with halves of characters. -/
def MemoryUse.HasKey : MemoryUse → Prop
  | read text => Text.IsUnbroken text
  | _ => True

/-- What becomes of a use under a bound: clearing is always done, a text without a key is
refused, and all else may enter. -/
def MemoryUse.ended (bound : Int) : MemoryUse → Except Problem Unit
  | clear => .ok ()
  | enter _ _ => SheetMemory.entered bound
  | read text =>
    match Text.ofCodes text with
    | .ok _ => SheetMemory.entered bound
    | .error error => .error (.ofCharsetError error)

theorem MemoryUse.ended_read_of_isUnbroken {text : List Nat} (whole : Text.IsUnbroken text)
    (bound : Int) : (read text).ended bound = SheetMemory.entered bound := by
  rw [ended, Text.ofCodes_of_isUnbroken whole]

/-- A use with a key fails exactly under a negative bound, unless it clears. -/
theorem MemoryUse.ended_eq_ok_iff {bound : Int} {next : MemoryUse} :
    next.ended bound = .ok () ↔ next.HasKey ∧ (0 ≤ bound ∨ next = .clear) := by
  cases next with
  | clear => simp [ended, HasKey]
  | enter key sheet => simp [ended, HasKey, SheetMemory.entered_eq_ok_iff]
  | read text =>
      by_cases whole : Text.IsUnbroken text
      · rw [ended_read_of_isUnbroken whole]
        simp [HasKey, whole, SheetMemory.entered_eq_ok_iff]
      · obtain ⟨error, isError⟩ := Text.exists_ofCodes_eq_error whole
        simp [ended, HasKey, isError, whole]

/-- A use that fails does so because there is no entry to drop, or because the text that it
reads is refused where texts are encoded. -/
theorem MemoryUse.ended_cases (bound : Int) (next : MemoryUse) :
    next.ended bound = .ok () ∨ next.ended bound = .error SheetMemory.cannotDrop ∨
      ∃ text error, next = .read text ∧ Text.ofCodes text = .error error ∧
        next.ended bound = .error (.ofCharsetError error) := by
  have entering : SheetMemory.entered bound = .ok () ∨
      SheetMemory.entered bound = .error SheetMemory.cannotDrop := by
    rw [SheetMemory.entered]
    split
    · exact .inr rfl
    · exact .inl rfl
  cases next with
  | clear => exact .inl rfl
  | enter key sheet => exact entering.imp_right .inl
  | read text =>
      rw [ended]
      cases isText : Text.ofCodes text with
      | ok whole => exact entering.imp_right .inl
      | error error => exact .inr (.inr ⟨text, error, rfl, isText, rfl⟩)

namespace CachingReader

open SheetMemory

variable (readSheet : List Nat → StyleSheet) {bound : Int} {reader : CachingReader}

/-- Answer a use, or fail, and go on with the reader behind it. -/
def use (reader : CachingReader) : MemoryUse → Except Problem Unit × CachingReader
  | .read text =>
    let answer := reader.read readSheet text
    (answer.1.map fun _ => (), answer.2)
  | .enter key sheet => reader.enter key sheet
  | .clear => (.ok (), reader.clear)

/-- The reader behind uses one after the other, whether they were answered or not. -/
def afterUses (reader : CachingReader) (uses : List MemoryUse) : CachingReader :=
  uses.foldl (fun reader next => (reader.use readSheet next).2) reader

/-- The reader has a memory with this bound, and the memory holds no more sheets than that. -/
def IsWithin (bound : Int) (reader : CachingReader) : Prop :=
  ∃ entries, reader.memory = some ⟨some bound, entries⟩ ∧ entries.length ≤ bound.toNat

/-! ## One use -/

/-- Entering a sheet keeps a memory within its bound. -/
theorem IsWithin.enter (within : reader.IsWithin bound) (key : Text) (sheet : StyleSheet) :
    (reader.enter key sheet).1 = entered bound ∧ (reader.enter key sheet).2.IsWithin bound := by
  obtain ⟨entries, isMemory, -⟩ := within
  have answer : reader.enter key sheet =
      ((SheetMemory.enter key sheet ⟨some bound, entries⟩).1,
        { reader with memory := some (SheetMemory.enter key sheet ⟨some bound, entries⟩).2 }) := by
    rw [CachingReader.enter, isMemory]
  rw [answer, enter_eq_dropOldest, dropOldest_eq]
  refine ⟨rfl, _, rfl, ?_⟩
  rw [List.length_drop]
  omega

/-- Under a negative bound nothing is ever found. -/
theorem IsWithin.get?_eq_none (within : reader.IsWithin bound) (negative : bound < 0)
    (key : Text) : reader.get? key = none := by
  obtain ⟨entries, isMemory, few⟩ := within
  have empty : entries = [] := List.eq_nil_of_length_eq_zero (by omega)
  rw [CachingReader.get?, isMemory, empty]
  rfl

/-- Reading a text under a key keeps a memory within its bound, and succeeds as entering does. -/
theorem IsWithin.readUnder (within : reader.IsWithin bound) (key : Text) (text : List Nat) :
    (reader.readUnder key readSheet text).1.map (fun _ => ()) = entered bound ∧
      (reader.readUnder key readSheet text).2.IsWithin bound := by
  rw [CachingReader.readUnder]
  cases found : reader.get? key with
  | some sheet =>
      have nonnegative : 0 ≤ bound := by
        refine Int.not_lt.mp fun negative => ?_
        rw [within.get?_eq_none negative] at found
        cases found
      rw [entered_of_nonnegative nonnegative]
      exact ⟨rfl, within⟩
  | none =>
      have counted : IsWithin bound { reader with misses := reader.misses + 1 } := within
      obtain ⟨answer, still⟩ := counted.enter key (readSheet text)
      refine ⟨?_, still⟩
      dsimp only
      rw [answer]
      cases entered bound <;> rfl

/-- Reading a text keeps a memory within its bound, and ends as its use does. -/
theorem IsWithin.read (within : reader.IsWithin bound) (text : List Nat) :
    (reader.read readSheet text).1.map (fun _ => ()) = (MemoryUse.read text).ended bound ∧
      (reader.read readSheet text).2.IsWithin bound := by
  by_cases whole : Text.IsUnbroken text
  · rw [read_of_isUnbroken whole, MemoryUse.ended_read_of_isUnbroken whole]
    exact within.readUnder readSheet _ text
  · obtain ⟨error, isError, refused⟩ := read_of_not_isUnbroken readSheet reader whole
    rw [refused, MemoryUse.ended, isError]
    exact ⟨rfl, within⟩

/-- Any use keeps a memory within its bound. -/
theorem IsWithin.use (within : reader.IsWithin bound) (next : MemoryUse) :
    (reader.use readSheet next).1 = next.ended bound ∧
      (reader.use readSheet next).2.IsWithin bound := by
  cases next with
  | read text => exact within.read readSheet text
  | enter key sheet => exact within.enter key sheet
  | clear =>
      obtain ⟨entries, isMemory, -⟩ := within
      refine ⟨rfl, [], ?_, Nat.zero_le _⟩
      show reader.memory.map SheetMemory.clear = _
      rw [isMemory]
      rfl

/-! ## Uses one after the other -/

theorem isWithin_bounded (bound : Int) : (bounded (some bound)).IsWithin bound :=
  ⟨[], rfl, Nat.zero_le _⟩

/-- No uses take a memory beyond its bound. -/
theorem IsWithin.afterUses (within : reader.IsWithin bound) (uses : List MemoryUse) :
    (reader.afterUses readSheet uses).IsWithin bound := by
  induction uses generalizing reader with
  | nil => exact within
  | cons next later ih => exact ih (within.use readSheet next).2

/-- A memory within its bound holds at most that many sheets, and none under a negative one. -/
theorem IsWithin.exists_size (within : reader.IsWithin bound) :
    ∃ size : Nat, reader.size? = some size ∧ (size : Int) ≤ max bound 0 := by
  obtain ⟨entries, isMemory, few⟩ := within
  refine ⟨entries.length, ?_, ?_⟩
  · rw [CachingReader.size?, isMemory]
    rfl
  · omega

end CachingReader

open SheetMemory CachingReader in
/-- A memory with any bound, behind any uses: the next use leaves at most as many sheets as the
bound, or none if that is negative. It is answered exactly when it has a key, and the bound is
not negative or nothing is entered; otherwise it fails because there is no entry to drop, or
because its text is no text of characters. So a text of characters is answered with a sheet
exactly when the bound is not negative, and no other text is. -/
theorem uses_answered_iff (readSheet : List Nat → StyleSheet) (bound : Int)
    (earlier : List MemoryUse) :
    let reader := (bounded (some bound)).afterUses readSheet earlier
    (∀ next : MemoryUse,
      let answer := reader.use readSheet next
      (answer.1 = .ok () ↔ next.HasKey ∧ (0 ≤ bound ∨ next = .clear)) ∧
      (answer.1 = .ok () ∨ answer.1 = .error cannotDrop ∨
        ∃ text error, next = .read text ∧ Text.ofCodes text = .error error ∧
          answer.1 = .error (.ofCharsetError error)) ∧
      ∃ size : Nat, answer.2.size? = some size ∧ (size : Int) ≤ max bound 0) ∧
    ∀ text : List Nat, (∃ sheet, (reader.read readSheet text).1 = .ok sheet) ↔
      Text.IsUnbroken text ∧ 0 ≤ bound := by
  intro reader
  have within : reader.IsWithin bound := (isWithin_bounded bound).afterUses readSheet earlier
  constructor
  · intro next answer
    obtain ⟨result, still⟩ := within.use readSheet next
    rw [show answer.1 = next.ended bound from result]
    exact ⟨MemoryUse.ended_eq_ok_iff, MemoryUse.ended_cases bound next, still.exists_size⟩
  · intro text
    obtain ⟨result, -⟩ := within.read readSheet text
    have ends : (MemoryUse.read text).ended bound = .ok () ↔ Text.IsUnbroken text ∧ 0 ≤ bound := by
      simp [MemoryUse.ended_eq_ok_iff, MemoryUse.HasKey]
    rw [← ends, ← result]
    cases (reader.read readSheet text).1 with
    | ok sheet => exact iff_of_true ⟨sheet, rfl⟩ rfl
    | error problem => exact iff_of_false nofun nofun

/-- The settings can bring a negative bound, and then neither a sheet is entered nor a text
read, although the text has a sheet. -/
theorem negative_bound_refuses_entry :
    ∃ settings : Settings,
      Settings.ofEnvironment [("FIGMA_CONVERTER_PARSE_CACHE_MAX_ENTRIES", "-1")] = .ok settings ∧
      let reader := CachingReader.bounded (some settings.parseCacheMaxEntries)
      let text : Text := ".a \x7b b: c \x7d"
      (reader.enter "k" (StyleSheet.ofText text)).1 = .error SheetMemory.cannotDrop ∧
      (reader.read (fun codes => .ofText (codes.map Text.charOfCode)) text.codes).1 =
        .error SheetMemory.cannotDrop := by
  have isBound : (Settings.ofEnvironment
      [("FIGMA_CONVERTER_PARSE_CACHE_MAX_ENTRIES", "-1")]).toOption.map
        Settings.parseCacheMaxEntries = some (-1) := by decide +kernel
  cases isRead : Settings.ofEnvironment
      [("FIGMA_CONVERTER_PARSE_CACHE_MAX_ENTRIES", "-1")] with
  | error error =>
      rw [isRead] at isBound
      cases isBound
  | ok settings =>
      rw [isRead] at isBound
      have isNegative : settings.parseCacheMaxEntries = -1 := Option.some.inj isBound
      refine ⟨settings, rfl, ?_⟩
      rw [isNegative]
      exact ⟨rfl, rfl⟩

end DesignExport
