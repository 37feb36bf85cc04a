/-
# The characters of a component's name

Whichever way a component gets its name, the name is made of ASCII letters, digits
and underscores: labels are cut down to letters and digits, and of the characters
of a class name only the dashes go.
-/

import DesignExport.Proofs.Braces
import DesignExport.Proofs.Scan
import DesignExport.Sheet.ComponentName
import DesignExport.Text.Lowercase

namespace DesignExport.ComponentName

/-- A character of a component's name: an ASCII letter, a digit or the underscore. -/
def isIdentifierChar (c : Char) : Bool := c.isAlphanum || c == '_'

/-- A text that is made of such characters. -/
def IsIdentifier (name : Text) : Prop := ∀ c ∈ name, isIdentifierChar c = true

instance (name : Text) : Decidable (IsIdentifier name) :=
  inferInstanceAs (Decidable (∀ c ∈ name, isIdentifierChar c = true))

theorem IsIdentifier.not_mem {name : Text} (isIdentifier : IsIdentifier name) {c : Char}
    (other : isIdentifierChar c = false) : c ∉ name := fun within =>
  absurd (isIdentifier c within) (by simp [other])

theorem isIdentifierChar_toUpper (c : Char) (isChar : isIdentifierChar c = true) :
    isIdentifierChar c.toUpper = true := by
  rcases Bool.or_eq_true _ _ ▸ isChar with alphanum | underscore
  · simp [isIdentifierChar, Text.isAlphanum_toUpper alphanum]
  · obtain rfl : c = '_' := by simpa using underscore
    decide

theorem IsIdentifier.capitalize {name : Text} (isIdentifier : IsIdentifier name) :
    IsIdentifier (Text.capitalize name) :=
  Text.forall_mem_capitalize isIdentifierChar_toUpper isIdentifier

theorem isIdentifierChar_toLower (c : Char) (isChar : isIdentifierChar c = true) :
    isIdentifierChar c.toLower = true := by
  rcases Bool.or_eq_true _ _ ▸ isChar with alphanum | underscore
  · simp [isIdentifierChar, Text.isAlphanum_toLower alphanum]
  · obtain rfl : c = '_' := by simpa using underscore
    decide

/-- A character of a name is one of ASCII. -/
theorem toNat_lt_of_isIdentifierChar {c : Char} (isChar : isIdentifierChar c = true) :
    c.toNat < 128 := by
  rcases Bool.or_eq_true _ _ ▸ isChar with alphanum | underscore
  · have code : c.toNat = c.val.toNat := rfl
    rcases Text.isAlphanum_iff.mp alphanum with (upper | lower) | digit
    · have := (Text.isUpper_iff.mp upper).2
      omega
    · have := (Text.isLower_iff.mp lower).2
      omega
    · have nine : '9'.toNat = 57 := rfl
      have := (Char.isDigit_iff_toNat.mp digit).2
      omega
  · obtain rfl : c = '_' := by simpa using underscore
    decide

/-- The small form of a name is a name. -/
theorem IsIdentifier.lower {name : Text} (isIdentifier : IsIdentifier name) :
    IsIdentifier (Text.lower name) := by
  suffices anywhere : ∀ before, IsIdentifier (Text.lowerAfter before name) from anywhere []
  induction name with
  | nil => exact fun _ => List.forall_mem_nil _
  | cons c rest ih =>
      obtain ⟨isChar, isRest⟩ := List.forall_mem_cons.mp isIdentifier
      intro before
      have ascii := toNat_lt_of_isIdentifierChar isChar
      have notSigma : c ≠ 'Σ' := by
        rintro rfl
        exact absurd ascii (by decide)
      have notDotted : c ≠ 'İ' := by
        rintro rfl
        exact absurd ascii (by decide)
      rw [Text.lowerAfter, if_neg notSigma, if_neg notDotted, Text.lowerChar, if_pos ascii]
      exact List.forall_mem_cons.mpr ⟨isIdentifierChar_toLower c isChar, ih isRest _⟩

theorem IsIdentifier.orElse {name other : Text} (isIdentifier : IsIdentifier name)
    (otherIsIdentifier : IsIdentifier other) : IsIdentifier (Text.orElse name other) := by
  rw [Text.orElse]
  split
  · exact otherIsIdentifier
  · exact isIdentifier

theorem isIdentifier_identifier (label : Text) : IsIdentifier (identifier label) := by
  apply IsIdentifier.capitalize
  intro c within
  have kept := List.mem_filter.mp ((List.dropWhile_sublist _).subset within)
  simp [isIdentifierChar, kept.2]

theorem isIdentifier_ofFirstComment (labels : List Text) :
    IsIdentifier (ofFirstComment labels) := by
  cases labels with
  | nil => exact List.forall_mem_nil _
  | cons label more =>
      rw [ofFirstComment]
      split
      · exact List.forall_mem_nil _
      · exact isIdentifier_identifier label

theorem isIdentifier_ofAnyComment (labels : List Text) : IsIdentifier (ofAnyComment labels) := by
  rw [ofAnyComment]
  generalize names : (labels.filter _).map identifier = candidates
  cases found : candidates.find? fun name => !name.isEmpty with
  | none => exact List.forall_mem_nil _
  | some name =>
      rw [← names] at found
      obtain ⟨label, -, rfl⟩ := List.mem_map.mp (List.mem_of_find?_eq_some found)
      exact isIdentifier_identifier label

/-- A class name is a letter and a run of the characters of class names. -/
theorem exists_cons_of_className {text name : Text} {covered : Nat}
    (hit : className text = some (name, covered)) :
    ∃ first rest, name = first :: rest ∧ first.isAlpha = true ∧
      ∀ c ∈ rest, isClassChar c = true := by
  unfold className at hit
  split at hit
  · next first rest =>
      split at hit
      · next letter =>
          obtain ⟨rfl, -⟩ : first :: rest.takeWhile isClassChar = name ∧ _ := by simpa using hit
          exact ⟨first, _, rfl, letter, fun c within => List.mem_takeWhile_imp within⟩
      · simp at hit
  · simp at hit

/-- A class name is made of the characters that a name can have, and of dashes. -/
theorem isClassChar_of_className {text name : Text} {covered : Nat}
    (hit : className text = some (name, covered)) : ∀ c ∈ name, isClassChar c = true := by
  obtain ⟨first, rest, rfl, letter, run⟩ := exists_cons_of_className hit
  exact List.forall_mem_cons.mpr ⟨by simp [isClassChar, Char.isAlphanum, letter], run⟩

theorem isIdentifier_ofClassName (text : Text) : IsIdentifier (ofClassName text) := by
  rw [ofClassName]
  cases found : className.first? text with
  | none => exact List.forall_mem_nil _
  | some name =>
      obtain ⟨later, covered, -, hit⟩ := Pattern.exists_of_mem_all (List.mem_of_head? found)
      intro c within
      obtain ⟨word, isWord, inWord⟩ := List.mem_flatten.mp within
      obtain ⟨piece, isPiece, rfl⟩ := List.mem_map.mp isWord
      have pieceIsIdentifier : IsIdentifier piece := by
        intro d inPiece
        obtain ⟨inName, noDash⟩ := Text.mem_and_ne_of_mem_splitOn isPiece inPiece
        simpa [isClassChar, isIdentifierChar, noDash] using isClassChar_of_className hit d inName
      exact pieceIsIdentifier.capitalize c inWord

/-- The name of a component is made of ASCII letters, digits and underscores. -/
theorem isIdentifier_ofText (text : Text) : IsIdentifier (ofText text) := by
  apply IsIdentifier.orElse (isIdentifier_ofFirstComment _)
  apply IsIdentifier.orElse (isIdentifier_ofAnyComment _)
  apply IsIdentifier.orElse (isIdentifier_ofClassName text)
  decide

end DesignExport.ComponentName
