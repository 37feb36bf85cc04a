/-
# Variables as they are written

A variable is written as two dashes, a name, a colon, and a value that the next semicolon
ends. The scan for variables matches exactly where one is written, and it takes the
leftmost ones that do not overlap.

So a written variable is found, or it stands inside one that is found. Both then end with
the same semicolon, and the value of the inner one is an end of the value of the outer one.
-/

import DesignExport.Proofs.Scan
import DesignExport.Proofs.Text
import DesignExport.Sheet.AtBlock

namespace DesignExport

/-- A variable as it is written: its name, and what stands between colon and semicolon. -/
structure WrittenVariable where
  name : Text
  raw : Text

namespace WrittenVariable

/-- The variable in front of the semicolon that ends it. -/
def declaration (written : WrittenVariable) : Text :=
  '-' :: '-' :: written.name ++ ':' :: written.raw

def text (written : WrittenVariable) : Text := written.declaration ++ [';']

/-- The variable that is read: its value is trimmed. -/
def property (written : WrittenVariable) : CustomProperty :=
  ⟨written.name, Text.trim written.raw⟩

/-- A variable as the scan takes it: neither half is empty, the name holds nothing but
word characters and dashes, and the value ends at the next semicolon. -/
structure IsTaken (written : WrittenVariable) : Prop where
  name_full : written.name ≠ []
  named : ∀ c ∈ written.name, AtBlock.isNameChar c = true
  raw_full : written.raw ≠ []
  unended : ';' ∉ written.raw

/-- Among the characters of names there is no other character. -/
theorem not_mem_of_named {name : Text} (named : ∀ c ∈ name, AtBlock.isNameChar c = true)
    {mark : Char} (other : AtBlock.isNameChar mark = false) : mark ∉ name := by
  intro within
  simp [named mark within] at other

theorem IsTaken.not_mem_declaration {written : WrittenVariable} (taken : written.IsTaken) :
    ';' ∉ written.declaration := by
  have inName : ';' ∉ written.name := not_mem_of_named taken.named (by decide)
  simp [declaration, inName, taken.unended]

/-! ## Where the scan matches -/

/-- A written variable is taken up to its semicolon, whatever stands behind it. -/
theorem IsTaken.variableDeclaration_append {written : WrittenVariable} (taken : written.IsTaken)
    (rest : Text) :
    AtBlock.variableDeclaration (written.text ++ rest) =
      some (written.property, written.text.length) := by
  have nameEnds : AtBlock.isNameChar ':' = false := by decide
  have rawChars : ∀ c ∈ written.raw, (c != ';') = true :=
    fun c within => bne_iff_ne.mpr (ne_of_mem_of_not_mem within taken.unended)
  have rawEnds : (';' != ';') = false := rfl
  have shape : written.text ++ rest =
      '-' :: '-' :: (written.name ++ ':' :: (written.raw ++ ';' :: rest)) := by
    simp [text, declaration]
  obtain ⟨first, others, name⟩ := List.exists_cons_of_ne_nil taken.name_full
  obtain ⟨head, more, raw⟩ := List.exists_cons_of_ne_nil taken.raw_full
  rw [shape, AtBlock.variableDeclaration]
  dsimp only
  rw [Text.takeWhile_append_cons taken.named nameEnds,
    Text.dropWhile_append_cons taken.named nameEnds, name]
  simp only
  rw [Text.takeWhile_append_cons rawChars rawEnds, Text.dropWhile_append_cons rawChars rawEnds,
    raw]
  simp [property, text, declaration, name, raw]
  omega

/-- The scan matches exactly where a variable is written. -/
theorem variableDeclaration_eq_some_iff {text : Text} {property : CustomProperty} {covered : Nat} :
    AtBlock.variableDeclaration text = some (property, covered) ↔
      ∃ written : WrittenVariable, written.IsTaken ∧ written.text <+: text ∧
        property = written.property ∧ covered = written.text.length := by
  constructor
  · intro hit
    unfold AtBlock.variableDeclaration at hit
    split at hit
    case h_2 => simp at hit
    case h_1 rest =>
    dsimp only at hit
    split at hit
    case h_2 => simp at hit
    case h_1 first others after isName named =>
    split at hit
    case h_2 => simp at hit
    case h_1 head more semicolon behind isRaw ended =>
    obtain ⟨rfl, rfl⟩ := Prod.mk.inj (Option.some.inj hit)
    obtain ⟨restEq, -⟩ := Text.eq_takeWhile_append named
    obtain ⟨afterEq, isEnd⟩ := Text.eq_takeWhile_append ended
    obtain rfl : semicolon = ';' := by simpa using isEnd
    refine ⟨⟨rest.takeWhile AtBlock.isNameChar, after.takeWhile (· != ';')⟩,
      ⟨?_, ?_, ?_, fun inRaw => ?_⟩, ⟨behind, ?_⟩, rfl, ?_⟩
    · simp [isName]
    · exact fun c inName => List.mem_takeWhile_imp inName
    · simp [isRaw]
    · simpa using List.mem_takeWhile_imp inRaw
    · conv_rhs => rw [restEq, afterEq]
      simp [WrittenVariable.text, declaration]
    · simp [WrittenVariable.text, declaration]
      omega
  · rintro ⟨written, taken, ⟨rest, rfl⟩, rfl, rfl⟩
    exact taken.variableDeclaration_append rest

/-- A variable that is written inside another one ends with it, and its value is an end of
the other's. -/
theorem IsTaken.raw_isSuffix {outer inner : WrittenVariable} (outerTaken : outer.IsTaken)
    (innerTaken : inner.IsTaken) {front later : Text} (outerStands : outer.text <+: front ++ later)
    (innerStands : inner.text <+: later) (within : front.length < outer.text.length) :
    inner.raw <:+ outer.raw := by
  obtain ⟨left, whole⟩ : front <+: outer.text :=
    List.prefix_of_prefix_length_le (List.prefix_append front later) outerStands within.le
  obtain ⟨behindOuter, outerStands⟩ := outerStands
  obtain ⟨behindInner, rfl⟩ := innerStands
  have full : left ≠ [] := by
    rintro rfl
    rw [← whole, List.append_nil] at within
    exact absurd within (lt_irrefl _)
  obtain ⟨ending, c, rfl⟩ := (List.eq_nil_or_concat' left).resolve_left full
  obtain ⟨outerEq, isEnd⟩ := List.append_inj' ((List.append_assoc _ _ _).trans whole) rfl
  obtain rfl : c = ';' := List.head_eq_of_cons_eq isEnd
  -- The same semicolon ends both: it is the first one behind the place where the inner begins.
  have innerEq : ending = inner.declaration := by
    have unended : ';' ∉ ending := fun within =>
      outerTaken.not_mem_declaration (outerEq ▸ List.mem_append_right front within)
    have same : ending ++ ';' :: behindOuter = inner.declaration ++ ';' :: behindInner := by
      rw [← whole, List.append_assoc, List.append_cancel_left_eq] at outerStands
      simpa [text] using outerStands
    have cuts := congrArg (Text.cut ';') same
    rw [Text.cut_append_mark unended, Text.cut_append_mark innerTaken.not_mem_declaration] at cuts
    exact congrArg Prod.fst cuts
  have noColon : ':' ∉ '-' :: '-' :: outer.name := by
    simp [not_mem_of_named outerTaken.named (show AtBlock.isNameChar ':' = false by decide)]
  have parts : (front ++ '-' :: '-' :: inner.name) ++ ':' :: inner.raw =
      ('-' :: '-' :: outer.name) ++ ':' :: outer.raw := by
    rw [innerEq] at outerEq
    simpa [declaration] using outerEq
  rcases List.append_eq_append_iff.mp parts with ⟨gap, outerName, rest⟩ | ⟨gap, -, rest⟩
  · cases gap with
    | nil =>
        obtain ⟨-, same⟩ := List.cons.inj rest
        exact same ▸ List.suffix_rfl
    | cons d gap =>
        obtain ⟨rfl, -⟩ := List.cons.inj rest
        rw [outerName] at noColon
        simp at noColon
  · cases gap with
    | nil =>
        obtain ⟨-, same⟩ := List.cons.inj rest
        exact same ▸ List.suffix_rfl
    | cons d gap =>
        obtain ⟨-, outerRaw⟩ := List.cons.inj rest
        exact ⟨gap ++ [':'], by simpa using outerRaw.symm⟩

end WrittenVariable

namespace AtBlock

/-! ## Written and found variables -/

/-- A variable that is found is written in the text. -/
theorem exists_of_mem_customProperties {text : Text} {property : CustomProperty}
    (isFound : property ∈ customProperties text) :
    ∃ before after, ∃ written : WrittenVariable, written.IsTaken ∧
      text = before ++ written.text ++ after ∧ property = written.property := by
  obtain ⟨later, covered, ⟨before, rfl⟩, hit⟩ := Pattern.exists_of_mem_all isFound
  obtain ⟨written, taken, ⟨after, rfl⟩, rfl, -⟩ :=
    WrittenVariable.variableDeclaration_eq_some_iff.mp hit
  exact ⟨before, after, written, taken, (List.append_assoc _ _ _).symm, rfl⟩

/-- A written variable is found, or its value is an end of one that is found. -/
theorem exists_mem_customProperties {before after : Text} {written : WrittenVariable}
    (taken : written.IsTaken) :
    ∃ found : WrittenVariable, found.IsTaken ∧
      found.property ∈ customProperties (before ++ written.text ++ after) ∧
      written.raw <:+ found.raw := by
  have full : written.text ++ after ≠ [] := by simp [WrittenVariable.text]
  obtain ⟨front, inside, property, length, rfl, around, isFound, reaches⟩ :=
    Pattern.exists_mem_all_of_match before full (taken.variableDeclaration_append after)
  obtain ⟨found, foundTaken, stands, rfl, rfl⟩ :=
    WrittenVariable.variableDeclaration_eq_some_iff.mp around
  refine ⟨found, foundTaken, by rwa [List.append_assoc], ?_⟩
  refine foundTaken.raw_isSuffix taken stands (List.prefix_append _ _) ?_
  rcases reaches with rfl | reaches
  · simp [WrittenVariable.text]
  · exact reaches

end AtBlock

end DesignExport
