/-
# Where the name of a component comes from

A comment names the component when its label has a letter and is not boilerplate; a later
comment must also be short. Names from comments are made of letters and digits alone. Only
where no comment names the component does the first class name, so only there can an
underscore get into the name. Wherever it comes from, the name begins with a capital.
-/

import DesignExport.Proofs.Sheet.ComponentName

namespace DesignExport.ComponentName

/-- A name that begins with a capital. -/
def BeginsWithCapital (name : Text) : Prop := ∃ c ∈ name.head?, c.isUpper = true

instance (name : Text) : Decidable (BeginsWithCapital name) :=
  match name with
  | [] => isFalse (by simp [BeginsWithCapital])
  | c :: _ => decidable_of_iff (c.isUpper = true) (by simp [BeginsWithCapital])

theorem BeginsWithCapital.append {name : Text} (capital : BeginsWithCapital name)
    (more : Text) : BeginsWithCapital (name ++ more) := by
  obtain ⟨c, isHead, upper⟩ := capital
  obtain ⟨rest, rfl⟩ := List.head?_eq_some_iff.mp isHead
  exact ⟨c, rfl, upper⟩

theorem capitalize_eq_nil_iff {text : Text} : Text.capitalize text = [] ↔ text = [] := by
  cases text <;> simp [Text.capitalize]

/-- A label without letters makes no name. -/
theorem identifier_eq_nil_iff {label : Text} :
    identifier label = [] ↔ ∀ c ∈ label, c.isAlpha = false := by
  rw [identifier, capitalize_eq_nil_iff, List.dropWhile_eq_nil_iff]
  constructor
  · intro none c within
    cases alphanum : c.isAlphanum with
    | true => simpa using none c (List.mem_filter.mpr ⟨within, alphanum⟩)
    | false => exact (Bool.or_eq_false_iff.mp alphanum).1
  · intro none c kept
    simp [none c (List.mem_filter.mp kept).1]

/-- A label that names the component as that of the first comment. -/
structure NamesFirst (label : Text) : Prop where
  lettered : ∃ c ∈ label, c.isAlpha = true
  telling : label ≠ ("button" : Text)
  quiet : ∀ phrase ∈ firstCommentNoise, ¬ phrase <:+: label

/-- A label that names the component as that of any comment. -/
structure NamesAnywhere (label : Text) : Prop where
  lettered : ∃ c ∈ label, c.isAlpha = true
  short : label.length < labelLimit
  quiet : ∀ phrase ∈ anyCommentNoise, ¬ phrase <:+: label

/-- Labels of comments, one of which names the component. -/
def HasName (labels : List Text) : Prop :=
  (∃ label ∈ labels.head?, NamesFirst label) ∨ ∃ label ∈ labels, NamesAnywhere label

theorem identifier_ne_nil_iff {label : Text} :
    identifier label ≠ [] ↔ ∃ c ∈ label, c.isAlpha = true := by
  rw [ne_eq, identifier_eq_nil_iff]
  simp

theorem occursAny_eq_false_iff {phrases : List Text} {label : Text} :
    Text.occursAny phrases label = false ↔ ∀ phrase ∈ phrases, ¬ phrase <:+: label := by
  rw [Text.occursAny, List.any_eq_false]
  simp only [Text.occurs_iff_isInfix]

theorem ne_nil_of_lettered {label : Text} (lettered : ∃ c ∈ label, c.isAlpha = true) :
    label ≠ [] := by
  obtain ⟨c, within, -⟩ := lettered
  exact List.ne_nil_of_mem within

/-- The first comment gives a name exactly when its label names the component. -/
theorem ofFirstComment_cases (labels : List Text) :
    (∃ label ∈ labels.head?, NamesFirst label ∧ ofFirstComment labels = identifier label) ∨
      (¬ ∃ label ∈ labels.head?, NamesFirst label) ∧ ofFirstComment labels = [] := by
  cases labels with
  | nil => exact Or.inr ⟨by simp, rfl⟩
  | cons label more =>
      by_cases names : NamesFirst label
      · refine Or.inl ⟨label, rfl, names, ?_⟩
        have passes : (label.isEmpty || label == ("button" : Text) ||
            Text.occursAny firstCommentNoise label) = false := by
          rw [occursAny_eq_false_iff.mpr names.quiet]
          simpa using ⟨ne_nil_of_lettered names.lettered, names.telling⟩
        exact if_neg (Bool.eq_false_iff.mp passes)
      · refine Or.inr ⟨by simpa using names, ?_⟩
        rw [ofFirstComment]
        split
        · rfl
        · next passes =>
            simp only [Bool.or_eq_true, not_or, Bool.not_eq_true] at passes
            by_contra full
            exact names ⟨identifier_ne_nil_iff.mp full, by simpa using passes.1.2,
              occursAny_eq_false_iff.mp passes.2⟩

/-- Any comment gives a name exactly when its label names the component. -/
theorem ofAnyComment_cases (labels : List Text) :
    (∃ label ∈ labels, NamesAnywhere label ∧ ofAnyComment labels = identifier label) ∨
      (¬ ∃ label ∈ labels, NamesAnywhere label) ∧ ofAnyComment labels = [] := by
  rw [ofAnyComment]
  generalize isKept : (fun label : Text => !label.isEmpty && decide (label.length < labelLimit) &&
    !Text.occursAny anyCommentNoise label) = keeps
  have keeps_iff (label : Text) : keeps label = true ↔
      label ≠ [] ∧ label.length < labelLimit ∧
        ∀ phrase ∈ anyCommentNoise, ¬ phrase <:+: label := by
    rw [← isKept, ← occursAny_eq_false_iff]
    simp [and_assoc]
  cases found : ((labels.filter keeps).map identifier).find? fun name => !name.isEmpty with
  | some name =>
      have full := List.find?_some found
      obtain ⟨label, kept, rfl⟩ := List.mem_map.mp (List.mem_of_find?_eq_some found)
      obtain ⟨within, passes⟩ := List.mem_filter.mp kept
      obtain ⟨-, short, quiet⟩ := (keeps_iff label).mp passes
      have lettered := identifier_ne_nil_iff.mp (by simpa using full)
      exact Or.inl ⟨label, within, ⟨lettered, short, quiet⟩, rfl⟩
  | none =>
      refine Or.inr ⟨?_, rfl⟩
      rintro ⟨label, within, names⟩
      have kept := (keeps_iff label).mpr
        ⟨ne_nil_of_lettered names.lettered, names.short, names.quiet⟩
      have empty := List.find?_eq_none.mp found (identifier label)
        (List.mem_map_of_mem (List.mem_filter.mpr ⟨within, kept⟩))
      exact identifier_ne_nil_iff.mpr names.lettered (by simpa using empty)

/-! ## Class names -/

theorem orElse_eq_left {name other : Text} (full : name ≠ []) : Text.orElse name other = name := by
  simp [Text.orElse, full]

/-- A comment that names the component gives the name; without one, the first class name
does. -/
theorem ofText_cases (text : Text) :
    (HasName (comment.all text) ∧
      ∃ label ∈ comment.all text, (∃ c ∈ label, c.isAlpha = true) ∧
        ofText text = identifier label) ∨
    (¬ HasName (comment.all text) ∧
      ofText text = Text.orElse (ofClassName text) fallback) := by
  rw [ofText]
  obtain ⟨label, isFirst, names, first⟩ | ⟨notFirst, first⟩ := ofFirstComment_cases (comment.all text)
  · refine Or.inl ⟨Or.inl ⟨label, isFirst, names⟩, label, List.mem_of_head? isFirst,
      names.lettered, ?_⟩
    rw [first, orElse_eq_left (identifier_ne_nil_iff.mpr names.lettered)]
  · rw [first]
    obtain ⟨label, within, names, any⟩ | ⟨notAny, any⟩ := ofAnyComment_cases (comment.all text)
    · refine Or.inl ⟨Or.inr ⟨label, within, names⟩, label, within, names.lettered, ?_⟩
      rw [any, orElse_eq_left (identifier_ne_nil_iff.mpr names.lettered)]
      rfl
    · rw [any]
      exact Or.inr ⟨not_or.mpr ⟨notFirst, notAny⟩, rfl⟩

end DesignExport.ComponentName
