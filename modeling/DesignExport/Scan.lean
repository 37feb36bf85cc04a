/-
# Scanning a text for a pattern

A pattern looks at the text ahead of it and answers, where it matches, with a
value and the number of characters it covers. Scanning takes the leftmost
match, goes on behind it, and so cuts the text into matches and the gaps
between them. All scans of the library are instances of this one recursion.

The recursion is on the text: covered characters are counted off one by one,
so no pattern has to prove that it makes progress.
-/

import DesignExport.Text.Basic

namespace DesignExport

/-- A pattern answers with a value and the number of characters it covers. -/
abbrev Pattern (α : Type) := Text → Option (α × Nat)

/-- A text cut at the matches of a pattern: the gap in front of the first match,
and every match with the gap behind it. -/
structure Pieces (α : Type) where
  before : Text
  found : List (α × Text)

namespace Pattern

variable {α : Type}

/-- Scan on with `covered` characters still belonging to the last match. -/
def piecesAfter (pattern : Pattern α) : Nat → Text → Pieces α
  | _, [] => ⟨[], []⟩
  | covered + 1, _ :: rest => piecesAfter pattern covered rest
  | 0, c :: rest =>
    match pattern (c :: rest) with
    | none =>
      let after := piecesAfter pattern 0 rest
      ⟨c :: after.before, after.found⟩
    | some (value, covered) =>
      let after := piecesAfter pattern (covered - 1) rest
      ⟨[], (value, after.before) :: after.found⟩

/-- The text cut at the leftmost matches that do not overlap. -/
def pieces (pattern : Pattern α) (text : Text) : Pieces α := piecesAfter pattern 0 text

/-- The values of the matches, in order. -/
def all (pattern : Pattern α) (text : Text) : List α :=
  (pieces pattern text).found.map Prod.fst

/-- The value of the leftmost match. -/
def first? (pattern : Pattern α) (text : Text) : Option α := (all pattern text).head?

/-- The text without its matches. -/
def erase (pattern : Pattern α) (text : Text) : Text :=
  let cutUp := pieces pattern text
  cutUp.before ++ (cutUp.found.map Prod.snd).flatten

/-- The items beside the characters outside the matches, with `covered` characters still
belonging to the last match. -/
def keptBeside {β : Type} (pattern : Pattern α) : Nat → Text → List β → List β
  | _, [], _ | _, _, [] => []
  | covered + 1, _ :: rest, _ :: items => keptBeside pattern covered rest items
  | 0, c :: rest, item :: items =>
    match pattern (c :: rest) with
    | none => item :: keptBeside pattern 0 rest items
    | some (_, covered) => keptBeside pattern (covered - 1) rest items

theorem piecesAfter_eq_pieces_drop (pattern : Pattern α) (covered : Nat) (text : Text) :
    piecesAfter pattern covered text = pieces pattern (text.drop covered) := by
  induction text generalizing covered with
  | nil => simp [pieces, piecesAfter]
  | cons c rest ih =>
    cases covered with
    | zero => rfl
    | succ covered => simpa [piecesAfter] using ih covered

@[simp] theorem pieces_nil (pattern : Pattern α) : pieces pattern [] = ⟨[], []⟩ := rfl

/-- Where the pattern does not match, the character belongs to the gap. -/
theorem pieces_cons_of_none {pattern : Pattern α} {c : Char} {rest : Text}
    (miss : pattern (c :: rest) = none) :
    pieces pattern (c :: rest) =
      ⟨c :: (pieces pattern rest).before, (pieces pattern rest).found⟩ := by
  simp [pieces, piecesAfter, miss]

/-- Where the pattern matches, the gap ends and scanning goes on behind the match. -/
theorem pieces_cons_of_some {pattern : Pattern α} {c : Char} {rest : Text}
    {value : α} {covered : Nat} (hit : pattern (c :: rest) = some (value, covered)) :
    pieces pattern (c :: rest) =
      ⟨[], (value, (pieces pattern (rest.drop (covered - 1))).before) ::
        (pieces pattern (rest.drop (covered - 1))).found⟩ := by
  have step := piecesAfter_eq_pieces_drop pattern (covered - 1) rest
  simp [pieces, piecesAfter, hit] at step ⊢
  simp [step]

end Pattern

end DesignExport
