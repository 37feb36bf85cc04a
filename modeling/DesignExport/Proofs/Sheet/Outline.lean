/-
# The guesses of an outline

The scan for selectors cuts a text at its opening braces and makes at most one guess of
each piece in front of one. So it goes on behind every opening brace as if the rest stood
alone.

The outline sorts the guesses by depth and keeps the order within one depth. This decides
it: two lists that are sorted by depth and have the same guesses of each depth, in the same
order, are equal.
-/

import DesignExport.Proofs.StableSorting
import DesignExport.Proofs.Text
import DesignExport.Sheet.Outline

namespace DesignExport.Outline

/-! ## The scan -/

/-- The guess that a text in front of an opening brace gives. -/
def guessOf? (raw : Text) : Option ElementGuess :=
  let selector := Selector.clean raw
  if Selector.isPlain selector then some (guessOf selector) else none

/-- Nothing is guessed without a selector, so empty pieces need not be left out first. -/
theorem scan_eq_filterMap (text : Text) :
    scan text = (Text.splitOn '{' text).dropLast.filterMap guessOf? := by
  rw [scan, rawSelectors]
  induction (Text.splitOn '{' text).dropLast with
  | nil => rfl
  | cons raw more ih =>
      have nothing : guessOf? [] = none := by decide
      by_cases empty : raw = []
      · simpa [empty, nothing] using ih
      · by_cases plain : Selector.isPlain (Selector.clean raw) = true
        · simpa [empty, guessOf?, plain] using ih
        · simpa [empty, guessOf?, plain] using ih

/-- Behind an opening brace the scan goes on as if the rest stood alone. -/
theorem scan_append_opening (front rest : Text) :
    scan (front ++ '{' :: rest) = (Text.splitOn '{' front).filterMap guessOf? ++ scan rest := by
  have full := Text.splitOn_ne_nil '{' rest
  rw [scan_eq_filterMap, scan_eq_filterMap, Text.splitOn_append_mark,
    List.dropLast_append_of_ne_nil full, List.filterMap_append]

/-- A piece in front of the first opening brace gives the first guess. -/
theorem scan_selector_append {raw : Text} (clear : '{' ∉ raw) (rest : Text) :
    scan (raw ++ '{' :: rest) = (guessOf? raw).toList ++ scan rest := by
  rw [scan_append_opening, Text.splitOn_of_not_mem clear]
  cases found : guessOf? raw <;> simp [found]

/-- Without an opening brace there is no guess. -/
theorem scan_of_not_mem {text : Text} (clear : '{' ∉ text) : scan text = [] := by
  rw [scan_eq_filterMap, Text.splitOn_of_not_mem clear]
  rfl

/-- Every guess is the one of its selector. -/
theorem eq_guessOf_of_mem_scan {text : Text} {guess : ElementGuess} (isGuess : guess ∈ scan text) :
    guess = guessOf guess.selector := by
  obtain ⟨selector, -, rfl⟩ := List.mem_map.mp isGuess
  rfl

/-! ## The order by depth -/

/-- Whether a guess may stand in front of another. -/
def notDeeper (first second : ElementGuess) : Bool := decide (first.depth ≤ second.depth)

theorem notDeeper_iff {first second : ElementGuess} :
    notDeeper first second = true ↔ first.depth ≤ second.depth := decide_eq_true_iff

theorem notDeeper_trans (first second third : ElementGuess) (front : notDeeper first second)
    (behind : notDeeper second third) : notDeeper first third :=
  notDeeper_iff.mpr (Nat.le_trans (notDeeper_iff.mp front) (notDeeper_iff.mp behind))

theorem notDeeper_total (first second : ElementGuess) :
    (notDeeper first second || notDeeper second first) = true := by
  rw [Bool.or_eq_true, notDeeper_iff, notDeeper_iff]
  exact Nat.le_total first.depth second.depth

/-- No guess stands behind a deeper one. -/
def IsSorted (guesses : List ElementGuess) : Prop :=
  guesses.Pairwise fun first second => first.depth ≤ second.depth

theorem isSorted_iff {guesses : List ElementGuess} :
    IsSorted guesses ↔ guesses.Pairwise (notDeeper · ·) := by
  simp only [IsSorted, notDeeper_iff]

/-- The first guess of a sorted list is one of the least depth. -/
theorem IsSorted.depth_le {guess other : ElementGuess} {more : List ElementGuess}
    (sorted : IsSorted (guess :: more)) (within : other ∈ guess :: more) :
    guess.depth ≤ other.depth :=
  rel_head_of_pairwise (· ≤ ·) sorted within

/-- The guesses of one depth, in their order. -/
def ofDepth (depth : Nat) (guesses : List ElementGuess) : List ElementGuess :=
  guesses.filter fun guess => guess.depth == depth

theorem ofDepth_append (depth : Nat) (front rest : List ElementGuess) :
    ofDepth depth (front ++ rest) = ofDepth depth front ++ ofDepth depth rest :=
  List.filter_append front rest

theorem ofDepth_cons_of_eq {guess : ElementGuess} (guesses : List ElementGuess) :
    ofDepth guess.depth (guess :: guesses) = guess :: ofDepth guess.depth guesses :=
  List.filter_cons_of_pos (by simp)

theorem ofDepth_cons_of_ne {depth : Nat} {guess : ElementGuess} (differ : guess.depth ≠ depth)
    (guesses : List ElementGuess) : ofDepth depth (guess :: guesses) = ofDepth depth guesses :=
  List.filter_cons_of_neg (by simpa using differ)

theorem mem_ofText {text : Text} {guess : ElementGuess} :
    guess ∈ ofText text ↔ guess ∈ scan text :=
  List.mem_mergeSort

/-- An outline is sorted by depth. -/
theorem isSorted_ofText (text : Text) : IsSorted (ofText text) :=
  isSorted_iff.mpr (List.pairwise_mergeSort notDeeper_trans notDeeper_total (scan text))

/-- Within one depth an outline keeps the order of the scan. -/
theorem ofDepth_ofText (depth : Nat) (text : Text) :
    ofDepth depth (ofText text) = ofDepth depth (scan text) := by
  refine filter_mergeSort notDeeper_trans notDeeper_total (fun first second isFirst isSecond => ?_)
    (scan text)
  rw [notDeeper_iff, eq_of_beq isFirst, eq_of_beq isSecond]

/-- The guesses of each depth decide a sorted list. -/
theorem eq_of_ofDepth {first second : List ElementGuess} (firstSorted : IsSorted first)
    (secondSorted : IsSorted second)
    (same : ∀ depth, ofDepth depth first = ofDepth depth second) : first = second :=
  eq_of_forall_filter_eq ElementGuess.depth (· ≤ ·) firstSorted secondSorted same

/-! ## Merging -/

/-- Merging sorted lists puts the guesses of each depth one after the other. -/
theorem ofDepth_merge {first second : List ElementGuess} (firstSorted : IsSorted first)
    (depth : Nat) :
    ofDepth depth (first.merge second notDeeper) =
      ofDepth depth first ++ ofDepth depth second := by
  induction first generalizing second with
  | nil => simp [ofDepth]
  | cons guess more ih =>
      induction second with
      | nil => simp [ofDepth]
      | cons other others ihOthers =>
          rw [List.cons_merge_cons]
          by_cases ordered : notDeeper guess other = true
          · rw [if_pos ordered]
            have tails := @ih (other :: others) firstSorted.of_cons
            by_cases here : guess.depth = depth
            · subst here
              rw [ofDepth_cons_of_eq, ofDepth_cons_of_eq, tails, List.cons_append]
            · rw [ofDepth_cons_of_ne here, ofDepth_cons_of_ne here, tails]
          · rw [if_neg ordered]
            by_cases here : other.depth = depth
            · -- Every guess of the first list is deeper than this one.
              subst here
              have deeper : other.depth < guess.depth := by simpa [notDeeper] using ordered
              have none : ofDepth other.depth (guess :: more) = [] := by
                rw [ofDepth, List.filter_eq_nil_iff]
                intro found within
                have atLeast := firstSorted.depth_le within
                simp
                omega
              rw [none] at ihOthers ⊢
              rw [ofDepth_cons_of_eq, ofDepth_cons_of_eq, ihOthers, List.nil_append,
                List.nil_append]
            · rw [ofDepth_cons_of_ne here, ofDepth_cons_of_ne here, ihOthers]

theorem isSorted_merge {first second : List ElementGuess} (firstSorted : IsSorted first)
    (secondSorted : IsSorted second) : IsSorted (first.merge second notDeeper) :=
  isSorted_iff.mpr (List.pairwise_merge notDeeper_trans notDeeper_total first second
    (isSorted_iff.mp firstSorted) (isSorted_iff.mp secondSorted))

end DesignExport.Outline
