/-
# Parts of texts

Facts about the small text functions that the scans are made of: where a part
occurs, where a text is split, which letters change case, and what trimming takes
away. A text that occurs is an infix and splitting at a mark is the splitting of
lists, so both are led back to the list library. Trimming is described by the blanks
that it takes from the two ends.
-/

import DesignExport.Text.Blank
import Mathlib.Data.List.DropRight
import Mathlib.Data.List.TakeWhile

namespace DesignExport

/-- Every member of a list stands in it for a last time. -/
theorem exists_last_of_mem {α : Type} {a : α} {list : List α} (within : a ∈ list) :
    ∃ before behind, list = before ++ a :: behind ∧ a ∉ behind := by
  obtain ⟨before, behind, whole, last⟩ :=
    List.eq_append_cons_of_mem (List.mem_reverse.mpr within)
  refine ⟨behind.reverse, before.reverse, ?_, by simpa using last⟩
  simpa using congrArg List.reverse whole

namespace Text

/-- What holds of every character of a text is decided along the text; there are too
many characters to try them all. -/
instance (priority := high) decidableForallMem (text : Text) (p : Char → Prop)
    [DecidablePred p] : Decidable (∀ c ∈ text, p c) :=
  List.decidableBAll p text

/-- A quoted text is its characters; reading them off the quotation is slow. -/
theorem forall_mem_toList_ofList {p : Char → Prop} {chars : Text} (all : ∀ c ∈ chars, p c) :
    ∀ c ∈ (String.ofList chars).toList, p c := by
  rwa [String.toList_ofList]

/-! ## Occurrences -/

/-- A part occurs in a text exactly when the text continues it on both sides. -/
theorem occurs_iff_isInfix (part text : Text) : occurs part text = true ↔ part <:+: text := by
  induction text with
  | nil => simp [occurs]
  | cons c rest ih => simp [occurs, List.infix_cons_iff, ih]

/-- A mark of two characters that neither half of a text holds occurs only
where the halves meet. -/
theorem not_pair_isInfix_append {first second : Char} {left right : Text}
    (notLeft : ¬ [first, second] <:+: left) (notRight : ¬ [first, second] <:+: right)
    (apart : left.getLast? ≠ some first ∨ right.head? ≠ some second) :
    ¬ [first, second] <:+: left ++ right := by
  rw [List.infix_append_iff_ne_nil]
  rintro (within | within | ⟨ending, start, endingFull, startFull, whole, isSuffix, isPrefix⟩)
  · exact notLeft within
  · exact notRight within
  · -- Both parts of the mark are single characters, so the halves meet in it.
    obtain ⟨c, rfl⟩ : ∃ c, ending = [c] := by
      rw [← List.length_eq_one_iff]
      have lengths := congrArg List.length whole
      have := List.length_pos_iff.mpr endingFull
      have := List.length_pos_iff.mpr startFull
      simp at lengths
      omega
    obtain ⟨rfl, rfl⟩ : first = c ∧ start = [second] := by simpa [eq_comm] using whole
    obtain ⟨before, rfl⟩ := isSuffix
    obtain ⟨after, rfl⟩ := isPrefix
    simp at apart

/-- A word without a mark that occurs in a text stands in front of the mark or behind it. -/
theorem isInfix_append_cons_of_not_mem {word front rest : Text} {mark : Char}
    (clear : mark ∉ word) (within : word <:+: front ++ mark :: rest) :
    word <:+: front ∨ word <:+: rest := by
  have unbegun {part : Text} (isPart : part ⊆ word) (isPrefix : part <+: mark :: rest) :
      part = [] := by
    rcases List.prefix_cons_iff.mp isPrefix with rfl | ⟨more, rfl, -⟩
    · rfl
    · exact absurd (isPart List.mem_cons_self) clear
  rcases List.infix_append_iff_ne_nil.mp within with
    inFront | behind | ⟨ending, start, -, startFull, rfl, -, isPrefix⟩
  · exact Or.inl inFront
  · rcases List.infix_cons_iff.mp behind with isPrefix | inRest
    · rw [unbegun (List.Subset.refl word) isPrefix]
      exact Or.inl List.nil_infix
    · exact Or.inr inRest
  · exact absurd (unbegun (List.subset_append_right ending start) isPrefix) startFull

/-! ## Splitting -/

theorem splitOn_ne_nil (mark : Char) (text : Text) : splitOn mark text ≠ [] := by
  cases text with
  | nil => simp [splitOn]
  | cons c rest =>
      simp only [splitOn, List.foldr_cons]
      split
      · simp
      · split <;> simp

/-- Splitting at a mark is the splitting of lists. -/
theorem splitOn_eq_list_splitOn (mark : Char) (text : Text) :
    splitOn mark text = List.splitOn mark text := by
  induction text with
  | nil => rfl
  | cons c rest ih =>
      have step : splitOn mark (c :: rest) =
          if c = mark then [] :: splitOn mark rest
          else (splitOn mark rest).modifyHead (c :: ·) := by
        have full := splitOn_ne_nil mark rest
        simp only [splitOn, List.foldr_cons] at full ⊢
        split
        · rfl
        · split
          · next empty => exact absurd empty full
          · next pieces => rw [pieces, List.modifyHead_cons]
      simp only [step, List.splitOn_cons_eq_if_modifyHead, ih, beq_iff_eq]

/-- Rows without the mark are read back from the text that joins them with it. -/
theorem splitOn_joinWith {mark : Char} {rows : List Text} (clear : ∀ row ∈ rows, mark ∉ row)
    (full : rows ≠ []) : splitOn mark (joinWith [mark] rows) = rows := by
  rw [splitOn_eq_list_splitOn]
  exact List.splitOn_intercalate mark clear full

/-- Two texts with a mark between them are split on their own. -/
theorem splitOn_append_mark (mark : Char) (before after : Text) :
    splitOn mark (before ++ mark :: after) = splitOn mark before ++ splitOn mark after := by
  simp only [splitOn_eq_list_splitOn]
  exact List.splitOn_append_cons_self before after

/-- A text without the mark is one piece. -/
theorem splitOn_of_not_mem {mark : Char} {text : Text} (clear : mark ∉ text) :
    splitOn mark text = [text] := by
  rw [splitOn_eq_list_splitOn]
  exact List.splitOn_eq_singleton clear

/-- What stands in front of the first mark is the first piece. -/
theorem splitOn_append_cons {mark : Char} {first : Text} (clear : mark ∉ first) (rest : Text) :
    splitOn mark (first ++ mark :: rest) = first :: splitOn mark rest := by
  rw [splitOn_append_mark, splitOn_of_not_mem clear, List.singleton_append]

/-- What stands behind a text without a mark belongs to the last piece. -/
theorem exists_splitOn_append {mark : Char} (text : Text) {behind : Text} (clear : mark ∉ behind) :
    ∃ last, splitOn mark (text ++ behind) = (splitOn mark text).dropLast ++ [last ++ behind] := by
  by_cases within : mark ∈ text
  · obtain ⟨front, last, rfl, lastClear⟩ := exists_last_of_mem within
    have wholeClear : mark ∉ last ++ behind := by simp [lastClear, clear]
    refine ⟨last, ?_⟩
    rw [List.append_assoc, List.cons_append, splitOn_append_mark, splitOn_append_mark,
      splitOn_of_not_mem lastClear, splitOn_of_not_mem wholeClear, List.dropLast_concat]
  · have wholeClear : mark ∉ text ++ behind := by simp [within, clear]
    refine ⟨text, ?_⟩
    rw [splitOn_of_not_mem within, splitOn_of_not_mem wholeClear]
    rfl

/-- The pieces hold characters of the text, and no mark. -/
theorem mem_and_ne_of_mem_splitOn {mark : Char} {text piece : Text}
    (isPiece : piece ∈ splitOn mark text) {c : Char} (within : c ∈ piece) :
    c ∈ text ∧ c ≠ mark := by
  induction text generalizing piece with
  | nil =>
      obtain rfl : piece = [] := by simpa [splitOn] using isPiece
      simp at within
  | cons d rest ih =>
      have later {piece : Text} (isPiece : piece ∈ splitOn mark rest) (within : c ∈ piece) :
          c ∈ d :: rest ∧ c ≠ mark :=
        ⟨List.mem_cons_of_mem d (ih isPiece within).1, (ih isPiece within).2⟩
      rw [splitOn_eq_list_splitOn, List.splitOn_cons_eq_if_modifyHead,
        ← splitOn_eq_list_splitOn] at isPiece
      split at isPiece
      · rcases List.mem_cons.mp isPiece with rfl | isPiece
        · simp at within
        · exact later isPiece within
      · next differ =>
          obtain ⟨first, more, pieces⟩ := List.exists_cons_of_ne_nil (splitOn_ne_nil mark rest)
          rw [pieces, List.modifyHead_cons] at isPiece
          rcases List.mem_cons.mp isPiece with rfl | isPiece
          · rcases List.mem_cons.mp within with rfl | within
            · exact ⟨List.mem_cons_self, by simpa using differ⟩
            · exact later (by simp [pieces]) within
          · exact later (by simp [pieces, isPiece]) within

/-- A run of a class ends where what follows does not go on with it. -/
theorem takeWhile_append_of_head? {p : Char → Bool} {run rest : Text}
    (all : ∀ c ∈ run, p c = true) (stops : ∀ c ∈ rest.head?, p c = false) :
    (run ++ rest).takeWhile p = run := by
  rw [List.takeWhile_append_of_pos all]
  cases rest with
  | nil => exact List.append_nil run
  | cons c rest => rw [List.takeWhile_cons_of_neg (by simp [stops c rfl]), List.append_nil]

theorem dropWhile_append_of_head? {p : Char → Bool} {run rest : Text}
    (all : ∀ c ∈ run, p c = true) (stops : ∀ c ∈ rest.head?, p c = false) :
    (run ++ rest).dropWhile p = rest := by
  rw [List.dropWhile_append_of_pos all]
  cases rest with
  | nil => rfl
  | cons c rest => exact List.dropWhile_cons_of_neg (by simp [stops c rfl])

/-- A run of a class ends in front of the first character outside it. -/
theorem takeWhile_append_cons {p : Char → Bool} {run : Text} (all : ∀ c ∈ run, p c = true)
    {c : Char} (stops : p c = false) (rest : Text) : (run ++ c :: rest).takeWhile p = run :=
  takeWhile_append_of_head? all (by simpa using stops)

theorem dropWhile_append_cons {p : Char → Bool} {run : Text} (all : ∀ c ∈ run, p c = true)
    {c : Char} (stops : p c = false) (rest : Text) :
    (run ++ c :: rest).dropWhile p = c :: rest :=
  dropWhile_append_of_head? all (by simpa using stops)

/-- Behind a run of characters of a class stands a character outside it. -/
theorem eq_false_of_head?_dropWhile {p : Char → Bool} {text : Text} {c : Char}
    (isHead : (text.dropWhile p).head? = some c) : p c = false := by
  have stopped := List.head?_dropWhile_not p text
  rw [isHead] at stopped
  simpa using stopped

/-- A text is cut where a run of characters of a class ends. -/
theorem eq_takeWhile_append {p : Char → Bool} {text rest : Text} {c : Char}
    (left : text.dropWhile p = c :: rest) :
    text = text.takeWhile p ++ c :: rest ∧ p c = false := by
  constructor
  · rw [← left, List.takeWhile_append_dropWhile]
  · have isHead : (text.dropWhile p).head? = some c := by rw [left, List.head?_cons]
    exact eq_false_of_head?_dropWhile isHead

/-- The text in front of the first mark, and the text behind it. -/
theorem cut_append_mark {mark : Char} {before : Text} (clear : mark ∉ before) (after : Text) :
    cut mark (before ++ mark :: after) = (before, some after) := by
  induction before with
  | nil => simp [cut]
  | cons c rest ih =>
      obtain ⟨differ, clear⟩ := not_or.mp (List.mem_cons.not.mp clear)
      simp [cut, Ne.symm differ, ih clear]

/-- Without a mark nothing is cut off. -/
theorem cut_of_not_mem {mark : Char} {text : Text} (clear : mark ∉ text) :
    cut mark text = (text, none) := by
  induction text with
  | nil => rfl
  | cons c rest ih =>
      obtain ⟨differ, clear⟩ := not_or.mp (List.mem_cons.not.mp clear)
      simp [cut, Ne.symm differ, ih clear]

/-- A text is cut at its first mark, if it has one. -/
theorem cut_cases (mark : Char) (text : Text) :
    (mark ∉ text ∧ cut mark text = (text, none)) ∨
      ∃ before after, text = before ++ mark :: after ∧ mark ∉ before ∧
        cut mark text = (before, some after) := by
  by_cases within : mark ∈ text
  · obtain ⟨before, after, rfl, clear⟩ := List.eq_append_cons_of_mem within
    exact Or.inr ⟨before, after, rfl, clear, cut_append_mark clear after⟩
  · exact Or.inl ⟨within, cut_of_not_mem within⟩

/-- What follows the last stop is an end of the text without a stop. -/
theorem afterLast_suffix (stop : Char → Bool) (text : Text) : afterLast stop text <:+ text := by
  have isPrefix := List.takeWhile_prefix (fun c => !stop c) (l := text.reverse)
  simpa [afterLast] using List.reverse_suffix.mpr isPrefix

theorem eq_false_of_mem_afterLast {stop : Char → Bool} {text : Text} {c : Char}
    (within : c ∈ afterLast stop text) : stop c = false := by
  have kept := List.mem_takeWhile_imp (List.mem_reverse.mp within)
  simpa using kept

/-- Only what stands behind the last stop is left. -/
theorem afterLast_append_of_stop {stop : Char → Bool} {front : Text} {c : Char}
    (ending : front.getLast? = some c) (stops : stop c = true) (rest : Text) :
    afterLast stop (front ++ rest) = afterLast stop rest := by
  obtain ⟨before, rfl⟩ := List.getLast?_eq_some_iff.mp ending
  have stopped : ((before ++ [c] ++ rest).reverse.takeWhile fun c => !stop c) =
      rest.reverse.takeWhile fun c => !stop c := by
    rw [List.reverse_append, List.takeWhile_append]
    split
    · next all =>
        have whole := (List.takeWhile_prefix (fun c => !stop c)).eq_of_length all
        simp [stops, whole]
    · rfl
  rw [afterLast, stopped, afterLast]

theorem afterLast_eq_self {stop : Char → Bool} {text : Text}
    (unstopped : ∀ c ∈ text, stop c = false) : afterLast stop text = text := by
  have all : ∀ c ∈ text.reverse, (!stop c) = true := fun c within => by
    simpa using unstopped c (List.mem_reverse.mp within)
  rw [afterLast, List.takeWhile_eq_self_iff.mpr all, List.reverse_reverse]

theorem afterLast_of_not_mem {mark : Char} {text : Text} (clear : mark ∉ text) :
    afterLast (· == mark) text = text :=
  afterLast_eq_self fun _ within => beq_eq_false_iff_ne.mpr fun same => clear (same ▸ within)

theorem afterLast_append_mark (mark : Char) (front rest : Text) :
    afterLast (· == mark) (front ++ mark :: rest) = afterLast (· == mark) rest := by
  have ending : (front ++ [mark]).getLast? = some mark := List.getLast?_concat
  have stopped := @afterLast_append_of_stop (· == mark) (front ++ [mark]) mark ending
    (beq_self_eq_true mark) rest
  rwa [List.append_assoc, List.singleton_append] at stopped

/-- Rows that each end with a mark are the joined rows with one more mark. -/
theorem flatMap_append_mark (mark : Char) {rows : List Text} (full : rows ≠ []) :
    rows.flatMap (· ++ [mark]) = joinWith [mark] rows ++ [mark] := by
  induction rows with
  | nil => exact absurd rfl full
  | cons row rest ih =>
      cases rest with
      | nil => simp [joinWith]
      | cons next more =>
          rw [List.flatMap_cons, ih (List.cons_ne_nil _ _)]
          simp [joinWith, List.intercalate]

/-- Rows that each end with a mark are read back, and nothing stands behind the last mark. -/
theorem splitOn_flatMap_append_mark {mark : Char} {rows : List Text}
    (clear : ∀ row ∈ rows, mark ∉ row) :
    splitOn mark (rows.flatMap (· ++ [mark])) = rows ++ [[]] := by
  induction rows with
  | nil => rfl
  | cons row rest ih =>
      obtain ⟨first, others⟩ := List.forall_mem_cons.mp clear
      rw [List.flatMap_cons, List.append_assoc, List.singleton_append, splitOn_append_cons first,
        ih others, List.cons_append]

/-- A mark of two characters that stands in no row does not stand in the rows
either, when the character that ends them is none of the two. -/
theorem not_pair_isInfix_flatMap {first second mark : Char} {rows : List Text}
    (clear : ∀ row ∈ rows, ¬ [first, second] <:+: row) (notFirst : mark ≠ first)
    (notSecond : mark ≠ second) : ¬ [first, second] <:+: rows.flatMap (· ++ [mark]) := by
  induction rows with
  | nil => simp
  | cons row rest ih =>
      have ended : ¬ [first, second] <:+: row ++ [mark] :=
        not_pair_isInfix_append (clear row List.mem_cons_self)
          (fun within => absurd within.length_le (by simp)) (Or.inr (by simpa using notSecond))
      rw [List.flatMap_cons]
      exact not_pair_isInfix_append ended
        (ih fun row within => clear row (List.mem_cons_of_mem _ within))
        (Or.inl (by simpa using notFirst))

/-! ## Letter case -/

theorem isUpper_iff {c : Char} : c.isUpper = true ↔ 65 ≤ c.val.toNat ∧ c.val.toNat ≤ 90 :=
  decide_eq_true_iff.trans (and_congr UInt32.le_iff_toNat_le UInt32.le_iff_toNat_le)

theorem isLower_iff {c : Char} : c.isLower = true ↔ 97 ≤ c.val.toNat ∧ c.val.toNat ≤ 122 := by
  change (decide ('a'.val ≤ c.val) && decide (c.val ≤ 'z'.val)) = true ↔ _
  rw [Bool.and_eq_true, decide_eq_true_iff, decide_eq_true_iff]
  exact and_congr UInt32.le_iff_toNat_le UInt32.le_iff_toNat_le

theorem isAlphanum_iff {c : Char} :
    c.isAlphanum = true ↔ (c.isUpper = true ∨ c.isLower = true) ∨ c.isDigit = true := by
  change ((c.isUpper || c.isLower) || c.isDigit) = true ↔ _
  rw [Bool.or_eq_true, Bool.or_eq_true]

theorem isAlpha_iff {c : Char} : c.isAlpha = true ↔ c.isUpper = true ∨ c.isLower = true :=
  Bool.or_eq_true _ _ ▸ Iff.rfl

/-- A letter in upper case is a capital. -/
theorem isUpper_toUpper {c : Char} (letter : c.isAlpha = true) : c.toUpper.isUpper = true := by
  unfold Char.toUpper
  split
  · next lower =>
      have above : 97 ≤ c.val.toNat := by simpa using UInt32.le_iff_toNat_le.mp lower.1
      have below : c.val.toNat ≤ 122 := by simpa using UInt32.le_iff_toNat_le.mp lower.2
      -- The distance from small to capital letters is negative, so the code wraps around.
      have moved : (c.val + ('A'.val - 'a'.val)).toNat = c.val.toNat - 32 := by
        have distance : ('A'.val - 'a'.val).toNat = 4294967264 := rfl
        rw [UInt32.toNat_add]
        omega
      have isCapital : 65 ≤ (c.val + ('A'.val - 'a'.val)).toNat ∧
          (c.val + ('A'.val - 'a'.val)).toNat ≤ 90 := by omega
      exact isUpper_iff.mpr isCapital
  · next other =>
      rcases isAlpha_iff.mp letter with upper | lower
      · exact upper
      · obtain ⟨above, below⟩ := isLower_iff.mp lower
        exact absurd ⟨UInt32.le_iff_toNat_le.mpr above, UInt32.le_iff_toNat_le.mpr below⟩ other

theorem toUpper_eq_self {c : Char} (other : c.isLower = false) : c.toUpper = c := by
  unfold Char.toUpper
  split
  · next lower =>
      have isLower : c.isLower = true :=
        isLower_iff.mpr ⟨UInt32.le_iff_toNat_le.mp lower.1, UInt32.le_iff_toNat_le.mp lower.2⟩
      simp [isLower] at other
  · rfl

/-- The capital of a letter is a letter. -/
theorem isAlphanum_toUpper {c : Char} (alphanum : c.isAlphanum = true) :
    c.toUpper.isAlphanum = true := by
  by_cases letter : c.isAlpha = true
  · exact isAlphanum_iff.mpr (Or.inl (Or.inl (isUpper_toUpper letter)))
  · have notLower : c.isLower = false := by
      rw [isAlpha_iff] at letter
      simpa using fun lower => letter (Or.inr lower)
    rwa [toUpper_eq_self notLower]

/-- The small form of a letter or digit is a small letter or a digit. -/
theorem isLower_or_isDigit_toLower {c : Char} (alphanum : c.isAlphanum = true) :
    c.toLower.isLower = true ∨ c.toLower.isDigit = true := by
  unfold Char.toLower
  split
  · next upper =>
      have above : 65 ≤ c.val.toNat := by simpa using UInt32.le_iff_toNat_le.mp upper.1
      have below : c.val.toNat ≤ 90 := by simpa using UInt32.le_iff_toNat_le.mp upper.2
      have moved : (c.val + ('a'.val - 'A'.val)).toNat = c.val.toNat + 32 := by
        have distance : ('a'.val - 'A'.val).toNat = 32 := rfl
        rw [UInt32.toNat_add]
        omega
      have isSmall : 97 ≤ (c.val + ('a'.val - 'A'.val)).toNat ∧
          (c.val + ('a'.val - 'A'.val)).toNat ≤ 122 := by omega
      exact Or.inl (isLower_iff.mpr isSmall)
  · next other =>
      rcases isAlphanum_iff.mp alphanum with (upper | lower) | digit
      · obtain ⟨above, below⟩ := isUpper_iff.mp upper
        exact absurd ⟨UInt32.le_iff_toNat_le.mpr above, UInt32.le_iff_toNat_le.mpr below⟩ other
      · exact Or.inl lower
      · exact Or.inr digit

/-- The small letter of a capital is a letter. -/
theorem isAlphanum_toLower {c : Char} (alphanum : c.isAlphanum = true) :
    c.toLower.isAlphanum = true := by
  rcases isLower_or_isDigit_toLower alphanum with lower | digit
  · exact isAlphanum_iff.mpr (Or.inl (Or.inr lower))
  · exact isAlphanum_iff.mpr (Or.inr digit)

/-- A character whose small form is no letter or digit is its own small form. -/
theorem toLower_eq_self_of_toLower {c : Char} (other : c.toLower.isAlphanum = false) :
    c.toLower = c := by
  by_cases alphanum : c.isAlphanum = true
  · rw [isAlphanum_toLower alphanum] at other
    exact absurd other (by decide)
  · unfold Char.toLower
    split
    · next upper =>
        have isUpper : c.isUpper = true := decide_eq_true_iff.mpr upper
        exact absurd (isAlphanum_iff.mpr (Or.inl (Or.inl isUpper))) alphanum
    · rfl

/-- Capitalizing keeps a text within a class of characters that has the capitals of
its members. -/
theorem forall_mem_capitalize {p : Char → Prop} (capitals : ∀ c, p c → p c.toUpper)
    {text : Text} (all : ∀ c ∈ text, p c) : ∀ c ∈ capitalize text, p c := by
  cases text with
  | nil => exact all
  | cons first rest =>
      intro c within
      rcases List.mem_cons.mp within with rfl | within
      · exact capitals first (all first List.mem_cons_self)
      · exact all c (List.mem_cons_of_mem first within)

/-! ## Trimming -/

section Trimming

variable (drop : Char → Bool)

/-- Stripping takes characters of the class from both ends and nothing else. -/
theorem exists_eq_append_stripOf (text : Text) :
    ∃ lead trail : Text, (∀ c ∈ lead, drop c) ∧ (∀ c ∈ trail, drop c) ∧
      text = lead ++ stripOf drop text ++ trail := by
  refine ⟨text.takeWhile drop, (text.dropWhile drop).rtakeWhile drop, ?_, ?_, ?_⟩
  · exact fun c within => List.mem_takeWhile_imp within
  · exact fun c within => List.mem_rtakeWhile_imp within
  · have behind : stripOf drop text ++ (text.dropWhile drop).rtakeWhile drop =
        text.dropWhile drop := List.rdropWhile_append_rtakeWhile
    rw [List.append_assoc, behind, List.takeWhile_append_dropWhile]

/-- A text whose two ends do not belong to the class stays as it is. -/
theorem stripOf_eq_self {text : Text} (head : ∀ c ∈ text.head?, drop c = false)
    (last : ∀ c ∈ text.getLast?, drop c = false) : stripOf drop text = text := by
  have keepsHead : text.dropWhile drop = text := by
    cases text with
    | nil => rfl
    | cons c rest => simp [head c rfl]
  have keepsLast : text.rdropWhile drop = text := by
    rw [List.rdropWhile_eq_self_iff]
    intro full
    simp [last _ (List.getLast?_eq_some_getLast full)]
  calc
    stripOf drop text = (text.dropWhile drop).rdropWhile drop := rfl
    _ = text := by rw [keepsHead, keepsLast]

/-- Characters of the class at the ends do not change what is left. -/
theorem stripOf_append {lead trail : Text} (leadDrop : ∀ c ∈ lead, drop c)
    (trailDrop : ∀ c ∈ trail, drop c) (text : Text) :
    stripOf drop (lead ++ text ++ trail) = stripOf drop text := by
  have withoutLead : (lead ++ text ++ trail).dropWhile drop = (text ++ trail).dropWhile drop := by
    rw [List.append_assoc, List.dropWhile_append_of_pos leadDrop]
  by_cases empty : text.dropWhile drop = []
  · have gone : (text ++ trail).dropWhile drop = [] := by
      rw [List.dropWhile_append, empty]
      simpa using List.dropWhile_eq_nil_iff.mpr trailDrop
    rw [stripOf, withoutLead, gone, stripOf, empty]
  · have kept : (text ++ trail).dropWhile drop = text.dropWhile drop ++ trail := by
      rw [List.dropWhile_append]
      simp [empty]
    rw [stripOf, withoutLead, kept, List.reverse_append,
      List.dropWhile_append_of_pos (by simpa using trailDrop), stripOf]

/-- Stripping a second time changes nothing. -/
theorem stripOf_stripOf (text : Text) : stripOf drop (stripOf drop text) = stripOf drop text := by
  obtain ⟨lead, trail, leadDrop, trailDrop, whole⟩ := exists_eq_append_stripOf drop text
  calc
    stripOf drop (stripOf drop text) = stripOf drop (lead ++ stripOf drop text ++ trail) :=
      (stripOf_append drop leadDrop trailDrop _).symm
    _ = stripOf drop text := by rw [← whole]

/-- Nothing is left of a text of the class, and of no other text. -/
theorem stripOf_eq_nil_iff {text : Text} : stripOf drop text = [] ↔ ∀ c ∈ text, drop c = true := by
  constructor
  · intro nothing
    obtain ⟨lead, trail, leadDrop, trailDrop, whole⟩ := exists_eq_append_stripOf drop text
    rw [nothing, List.append_nil] at whole
    rw [whole]
    exact List.forall_mem_append.mpr ⟨leadDrop, trailDrop⟩
  · exact fun all => stripOf_append drop (List.forall_mem_nil _) all []

theorem stripOf_sublist (text : Text) : (stripOf drop text).Sublist text :=
  (List.rdropWhile_prefix drop _).sublist.trans (List.dropWhile_sublist drop)

/-- What is left does not begin with a character of the class. -/
theorem of_head?_stripOf {text : Text} {c : Char} (head : (stripOf drop text).head? = some c) :
    drop c = false := by
  obtain ⟨more, stripped⟩ := List.head?_eq_some_iff.mp head
  have isPrefix : stripOf drop text <+: text.dropWhile drop := List.rdropWhile_prefix drop _
  rw [stripped] at isPrefix
  obtain ⟨behind, whole⟩ := isPrefix
  have isHead : (text.dropWhile drop).head? = some c := by rw [← whole]; rfl
  exact eq_false_of_head?_dropWhile isHead

/-- What is left does not end with a character of the class. -/
theorem of_getLast?_stripOf {text : Text} {c : Char} (last : (stripOf drop text).getLast? = some c) :
    drop c = false := by
  have full : (text.dropWhile drop).rdropWhile drop ≠ [] := by
    intro empty
    have nothing : stripOf drop text = [] := empty
    simp [nothing] at last
  have stopped := List.rdropWhile_last_not drop _ full
  obtain rfl : ((text.dropWhile drop).rdropWhile drop).getLast full = c := by
    have isLast : (stripOf drop text).getLast? = _ := List.getLast?_eq_some_getLast full
    rw [isLast] at last
    exact Option.some.inj last
  simpa using stopped

/-- A part that begins with a character outside the class stays behind. -/
theorem isInfix_dropWhile {c : Char} {more text : Text} (kept : drop c = false)
    (within : c :: more <:+: text) : c :: more <:+: text.dropWhile drop := by
  induction text with
  | nil => simp at within
  | cons d rest ih =>
      by_cases dropped : drop d = true
      · rw [List.dropWhile_cons_of_pos dropped]
        rcases List.infix_cons_iff.mp within with here | later
        · obtain ⟨rfl, -⟩ := List.cons_prefix_cons.mp here
          simp [kept] at dropped
        · exact ih later
      · rwa [List.dropWhile_cons_of_neg dropped]

/-- A part whose two ends do not belong to the class survives stripping. -/
theorem isInfix_stripOf {part text : Text} (head : ∃ c ∈ part.head?, drop c = false)
    (last : ∃ c ∈ part.getLast?, drop c = false) (within : part <:+: text) :
    part <:+: stripOf drop text := by
  obtain ⟨first, isHead, firstKept⟩ := head
  obtain ⟨more, rfl⟩ := List.head?_eq_some_iff.mp isHead
  obtain ⟨final, isLast, finalKept⟩ := last
  obtain ⟨before, reversed⟩ := List.getLast?_eq_some_iff.mp isLast
  have fromFront := isInfix_dropWhile drop firstKept within
  -- The other end is the front of the reversed text.
  rw [← List.reverse_infix, reversed, List.reverse_concat] at fromFront
  have fromBack := isInfix_dropWhile drop finalKept fromFront
  rwa [← List.reverse_concat, ← reversed, ← List.reverse_reverse (List.dropWhile _ _),
    List.reverse_infix] at fromBack

end Trimming

/-- Blanks in front of a text are trimmed off. -/
theorem trim_blank_append {lead : Text} (blank : ∀ c ∈ lead, isBlank c = true) (text : Text) :
    trim (lead ++ text) = trim text := by
  simpa [trim] using stripOf_append isBlank blank (List.forall_mem_nil _) text

/-- Blanks behind a text are trimmed off. -/
theorem trim_append_blank {trail : Text} (blank : ∀ c ∈ trail, isBlank c = true) (text : Text) :
    trim (text ++ trail) = trim text :=
  stripOf_append isBlank (List.forall_mem_nil _) blank text

theorem trim_subset (text : Text) : trim text ⊆ text := (stripOf_sublist isBlank text).subset

theorem trim_trim (text : Text) : trim (trim text) = trim text := stripOf_stripOf isBlank text

/-- A text is trimmed exactly when no blank stands at its ends. -/
theorem trim_eq_self_iff {text : Text} :
    trim text = text ↔
      (∀ c ∈ text.head?, isBlank c = false) ∧ ∀ c ∈ text.getLast?, isBlank c = false := by
  constructor
  · intro trimmed
    constructor
    · intro c head
      rw [← trimmed] at head
      exact of_head?_stripOf isBlank head
    · intro c last
      rw [← trimmed] at last
      exact of_getLast?_stripOf isBlank last
  · rintro ⟨head, last⟩
    exact stripOf_eq_self isBlank head last

/-- What stands between two trimmed texts does not matter for trimming. -/
theorem trim_append_of_trimmed {front back : Text} (frontFull : front ≠ [])
    (frontTrimmed : trim front = front) (backFull : back ≠ []) (backTrimmed : trim back = back)
    (middle : Text) : trim (front ++ middle ++ back) = front ++ middle ++ back := by
  rw [trim_eq_self_iff, List.getLast?_append_of_ne_nil _ backFull, List.append_assoc,
    List.head?_append_of_ne_nil _ frontFull]
  exact ⟨(trim_eq_self_iff.mp frontTrimmed).1, (trim_eq_self_iff.mp backTrimmed).2⟩

/-- Behind a trimmed text and a character that is no blank, only the end is cut. -/
theorem exists_trim_append_cons {front : Text} (full : front ≠ []) (trimmed : trim front = front)
    {c : Char} (solid : isBlank c = false) (after : Text) :
    ∃ rest, trim (front ++ c :: after) = front ++ c :: rest ∧ trim rest = trim after ∧
      rest <+: after := by
  have cut : after.rdropWhile isBlank ++ after.rtakeWhile isBlank = after :=
    List.rdropWhile_append_rtakeWhile
  have trailBlank : ∀ d ∈ after.rtakeWhile isBlank, isBlank d = true :=
    fun d within => List.mem_rtakeWhile_imp within
  have lastSolid : ∀ d ∈ (c :: after.rdropWhile isBlank).getLast?, isBlank d = false := by
    intro d isLast
    by_cases empty : after.rdropWhile isBlank = []
    · obtain rfl : c = d := by simpa [empty] using isLast
      exact solid
    · have stopped := List.rdropWhile_last_not isBlank after empty
      rw [List.getLast?_cons_of_ne_nil empty, List.getLast?_eq_some_getLast empty] at isLast
      obtain rfl := Option.some.inj isLast
      simpa using stopped
  refine ⟨after.rdropWhile isBlank, ?_, ?_, List.rdropWhile_prefix isBlank after⟩
  · calc
      trim (front ++ c :: after) =
          trim ((front ++ c :: after.rdropWhile isBlank) ++ after.rtakeWhile isBlank) := by
        rw [List.append_assoc, List.cons_append, cut]
      _ = trim (front ++ c :: after.rdropWhile isBlank) := trim_append_blank trailBlank _
      _ = front ++ c :: after.rdropWhile isBlank := by
        rw [trim_eq_self_iff, List.head?_append_of_ne_nil _ full,
          List.getLast?_append_of_ne_nil _ (List.cons_ne_nil _ _)]
        exact ⟨(trim_eq_self_iff.mp trimmed).1, lastSolid⟩
  · calc
      trim (after.rdropWhile isBlank) =
          trim (after.rdropWhile isBlank ++ after.rtakeWhile isBlank) :=
        (trim_append_blank trailBlank _).symm
      _ = trim after := by rw [cut]

/-- A part without blanks that a text ends with is not cut. -/
theorem isSuffix_trim {part text : Text} (solid : ∀ c ∈ part, isBlank c = false)
    (ends : part <:+ text) : part <:+ trim text := by
  obtain ⟨front, rfl⟩ := ends
  by_cases empty : part = []
  · rw [empty]
    exact List.nil_suffix
  · have keepsPart : part.dropWhile isBlank = part := by
      obtain ⟨c, more, rfl⟩ := List.exists_cons_of_ne_nil empty
      simp [solid c List.mem_cons_self]
    have dropped : (front ++ part).dropWhile isBlank = front.dropWhile isBlank ++ part := by
      rw [List.dropWhile_append, keepsPart]
      split
      · next blank => rw [List.isEmpty_iff.mp blank, List.nil_append]
      · rfl
    have kept : (front.dropWhile isBlank ++ part).rdropWhile isBlank =
        front.dropWhile isBlank ++ part := by
      rw [List.rdropWhile_eq_self_iff]
      intro full
      simp [List.getLast_append_of_ne_nil full empty, solid _ (List.getLast_mem empty)]
    have trimmed : trim (front ++ part) = ((front ++ part).dropWhile isBlank).rdropWhile isBlank :=
      rfl
    rw [trimmed, dropped, kept]
    exact List.suffix_append _ _

/-- A text that does not begin with a blank is only cut at its end. -/
theorem trim_isPrefix {text : Text} (head : ∀ c ∈ text.head?, isBlank c = false) :
    trim text <+: text := by
  have keepsHead : text.dropWhile isBlank = text := by
    cases text with
    | nil => rfl
    | cons c rest => simp [head c rfl]
  have isPrefix : trim text <+: text.dropWhile isBlank := List.rdropWhile_prefix isBlank _
  rwa [keepsHead] at isPrefix

/-- Among blanks there is no other character. -/
theorem not_mem_of_blank {c : Char} (solid : isBlank c = false) {blanks : Text}
    (blank : ∀ c ∈ blanks, isBlank c = true) : c ∉ blanks := by
  intro within
  simp [blank c within] at solid

/-- Trimming takes away nothing but blanks. -/
theorem mem_trim_iff {c : Char} (solid : isBlank c = false) {text : Text} :
    c ∈ trim text ↔ c ∈ text := by
  constructor
  · exact fun within => trim_subset text within
  · intro within
    obtain ⟨lead, trail, leadBlank, trailBlank, whole⟩ := exists_eq_append_stripOf isBlank text
    have kept : c ∈ stripOf isBlank text := by
      rw [whole] at within
      simpa [not_mem_of_blank solid leadBlank, not_mem_of_blank solid trailBlank] using within
    exact kept

/-- Nothing is left of a text of blanks, and of no other text. -/
theorem trim_eq_nil_iff {text : Text} : trim text = [] ↔ ∀ c ∈ text, isBlank c = true :=
  stripOf_eq_nil_iff isBlank

theorem trim_isInfix (text : Text) : trim text <:+: text := by
  obtain ⟨lead, trail, -, -, whole⟩ := exists_eq_append_stripOf isBlank text
  exact ⟨lead, trail, whole.symm⟩

/-- Behind a text that does not end with a blank, only its front is trimmed. -/
theorem trim_trim_append {front : Text} (last : ∀ c ∈ front.getLast?, isBlank c = false)
    (rest : Text) : trim (trim front ++ rest) = trim (front ++ rest) := by
  obtain ⟨lead, trail, leadBlank, trailBlank, whole⟩ := exists_eq_append_stripOf isBlank front
  have noTrail : trail = [] := by
    by_contra full
    have isLast : trail.getLast full ∈ front.getLast? := by
      rw [whole, List.getLast?_append_of_ne_nil _ full]
      exact List.getLast?_eq_some_getLast full
    simpa [trailBlank _ (List.getLast_mem full)] using last _ isLast
  have shape : front = lead ++ trim front := by
    rw [noTrail, List.append_nil] at whole
    exact whole
  calc
    trim (trim front ++ rest) = trim (lead ++ (trim front ++ rest)) :=
      (trim_blank_append leadBlank _).symm
    _ = trim (front ++ rest) := by rw [← List.append_assoc, ← shape]

/-- No ASCII letter or digit is a blank. -/
theorem isBlank_eq_false_of_isAlphanum {c : Char} (alphanum : c.isAlphanum = true) :
    isBlank c = false := by
  have code : c.toNat = c.val.toNat := rfl
  have range : 48 ≤ c.toNat ∧ c.toNat ≤ 122 := by
    rcases isAlphanum_iff.mp alphanum with (upper | lower) | digit
    · have := isUpper_iff.mp upper
      omega
    · have := isLower_iff.mp lower
      omega
    · have ends : '0'.toNat = 48 ∧ '9'.toNat = 57 := ⟨rfl, rfl⟩
      have := Char.isDigit_iff_toNat.mp digit
      omega
  simp only [isBlank, Bool.or_eq_false_iff, Bool.and_eq_false_iff, decide_eq_false_iff_not,
    beq_eq_false_iff_ne]
  omega

end Text

end DesignExport
