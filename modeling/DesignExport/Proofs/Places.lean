/-
# Places in a text

What a scan makes of a character depends on what it has read before it, and often on what
follows. A place keeps both. So a fact about how often something is read becomes a count over
the places of one character, and two scans of one text are compared place by place.

A scan for a pattern stands inside a match or behind one. Where it stands at a place is again
found by going through what is in front of the place, character by character.
-/

import DesignExport.Proofs.Erasure

namespace DesignExport

/-- A place of a character: what stands before the character, and what stands behind it. -/
structure Place where
  before : Text
  behind : Text

namespace Text

/-- The places of a character, from the first to the last. -/
def places (mark : Char) : Text → List Place
  | [] => []
  | c :: rest =>
    (if c = mark then [⟨[], rest⟩] else []) ++
      (places mark rest).map fun place => ⟨c :: place.before, place.behind⟩

variable {mark : Char}

theorem mem_places_iff {text : Text} {place : Place} :
    place ∈ places mark text ↔ text = place.before ++ mark :: place.behind := by
  induction text generalizing place with
  | nil => simp [places]
  | cons c rest ih =>
      obtain ⟨before, behind⟩ := place
      cases before with
      | nil =>
          by_cases same : c = mark
          · simp [places, same, eq_comm]
          · simp [places, same]
      | cons d more =>
          have later : (∃ place ∈ places mark rest,
              (⟨c :: place.before, place.behind⟩ : Place) = ⟨d :: more, behind⟩) ↔
              c = d ∧ rest = more ++ mark :: behind := by
            constructor
            · rintro ⟨place, isPlace, same⟩
              obtain ⟨⟨rfl, rfl⟩, rfl⟩ : (c = d ∧ place.before = more) ∧ place.behind = behind := by
                simpa using same
              exact ⟨rfl, ih.mp isPlace⟩
            · rintro ⟨rfl, whole⟩
              exact ⟨⟨more, behind⟩, ih.mpr whole, rfl⟩
          have notHere : (⟨d :: more, behind⟩ : Place) ∉
              (if c = mark then [⟨[], rest⟩] else [] : List Place) := by
            split <;> simp
          rw [places, List.mem_append, List.mem_map, later]
          simp [notHere]

/-- One more character in front. -/
theorem countP_places_cons (here : Place → Bool) (c : Char) (rest : Text) :
    (places mark (c :: rest)).countP here =
      (if c = mark ∧ here ⟨[], rest⟩ then 1 else 0) +
        (places mark rest).countP fun place => here ⟨c :: place.before, place.behind⟩ := by
  rw [places, List.countP_append, List.countP_map]
  congr 1
  by_cases same : c = mark <;> simp [same, List.countP_cons]

/-- The places of two texts one behind the other, each with the other text around it. -/
theorem countP_places_append (here : Place → Bool) (front rest : Text) :
    (places mark (front ++ rest)).countP here =
      ((places mark front).countP fun place => here ⟨place.before, place.behind ++ rest⟩) +
        (places mark rest).countP fun place => here ⟨front ++ place.before, place.behind⟩ := by
  induction front generalizing here with
  | nil => simp [places]
  | cons c more ih =>
      rw [List.cons_append, countP_places_cons, countP_places_cons, ih, Nat.add_assoc]
      rfl

/-- A text that holds a character has one first place of it. -/
theorem countP_places_first (text : Text) :
    ((places mark text).countP fun place => !place.before.contains mark) =
      if mark ∈ text then 1 else 0 := by
  induction text with
  | nil => rfl
  | cons c rest ih =>
      rw [countP_places_cons]
      by_cases same : c = mark
      · simp [same]
      · simpa [same, Ne.symm same] using ih

/-- Only what is said of the places of the text counts. -/
theorem countP_places_congr {here there : Place → Bool} {text : Text}
    (same : ∀ place : Place, text = place.before ++ mark :: place.behind →
      here place = there place) :
    (places mark text).countP here = (places mark text).countP there :=
  List.countP_congr fun place isPlace => by rw [same place (mem_places_iff.mp isPlace)]

end Text

/-! ## Where a scan stands -/

/-- Where a scan stands: how many characters still belong to the last match, and that match
with the gap that was read behind it. -/
structure ScanState (α : Type) where
  covered : Nat
  last : Option (α × Text)

namespace ScanState

variable {α : Type}

/-- The state right behind a match, or at the beginning of a text. -/
def behind (value? : Option α) : ScanState α := ⟨0, value?.map fun value => (value, [])⟩

/-- The state behind a gap. -/
def pass (last : Option (α × Text)) (gap : Text) : ScanState α :=
  ⟨0, last.map fun found => (found.1, found.2 ++ gap)⟩

end ScanState

namespace Pattern

variable {α : Type} (pattern : Pattern α)

/-- The state behind one more character, with what follows it. -/
def step (state : ScanState α) (c : Char) (rest : Text) : ScanState α :=
  match state.covered with
  | covered + 1 => ⟨covered, state.last⟩
  | 0 =>
    match pattern (c :: rest) with
    | none => ScanState.pass state.last [c]
    | some (value, covered) => ⟨covered - 1, some (value, [])⟩

/-- The state behind some text, with what follows it. -/
def stateBehind (state : ScanState α) : Text → Text → ScanState α
  | [], _ => state
  | c :: front, rest => stateBehind (pattern.step state c (front ++ rest)) front rest

/-- Whether no match covers the character at a place. -/
def leaves (mark : Char) (place : Place) : Bool :=
  (pattern.stateBehind (.behind none) place.before (mark :: place.behind)).covered == 0

variable {pattern}

theorem stateBehind_append (state : ScanState α) (front more rest : Text) :
    pattern.stateBehind state (front ++ more) rest =
      pattern.stateBehind (pattern.stateBehind state front (more ++ rest)) more rest := by
  induction front generalizing state with
  | nil => rfl
  | cons c front ih => simp only [List.cons_append, stateBehind, List.append_assoc, ih]

/-- A gap is added to what was read behind the last match. -/
theorem stateBehind_of_skips {gap rest : Text} (skips : pattern.Skips gap rest)
    (last : Option (α × Text)) :
    pattern.stateBehind ⟨0, last⟩ gap rest = ScanState.pass last gap := by
  induction gap generalizing last with
  | nil => simp [stateBehind, ScanState.pass]
  | cons c more ih =>
      have miss : pattern (c :: (more ++ rest)) = none :=
        skips (c :: more) (List.cons_ne_nil c more) List.suffix_rfl
      have later : pattern.Skips more rest := fun later full isSuffix =>
        skips later full (isSuffix.trans (List.suffix_cons c more))
      have passed : pattern.step ⟨0, last⟩ c (more ++ rest) = ScanState.pass last [c] := by
        simp only [step, miss]
      rw [stateBehind, passed, ScanState.pass, ih later, ScanState.pass, ScanState.pass]
      simp [Function.comp_def]

/-- Characters of a match are counted off. -/
theorem stateBehind_of_covered {front : Text} {covered : Nat} (last : Option (α × Text))
    (isCovered : front.length ≤ covered) (rest : Text) :
    pattern.stateBehind ⟨covered, last⟩ front rest = ⟨covered - front.length, last⟩ := by
  induction front generalizing covered with
  | nil => rfl
  | cons c more ih =>
      cases covered with
      | zero => simp at isCovered
      | succ covered =>
          have shorter : more.length ≤ covered := by simpa using isCovered
          rw [stateBehind, step, ih shorter, List.length_cons, Nat.add_sub_add_right]

/-- Behind the first characters of a match, the others of it are still covered. -/
theorem stateBehind_of_match {front rest : Text} {value : α} {covered : Nat} (full : front ≠ [])
    (hit : pattern (front ++ rest) = some (value, covered)) (within : front.length ≤ covered)
    (last : Option (α × Text)) :
    pattern.stateBehind ⟨0, last⟩ front rest = ⟨covered - front.length, some (value, [])⟩ := by
  obtain ⟨c, more, rfl⟩ := List.exists_cons_of_ne_nil full
  rw [List.length_cons] at within
  rw [List.cons_append] at hit
  have begun : pattern.step ⟨0, last⟩ c (more ++ rest) = ⟨covered - 1, some (value, [])⟩ := by
    simp only [step, hit]
  rw [stateBehind, begun, stateBehind_of_covered _ (by omega), List.length_cons, Nat.sub_sub,
    Nat.add_comm]

/-- Erasing keeps a character where no match covers it. This counts those of one character
that begins no match. -/
theorem count_erase_drop {mark : Char} (misses : ∀ rest, pattern (mark :: rest) = none)
    (state : ScanState α) (text : Text) :
    (pattern.erase (text.drop state.covered)).count mark =
      (text.places mark).countP fun place =>
        (pattern.stateBehind state place.before (mark :: place.behind)).covered == 0 := by
  induction text generalizing state with
  | nil => simp [Text.places, erase]
  | cons c rest ih =>
      -- At a place behind the character, the scan has read it.
      have further : ((Text.places mark rest).countP fun place => (pattern.stateBehind state
          (c :: place.before) (mark :: place.behind)).covered == 0) =
          (pattern.erase (rest.drop (pattern.step state c rest).covered)).count mark := by
        rw [ih]
        refine Text.countP_places_congr fun place whole => ?_
        rw [stateBehind, ← whole]
      obtain ⟨covered, last⟩ := state
      rw [Text.countP_places_cons, further]
      cases covered with
      | succ covered => simp [stateBehind, step]
      | zero =>
          cases found : pattern (c :: rest) with
          | none =>
              have passed : (pattern.step ⟨0, last⟩ c rest).covered = 0 := by
                simp [step, found, ScanState.pass]
              rw [passed, List.drop_zero, List.drop_zero, erase_cons_of_none found,
                List.count_cons, Nat.add_comm]
              simp [stateBehind]
          | some hit =>
              obtain ⟨value, covered⟩ := hit
              have differ : c ≠ mark := by
                rintro rfl
                simp [misses] at found
              have begun : (pattern.step ⟨0, last⟩ c rest).covered = covered - 1 := by
                simp [step, found]
              rw [begun, List.drop_zero, erase_cons_of_some found]
              simp [differ]

/-- As many are left of a character that begins no match as are covered by none. -/
theorem count_erase {mark : Char} (misses : ∀ rest, pattern (mark :: rest) = none)
    (text : Text) :
    (pattern.erase text).count mark = (text.places mark).countP (pattern.leaves mark) :=
  count_erase_drop misses (.behind none) text

end Pattern

end DesignExport
