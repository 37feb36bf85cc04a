/-
# A reader that forgets first what it missed first

A reader with a memory is asked for sheets, and now and then told to forget. At
any time the memory holds exactly the texts that were missed last, as many as
its bound allows: finding a text does not make it newer, and only a clearing or
later misses take it away. So the events so far tell what will be found, and
whatever is answered is the sheet that reading the text anew would give.

A key stands for its text as long as no two texts of the run share one. That is
assumed of the texts of the run and of no others. A text is given by its codes. One
with halves of characters has no key: it is refused before anything is counted, found
or read, although it could be read.
-/

import DesignExport.Cache.ParseCache
import DesignExport.Proofs.Encoding
import DesignExport.Proofs.Text
import DesignExport.Sheet.Reading
import Mathlib.Data.List.Induction

namespace DesignExport

/-- What a reader is asked for. -/
inductive ReaderRequest where
  | read (text : List Nat)
  | clear
deriving DecidableEq

/-- The text that is to be read. -/
def ReaderRequest.text? : ReaderRequest → Option (List Nat)
  | read text => some text
  | clear => none

/-- The texts that are to be read, in order. -/
def ReaderRequest.texts (requests : List ReaderRequest) : List (List Nat) :=
  requests.filterMap text?

/-- What a reader has done. -/
inductive ReaderEvent where
  | found (text : List Nat)
  | missed (text : List Nat)
  | refused (text : List Nat)
  | cleared
deriving DecidableEq

/-- The text that was missed. -/
def ReaderEvent.missed? : ReaderEvent → Option (List Nat)
  | missed text => some text
  | _ => none

/-- Whether a text was found or missed, which is counted. -/
def ReaderEvent.counts : ReaderEvent → Bool
  | found _ | missed _ => true
  | _ => false

/-- Behind these events a text is remembered: since the last clearing it was missed,
and fewer misses than the bound came after its latest one. -/
def ReaderEvent.Remembered (bound : Option Int) (events : List ReaderEvent)
    (text : List Nat) : Prop :=
  ∃ earlier later, events = earlier ++ missed text :: later ∧
    cleared ∉ later ∧ missed text ∉ later ∧
    ∀ limit ∈ bound, ((later.filterMap missed?).length : Int) < limit

/-- No two of the texts share a key. -/
def SheetMemory.Distinguishes (texts : List (List Nat)) : Prop :=
  ∀ first ∈ texts, ∀ second ∈ texts, Text.IsUnbroken first → keyOf first = keyOf second →
    first = second

instance (texts : List (List Nat)) : Decidable (SheetMemory.Distinguishes texts) :=
  inferInstanceAs (Decidable (∀ first ∈ texts, ∀ second ∈ texts, Text.IsUnbroken first →
    SheetMemory.keyOf first = SheetMemory.keyOf second → first = second))

namespace CachingReader

variable (readSheet : List Nat → StyleSheet)

/-- A text is found when reading it counts a hit. -/
def Finds (reader : CachingReader) (text : List Nat) : Prop :=
  (reader.read readSheet text).2.hits = reader.hits + 1

instance (reader : CachingReader) (text : List Nat) : Decidable (reader.Finds readSheet text) :=
  inferInstanceAs (Decidable ((reader.read readSheet text).2.hits = reader.hits + 1))

/-- The reader behind a request. -/
def after (reader : CachingReader) : ReaderRequest → CachingReader
  | .read text => (reader.read readSheet text).2
  | .clear => reader.clear

/-- What the reader does on a request. -/
def event (reader : CachingReader) : ReaderRequest → ReaderEvent
  | .read text =>
    if !decide (Text.IsUnbroken text) then .refused text
    else if reader.Finds readSheet text then .found text
    else .missed text
  | .clear => .cleared

/-- The reader behind requests one after the other. -/
def afterAll (reader : CachingReader) (requests : List ReaderRequest) : CachingReader :=
  requests.foldl (after readSheet) reader

/-- What the reader does on requests one after the other. -/
def events (reader : CachingReader) : List ReaderRequest → List ReaderEvent
  | [] => []
  | request :: later =>
    reader.event readSheet request :: events (reader.after readSheet request) later

end CachingReader

/-! ## Missed texts -/

namespace ReaderEvent

/-- The texts missed since the last clearing, behind one more event. -/
def note (missedTexts : List (List Nat)) : ReaderEvent → List (List Nat)
  | found _ | refused _ => missedTexts
  | missed text => missedTexts ++ [text]
  | cleared => []

/-- The texts missed since the last clearing, in order. -/
def missedSince (events : List ReaderEvent) : List (List Nat) := events.foldl note []

/-- Without a clearing, misses are only added. -/
theorem foldl_note {events : List ReaderEvent} (uncleared : cleared ∉ events)
    (missedTexts : List (List Nat)) :
    events.foldl note missedTexts = missedTexts ++ events.filterMap missed? := by
  induction events generalizing missedTexts with
  | nil => simp
  | cons event later ih =>
      obtain ⟨differ, uncleared⟩ := not_or.mp (List.mem_cons.not.mp uncleared)
      rw [List.foldl_cons, ih uncleared]
      cases event with
      | found text | refused text => simp [note, missed?, List.filterMap_cons]
      | missed text => simp [note, missed?]
      | cleared => exact absurd rfl differ

/-- The events since the last clearing alone tell which texts were missed. -/
theorem exists_since (events : List ReaderEvent) :
    ∃ earlier since, events = earlier ++ since ∧ cleared ∉ since ∧
      missedSince events = since.filterMap missed? := by
  induction events using List.reverseRecOn with
  | nil => exact ⟨[], [], rfl, by simp, rfl⟩
  | append_singleton events event ih =>
      obtain ⟨earlier, since, whole, uncleared, same⟩ := ih
      by_cases clears : event = cleared
      · exact ⟨events ++ [event], [], by simp, by simp, by simp [missedSince, note, clears]⟩
      · refine ⟨earlier, since ++ [event], by simp [whole], ?_, ?_⟩
        · simp [uncleared, Ne.symm clears]
        · rw [missedSince, List.foldl_append, foldl_note (by simp [Ne.symm clears]),
            ← missedSince, same, List.filterMap_append]

/-- The missed texts that a bound leaves: the latest ones. -/
def kept (bound : Option Int) (missedTexts : List (List Nat)) : List (List Nat) :=
  match bound with
  | none => missedTexts
  | some limit => missedTexts.drop (missedTexts.length - limit.toNat)

@[simp] theorem kept_nil (bound : Option Int) : kept bound [] = [] := by
  cases bound with
  | none => rfl
  | some limit => exact List.drop_nil

theorem kept_subset (bound : Option Int) (missedTexts : List (List Nat)) :
    kept bound missedTexts ⊆ missedTexts := by
  cases bound with
  | none => exact List.Subset.refl _
  | some limit => exact List.drop_subset _ _

theorem length_kept_le {bound : Option Int} {limit : Int} (bounded : limit ∈ bound)
    (missedTexts : List (List Nat)) : (kept bound missedTexts).length ≤ limit.toNat := by
  obtain rfl : bound = some limit := bounded
  simp only [kept, List.length_drop]
  omega

/-- Dropping the oldest ones first loses nothing that is kept behind one more miss. -/
theorem kept_kept_append (bound : Option Int) (missedTexts : List (List Nat)) (text : List Nat) :
    kept bound (kept bound missedTexts ++ [text]) = kept bound (missedTexts ++ [text]) := by
  cases bound with
  | none => rfl
  | some limit =>
      simp only [kept]
      rw [← List.drop_append_of_le_length (by omega), List.drop_drop]
      congr 1
      simp only [List.length_drop, List.length_append, List.length_singleton]
      omega

/-- A missed text is kept when fewer texts than the bound were missed after it. -/
theorem mem_kept_iff {bound : Option Int} {missedTexts : List (List Nat)} {text : List Nat} :
    text ∈ kept bound missedTexts ↔
      ∃ before behind, missedTexts = before ++ text :: behind ∧ text ∉ behind ∧
        ∀ limit ∈ bound, (behind.length : Int) < limit := by
  cases bound with
  | none =>
      constructor
      · intro within
        obtain ⟨before, behind, whole, last⟩ := exists_last_of_mem within
        exact ⟨before, behind, whole, last, by simp⟩
      · rintro ⟨before, behind, rfl, -, -⟩
        simp [kept]
  | some limit =>
      simp only [kept, Option.mem_def, Option.some.injEq, forall_eq']
      constructor
      · intro within
        obtain ⟨before, behind, whole, last⟩ := exists_last_of_mem within
        have sizes := congrArg List.length whole
        simp only [List.length_drop, List.length_append, List.length_cons] at sizes
        refine ⟨missedTexts.take (missedTexts.length - limit.toNat) ++ before, behind, ?_, last, ?_⟩
        · rw [List.append_assoc, ← whole, List.take_append_drop]
        · omega
      · rintro ⟨before, behind, rfl, -, fewer⟩
        have early : (before ++ text :: behind).length - limit.toNat ≤ before.length := by
          simp only [List.length_append, List.length_cons]
          omega
        rw [List.drop_append_of_le_length early]
        simp

/-- What is remembered are the kept ones of the missed texts. -/
theorem remembered_iff {bound : Option Int} {events : List ReaderEvent} {text : List Nat} :
    Remembered bound events text ↔ text ∈ kept bound (missedSince events) := by
  rw [mem_kept_iff]
  constructor
  · rintro ⟨earlier, later, rfl, uncleared, last, fewer⟩
    refine ⟨missedSince earlier, later.filterMap missed?, ?_, ?_, fewer⟩
    · have all : cleared ∉ missed text :: later := by simp [uncleared]
      rw [missedSince, List.foldl_append, ← missedSince, foldl_note all, List.filterMap_cons]
      rfl
    · intro within
      obtain ⟨event, isLater, isMiss⟩ := List.mem_filterMap.mp within
      cases event with
      | missed other =>
          obtain rfl : other = text := by simpa [missed?] using isMiss
          exact last isLater
      | found other | refused other => simp [missed?] at isMiss
      | cleared => simp [missed?] at isMiss
  · rintro ⟨before, behind, whole, last, fewer⟩
    obtain ⟨earlier, since, rfl, uncleared, same⟩ := exists_since events
    rw [same] at whole
    obtain ⟨first, second, rfl, -, rest⟩ := List.filterMap_eq_append_iff.mp whole
    obtain ⟨skipped, event, later, rfl, -, isMiss, rfl⟩ := List.filterMap_eq_cons_iff.mp rest
    obtain rfl : event = missed text := by
      cases event with
      | missed other => simpa [missed?] using isMiss
      | found other | refused other => simp [missed?] at isMiss
      | cleared => simp [missed?] at isMiss
    refine ⟨earlier ++ first ++ skipped, later, by simp, ?_, ?_, fewer⟩
    · intro within
      exact uncleared (by simp [within])
    · intro within
      exact last (List.mem_filterMap.mpr ⟨_, within, rfl⟩)

end ReaderEvent

/-! ## Keys -/

namespace SheetMemory

variable {text : List Nat}

theorem keyOf_of_isUnbroken (whole : Text.IsUnbroken text) :
    keyOf text = .ok (keyOfText (text.map Char.ofNat)) := by
  rw [keyOf, Text.ofCodes_of_isUnbroken whole]
  rfl

theorem keyOf_of_not_isUnbroken (broken : ¬Text.IsUnbroken text) :
    ∃ error, Text.ofCodes text = .error error ∧ keyOf text = .error error := by
  obtain ⟨error, isError⟩ := Text.exists_ofCodes_eq_error broken
  exact ⟨error, isError, by rw [keyOf, isError]; rfl⟩

end SheetMemory

/-! ## The memory -/

namespace CachingReader

open ReaderEvent

variable {readSheet : List Nat → StyleSheet} {bound : Option Int} {texts : List (List Nat)}
  {reader : CachingReader} {past : List ReaderEvent} {text : List Nat}

theorem read_of_isUnbroken (whole : Text.IsUnbroken text) :
    reader.read readSheet text =
      reader.readUnder (SheetMemory.keyOfText (text.map Char.ofNat)) readSheet text := by
  rw [read, SheetMemory.keyOf_of_isUnbroken whole]

/-- A text without a key is refused, and nothing is counted. -/
theorem read_of_not_isUnbroken (readSheet : List Nat → StyleSheet) (reader : CachingReader)
    (broken : ¬Text.IsUnbroken text) :
    ∃ error, Text.ofCodes text = .error error ∧
      reader.read readSheet text = (.error (.ofCharsetError error), reader) := by
  obtain ⟨error, isError, isKey⟩ := SheetMemory.keyOf_of_not_isUnbroken broken
  exact ⟨error, isError, by rw [read, isKey]⟩

theorem not_finds_of_not_isUnbroken (broken : ¬Text.IsUnbroken text) :
    ¬reader.Finds readSheet text := by
  obtain ⟨error, -, refused⟩ := read_of_not_isUnbroken readSheet reader broken
  rw [Finds, refused]
  exact Nat.ne_of_lt (Nat.lt_succ_self reader.hits)

/-- A text under its key, with the sheet that reading it gives. -/
def entryOf (readSheet : List Nat → StyleSheet) (text : List Nat) : Text × StyleSheet :=
  (SheetMemory.keyOfText (text.map Char.ofNat), readSheet text)

/-- Where keys stand for texts, a key finds the sheet of its own text or nothing. -/
theorem get?_map_entryOf (distinct : SheetMemory.Distinguishes texts) (known : text ∈ texts)
    (whole : Text.IsUnbroken text) {entered : List (List Nat)}
    (enteredKnown : ∀ other ∈ entered, other ∈ texts ∧ Text.IsUnbroken other) :
    Keyed.get? (SheetMemory.keyOfText (text.map Char.ofNat)) (entered.map (entryOf readSheet)) =
      if text ∈ entered then some (readSheet text) else none := by
  induction entered with
  | nil => simp [Keyed.get?]
  | cons first rest ih =>
      obtain ⟨⟨firstKnown, firstWhole⟩, restKnown⟩ := List.forall_mem_cons.mp enteredKnown
      by_cases same : first = text
      · simp [Keyed.get?, entryOf, same]
      · have differ : SheetMemory.keyOfText (first.map Char.ofNat) ≠
            SheetMemory.keyOfText (text.map Char.ofNat) := by
          intro sameKey
          apply same
          apply distinct first firstKnown text known firstWhole
          rw [SheetMemory.keyOf_of_isUnbroken firstWhole, SheetMemory.keyOf_of_isUnbroken whole,
            sameKey]
        simp only [List.map_cons, Keyed.get?, entryOf, differ, if_false, List.mem_cons,
          Ne.symm same, false_or]
        exact ih restKnown

/-- The memory of a reader holds the sheets of the texts that were missed last, all
of them texts of the run that have keys, and the counts tell how many were read. -/
structure Holds (readSheet : List Nat → StyleSheet) (bound : Option Int)
    (texts : List (List Nat)) (reader : CachingReader) (past : List ReaderEvent) : Prop where
  memory : reader.memory =
    some ⟨bound, (kept bound (missedSince past)).map (entryOf readSheet)⟩
  known : ∀ text ∈ missedSince past, text ∈ texts ∧ Text.IsUnbroken text
  counts : reader.hits + reader.misses = past.countP ReaderEvent.counts

theorem Holds.get? (holds : Holds readSheet bound texts reader past)
    (distinct : SheetMemory.Distinguishes texts) (known : text ∈ texts)
    (whole : Text.IsUnbroken text) :
    reader.get? (SheetMemory.keyOfText (text.map Char.ofNat)) =
      if text ∈ kept bound (missedSince past) then some (readSheet text) else none := by
  rw [CachingReader.get?, holds.memory, Option.bind_some]
  exact get?_map_entryOf distinct known whole fun other within =>
    holds.known other (kept_subset _ _ within)

/-- A kept text is found, and the memory stays as it is. -/
theorem Holds.read_of_mem (holds : Holds readSheet bound texts reader past)
    (distinct : SheetMemory.Distinguishes texts)
    (isKept : text ∈ kept bound (missedSince past)) :
    reader.read readSheet text =
      (.ok (readSheet text), { reader with hits := reader.hits + 1 }) := by
  obtain ⟨known, whole⟩ := holds.known text (kept_subset _ _ isKept)
  have remembered := holds.get? distinct known whole
  rw [if_pos isKept] at remembered
  rw [read_of_isUnbroken whole]
  simp only [readUnder, remembered]

/-- Any other text that has a key is missed and entered behind the kept ones. -/
theorem Holds.read_of_not_mem (holds : Holds readSheet bound texts reader past)
    (nonnegative : ∀ limit ∈ bound, 0 ≤ limit)
    (distinct : SheetMemory.Distinguishes texts) (known : text ∈ texts)
    (whole : Text.IsUnbroken text) (isLost : text ∉ kept bound (missedSince past)) :
    reader.read readSheet text =
      (.ok (readSheet text),
        { memory := some
            ⟨bound, (kept bound (missedSince past ++ [text])).map (entryOf readSheet)⟩
          hits := reader.hits
          misses := reader.misses + 1 }) := by
  have forgotten := holds.get? distinct known whole
  rw [if_neg isLost] at forgotten
  have new : Keyed.get? (SheetMemory.keyOfText (text.map Char.ofNat))
      ((kept bound (missedSince past)).map (entryOf readSheet)) = none := by
    rwa [CachingReader.get?, holds.memory, Option.bind_some] at forgotten
  have entered : Keyed.put (SheetMemory.keyOfText (text.map Char.ofNat)) (readSheet text)
      ((kept bound (missedSince past)).map (entryOf readSheet)) =
        (kept bound (missedSince past) ++ [text]).map (entryOf readSheet) := by
    rw [Keyed.put_of_get?_eq_none new, List.map_append]
    rfl
  rw [read_of_isUnbroken whole]
  simp only [readUnder, forgotten, enter, holds.memory, SheetMemory.enter, entered]
  rw [← kept_kept_append]
  cases bound with
  | none => rfl
  | some limit =>
      have fits : ¬ limit < 0 := Int.not_lt.mpr (nonnegative limit rfl)
      simp only [fits, if_false, Except.map, kept, List.length_map, List.map_drop]

theorem Holds.finds_iff (holds : Holds readSheet bound texts reader past)
    (nonnegative : ∀ limit ∈ bound, 0 ≤ limit)
    (distinct : SheetMemory.Distinguishes texts) (known : text ∈ texts) :
    reader.Finds readSheet text ↔ text ∈ kept bound (missedSince past) := by
  by_cases isKept : text ∈ kept bound (missedSince past)
  · simp [Finds, holds.read_of_mem distinct isKept, isKept]
  · by_cases whole : Text.IsUnbroken text
    · simp [Finds, holds.read_of_not_mem nonnegative distinct known whole isKept, isKept]
    · exact iff_of_false (not_finds_of_not_isUnbroken whole) isKept

/-- What is answered is the sheet of the text, whether it is found or not, if it has a key. -/
theorem Holds.fst_read_iff (holds : Holds readSheet bound texts reader past)
    (nonnegative : ∀ limit ∈ bound, 0 ≤ limit)
    (distinct : SheetMemory.Distinguishes texts) (known : text ∈ texts) :
    (reader.read readSheet text).1 = .ok (readSheet text) ↔ Text.IsUnbroken text := by
  by_cases isKept : text ∈ kept bound (missedSince past)
  · rw [holds.read_of_mem distinct isKept]
    exact iff_of_true rfl (holds.known text (kept_subset _ _ isKept)).2
  · by_cases whole : Text.IsUnbroken text
    · rw [holds.read_of_not_mem nonnegative distinct known whole isKept]
      exact iff_of_true rfl whole
    · obtain ⟨error, -, refused⟩ := read_of_not_isUnbroken readSheet reader whole
      rw [refused]
      exact iff_of_false nofun whole

/-- One request keeps the memory right. -/
theorem Holds.after (holds : Holds readSheet bound texts reader past)
    (nonnegative : ∀ limit ∈ bound, 0 ≤ limit)
    (distinct : SheetMemory.Distinguishes texts) {request : ReaderRequest}
    (known : ∀ text ∈ request.text?, text ∈ texts) :
    Holds readSheet bound texts (reader.after readSheet request)
      (past ++ [reader.event readSheet request]) := by
  have noted (event : ReaderEvent) :
      missedSince (past ++ [event]) = note (missedSince past) event := by
    simp [missedSince]
  have counts := holds.counts
  cases request with
  | clear =>
      constructor
      · simp [CachingReader.after, clear, holds.memory, SheetMemory.clear, event, noted, note]
      · simp [event, noted, note]
      · simpa [CachingReader.after, clear, event, ReaderEvent.counts] using counts
  | read text =>
      have isText : text ∈ texts := known text rfl
      have finds := holds.finds_iff nonnegative distinct isText
      by_cases isKept : text ∈ kept bound (missedSince past)
      · have whole := (holds.known text (kept_subset _ _ isKept)).2
        have isFound : reader.event readSheet (.read text) = .found text := by
          simp [event, finds.mpr isKept, whole]
        have read := holds.read_of_mem distinct isKept
        rw [isFound]
        constructor
        · simpa [CachingReader.after, read, noted, note] using holds.memory
        · simpa [noted, note] using holds.known
        · simp [CachingReader.after, read, ReaderEvent.counts]
          omega
      · by_cases whole : Text.IsUnbroken text
        · have isMissed : reader.event readSheet (.read text) = .missed text := by
            simp [event, mt finds.mp isKept, whole]
          have read := holds.read_of_not_mem nonnegative distinct isText whole isKept
          rw [isMissed]
          constructor
          · simp [CachingReader.after, read, noted, note]
          · rw [noted, note]
            exact List.forall_mem_append.mpr
              ⟨holds.known, List.forall_mem_singleton.mpr ⟨isText, whole⟩⟩
          · simp [CachingReader.after, read, ReaderEvent.counts]
            omega
        · have isRefused : reader.event readSheet (.read text) = .refused text := by
            simp [event, whole]
          obtain ⟨error, -, read⟩ := read_of_not_isUnbroken readSheet reader whole
          rw [isRefused]
          constructor
          · simpa [CachingReader.after, read, noted, note] using holds.memory
          · simpa [noted, note] using holds.known
          · simpa [CachingReader.after, read, ReaderEvent.counts] using counts

/-- Requests one after the other keep the memory right. -/
theorem Holds.afterAll (holds : Holds readSheet bound texts reader past)
    (nonnegative : ∀ limit ∈ bound, 0 ≤ limit)
    (distinct : SheetMemory.Distinguishes texts) {requests : List ReaderRequest}
    (known : ReaderRequest.texts requests ⊆ texts) :
    Holds readSheet bound texts (reader.afterAll readSheet requests)
      (past ++ reader.events readSheet requests) := by
  induction requests generalizing reader past with
  | nil => simpa [CachingReader.afterAll, events] using holds
  | cons request later ih =>
      have first : ∀ text ∈ request.text?, text ∈ texts := by
        intro text isText
        apply known
        exact List.mem_filterMap.mpr ⟨request, List.mem_cons_self, isText⟩
      have others : ReaderRequest.texts later ⊆ texts := by
        intro text within
        apply known
        obtain ⟨other, isLater, isText⟩ := List.mem_filterMap.mp within
        exact List.mem_filterMap.mpr ⟨other, List.mem_cons_of_mem request isLater, isText⟩
      have goOn := ih (holds.after nonnegative distinct first) others
      rwa [List.append_assoc] at goOn

/-- A reader that has just begun holds nothing. -/
theorem holds_bounded (readSheet : List Nat → StyleSheet) (bound : Option Int)
    (texts : List (List Nat)) : Holds readSheet bound texts (bounded bound) [] where
  memory := by simp [bounded, missedSince]
  known := by simp [missedSince]
  counts := rfl

/-- Every text that is read and has a key is counted. -/
theorem countP_events (readSheet : List Nat → StyleSheet) (reader : CachingReader)
    (requests : List ReaderRequest) :
    (reader.events readSheet requests).countP ReaderEvent.counts =
      (ReaderRequest.texts requests).countP fun text => decide (Text.IsUnbroken text) := by
  induction requests generalizing reader with
  | nil => rfl
  | cons request later ih =>
      rw [events, List.countP_cons, ih, ReaderRequest.texts, ReaderRequest.texts,
        List.filterMap_cons]
      cases request with
      | clear => simp [event, ReaderRequest.text?, ReaderEvent.counts]
      | read text =>
          have counted : (reader.event readSheet (.read text)).counts =
              decide (Text.IsUnbroken text) := by
            rw [event]
            split_ifs with broken finds
            · simpa [ReaderEvent.counts] using broken
            · simpa [ReaderEvent.counts] using broken
            · simpa [ReaderEvent.counts] using broken
          simp only [counted, ReaderRequest.text?, List.countP_cons]

end CachingReader

open CachingReader ReaderEvent in
/-- Over any requests to a reader with an empty memory: the counts add up to the texts
read that have a key, and the memory never holds more sheets than its bound. A text is
answered with the sheet that reading it gives exactly when it has a key; a text without
one is refused as it is where texts are encoded, and leaves the reader as it is. A text
is found exactly when it is remembered. -/
theorem read_through_memory {readSheet : List Nat → StyleSheet} {bound : Option Int}
    (nonnegative : ∀ limit ∈ bound, 0 ≤ limit) {requests : List ReaderRequest}
    (distinct : SheetMemory.Distinguishes (ReaderRequest.texts requests)) :
    let start := CachingReader.bounded bound
    (∀ earlier later, requests = earlier ++ later →
      let reader := start.afterAll readSheet earlier
      reader.hits + reader.misses =
          (ReaderRequest.texts earlier).countP (fun text => decide (Text.IsUnbroken text)) ∧
      ∃ size, reader.size? = some size ∧ ∀ limit ∈ bound, (size : Int) ≤ limit) ∧
    ∀ earlier text later, requests = earlier ++ .read text :: later →
      let reader := start.afterAll readSheet earlier
      ((reader.read readSheet text).1 = .ok (readSheet text) ↔ Text.IsUnbroken text) ∧
      (¬Text.IsUnbroken text → ∃ error, Text.ofCodes text = .error error ∧
        reader.read readSheet text = (.error (.ofCharsetError error), reader)) ∧
      (reader.Finds readSheet text ↔
        Remembered bound (start.events readSheet earlier) text) := by
  intro start
  have holds (earlier : List ReaderRequest)
      (known : ReaderRequest.texts earlier ⊆ ReaderRequest.texts requests) :
      Holds readSheet bound (ReaderRequest.texts requests)
        (start.afterAll readSheet earlier) (start.events readSheet earlier) :=
    (holds_bounded readSheet bound _).afterAll nonnegative distinct known
  constructor
  · rintro earlier later rfl
    have here := holds earlier (by simp [ReaderRequest.texts])
    refine ⟨here.counts.trans (countP_events readSheet start earlier),
      (kept bound (missedSince (start.events readSheet earlier))).length, ?_, ?_⟩
    · simp [size?, here.memory]
    · intro limit isBound
      have size := length_kept_le isBound (missedSince (start.events readSheet earlier))
      have := nonnegative limit isBound
      omega
  · rintro earlier text later rfl
    have here := holds earlier (by simp [ReaderRequest.texts])
    have known : text ∈ ReaderRequest.texts (earlier ++ .read text :: later) := by
      simp [ReaderRequest.texts, ReaderRequest.text?]
    exact ⟨here.fst_read_iff nonnegative distinct known, read_of_not_isUnbroken readSheet _,
      (here.finds_iff nonnegative distinct known).trans remembered_iff.symm⟩

open CachingReader ReaderEvent in
/-- Two texts are remembered at most. Finding the first text again does not keep it from
being the one that the third text drives out, and a refused text drives out nothing. -/
theorem read_through_memory_two_entries :
    let readSheet (codes : List Nat) := StyleSheet.ofText (codes.map Text.charOfCode)
    let reader := (bounded (some 2)).afterAll readSheet
      [.clear, .read [97], .read [98, 98], .read [97], .read [99], .read [0xD800]]
    (reader.read readSheet [97]).1 = .ok (.ofText "a") ∧ reader.hits + reader.misses = 4 ∧
      reader.Finds readSheet [99] ∧ ¬reader.Finds readSheet [97] ∧
      ¬reader.Finds readSheet [0xD800] := by
  intro readSheet
  let requests : List ReaderRequest :=
    [.clear, .read [97], .read [98, 98], .read [97], .read [99], .read [0xD800]]
  have run (text : List Nat)
      (distinct : SheetMemory.Distinguishes (ReaderRequest.texts (requests ++ [.read text]))) :=
    @read_through_memory readSheet (some 2) (by decide) _ distinct
  have counted := ((run [97] (by decide +kernel)).1 requests [.read [97]] rfl).1
  obtain ⟨answered, -, finds⟩ := (run [97] (by decide +kernel)).2 requests [97] [] rfl
  obtain ⟨-, -, findsLast⟩ := (run [99] (by decide +kernel)).2 requests [99] [] rfl
  obtain ⟨-, -, findsBroken⟩ := (run [0xD800] (by decide +kernel)).2 requests [0xD800] [] rfl
  rw [remembered_iff] at finds findsLast findsBroken
  exact ⟨answered.mpr (by decide), counted, findsLast.mpr (by decide +kernel),
    mt finds.mp (by decide +kernel), mt findsBroken.mp (by decide +kernel)⟩

/-- A text with half of a character is read without a memory, but not with one, and it is not
counted. -/
theorem unencodable_text_not_read_through_memory :
    let readSheet (codes : List Nat) := StyleSheet.ofText (codes.map Text.charOfCode)
    let text : List Nat := Text.codes ".a \x7b b: " ++ [0xD800] ++ Text.codes " \x7d"
    let answer := (CachingReader.bounded (some 2)).read readSheet text
    SheetMemory.Distinguishes [text] ∧ answer.1 ≠ .ok (readSheet text) ∧
      answer.2.hits + answer.2.misses ≠ 1 := by
  intro readSheet text answer
  have broken : ¬Text.IsUnbroken text := by decide +kernel
  obtain ⟨error, -, refused⟩ := CachingReader.read_of_not_isUnbroken readSheet
    (.bounded (some 2)) broken
  have isAnswer : answer = (.error (.ofCharsetError error), .bounded (some 2)) := refused
  refine ⟨fun first isFirst second isSecond _ _ => ?_, ?_, ?_⟩
  · exact (List.mem_singleton.mp isFirst).trans (List.mem_singleton.mp isSecond).symm
  · rw [isAnswer]
    exact nofun
  · rw [isAnswer]
    exact Nat.zero_ne_one

end DesignExport
