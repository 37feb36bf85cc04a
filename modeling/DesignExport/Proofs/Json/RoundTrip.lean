/-
# A written value is read back

Every value that a text can show is read as it was written, whatever may follow a
value behind it. The steps of the reader are bounded by the length of the written
form, and its limits are those of the writer.
-/

import DesignExport.Keyed
import DesignExport.Proofs.Json.WrittenNumbers
import DesignExport.Proofs.Json.WrittenTexts

namespace DesignExport

/-- A computation in two steps succeeds when both do. -/
theorem Except.bind_eq_ok {ε α β : Type} {first : Except ε α} {second : α → Except ε β}
    {found : β} :
    (first >>= second) = .ok found ↔
      ∃ between, first = .ok between ∧ second between = .ok found := by
  cases first with
  | error error => simp [bind, Except.bind]
  | ok between => simp [bind, Except.bind]

theorem Except.map_eq_ok {ε α β : Type} {first : Except ε α} {change : α → β} {result : β} :
    first.map change = .ok result ↔ ∃ value, first = .ok value ∧ change value = result := by
  cases first <;> simp [Except.map]

theorem Except.mapError_eq_ok {ε ε' α : Type} {f : ε → ε'} {result : Except ε α} {a : α} :
    result.mapError f = .ok a ↔ result = .ok a := by
  cases result <;> simp [Except.mapError]

namespace Json

/-- The values that texts can show: numbers of the format, texts in which halves of
characters stand alone, and objects with one member for each name. -/
inductive IsData : Json → Prop
  | null : IsData null
  | bool (value : Bool) : IsData (bool value)
  | int (value : Int) : IsData (int value)
  | float {value : Binary64} (canonical : value.IsCanonical) : IsData (float value)
  | text (value : Text) : IsData (text value)
  | broken {codes : List Nat} (half : codes.any Text.isHalf = true) (apart : IsApart codes) :
      IsData (broken codes)
  | array {items : List Json} (each : ∀ item ∈ items, IsData item) : IsData (array items)
  | object {members : List (Text × Json)} (names : (members.map Prod.fst).Nodup)
      (each : ∀ member ∈ members, IsData member.2) : IsData (object members)

variable {fuel depth : Nat} {text rest : Text} {value : Json}

/-! ## Values without parts -/

/-- What begins with a digit, or with a sign in front of one, is a number. -/
theorem readAtom_signed (negative : Bool) (digit : ∃ c ∈ text.head?, c.isDigit = true) :
    readAtom (Text.signed negative text ++ rest) =
      readNumber (Text.signed negative text ++ rest) := by
  obtain ⟨c, head, digit⟩ := digit
  obtain ⟨more, rfl⟩ := List.head?_eq_some_iff.mp head
  rw [Text.signed_append, List.cons_append]
  have other {letter : Char} (isLetter : letter.isDigit = false) : (letter == c) = false := by
    rw [beq_eq_false_iff_ne]
    rintro rfl
    rw [digit] at isLetter
    cases isLetter
  cases negative with
  | true =>
      have noWord : valueWords.find?
          (fun word => word.1.isPrefixOf ('-' :: c :: (more ++ rest))) = none := by
        simp [valueWords, List.isPrefixOf, other (show 'I'.isDigit = false from rfl)]
      rw [Text.signed, if_pos rfl, readAtom, noWord]
      rintro others ⟨⟩
  | false =>
      have noQuote : c ≠ '"' := by rintro rfl; cases digit
      have noWord : valueWords.find?
          (fun word => word.1.isPrefixOf (c :: (more ++ rest))) = none := by
        simp [valueWords, List.isPrefixOf, other (show 'I'.isDigit = false from rfl),
          other (show 'n'.isDigit = false from rfl), other (show 't'.isDigit = false from rfl),
          other (show 'f'.isDigit = false from rfl), other (show 'N'.isDigit = false from rfl),
          other (show '-'.isDigit = false from rfl)]
      rw [Text.signed, if_neg Bool.false_ne_true, readAtom, noWord]
      rintro others ⟨⟩
      exact noQuote rfl

/-- Only arrays and objects have parts. -/
theorem readValue_eq_readAtom (head : ∀ c ∈ text.head?, c ≠ '[' ∧ c ≠ '\x7b') :
    readValue fuel depth text = readAtom text := by
  rw [readValue]
  · rintro less rest - rfl
    exact (head _ rfl).1 rfl
  · rintro less rest - rfl
    exact (head _ rfl).2 rfl

theorem skipBlanks_space (text : Text) : skipBlanks (' ' :: text) = skipBlanks text := rfl

theorem readValue_of_readAtom {found : Json × Text} (isRead : readAtom text = .ok found) :
    readValue fuel depth text = .ok found := by
  rw [readValue_eq_readAtom, isRead]
  intro c head
  obtain ⟨more, rfl⟩ := List.head?_eq_some_iff.mp head
  constructor
  all_goals
    rintro rfl
    cases isRead

/-- Blanks and the bracket that ends an array begin no value. -/
theorem readValue_eq_error {c : Char} (noStart : c ∈ [' ', '\t', '\n', '\r', ']']) :
    readValue fuel depth (c :: text) = .error (.flawed .noValue (c :: text)) := by
  simp only [List.mem_cons, List.not_mem_nil, or_false] at noStart
  rcases noStart with rfl | rfl | rfl | rfl | rfl
  all_goals
    rw [readValue_eq_readAtom (by rintro c ⟨⟩; decide)]
    rfl

/-- What is read begins with no blank, and with no bracket that ends an array. -/
theorem skipBlanks_of_readValue {found : Json × Text}
    (isRead : readValue fuel depth text = .ok found) :
    skipBlanks text = text ∧ ∀ more, text ≠ ']' :: more := by
  cases text with
  | nil => exact ⟨rfl, by simp⟩
  | cons c text =>
      have starts : c ∉ [' ', '\t', '\n', '\r', ']'] := by
        intro noStart
        rw [readValue_eq_error noStart] at isRead
        cases isRead
      simp only [List.mem_cons, List.not_mem_nil, or_false, not_or] at starts
      refine ⟨?_, ?_⟩
      · rw [skipBlanks, List.dropWhile_cons_of_neg]
        simp [starts]
      · rintro more ⟨⟩
        simp at starts

/-! ## Arrays and objects -/

/-- A value that is read back from its written form. -/
def IsReadBack (value : Json) : Prop :=
  ∀ (fuel depth : Nat) (rest : Text), checkLimits depth value = .ok () → Follows rest →
    value.write.length ≤ fuel → readValue fuel depth (value.write ++ rest) = .ok (value, rest)

theorem checkItems_cons {items : List Json} :
    checkItems depth (value :: items) = .ok () ↔
      checkLimits depth value = .ok () ∧ checkItems depth items = .ok () := by
  rw [checkItems, Except.bind_eq_ok]
  exact ⟨fun ⟨_, first, others⟩ => ⟨first, others⟩, fun ⟨first, others⟩ => ⟨(), first, others⟩⟩

theorem checkMembers_cons {name : Text} {members : List (Text × Json)} :
    checkMembers depth ((name, value) :: members) = .ok () ↔
      checkLimits depth value = .ok () ∧ checkMembers depth members = .ok () := by
  rw [checkMembers, Except.bind_eq_ok]
  exact ⟨fun ⟨_, first, others⟩ => ⟨first, others⟩, fun ⟨first, others⟩ => ⟨(), first, others⟩⟩

theorem follows_writeItems (items : List Json) (rest : Text) :
    Follows (writeItems items ++ ']' :: rest) := by
  cases items with
  | nil => exact fun c head => .inr (.inl (Option.some.inj head).symm)
  | cons item items => exact fun c head => .inl (Option.some.inj head).symm

theorem follows_writeMembers (members : List (Text × Json)) (rest : Text) :
    Follows (writeMembers members ++ '\x7d' :: rest) := by
  cases members with
  | nil => exact fun c head => .inr (.inr (Option.some.inj head).symm)
  | cons member members => exact fun c head => .inl (Option.some.inj head).symm

/-- Blanks in front of a written value are all that is skipped. -/
theorem IsReadBack.skipBlanks_write (readBack : IsReadBack value)
    (limits : checkLimits depth value = .ok ()) (follows : Follows rest) :
    skipBlanks (value.write ++ rest) = value.write ++ rest ∧
      ∀ more, value.write ++ rest ≠ ']' :: more :=
  skipBlanks_of_readValue (readBack _ _ _ limits follows le_rfl)

/-- Items are read in their order. -/
theorem readItems_write {items done : List Json}
    (each : ∀ item ∈ value :: items, IsReadBack item)
    (limits : checkItems depth (value :: items) = .ok ())
    (enough : (value.write ++ writeItems items).length < fuel) :
    readItems fuel depth done (value.write ++ (writeItems items ++ ']' :: rest)) =
      .ok (done.reverse ++ value :: items, rest) := by
  induction items generalizing value done fuel with
  | nil =>
      obtain ⟨fuel, rfl⟩ := Nat.exists_eq_succ_of_ne_zero (Nat.ne_zero_of_lt enough)
      obtain ⟨first, -⟩ := checkItems_cons.mp limits
      have fits : value.write.length ≤ fuel := by simp [writeItems] at enough; omega
      have isRead := each value List.mem_cons_self fuel depth (writeItems [] ++ ']' :: rest) first
        (follows_writeItems [] rest) fits
      rw [readItems, isRead]
      exact congrArg Except.ok (congrArg (·, rest) (List.reverse_cons ..))
  | cons item items ih =>
      obtain ⟨fuel, rfl⟩ := Nat.exists_eq_succ_of_ne_zero (Nat.ne_zero_of_lt enough)
      obtain ⟨first, limits⟩ := checkItems_cons.mp limits
      obtain ⟨second, -⟩ := checkItems_cons.mp limits
      obtain ⟨readsFirst, each⟩ := List.forall_mem_cons.mp each
      have starts : skipBlanks (item.write ++ (writeItems items ++ ']' :: rest)) = _ :=
        ((each item List.mem_cons_self).skipBlanks_write second (follows_writeItems items rest)).1
      have fits : value.write.length ≤ fuel := by simp at enough; omega
      have fitsRest : (item.write ++ writeItems items).length < fuel := by
        simp [writeItems] at enough ⊢
        omega
      have isRead := readsFirst fuel depth (writeItems (item :: items) ++ ']' :: rest) first
        (follows_writeItems (item :: items) rest) fits
      have next : writeItems (item :: items) ++ ']' :: rest =
          ',' :: ' ' :: (item.write ++ (writeItems items ++ ']' :: rest)) := by simp [writeItems]
      have isNext : readItems fuel depth (value :: done)
          (item.write ++ (writeItems items ++ ']' :: rest)) = _ := ih each limits fitsRest
      rw [readItems, isRead, next]
      change readItems fuel depth (value :: done) (skipBlanks (' ' :: _)) = _
      rw [skipBlanks_space, starts, isNext]
      simp

theorem skipBlanks_writeText (name rest : Text) :
    skipBlanks (writeText name ++ rest) = writeText name ++ rest := rfl

/-- A written text begins with a quote and is read behind it. -/
theorem exists_writeText_append (name rest : Text) :
    ∃ behind, writeText name ++ rest = '"' :: behind ∧
      ∀ opening, readText opening 0 [] behind = .ok (name.codes, rest) := by
  refine ⟨name.codes.flatMap escape ++ '"' :: rest, ?_,
    fun opening => readText_flatMap (isApart_codes name)⟩
  rw [writeText_eq, writeCodes_eq]
  simp

/-- What is read behind the members that are done. -/
def readBehind (fuel depth : Nat) (done : Keyed Text Json) (text : Text) :
    Except Stop (Keyed Text Json × Text) :=
  match skipBlanks text with
  | '\x7d' :: rest => .ok (done, rest)
  | ',' :: rest => readMembers fuel depth done (skipBlanks rest)
  | rest => .error (.flawed .noComma rest)

/-- The member in front is read up to what follows its value. -/
theorem readMembers_writeText {name : Text} {done : Keyed Text Json} (readBack : IsReadBack value)
    (limits : checkLimits depth value = .ok ()) (follows : Follows rest)
    (enough : value.write.length ≤ fuel) :
    readMembers (fuel + 1) depth done (writeText name ++ (": " ++ (value.write ++ rest))) =
      readBehind fuel depth (Keyed.put name value done) rest := by
  obtain ⟨behind, isCons, isName⟩ := exists_writeText_append name (": " ++ (value.write ++ rest))
  have isRead := readBack fuel depth rest limits follows enough
  have starts := (readBack.skipBlanks_write limits follows).1
  have colon : skipBlanks ((": " : Text) ++ (value.write ++ rest)) =
      ':' :: ' ' :: (value.write ++ rest) := rfl
  rw [isCons, readMembers, isName]
  simp only [colon, skipBlanks_space, starts, isRead, Text.map_charOfCode_codes]
  rfl

theorem get?_eq_none_of_nodup {name : Text} {members done : Keyed Text Json}
    (names : ((done ++ (name, value) :: members).map Prod.fst).Nodup) :
    Keyed.get? name done = none := by
  rw [List.map_append, List.map_cons, List.nodup_middle] at names
  exact Keyed.get?_eq_none_iff.mpr fun within =>
    (List.nodup_cons.mp names).1 (List.mem_append_left _ within)

/-- Members are read in their order, each name for the first time. -/
theorem readMembers_write {name : Text} {members : List (Text × Json)} {done : Keyed Text Json}
    (each : ∀ member ∈ (name, value) :: members, IsReadBack member.2)
    (names : ((done ++ (name, value) :: members).map Prod.fst).Nodup)
    (limits : checkMembers depth ((name, value) :: members) = .ok ())
    (enough : (writeText name ++ (": " ++ (value.write ++ writeMembers members))).length < fuel) :
    readMembers fuel depth done
        (writeText name ++ (": " ++ (value.write ++ (writeMembers members ++ '\x7d' :: rest)))) =
      .ok (done ++ (name, value) :: members, rest) := by
  induction members generalizing name value done fuel with
  | nil =>
      obtain ⟨fuel, rfl⟩ := Nat.exists_eq_succ_of_ne_zero (Nat.ne_zero_of_lt enough)
      obtain ⟨first, -⟩ := checkMembers_cons.mp limits
      have fits : value.write.length ≤ fuel := by simp at enough; omega
      rw [readMembers_writeText (each _ List.mem_cons_self) first (follows_writeMembers [] rest)
        fits, ← Keyed.put_of_get?_eq_none (get?_eq_none_of_nodup names)]
      rfl
  | cons member members ih =>
      obtain ⟨fuel, rfl⟩ := Nat.exists_eq_succ_of_ne_zero (Nat.ne_zero_of_lt enough)
      obtain ⟨first, limits⟩ := checkMembers_cons.mp limits
      have readsFirst := each _ List.mem_cons_self
      have fits : value.write.length ≤ fuel := by simp at enough; omega
      have fitsRest : (writeText member.1 ++ (": " ++ (member.2.write ++
          writeMembers members))).length < fuel := by
        simp [writeMembers] at enough ⊢
        omega
      have entered := Keyed.put_of_get?_eq_none (get?_eq_none_of_nodup names) value
      have next : writeMembers (member :: members) ++ '\x7d' :: rest =
          ',' :: ' ' :: (writeText member.1 ++ (": " ++ (member.2.write ++
            (writeMembers members ++ '\x7d' :: rest)))) := by simp [writeMembers]
      have isNext : readMembers fuel depth (done ++ [(name, value)]) _ = _ :=
        ih (fun other within => each other (List.mem_cons_of_mem _ within)) (by simpa using names)
          limits fitsRest
      rw [readMembers_writeText readsFirst first (follows_writeMembers _ rest) fits, next]
      change readMembers fuel depth (Keyed.put name value done) (skipBlanks (' ' :: _)) = _
      rw [skipBlanks_space, skipBlanks_writeText, entered, isNext]
      simp

/-! ## All values -/

theorem readAtom_float {number : Binary64} (canonical : number.IsCanonical)
    (follows : Follows rest) :
    readAtom (floatStyle.text number ++ rest) = .ok (.float number, rest) := by
  match number with
  | .nan => rfl
  | .infinite negative => cases negative <;> rfl
  | .finite negative significand exponent =>
      obtain ⟨parts, proper, isText, isNumber⟩ := floatStyle.exists_parts negative canonical
      rw [isText, readAtom_signed negative proper.exists_mem_head?_text,
        readNumber_decimal negative proper follows, isNumber]

theorem readAtom_int {number : Int} (limits : checkLimits depth (.int number) = .ok ())
    (follows : Follows rest) :
    readAtom (Text.ofInt number ++ rest) = .ok (.int number, rest) := by
  have short : (Text.ofNat number.natAbs).length ≤ NumberError.digitLimit := by
    rw [checkLimits] at limits
    split_ifs at limits with long
    exact Nat.not_lt.mp long
  have isText : Text.ofInt number =
      Text.signed (decide (number < 0)) (Text.ofNat number.natAbs) := by
    by_cases negative : number < 0 <;> simp [Text.ofInt, Text.signed, negative]
  have isNumber :
      (if decide (number < 0) then -(number.natAbs : Int) else number.natAbs) = number := by
    simp only [decide_eq_true_iff]
    split_ifs <;> omega
  rw [isText, readAtom_signed _ (Text.exists_mem_head?_ofNat _), readNumber_ofNat _ short follows,
    isNumber]

theorem readAtom_text (text : Text) :
    readAtom (writeText text ++ rest) = .ok (.text text, rest) := by
  rw [writeText_eq, readAtom_writeCodes (isApart_codes text), ofCodes_codes]

theorem readAtom_broken {codes : List Nat} (half : codes.any Text.isHalf = true)
    (apart : IsApart codes) : readAtom (writeCodes codes ++ rest) = .ok (.broken codes, rest) := by
  rw [readAtom_writeCodes apart, ofCodes, if_pos half]

/-- An array is read back if its items are. -/
theorem isReadBack_array {items : List Json} (each : ∀ item ∈ items, IsReadBack item) :
    IsReadBack (array items) := by
  intro fuel depth rest limits follows enough
  rw [checkLimits] at limits
  split_ifs at limits with tooDeep
  cases items with
  | nil =>
      obtain ⟨fuel, rfl⟩ := Nat.exists_eq_succ_of_ne_zero (Nat.ne_zero_of_lt enough)
      change readValue (fuel + 1) depth ('[' :: ']' :: rest) = _
      rw [readValue, if_neg tooDeep]
      rfl
  | cons item items =>
      obtain ⟨fuel, rfl⟩ := Nat.exists_eq_succ_of_ne_zero (Nat.ne_zero_of_lt enough)
      have fits : (item.write ++ writeItems items).length < fuel := by
        simp [write] at enough ⊢
        omega
      obtain ⟨first, -⟩ := checkItems_cons.mp limits
      obtain ⟨starts, noEnd⟩ := (each item List.mem_cons_self).skipBlanks_write first
        (follows_writeItems items rest)
      have isRead : readItems fuel (depth - 1) []
          (item.write ++ (writeItems items ++ ']' :: rest)) =
          .ok (item :: items, rest) := readItems_write each limits fits
      have text : (array (item :: items)).write ++ rest =
          '[' :: (item.write ++ (writeItems items ++ ']' :: rest)) := by simp [write]
      rw [text, readValue, if_neg tooDeep, starts]
      split
      · next isEnd => exact absurd isEnd (noEnd _)
      · rw [isRead]
        rfl

/-- An object is read back if the values of its members are. -/
theorem isReadBack_object {members : List (Text × Json)} (names : (members.map Prod.fst).Nodup)
    (each : ∀ member ∈ members, IsReadBack member.2) : IsReadBack (object members) := by
  intro fuel depth rest limits follows enough
  rw [checkLimits] at limits
  split_ifs at limits with tooDeep
  cases members with
  | nil =>
      obtain ⟨fuel, rfl⟩ := Nat.exists_eq_succ_of_ne_zero (Nat.ne_zero_of_lt enough)
      change readValue (fuel + 1) depth ('\x7b' :: '\x7d' :: rest) = _
      rw [readValue, if_neg tooDeep]
      rfl
  | cons member members =>
      obtain ⟨fuel, rfl⟩ := Nat.exists_eq_succ_of_ne_zero (Nat.ne_zero_of_lt enough)
      obtain ⟨name, value⟩ := member
      have fits : (writeText name ++ (": " ++ (value.write ++ writeMembers members))).length <
          fuel := by
        simp [write] at enough ⊢
        omega
      have isRead : readMembers fuel (depth - 1) [] (writeText name ++
          (": " ++ (value.write ++ (writeMembers members ++ '\x7d' :: rest)))) =
          .ok ((name, value) :: members, rest) := readMembers_write each names limits fits
      have text : (object ((name, value) :: members)).write ++ rest = '\x7b' :: (writeText name ++
          (": " ++ (value.write ++ (writeMembers members ++ '\x7d' :: rest)))) := by simp [write]
      rw [text, readValue, if_neg tooDeep, skipBlanks_writeText]
      split
      · next isEnd => cases isEnd
      · rw [isRead]
        rfl

/-- Every value that texts show is read back from its written form. -/
theorem IsData.isReadBack (isData : IsData value) : IsReadBack value := by
  induction isData with
  | null => exact fun _ _ _ _ _ _ => readValue_of_readAtom rfl
  | bool value =>
      intro fuel depth rest limits follows enough
      cases value <;> exact readValue_of_readAtom rfl
  | int value =>
      exact fun _ _ _ limits follows _ => readValue_of_readAtom (readAtom_int limits follows)
  | float canonical =>
      exact fun _ _ _ _ follows _ => readValue_of_readAtom (readAtom_float canonical follows)
  | text value => exact fun _ _ _ _ _ _ => readValue_of_readAtom (readAtom_text value)
  | broken half apart => exact fun _ _ _ _ _ _ => readValue_of_readAtom (readAtom_broken half apart)
  | array each ih => exact isReadBack_array ih
  | object names each ih => exact isReadBack_object names ih

/-- A written text is read as the value that was written. -/
theorem IsData.read_of_written (isData : IsData value) (isWritten : value.written = .ok text) :
    read text = .ok value := by
  obtain ⟨_, limits, isText⟩ := Except.bind_eq_ok.mp isWritten
  obtain rfl : value.write = text := Except.ok.inj isText
  have follows : Follows [] := fun c head => by cases head
  have fits : value.write.length ≤ 2 * value.write.length + 2 := by omega
  have isRead := isData.isReadBack _ _ [] limits follows fits
  rw [List.append_nil] at isRead
  rw [read, (skipBlanks_of_readValue isRead).1, isRead]
  rfl

end Json

end DesignExport
