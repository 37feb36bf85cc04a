/-
# Every value that is read is data

Whatever text is read, the value is one that texts can show: its numbers are numbers of
the format, the halves of its texts stand alone, and its objects have one member for
each name. Such a value is read back from its written form, so a value that once came
in through a text survives being written any number of times.
-/

import DesignExport.Proofs.Json.JoinedHalves

namespace DesignExport

namespace Keyed

variable {κ ν : Type} [DecidableEq κ]

/-- A key that is put for the second time stays in its place. -/
theorem map_fst_put_of_mem {key : κ} {table : Keyed κ ν} (within : key ∈ table.map Prod.fst)
    (value : ν) : (put key value table).map Prod.fst = table.map Prod.fst := by
  induction table with
  | nil => simp at within
  | cons entry rest ih =>
      by_cases same : entry.1 = key
      · simp [put, same]
      · simp only [List.map_cons, List.mem_cons, Ne.symm same, false_or] at within
        simp [put, same, ih within]

theorem nodup_put {table : Keyed κ ν} (names : (table.map Prod.fst).Nodup) (key : κ) (value : ν) :
    ((put key value table).map Prod.fst).Nodup := by
  by_cases within : key ∈ table.map Prod.fst
  · rwa [map_fst_put_of_mem within]
  · rw [put_of_get?_eq_none (get?_eq_none_iff.mpr within), List.map_append]
    refine List.nodup_append.mpr ⟨names, List.nodup_singleton key, ?_⟩
    intro other isOther named isNamed
    rw [List.mem_singleton.mp isNamed]
    rintro rfl
    exact within isOther

theorem forall_mem_put {p : ν → Prop} {table : Keyed κ ν} (each : ∀ entry ∈ table, p entry.2)
    (key : κ) {value : ν} (new : p value) : ∀ entry ∈ put key value table, p entry.2 := by
  induction table with
  | nil => exact List.forall_mem_singleton.mpr new
  | cons entry rest ih =>
      obtain ⟨first, others⟩ := List.forall_mem_cons.mp each
      rw [put]
      split_ifs
      · exact List.forall_mem_cons.mpr ⟨new, others⟩
      · exact List.forall_mem_cons.mpr ⟨first, ih others⟩

end Keyed

namespace Json

open Text

/-! ## Texts -/

theorem hexValue?_lt {c : Char} {digit : Nat} (isDigit : hexValue? c = some digit) :
    digit < 16 := by
  rw [hexValue?] at isDigit
  split_ifs at isDigit with decimal small capital
  · obtain rfl := Option.some.inj isDigit
    have := (Char.isDigit_iff_toNat.mp decimal).2
    have : '9'.toNat = 57 := rfl
    omega
  · obtain rfl := Option.some.inj isDigit
    have most : c.toNat ≤ 'f'.toNat :=
      UInt32.le_iff_toNat_le.mp (of_decide_eq_true (Bool.and_eq_true_iff.mp small).2)
    have : 'f'.toNat = 102 := rfl
    omega
  · obtain rfl := Option.some.inj isDigit
    have most : c.toNat ≤ 'F'.toNat :=
      UInt32.le_iff_toNat_le.mp (of_decide_eq_true (Bool.and_eq_true_iff.mp capital).2)
    have : 'F'.toNat = 70 := rfl
    omega

theorem hexCode?_lt {text : Text} {unit : Nat} (isUnit : hexCode? text = some unit) :
    unit < 0x10000 := by
  rcases text with _ | ⟨a, _ | ⟨b, _ | ⟨c, _ | ⟨d, more⟩⟩⟩⟩
  case cons.cons.cons.cons =>
    simp only [hexCode?, Option.bind_eq_bind, Option.bind_eq_some_iff] at isUnit
    obtain ⟨first, isFirst, second, isSecond, third, isThird, fourth, isFourth, isUnit⟩ := isUnit
    have := hexValue?_lt isFirst
    have := hexValue?_lt isSecond
    have := hexValue?_lt isThird
    have := hexValue?_lt isFourth
    obtain rfl := Option.some.inj isUnit
    omega
  all_goals cases isUnit

/-- No second half of a character that something follows is in front of a text. -/
def NoLowAhead (text : Text) : Prop :=
  ∀ more unit, text = '\\' :: 'u' :: more → hexCode? more = some unit → IsLow unit →
    more.drop 4 = []

variable {opening text rest : Text} {taken code length : Nat} {done codes : List Nat} {value : Json}

/-- What a code escape may stand for, and what may follow it. -/
theorem codeEscape_eq_ok (isCode : codeEscape text = .ok (code, length)) :
    code < 0x110000 ∧ (IsLow code → hexCode? (text.drop 1) = some code) ∧
      (text.drop 1).drop 4 ≠ [] ∧ (IsHigh code → NoLowAhead (text.drop length)) := by
  simp only [codeEscape] at isCode
  have after : text.drop 5 = (text.drop 1).drop 4 := by rw [List.drop_drop]
  generalize text.drop 1 = behind at *
  split_ifs at isCode with ends
  rw [List.isEmpty_iff] at ends
  cases isUnit : hexCode? behind with
  | none =>
      rw [isUnit] at isCode
      cases isCode
  | some unit =>
      have basic := hexCode?_lt isUnit
      simp only [isUnit] at isCode
      split_ifs at isCode with high
      · split at isCode
        · next more isMarked =>
            have isMore {other : Text} (isAhead : text.drop 5 = '\\' :: 'u' :: other) :
                other = more := by
              rw [after, isMarked] at isAhead
              exact (List.cons.inj (List.cons.inj isAhead).2).2.symm
            split_ifs at isCode with last
            · obtain ⟨rfl, rfl⟩ := Prod.mk.inj (Except.ok.inj isCode)
              refine ⟨by omega, fun _ => rfl, ends, fun _ other low isAhead _ _ => ?_⟩
              rw [isMore isAhead]
              exact List.isEmpty_iff.mp last
            · cases isLower : hexCode? more with
              | none =>
                  rw [isLower] at isCode
                  cases isCode
              | some lower =>
                  simp only [isLower] at isCode
                  split_ifs at isCode with low
                  · obtain ⟨rfl, rfl⟩ := Prod.mk.inj (Except.ok.inj isCode)
                    simp only [Bool.and_eq_true, decide_eq_true_iff] at high low
                    refine ⟨by omega, fun isLow => ?_, ends, fun isHigh => ?_⟩
                    · unfold IsLow at isLow
                      omega
                    · unfold IsHigh at isHigh
                      omega
                  · obtain ⟨rfl, rfl⟩ := Prod.mk.inj (Except.ok.inj isCode)
                    refine ⟨by omega, fun _ => rfl, ends, ?_⟩
                    intro _ other unit isAhead isUnit isLow
                    rw [isMore isAhead, isLower] at isUnit
                    obtain rfl := Option.some.inj isUnit
                    simp [IsLow] at isLow low
                    omega
        · next noMark =>
            obtain ⟨rfl, rfl⟩ := Prod.mk.inj (Except.ok.inj isCode)
            refine ⟨by omega, fun _ => rfl, ends, fun _ more low isAhead => ?_⟩
            exact absurd (after.symm.trans isAhead) (noMark more)
      · obtain ⟨rfl, rfl⟩ := Prod.mk.inj (Except.ok.inj isCode)
        refine ⟨by omega, fun _ => rfl, ends, fun isHigh => ?_⟩
        simp [IsHigh] at isHigh high
        omega

theorem IsApart.concat (apart : IsApart codes) (valid : code < 0x110000)
    (joins : ∀ last ∈ codes.getLast?, ¬(IsHigh last ∧ IsLow code)) : IsApart (codes ++ [code]) where
  valid := List.forall_mem_append.mpr ⟨apart.valid, List.forall_mem_singleton.mpr valid⟩
  apart := by
    refine List.isChain_append.mpr ⟨apart.apart, List.isChain_singleton code, ?_⟩
    intro last isLast next isNext
    obtain rfl := Option.some.inj isNext
    exact joins last isLast

/-- The codes of a text that is read stand apart: a second half behind a first one would
have been taken with it. -/
theorem isApart_of_readText (isRead : readText opening taken done text = .ok (codes, rest))
    (apart : IsApart done.reverse)
    (ahead : ∀ last ∈ done.head?, IsHigh last → NoLowAhead (text.drop taken)) :
    IsApart codes := by
  induction text generalizing taken done with
  | nil => cases taken <;> cases isRead
  | cons c text ih =>
      -- what is taken with the next code, whichever it is
      have taking {code length : Nat} (isRead : readText opening length (code :: done) text =
          .ok (codes, rest)) (valid : code < 0x110000)
          (joins : ∀ last ∈ done.head?, ¬(IsHigh last ∧ IsLow code))
          (aheadNext : IsHigh code → NoLowAhead (text.drop length)) : IsApart codes := by
        refine ih isRead ?_ ?_
        · rw [List.reverse_cons]
          exact apart.concat valid (by rwa [List.getLast?_reverse])
        · rintro last ⟨⟩
          exact aheadNext
      have takingChar {char : Char} {length : Nat} (isRead : readText opening length
          (char.toNat :: done) text = .ok (codes, rest)) : IsApart codes :=
        taking isRead (toNat_lt char) (fun _ _ both => not_isLow_toNat char both.2)
          fun isHigh => absurd isHigh (not_isHigh_toNat char)
      cases taken with
      | succ taken => exact ih isRead apart ahead
      | zero =>
          rw [readText.eq_def] at isRead
          simp only at isRead
          split_ifs at isRead with quote mark control
          · obtain ⟨rfl, -⟩ := Prod.mk.inj (Except.ok.inj isRead)
            exact apart
          · cases text with
            | nil => cases isRead
            | cons letter text =>
                simp only at isRead
                split_ifs at isRead with isUnit
                · subst isUnit
                  cases isCode : codeEscape ('u' :: text) with
                  | error stop =>
                      rw [isCode] at isRead
                      cases isRead
                  | ok escaped =>
                      simp only [isCode] at isRead
                      obtain ⟨valid, unit, full, aheadNext⟩ := codeEscape_eq_ok isCode
                      refine taking isRead valid (fun last isLast both => ?_) aheadNext
                      subst mark
                      exact full (ahead last isLast both.1 text _ rfl (unit both.2) both.2)
                · cases isShort : shortEscape? letter with
                  | none =>
                      rw [isShort] at isRead
                      cases isRead
                  | some char =>
                      simp only [isShort] at isRead
                      exact takingChar isRead
          · exact takingChar isRead

/-! ## Values without parts -/

theorem isCanonical_of_readFloat {number : Binary64}
    (isRead : Numeral.readFloat text = .ok number) : number.IsCanonical := by
  simp only [Numeral.readFloat] at isRead
  split_ifs at isRead with _ infinite nan
  · obtain rfl := Except.ok.inj isRead
    trivial
  · obtain rfl := Except.ok.inj isRead
    trivial
  · split at isRead
    · obtain rfl := Except.ok.inj isRead
      exact Binary64.isCanonical_ofDecimal _ _ _
    · cases isRead

variable {found : Json × Text}

theorem isData_of_readNumber (isRead : readNumber text = .ok found) : found.1.IsData := by
  simp only [readNumber] at isRead
  generalize (if text.head? = some '-' then ['-'] else ([] : Text)) = sign at isRead
  split_ifs at isRead
  · split at isRead
    · obtain rfl := Except.ok.inj isRead
      exact .int _
    · cases isRead
  · split at isRead
    · next number isNumber =>
        obtain rfl := Except.ok.inj isRead
        exact .float (isCanonical_of_readFloat isNumber)
    · cases isRead

theorem isData_of_mem_valueWords {word : Text × Json} (within : word ∈ valueWords) :
    word.2.IsData := by
  simp only [valueWords, List.mem_cons, List.not_mem_nil, or_false] at within
  rcases within with rfl | rfl | rfl | rfl | rfl | rfl
  · exact .null
  · exact .bool true
  · exact .bool false
  all_goals exact .float trivial

theorem isData_of_readAtom (isRead : readAtom text = .ok found) : found.1.IsData := by
  rw [readAtom.eq_def] at isRead
  split at isRead
  · obtain ⟨codes, isText, rfl⟩ := Except.map_eq_ok.mp isRead
    exact isData_ofCodes (isApart_of_readText isText ⟨by simp, .nil⟩ (by simp))
  · cases isWord : valueWords.find? fun word => word.1.isPrefixOf text with
    | some word =>
        simp only [isWord] at isRead
        obtain rfl := Except.ok.inj isRead
        exact isData_of_mem_valueWords (List.mem_of_find?_eq_some isWord)
    | none =>
        simp only [isWord] at isRead
        exact isData_of_readNumber isRead

/-! ## Arrays and objects -/

/-- Members of data, with one member for each name. -/
structure MembersAreData (members : Keyed Text Json) : Prop where
  names : (members.map Prod.fst).Nodup
  each : ∀ member ∈ members, member.2.IsData

theorem MembersAreData.put {members : Keyed Text Json} (data : MembersAreData members)
    (name : Text) {value : Json} (isData : value.IsData) :
    MembersAreData (Keyed.put name value members) :=
  ⟨Keyed.nodup_put data.names name value, Keyed.forall_mem_put data.each name isData⟩

/-- What is read in so many steps is data, as a value, as items and as members. -/
structure ReadsData (fuel : Nat) : Prop where
  value : ∀ {depth text found}, readValue fuel depth text = .ok found → found.1.IsData
  items : ∀ {depth done text found}, readItems fuel depth done text = .ok found →
    (∀ item ∈ done, item.IsData) → ∀ item ∈ found.1, item.IsData
  members : ∀ {depth done text found}, readMembers fuel depth done text = .ok found →
    MembersAreData done → MembersAreData found.1

variable {fuel depth : Nat}

theorem ReadsData.value_succ (reads : ReadsData fuel)
    (isRead : readValue (fuel + 1) depth text = .ok found) : found.1.IsData := by
  rw [readValue.eq_def] at isRead
  split at isRead
  · next less text isFuel =>
      obtain rfl := Nat.succ.inj isFuel
      split_ifs at isRead
      split at isRead
      · obtain rfl := Except.ok.inj isRead
        exact .array (List.forall_mem_nil _)
      · obtain ⟨items, isItems, rfl⟩ := Except.map_eq_ok.mp isRead
        exact .array (reads.items isItems (List.forall_mem_nil _))
  · next less text isFuel =>
      obtain rfl := Nat.succ.inj isFuel
      split_ifs at isRead
      split at isRead
      · obtain rfl := Except.ok.inj isRead
        exact .object List.nodup_nil (List.forall_mem_nil _)
      · obtain ⟨members, isMembers, rfl⟩ := Except.map_eq_ok.mp isRead
        obtain ⟨names, each⟩ := reads.members isMembers ⟨List.nodup_nil, List.forall_mem_nil _⟩
        exact .object names each
  · exact isData_of_readAtom isRead

theorem ReadsData.items_succ (reads : ReadsData fuel) {done : List Json}
    {found : List Json × Text} (isRead : readItems (fuel + 1) depth done text = .ok found)
    (data : ∀ item ∈ done, item.IsData) : ∀ item ∈ found.1, item.IsData := by
  rw [readItems] at isRead
  split at isRead
  · cases isRead
  · next value rest isValue =>
      have data : ∀ item ∈ value :: done, item.IsData :=
        List.forall_mem_cons.mpr ⟨reads.value isValue, data⟩
      split at isRead
      · obtain rfl := Except.ok.inj isRead
        exact fun item within => data item (List.mem_reverse.mp within)
      · exact reads.items isRead data
      · cases isRead

theorem ReadsData.members_succ (reads : ReadsData fuel) {done : Keyed Text Json}
    {found : Keyed Text Json × Text} (isRead : readMembers (fuel + 1) depth done text = .ok found)
    (data : MembersAreData done) : MembersAreData found.1 := by
  rw [readMembers.eq_def] at isRead
  split at isRead
  · next less rest isFuel =>
      obtain rfl := Nat.succ.inj isFuel
      split at isRead
      · cases isRead
      · simp only at isRead
        split at isRead
        · split at isRead
          · cases isRead
          · next value rest isValue =>
              have data := fun name => data.put name (reads.value isValue)
              split at isRead
              · obtain rfl := Except.ok.inj isRead
                exact data _
              · exact reads.members isRead (data _)
              · cases isRead
        · cases isRead
  · cases isRead

theorem readsData (fuel : Nat) : ReadsData fuel := by
  induction fuel with
  | zero =>
      refine ⟨fun {depth text found} isRead => ?_, fun isRead => ?_, fun isRead => ?_⟩
      · rw [readValue] at isRead
        · exact isData_of_readAtom isRead
        all_goals simp
      · cases isRead
      · cases isRead
  | succ fuel ih => exact ⟨ih.value_succ, ih.items_succ, ih.members_succ⟩

/-- Every value that is read is data. -/
theorem isData_of_read (isRead : read text = .ok value) : value.IsData := by
  rw [read] at isRead
  split at isRead
  · cases isRead
  · next found rest isValue =>
      split at isRead
      · obtain rfl := Except.ok.inj isRead
        exact (readsData _).value isValue
      · cases isRead

end Json

end DesignExport
