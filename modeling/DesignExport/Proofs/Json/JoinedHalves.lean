/-
# Halves that come back as characters

A written text does not tell whether two halves next to each other were the halves of one
character or the character itself. So what is read back of a value has the character in
their place, and nothing else is changed. The value that comes back has the same written
form, within the same limits, and from then on it is read back as it is.
-/

import DesignExport.Proofs.Json.RoundTrip

namespace DesignExport

namespace Json

open Text

/-! ## Codes -/

variable {high low : Nat} {codes : List Nat}

theorem joinHalves_pair (isHigh : IsHigh high) (isLow : IsLow low) (rest : List Nat) :
    joinHalves (high :: low :: rest) =
      (0x10000 + (high - 0xD800) * 0x400 + (low - 0xDC00)) :: joinHalves rest := by
  have pair : (decide (0xD800 ≤ high) && decide (high ≤ 0xDBFF) && decide (0xDC00 ≤ low) &&
      decide (low ≤ 0xDFFF)) = true := by
    simpa [IsHigh, IsLow, and_assoc] using And.intro isHigh isLow
  rw [joinHalves, if_pos pair]

theorem joinHalves_apart (apart : ¬(IsHigh high ∧ IsLow low)) (rest : List Nat) :
    joinHalves (high :: low :: rest) = high :: joinHalves (low :: rest) := by
  have noPair : ¬(decide (0xD800 ≤ high) && decide (high ≤ 0xDBFF) && decide (0xDC00 ≤ low) &&
      decide (low ≤ 0xDFFF)) = true := by
    simpa [IsHigh, IsLow, and_assoc] using apart
  rw [joinHalves, if_neg noPair]

/-- Codes are joined pair by pair: there are none or one, a pair is in front, or the first
code stands apart from the second. -/
theorem joinHalves_induction {motive : List Nat → Prop} (nil : motive [])
    (single : ∀ code, motive [code])
    (pair : ∀ high low rest, IsHigh high → IsLow low → motive rest → motive (high :: low :: rest))
    (apart : ∀ first second rest, ¬(IsHigh first ∧ IsLow second) → motive (second :: rest) →
      motive (first :: second :: rest)) (codes : List Nat) : motive codes := by
  induction codes using joinHalves.induct with
  | case1 high low rest both ih =>
      have halves : IsHigh high ∧ IsLow low := by
        simpa [IsHigh, IsLow, and_assoc] using both
      exact pair high low rest halves.1 halves.2 ih
  | case2 high low rest notBoth ih =>
      refine apart high low rest (fun halves => notBoth ?_) ih
      simpa [IsHigh, IsLow, and_assoc] using halves
  | case3 codes short =>
      cases codes with
      | nil => exact nil
      | cons first rest =>
          cases rest with
          | nil => exact single first
          | cons second rest => exact absurd rfl (short first second rest)

/-- A second half in front was in front before. -/
theorem mem_head?_of_joinHalves (isLow : IsLow low) (inFront : low ∈ (joinHalves codes).head?) :
    low ∈ codes.head? := by
  cases codes using joinHalves_induction with
  | nil => exact inFront
  | single code => exact inFront
  | pair first second rest isHigh isSecond =>
      rw [joinHalves_pair isHigh isSecond] at inFront
      obtain rfl := Option.some.inj inFront
      unfold IsHigh at isHigh
      unfold IsLow at isLow
      omega
  | apart first second rest apart =>
      rw [joinHalves_apart apart] at inFront
      exact inFront

/-- Joined codes stand apart. -/
theorem isApart_joinHalves (valid : ∀ code ∈ codes, code < 0x110000) :
    IsApart (joinHalves codes) := by
  induction codes using joinHalves_induction with
  | nil => exact ⟨by simp [joinHalves], .nil⟩
  | single code => exact ⟨by simpa [joinHalves] using valid, List.isChain_singleton code⟩
  | pair high low rest isHigh isLow ih =>
      obtain ⟨-, -, validRest⟩ := by simpa only [List.forall_mem_cons] using valid
      obtain ⟨validJoined, apart⟩ := ih validRest
      unfold IsHigh at isHigh
      unfold IsLow at isLow
      rw [joinHalves_pair isHigh isLow]
      refine ⟨List.forall_mem_cons.mpr ⟨by omega, validJoined⟩, List.isChain_cons.mpr ⟨?_, apart⟩⟩
      rintro next - ⟨isHigh, -⟩
      unfold IsHigh at isHigh
      omega
  | apart first second rest apart ih =>
      obtain ⟨validFirst, validRest⟩ := List.forall_mem_cons.mp valid
      obtain ⟨validJoined, isChain⟩ := ih validRest
      rw [joinHalves_apart apart]
      refine ⟨List.forall_mem_cons.mpr ⟨validFirst, validJoined⟩,
        List.isChain_cons.mpr ⟨?_, isChain⟩⟩
      rintro next inFront ⟨isHigh, isLow⟩
      obtain rfl := Option.some.inj (mem_head?_of_joinHalves isLow inFront)
      exact apart ⟨isHigh, isLow⟩

/-- Codes that stand apart stay as they are. -/
theorem IsApart.joinHalves_eq (apart : IsApart codes) : joinHalves codes = codes := by
  obtain ⟨valid, apart⟩ := apart
  clear valid
  induction codes using joinHalves_induction with
  | nil => rfl
  | single code => rfl
  | pair high low rest isHigh isLow =>
      exact absurd ⟨isHigh, isLow⟩ (List.isChain_cons_cons.mp apart).1
  | apart first second rest notBoth ih =>
      rw [joinHalves_apart notBoth, ih (List.isChain_cons_cons.mp apart).2]

/-- A character beyond the basic plane is written as its halves are. -/
theorem escape_pair (isHigh : IsHigh high) (isLow : IsLow low) :
    escape (0x10000 + (high - 0xD800) * 0x400 + (low - 0xDC00)) = escape high ++ escape low := by
  unfold IsHigh at isHigh
  unfold IsLow at isLow
  have half (code : Nat) (least : 0xD800 ≤ code) (most : code < 0xE000) :
      escape code = "\\u" ++ Text.hex 4 code := by
    have isHalf : Text.isHalf code = true := by simp [Text.isHalf, least, most]
    rw [escape, if_pos isHalf, escapeCode, if_pos (by omega)]
  generalize isRest : (high - 0xD800) * 0x400 + (low - 0xDC00) = rest
  have whole : Text.isHalf (0x10000 + rest) = false := by
    simp [Text.isHalf]
    omega
  have isCode : (Char.ofNat (0x10000 + rest)).toNat = 0x10000 + rest :=
    toNat_ofNat (by omega) whole
  have beyond {c : Char} (basic : c.toNat < 0x10000) : Char.ofNat (0x10000 + rest) ≠ c := by
    rintro rfl
    omega
  have notPrintable : ¬(decide (32 ≤ 0x10000 + rest) && decide (0x10000 + rest < 127)) = true := by
    simp only [Bool.and_eq_true, decide_eq_true_iff]
    omega
  have escapes : escapeChar (Char.ofNat (0x10000 + rest)) = escapeCode (0x10000 + rest) := by
    rw [escapeChar, if_neg (beyond (by decide)), if_neg (beyond (by decide)),
      if_neg (beyond (by decide)), if_neg (beyond (by decide)), if_neg (beyond (by decide)),
      if_neg (beyond (by decide)), if_neg (beyond (by decide)), isCode, if_neg notPrintable]
  have isHighHalf : 0xD800 + (0x10000 + rest - 0x10000) / 0x400 = high := by omega
  have isLowHalf : 0xDC00 + (0x10000 + rest - 0x10000) % 0x400 = low := by omega
  have notBasic : ¬0x10000 + rest < 0x10000 := by omega
  rw [Nat.add_assoc, isRest, escape, whole, if_neg Bool.false_ne_true, escapes, escapeCode,
    if_neg notBasic]
  dsimp only
  rw [isHighHalf, isLowHalf, half high isHigh.1 (by omega),
    half low (by omega) (by omega)]
  simp

theorem flatMap_escape_joinHalves (codes : List Nat) :
    (joinHalves codes).flatMap escape = codes.flatMap escape := by
  induction codes using joinHalves_induction with
  | nil => rfl
  | single code => rfl
  | pair high low rest isHigh isLow ih =>
      rw [joinHalves_pair isHigh isLow]
      simp only [List.flatMap_cons, ih, escape_pair isHigh isLow, List.append_assoc]
  | apart first second rest apart ih =>
      rw [joinHalves_apart apart, List.flatMap_cons, ih]
      rfl

/-- The text of codes is written as they are. -/
theorem write_ofCodes (valid : ∀ code ∈ codes, code < 0x110000) :
    (ofCodes codes).write = writeCodes codes := by
  rw [ofCodes]
  split_ifs with half
  · rfl
  · have whole : IsUnbroken codes := by
      simpa [IsUnbroken] using half
    change writeText (codes.map Char.ofNat) = _
    rw [writeText_eq, codes_map_ofNat valid whole]

/-! ## Values -/

/-- Values of the program: numbers of the format, texts by the codes of characters and of halves
of characters, and objects with one member for each name. -/
inductive IsValue : Json → Prop
  | null : IsValue null
  | bool (value : Bool) : IsValue (bool value)
  | int (value : Int) : IsValue (int value)
  | float {value : Binary64} (canonical : value.IsCanonical) : IsValue (float value)
  | text (value : Text) : IsValue (text value)
  | broken {codes : List Nat} (valid : ∀ code ∈ codes, code < 0x110000) : IsValue (broken codes)
  | array {items : List Json} (each : ∀ item ∈ items, IsValue item) : IsValue (array items)
  | object {members : List (Text × Json)} (names : (members.map Prod.fst).Nodup)
      (each : ∀ member ∈ members, IsValue member.2) : IsValue (object members)

variable {value : Json}

theorem IsData.isValue (isData : IsData value) : IsValue value := by
  induction isData with
  | null => exact .null
  | bool value => exact .bool value
  | int value => exact .int value
  | float canonical => exact .float canonical
  | text value => exact .text value
  | broken half apart => exact .broken apart.valid
  | array each ih => exact .array ih
  | object names each ih => exact .object names ih

theorem joinedItems_eq_map (items : List Json) : joinedItems items = items.map joined := by
  induction items with
  | nil => rfl
  | cons item rest ih => rw [joinedItems, ih, List.map_cons]

theorem joinedMembers_eq_map (members : List (Text × Json)) :
    joinedMembers members = members.map fun member => (member.1, member.2.joined) := by
  induction members with
  | nil => rfl
  | cons member rest ih => rw [joinedMembers, ih, List.map_cons]

@[simp] theorem joined_array (items : List Json) :
    (array items).joined = array (items.map joined) :=
  congrArg array (joinedItems_eq_map items)

@[simp] theorem joined_object (members : List (Text × Json)) :
    (object members).joined = object (members.map fun member => (member.1, member.2.joined)) :=
  congrArg object (joinedMembers_eq_map members)

@[simp] theorem joined_null : null.joined = null := rfl

@[simp] theorem joined_text (value : Text) : (text value).joined = text value := rfl

theorem isData_ofCodes (apart : IsApart codes) : (ofCodes codes).IsData := by
  rw [ofCodes]
  split_ifs with half
  · exact .broken half apart
  · exact .text _

/-- What comes back of a value is data. -/
theorem IsValue.isData_joined (isValue : IsValue value) : value.joined.IsData := by
  induction isValue with
  | null => exact .null
  | bool value => exact .bool value
  | int value => exact .int value
  | float canonical => exact .float canonical
  | text value => exact .text value
  | broken valid => exact isData_ofCodes (isApart_joinHalves valid)
  | array each ih =>
      rw [joined_array]
      exact .array (List.forall_mem_map.mpr ih)
  | object names each ih =>
      rw [joined_object]
      refine .object ?_ (List.forall_mem_map.mpr ih)
      rwa [List.map_map]

/-- Data comes back as it is. -/
theorem IsData.joined_eq (isData : IsData value) : value.joined = value := by
  induction isData with
  | null | bool | int | float | text => rfl
  | broken half apart =>
      change ofCodes (joinHalves _) = _
      rw [apart.joinHalves_eq, ofCodes, if_pos half]
  | array each ih => rw [joined_array, List.map_congr_left ih, List.map_id']
  | @object members names each ih =>
      have same : ∀ member ∈ members, (member.1, member.2.joined) = member :=
        fun member within => congrArg (Prod.mk member.1) (ih member within)
      rw [joined_object, List.map_congr_left same, List.map_id']

mutual

/-- What comes back keeps to the limits of the writer if the value does. -/
theorem checkLimits_joined (depth : Nat) :
    ∀ value : Json, checkLimits depth value.joined = checkLimits depth value
  | .broken codes => by
      change checkLimits depth (ofCodes _) = _
      rw [ofCodes]
      split_ifs <;> rfl
  | .array items => by
      change checkLimits depth (.array (joinedItems items)) = _
      rw [checkLimits, checkLimits, checkItems_joined]
  | .object members => by
      change checkLimits depth (.object (joinedMembers members)) = _
      rw [checkLimits, checkLimits, checkMembers_joined]
  | .null | .bool _ | .int _ | .float _ | .text _ => rfl

theorem checkItems_joined (depth : Nat) :
    ∀ items : List Json, checkItems depth (joinedItems items) = checkItems depth items
  | [] => rfl
  | item :: rest => by
      rw [joinedItems, checkItems, checkItems, checkLimits_joined, checkItems_joined]

theorem checkMembers_joined (depth : Nat) :
    ∀ members : List (Text × Json),
      checkMembers depth (joinedMembers members) = checkMembers depth members
  | [] => rfl
  | (name, value) :: rest => by
      rw [joinedMembers, checkMembers, checkMembers, checkLimits_joined, checkMembers_joined]

end

theorem checkWritten_joined (value : Json) : value.joined.checkWritten = value.checkWritten :=
  checkLimits_joined nestingLimit value

theorem writeItems_congr {items : List Json}
    (same : ∀ item ∈ items, item.joined.write = item.write) :
    writeItems (items.map joined) = writeItems items := by
  induction items with
  | nil => rfl
  | cons item rest ih =>
      obtain ⟨first, others⟩ := List.forall_mem_cons.mp same
      rw [List.map_cons, writeItems, writeItems, first, ih others]

theorem writeMembers_congr {members : List (Text × Json)}
    (same : ∀ member ∈ members, member.2.joined.write = member.2.write) :
    writeMembers (members.map fun member => (member.1, member.2.joined)) =
      writeMembers members := by
  induction members with
  | nil => rfl
  | cons member rest ih =>
      obtain ⟨first, others⟩ := List.forall_mem_cons.mp same
      rw [List.map_cons, writeMembers, writeMembers, first, ih others]

/-- What comes back of a value has the written form of the value. -/
theorem IsValue.write_joined (isValue : IsValue value) : value.joined.write = value.write := by
  induction isValue with
  | null | bool | int | float | text => rfl
  | @broken codes valid =>
      change (ofCodes (joinHalves codes)).write = writeCodes codes
      rw [write_ofCodes (isApart_joinHalves valid).valid, writeCodes_eq, writeCodes_eq,
        flatMap_escape_joinHalves]
  | @array items each ih =>
      rw [joined_array]
      cases items with
      | nil => rfl
      | cons item rest =>
          obtain ⟨first, others⟩ := List.forall_mem_cons.mp ih
          rw [List.map_cons, write, write, first, writeItems_congr others]
  | @object members names each ih =>
      rw [joined_object]
      cases members with
      | nil => rfl
      | cons member rest =>
          obtain ⟨first, others⟩ := List.forall_mem_cons.mp ih
          rw [List.map_cons, write, write, first, writeMembers_congr others]

/-- A written text is read as what comes back of the value that was written. -/
theorem IsValue.read_of_written (isValue : IsValue value) {text : Text}
    (isWritten : value.written = .ok text) : read text = .ok value.joined := by
  have same : value.joined.written = value.written := by
    rw [written, written, checkWritten_joined, isValue.write_joined]
  exact isValue.isData_joined.read_of_written (same.trans isWritten)

end Json

end DesignExport
