/-
# Authorities that are refused

The authority of a URL may hold brackets only in pairs, around an address of version 6 or of
a version to come, and no character that stands for a separator. A text is read as a URL
exactly when the authority in it is well formed in this sense; there is no other way for the
reading to fail.
-/

import DesignExport.Figma.Url
import DesignExport.Proofs.JoinedText

namespace DesignExport

namespace Address

/-! ## Numeric addresses -/

/-- The first of some groups is empty, in front of a gap, or a group of its own. -/
theorem of_areGroups_cons {first : Text} {more : List Text}
    (areGroups : areGroups (first :: more) = true) : first = [] ∨ isGroup first = true := by
  rw [Address.areGroups] at areGroups
  split at areGroups
  · rw [Bool.and_eq_true, List.all_cons, Bool.and_eq_true] at areGroups
    exact .inr areGroups.2.1
  · simp only [Bool.and_eq_true, List.take_succ_cons, isSide, Bool.or_eq_true, beq_iff_eq,
      List.cons.injEq, List.all_cons] at areGroups
    rcases areGroups.1.1.2 with ⟨empty, -⟩ | ⟨isGroup, -⟩
    · exact .inl empty
    · exact .inr isGroup

/-- The groups of a text with two colons begin with what stands in front of the first. -/
theorem exists_groups?_eq {first : Text} (clear : ':' ∉ first) {rest : Text}
    (within : ':' ∈ rest) {parts : List Text}
    (isParts : groups? (first ++ ':' :: rest) = some parts) : ∃ more, parts = first :: more := by
  obtain ⟨second, later, rfl, secondClear⟩ := List.eq_append_cons_of_mem within
  rw [groups?, Text.splitOn_append_cons clear, Text.splitOn_append_cons secondClear] at isParts
  split at isParts
  · split at isParts
    · split at isParts
      · obtain rfl := Option.some.inj isParts
        obtain ⟨third, others, pieces⟩ := List.exists_cons_of_ne_nil (Text.splitOn_ne_nil ':' later)
        rw [pieces]
        exact ⟨_, rfl⟩
      · cases isParts
    · obtain rfl := Option.some.inj isParts
      exact ⟨_, rfl⟩
  · obtain rfl := Option.some.inj isParts
    exact ⟨_, rfl⟩

theorem isPrefix_of_dropZone? {text address : Text} (dropped : dropZone? text = some address) :
    address <+: text := by
  rw [dropZone?] at dropped
  rcases Text.cut_cases '%' text with ⟨-, cut⟩ | ⟨before, zone, whole, -, cut⟩
  · rw [cut] at dropped
    obtain rfl := Option.some.inj dropped
    exact List.prefix_rfl
  · rw [cut] at dropped
    dsimp only at dropped
    split at dropped
    · cases dropped
    · obtain rfl := Option.some.inj dropped
      exact ⟨'%' :: zone, whole.symm⟩

/-- An address of version 6 begins with a colon or with a group in front of one. -/
theorem exists_of_isVersion6 {host : Text} (isVersion6 : isVersion6 host = true) :
    ∃ first rest, host = first ++ ':' :: rest ∧ (first = [] ∨ isGroup first = true) := by
  rw [Address.isVersion6] at isVersion6
  split at isVersion6
  · cases isVersion6
  · next address dropped =>
      obtain ⟨zone, rfl⟩ := isPrefix_of_dropZone? dropped
      obtain ⟨many, isVersion6⟩ := (Bool.and_eq_true _ _).mp isVersion6
      have many : 3 ≤ (Text.splitOn ':' address).length := of_decide_eq_true many
      split at isVersion6
      · cases isVersion6
      · next parts isParts =>
          have areGroups := ((Bool.and_eq_true _ _).mp isVersion6).2
          rcases Text.cut_cases ':' address with ⟨clear, -⟩ | ⟨first, rest, rfl, clear, -⟩
          · rw [Text.splitOn_of_not_mem clear] at many
            simp at many
          · have within : ':' ∈ rest := by
              by_contra restClear
              rw [Text.splitOn_append_cons clear, Text.splitOn_of_not_mem restClear] at many
              simp at many
            obtain ⟨more, rfl⟩ := exists_groups?_eq clear within isParts
            exact ⟨first, rest ++ zone, by simp, of_areGroups_cons areGroups⟩

/-- No address is of both versions. -/
theorem isVersion4_eq_false {host : Text} (isVersion6 : isVersion6 host = true) :
    isVersion4 host = false := by
  obtain ⟨first, rest, rfl, -⟩ := exists_of_isVersion6 isVersion6
  by_contra isVersion4
  rw [Bool.not_eq_false, Address.isVersion4, Bool.and_eq_true, List.all_eq_true] at isVersion4
  have digits : ∀ part ∈ Text.splitOn '.' (first ++ ':' :: rest), ∀ c ∈ part, c ≠ ':' := by
    rintro part isPart _ within rfl
    have isOctet := isVersion4.2 part isPart
    simp only [Address.isOctet, Bool.and_eq_true, List.all_eq_true] at isOctet
    exact absurd (isOctet.1.1.1.2 ':' within) (by decide)
  have inMark : ∀ c ∈ ['.'], c ≠ ':' := by decide
  have clear := Text.forall_mem_joinWith inMark digits
  rw [Text.joinWith_splitOn] at clear
  exact clear ':' (by simp) rfl

end Address

namespace Url

/-! ## Authorities -/

/-- The text stands behind the first opening bracket, up to the next closing one or the end. -/
def IsBracketed (authority host : Text) : Prop :=
  ∃ before behind, authority = before ++ '[' :: (host ++ behind) ∧ '[' ∉ before ∧ ']' ∉ host ∧
    ∀ c ∈ behind.head?, c = ']'

/-- An address of a version to come: a letter, the version in hexadecimal digits, and something
behind a dot. -/
def IsFutureAddress (host : Text) : Prop :=
  ∃ version rest, host = 'v' :: (version ++ '.' :: rest) ∧ version ≠ [] ∧
    (∀ c ∈ version, Address.isHexDigit c = true) ∧ rest ≠ []

/-- The authority of the URL that a text shows. -/
def authorityOf (text : Text) : Text := (cutAuthority (cutScheme (prepared text)).2).1

/-- An authority has both brackets or none, addresses between them, and no character that
stands for a separator. -/
structure IsWellFormed (authority : Text) : Prop where
  paired : '[' ∈ authority ↔ ']' ∈ authority
  address : ∀ host, IsBracketed authority host →
    IsFutureAddress host ∨ Address.isVersion6 host = true
  plain : ∀ c ∈ authority, c.toNat ∉ separatorForms

theorem isBracketed_iff {authority host : Text} :
    IsBracketed authority host ↔ '[' ∈ authority ∧ bracketed authority = host := by
  constructor
  · rintro ⟨before, behind, rfl, clear, hostClear, ends⟩
    refine ⟨by simp, ?_⟩
    have front : ∀ c ∈ before, (c != '[') = true := by
      intro c within
      simpa using fun same : c = '[' => clear (same ▸ within)
    have inside : ∀ c ∈ host, (c != ']') = true := by
      intro c within
      simpa using fun same : c = ']' => hostClear (same ▸ within)
    rw [bracketed, Text.dropWhile_append_cons front (by decide), List.drop_one, List.tail_cons]
    apply Text.takeWhile_append_of_head? inside
    intro c isHead
    simp [ends c isHead]
  · rintro ⟨within, rfl⟩
    obtain ⟨before, behind, rfl, clear⟩ := List.eq_append_cons_of_mem within
    have front : ∀ c ∈ before, (c != '[') = true := by
      intro c within
      simpa using fun same : c = '[' => clear (same ▸ within)
    rw [bracketed, Text.dropWhile_append_cons front (by decide), List.drop_one, List.tail_cons]
    refine ⟨before, behind.dropWhile (· != ']'), ?_, clear, ?_, ?_⟩
    · rw [List.takeWhile_append_dropWhile]
    · intro inside
      simpa using List.mem_takeWhile_imp inside
    · intro c isHead
      simpa using Text.eq_false_of_head?_dropWhile isHead

/-- A host that begins with the letter for versions to come is accepted only as one of them. -/
theorem checkBracketed_cons_eq_ok_iff (rest : Text) :
    checkBracketed ('v' :: rest) = .ok () ↔ IsFutureAddress ('v' :: rest) := by
  have marked : ("v" : Text).isPrefixOf ('v' :: rest) = true := by simp
  rw [checkBracketed, if_pos marked, List.drop_one, List.tail_cons]
  constructor
  · intro accepted
    dsimp only at accepted
    split at accepted
    · next digit digits c more version left =>
        have isVersion : ∀ d ∈ digit :: digits, Address.isHexDigit d = true := by
          rw [← version]
          exact fun d within => List.mem_takeWhile_imp within
        refine ⟨digit :: digits, c :: more, ?_, by simp, isVersion, by simp⟩
        rw [← version, ← left, List.takeWhile_append_dropWhile]
    · cases accepted
  · rintro ⟨version, more, whole, versionFull, isVersion, moreFull⟩
    obtain rfl := (List.cons.inj whole).2
    rw [Text.takeWhile_append_cons isVersion (by decide),
      Text.dropWhile_append_cons isVersion (by decide)]
    obtain ⟨digit, digits, rfl⟩ := List.exists_cons_of_ne_nil versionFull
    obtain ⟨c, later, rfl⟩ := List.exists_cons_of_ne_nil moreFull
    rfl

/-- What is accepted in brackets: addresses of a version to come, and of version 6. -/
theorem checkBracketed_eq_ok_iff {host : Text} :
    checkBracketed host = .ok () ↔ IsFutureAddress host ∨ Address.isVersion6 host = true := by
  by_cases marked : host.head? = some 'v'
  · obtain ⟨rest, rfl⟩ := List.head?_eq_some_iff.mp marked
    have otherVersion : Address.isVersion6 ('v' :: rest) = false := by
      by_contra isVersion6
      obtain ⟨first, behind, whole, begins⟩ :=
        Address.exists_of_isVersion6 (eq_true_of_ne_false isVersion6)
      cases first with
      | nil => exact absurd (List.cons.inj whole).1 (by decide)
      | cons c more =>
          obtain rfl := (List.cons.inj whole).1
          have isGroup := begins.resolve_left (by simp)
          simp only [Address.isGroup, Bool.and_eq_true, List.all_cons] at isGroup
          exact absurd isGroup.2.1 (by decide)
    rw [checkBracketed_cons_eq_ok_iff, otherVersion]
    simp
  · have notFuture : ¬ IsFutureAddress host := by
      rintro ⟨version, rest, rfl, -⟩
      exact marked rfl
    have unmarked : ¬ ("v" : Text).isPrefixOf host = true := by
      rw [List.isPrefixOf_iff_prefix]
      rintro ⟨rest, rfl⟩
      exact marked rfl
    rw [checkBracketed, if_neg unmarked]
    cases isVersion6 : Address.isVersion6 host with
    | true => simp [Address.isVersion4_eq_false isVersion6]
    | false =>
        split
        · simp [notFuture]
        · simp [notFuture]

/-- The check of what stands in brackets, where there are any. -/
def checkBrackets (authority : Text) : Except UrlError Unit :=
  if authority.contains '[' then checkBracketed (bracketed authority) else .ok ()

theorem checkBrackets_eq_ok_iff {authority : Text} :
    checkBrackets authority = .ok () ↔
      ∀ host, IsBracketed authority host →
        IsFutureAddress host ∨ Address.isVersion6 host = true := by
  rw [checkBrackets]
  split
  · next opened =>
      rw [checkBracketed_eq_ok_iff]
      constructor
      · intro accepted host isBracketed
        rwa [← (isBracketed_iff.mp isBracketed).2]
      · intro accepted
        exact accepted _ (isBracketed_iff.mpr ⟨List.contains_iff_mem.mp opened, rfl⟩)
  · next closed =>
      rw [List.contains_iff_mem] at closed
      apply iff_of_true rfl
      intro host isBracketed
      exact absurd (isBracketed_iff.mp isBracketed).1 closed

/-- Where brackets are paired, an authority is refused for what stands in them, and after that
for the forms of separators. -/
theorem checkAuthority_of_paired {authority : Text}
    (paired : '[' ∈ authority ↔ ']' ∈ authority) :
    checkAuthority authority =
      match checkBrackets authority with
      | .error error => .error error
      | .ok () =>
        if authority.any fun c => separatorForms.contains c.toNat then
          .error (.hiddenSeparator authority)
        else .ok () := by
  have same : (authority.contains '[' != authority.contains ']') = false := by
    rwa [bne_eq_false_iff_eq, Bool.eq_iff_iff, List.contains_iff_mem, List.contains_iff_mem]
  rw [checkAuthority, if_neg (Bool.eq_false_iff.mp same), checkBrackets]
  cases authority.contains '[' with
  | false => rfl
  | true => cases checkBracketed (bracketed authority) <;> rfl

theorem checkAuthority_of_unpaired {authority : Text}
    (unpaired : ¬ ('[' ∈ authority ↔ ']' ∈ authority)) :
    checkAuthority authority = .error .unpairedBracket := by
  have differ : (authority.contains '[' != authority.contains ']') = true := by
    rwa [bne_iff_ne, ne_eq, Bool.eq_iff_iff, List.contains_iff_mem, List.contains_iff_mem]
  rw [checkAuthority, if_pos differ]
  rfl

/-- The checks of an authority succeed exactly where it is well formed. -/
theorem checkAuthority_eq_ok_iff {authority : Text} :
    checkAuthority authority = .ok () ↔ IsWellFormed authority := by
  by_cases paired : '[' ∈ authority ↔ ']' ∈ authority
  · rw [checkAuthority_of_paired paired]
    cases checked : checkBrackets authority with
    | error error =>
        apply iff_of_false nofun
        intro wellFormed
        rw [checkBrackets_eq_ok_iff.mpr wellFormed.address] at checked
        cases checked
    | ok =>
        have addresses := checkBrackets_eq_ok_iff.mp checked
        have plain : (authority.any fun c => separatorForms.contains c.toNat) = true ↔
            ¬ ∀ c ∈ authority, c.toNat ∉ separatorForms := by
          simp
        dsimp only
        split
        · next hidden =>
            exact iff_of_false nofun fun wellFormed => plain.mp hidden wellFormed.plain
        · next clear =>
            exact iff_of_true rfl ⟨paired, addresses, not_not.mp (mt plain.mpr clear)⟩
  · rw [checkAuthority_of_unpaired paired]
    exact iff_of_false nofun fun wellFormed => paired wellFormed.paired

/-- A text is read as a URL exactly when its authority is well formed. -/
theorem exists_parse_iff {text : Text} :
    (∃ url, parse text = .ok url) ↔ IsWellFormed (authorityOf text) := by
  rw [← checkAuthority_eq_ok_iff, parse]
  dsimp only
  rw [← authorityOf]
  cases checkAuthority (authorityOf text) with
  | error error => exact iff_of_false nofun nofun
  | ok => exact iff_of_true ⟨_, rfl⟩ rfl

/-- Whether a text points to a design file is said exactly where it is read as a URL. -/
theorem exists_validate_iff {text : Text} :
    (∃ isFile, validate text = .ok isFile) ↔ IsWellFormed (authorityOf text) := by
  rw [← exists_parse_iff, validate]
  cases text with
  | nil => exact iff_of_true ⟨false, rfl⟩ ⟨_, rfl⟩
  | cons c rest =>
      rw [if_neg (by simp)]
      cases parse (c :: rest) with
      | error error => exact iff_of_false nofun nofun
      | ok url => exact iff_of_true ⟨url.isFigmaFile, rfl⟩ ⟨url, rfl⟩

end Url

end DesignExport
