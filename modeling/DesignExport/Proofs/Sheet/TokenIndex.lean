/-
# Tokens and their places

The tokens of a sheet are kept in a table of entries that could overwrite one another. They
never do: a key is read backwards as the number of a declaration, the number of its rule and a
kind, because the digits of a number hold no dash. So the table is the list of the entries as
they are made, and each entry leads back to one declaration.
-/

import DesignExport.Proofs.Number.Digits
import DesignExport.Proofs.Text
import DesignExport.Sheet.Token
import Mathlib.Data.List.Nodup

namespace DesignExport

namespace Keyed

variable {κ ν : Type} [DecidableEq κ]

/-- Pairs with different keys are entered as they come. -/
theorem foldl_put_of_nodup {table : Keyed κ ν} {pairs : List (κ × ν)}
    (distinct : ((table ++ pairs).map Prod.fst).Nodup) :
    pairs.foldl (fun table pair => put pair.1 pair.2 table) table = table ++ pairs := by
  induction pairs generalizing table with
  | nil => simp
  | cons pair rest ih =>
      have new : get? pair.1 table = none := by
        rw [get?_eq_none_iff]
        rw [List.map_append, List.map_cons, List.nodup_append] at distinct
        exact fun within => distinct.2.2 _ within _ List.mem_cons_self rfl
      have shape : table ++ pair :: rest = (table ++ [(pair.1, pair.2)]) ++ rest := by simp
      rw [shape] at distinct ⊢
      rw [List.foldl_cons, put_of_get?_eq_none new, ih distinct]

theorem ofPairs_of_nodup {pairs : List (κ × ν)} (distinct : (pairs.map Prod.fst).Nodup) :
    ofPairs pairs = pairs :=
  @foldl_put_of_nodup κ ν _ [] pairs distinct

/-- Where no key comes twice, the entry that is found under a key is the one with that key. -/
theorem find?_eq_some_iff {κ ν : Type} [BEq κ] [LawfulBEq κ] {table : Keyed κ ν}
    (distinct : (table.map Prod.fst).Nodup) {key : κ} {entry : κ × ν} :
    table.find? (fun entry => entry.1 == key) = some entry ↔ entry ∈ table ∧ entry.1 = key := by
  constructor
  · intro found
    exact ⟨List.mem_of_find?_eq_some found, by simpa using List.find?_some found⟩
  · rintro ⟨isEntry, rfl⟩
    cases found : table.find? fun other => other.1 == entry.1 with
    | none => simpa using List.find?_eq_none.mp found entry isEntry
    | some other =>
        have sameKey : other.1 = entry.1 := by simpa using List.find?_some found
        rw [List.inj_on_of_nodup_map distinct (List.mem_of_find?_eq_some found) isEntry sameKey]

end Keyed

namespace Token

/-! ## Keys -/

theorem not_mem_ofNat (n : Nat) : '-' ∉ Text.ofNat n := fun within => by
  simpa using Text.isDigit_of_mem_ofNat within

theorem ofNat_inj {m n : Nat} (same : Text.ofNat m = Text.ofNat n) : m = n := by
  rw [← Numeral.value_ofNat m, same, Numeral.value_ofNat]

/-- What stands behind the last dash, and what stands in front of it. -/
theorem append_dash_inj {front other digits others : Text} (clear : '-' ∉ digits)
    (otherClear : '-' ∉ others) (same : front ++ '-' :: digits = other ++ '-' :: others) :
    front = other ∧ digits = others := by
  have cut (front : Text) {digits : Text} (clear : '-' ∉ digits) :
      Text.cut '-' (front ++ '-' :: digits).reverse = (digits.reverse, some front.reverse) := by
    rw [List.reverse_append, List.reverse_cons, List.append_assoc, List.singleton_append]
    exact Text.cut_append_mark (by simpa using clear) _
  have halves := cut front clear
  rw [same, cut other otherClear, Prod.mk.injEq, Option.some.injEq, List.reverse_inj,
    List.reverse_inj] at halves
  exact ⟨halves.2.symm, halves.1.symm⟩

/-- A key tells its kind and both numbers, whatever text the kind is. -/
theorem key_inj {kind other : Text} {rule declaration otherRule otherDeclaration : Nat}
    (same : key kind rule declaration = key other otherRule otherDeclaration) :
    kind = other ∧ rule = otherRule ∧ declaration = otherDeclaration := by
  have shape (kind : Text) (rule declaration : Nat) :
      key kind rule declaration =
        (kind ++ '-' :: Text.ofNat rule) ++ '-' :: Text.ofNat declaration := by
    have dash : ("-" : Text) = ['-'] := rfl
    simp [key, dash]
  rw [shape, shape] at same
  obtain ⟨fronts, declarations⟩ := append_dash_inj (not_mem_ofNat _) (not_mem_ofNat _) same
  obtain ⟨kinds, rules⟩ := append_dash_inj (not_mem_ofNat _) (not_mem_ofNat _) fronts
  exact ⟨kinds, ofNat_inj rules, ofNat_inj declarations⟩

/-! ## Kinds -/

/-- A declaration is a token of this kind: a row of the table names its property, and where
the row wants a hexadecimal colour, the value begins like one. -/
def IsKindOf (kind : Text) (declaration : Declaration) : Prop :=
  ∃ hexOnly, (declaration.property, kind, hexOnly) ∈ kinds ∧
    (hexOnly = true → ['#'] <+: declaration.value)

/-- No property stands in two rows. -/
theorem nodup_kinds : (kinds.map Prod.fst).Nodup := by decide +kernel

theorem kind?_eq_some_iff {declaration : Declaration} {kind : Text} :
    kind? declaration = some kind ↔ IsKindOf kind declaration := by
  have hash : ("#" : Text) = ['#'] := rfl
  simp only [kind?, hash]
  constructor
  · intro found
    split at found
    · next property row hexOnly isRow =>
        obtain ⟨isKind, rfl⟩ := (Keyed.find?_eq_some_iff nodup_kinds).mp isRow
        split at found
        · simp at found
        · next fits =>
            obtain rfl := Option.some.inj found
            exact ⟨hexOnly, isKind, fun hex => by simpa [hex] using fits⟩
    · simp at found
  · rintro ⟨hexOnly, isRow, fits⟩
    rw [(Keyed.find?_eq_some_iff nodup_kinds).mpr ⟨isRow, rfl⟩]
    simpa using fits

end Token

/-! ## The index -/

/-- A token at its place: its kind, its declaration, the number of its rule, and the number
of the declaration in the rule. -/
structure PlacedToken where
  kind : Text
  rule : Nat
  place : Nat
  declaration : Declaration

namespace PlacedToken

/-- The entry of a token. -/
def entry (token : PlacedToken) : Text × Text :=
  (Token.key token.kind token.rule token.place, token.declaration.value)

/-- The rules hold the declaration at the token's place, and it is a token of the kind. -/
structure IsIn (rules : List StyleRule) (token : PlacedToken) : Prop where
  isPlaced : ∃ rule, rules[token.rule]? = some rule ∧
    rule.declarations[token.place]? = some token.declaration
  isKind : Token.IsKindOf token.kind token.declaration

/-- A token of an earlier rule, or an earlier one of the same rule. -/
def IsBefore (token later : PlacedToken) : Prop :=
  token.rule < later.rule ∨ token.rule = later.rule ∧ token.place < later.place

/-- The tokens of one rule, given the rule's number. -/
def ofRule (rule : StyleRule) (number : Nat) : List PlacedToken :=
  rule.declarations.zipIdx.filterMap fun numbered =>
    (Token.kind? numbered.1).map fun kind => ⟨kind, number, numbered.2, numbered.1⟩

/-- The tokens of all rules. -/
def ofRules (rules : List StyleRule) : List PlacedToken :=
  rules.zipIdx.flatMap fun numbered => ofRule numbered.1 numbered.2

theorem mem_ofRule {rule : StyleRule} {number : Nat} {token : PlacedToken} :
    token ∈ ofRule rule number ↔
      token.rule = number ∧ rule.declarations[token.place]? = some token.declaration ∧
        Token.IsKindOf token.kind token.declaration := by
  obtain ⟨kind, ruleNumber, place, declaration⟩ := token
  simp only [ofRule, List.mem_filterMap, Option.map_eq_some_iff, PlacedToken.mk.injEq, Prod.exists,
    List.mem_zipIdx_iff_getElem?, Token.kind?_eq_some_iff]
  constructor
  · rintro ⟨_, _, isDeclaration, _, isKind, rfl, rfl, rfl, rfl⟩
    exact ⟨rfl, isDeclaration, isKind⟩
  · rintro ⟨rfl, isDeclaration, isKind⟩
    exact ⟨declaration, place, isDeclaration, kind, isKind, rfl, rfl, rfl, rfl⟩

theorem mem_ofRules {rules : List StyleRule} {token : PlacedToken} :
    token ∈ ofRules rules ↔ token.IsIn rules := by
  simp only [ofRules, List.mem_flatMap, Prod.exists, List.mem_zipIdx_iff_getElem?, mem_ofRule]
  constructor
  · rintro ⟨rule, _, isRule, rfl, isDeclaration, isKind⟩
    exact ⟨⟨rule, isRule, isDeclaration⟩, isKind⟩
  · rintro ⟨⟨rule, isRule, isDeclaration⟩, isKind⟩
    exact ⟨rule, token.rule, isRule, rfl, isDeclaration, isKind⟩

theorem pairwise_zipIdx {α : Type} (items : List α) :
    items.zipIdx.Pairwise fun earlier later => earlier.2 < later.2 := by
  rw [← List.pairwise_map, List.zipIdx_map_snd]
  exact List.pairwise_lt_range'

/-- The tokens come by rule and then by declaration. -/
theorem pairwise_ofRules (rules : List StyleRule) : (ofRules rules).Pairwise IsBefore := by
  rw [ofRules, List.pairwise_flatMap]
  constructor
  · intro numbered _
    rw [ofRule, List.pairwise_filterMap]
    refine (pairwise_zipIdx _).imp fun {first second} earlier token isToken later isLater => ?_
    obtain ⟨_, -, rfl⟩ := Option.map_eq_some_iff.mp isToken
    obtain ⟨_, -, rfl⟩ := Option.map_eq_some_iff.mp isLater
    exact Or.inr ⟨rfl, earlier⟩
  · refine (pairwise_zipIdx rules).imp fun {first second} earlier token isToken later isLater => ?_
    rw [mem_ofRule] at isToken isLater
    exact Or.inl (by rw [isToken.1, isLater.1]; exact earlier)

/-- Tokens at different places have different keys. -/
theorem nodup_keys (rules : List StyleRule) :
    (((ofRules rules).map entry).map Prod.fst).Nodup := by
  rw [List.map_map, List.Nodup, List.pairwise_map]
  refine (pairwise_ofRules rules).imp fun {token later} before same => ?_
  obtain ⟨-, sameRule, samePlace⟩ := Token.key_inj same
  rcases before with earlier | ⟨-, earlier⟩
  · omega
  · omega

theorem entries_eq (rules : List StyleRule) : Token.ofRules rules = (ofRules rules).map entry := by
  have pairs : (rules.zipIdx.flatMap fun numbered => Token.ofRule numbered.1 numbered.2) =
      (ofRules rules).map entry := by
    rw [ofRules, List.map_flatMap]
    refine List.flatMap_congr fun numbered _ => ?_
    rw [Token.ofRule, ofRule, List.map_filterMap]
    refine List.filterMap_congr fun inner _ => ?_
    rw [Option.map_map]
    rfl
  rw [Token.ofRules, pairs, Keyed.ofPairs_of_nodup (nodup_keys rules)]

end PlacedToken

/-- The tokens of any rules are an index without collisions: they are the entries of exactly
the declarations that are tokens, one for each, by rule and then by declaration. No key comes
twice, and a key can be made of one kind and one pair of numbers only, those of the
declaration whose value stands under it. -/
theorem Token.ofRules_index (rules : List StyleRule) :
    ∃ tokens : List PlacedToken, Token.ofRules rules = tokens.map PlacedToken.entry ∧
      (∀ token, token ∈ tokens ↔ token.IsIn rules) ∧ tokens.Pairwise PlacedToken.IsBefore ∧
      ((Token.ofRules rules).map Prod.fst).Nodup ∧
      ∀ entry ∈ Token.ofRules rules, ∃ token : PlacedToken, token.IsIn rules ∧
        entry = token.entry ∧ ∀ kind rule place, entry.1 = Token.key kind rule place →
          kind = token.kind ∧ rule = token.rule ∧ place = token.place := by
  have entries := PlacedToken.entries_eq rules
  refine ⟨PlacedToken.ofRules rules, entries, fun token => PlacedToken.mem_ofRules,
    PlacedToken.pairwise_ofRules rules, ?_, fun entry isEntry => ?_⟩
  · rw [entries]
    exact PlacedToken.nodup_keys rules
  · rw [entries] at isEntry
    obtain ⟨token, isToken, rfl⟩ := List.mem_map.mp isEntry
    exact ⟨token, PlacedToken.mem_ofRules.mp isToken, rfl,
      fun kind rule place same => Token.key_inj same.symm⟩

/-- Two properties that share a kind have keys of their own. -/
example : (Token.ofRules [⟨".a", [⟨"background", "#fff"⟩, ⟨"background-color", "#fff"⟩], none⟩]).map
    Prod.fst = ["bg-0-0", "bg-0-1"] := by
  decide +kernel

end DesignExport
