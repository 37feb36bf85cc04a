/-
# Design tokens and layout

Colours, radii and type sizes of the rules are collected as design tokens. A
token's key tells its kind and the place of its declaration, so equal values
from different places are all kept. The layout of the sheet is decided by the
first declaration that speaks of one.
-/

import DesignExport.Sheet.Basic

namespace DesignExport.Token

/-- The kinds of token by property, and whether only a hexadecimal colour counts. -/
def kinds : List (Text × Text × Bool) :=
  [("color", "color", true),
   ("background", "bg", true),
   ("background-color", "bg", true),
   ("border-radius", "radius", false),
   ("font-size", "text", false),
   ("font-weight", "weight", false)]

/-- The kind of token that a declaration is. -/
def kind? (declaration : Declaration) : Option Text :=
  match kinds.find? fun row => row.1 == declaration.property with
  | some (_, kind, hexOnly) =>
    if hexOnly && !("#" : Text).isPrefixOf declaration.value then none else some kind
  | none => none

/-- The key of a token: its kind, then the places of its rule and declaration. -/
def key (kind : Text) (rule declaration : Nat) : Text :=
  kind ++ "-" ++ Text.ofNat rule ++ "-" ++ Text.ofNat declaration

/-- The tokens of one rule, given the rule's place. -/
def ofRule (rule : StyleRule) (place : Nat) : List (Text × Text) :=
  rule.declarations.zipIdx.filterMap fun numbered =>
    (kind? numbered.1).map fun kind => (key kind place numbered.2, numbered.1.value)

/-- The tokens of all rules, in the order of their declarations. -/
def ofRules (rules : List StyleRule) : Keyed Text Text :=
  Keyed.ofPairs (rules.zipIdx.flatMap fun numbered => ofRule numbered.1 numbered.2)

end DesignExport.Token

namespace DesignExport.Layout

/-- The layout that a declaration decides. -/
def ofDeclaration? (declaration : Declaration) : Option Layout :=
  if declaration.property == "display" && declaration.value == "flex" then some flexbox
  else if declaration.property == "display" && declaration.value == "grid" then some grid
  else if declaration.property == "position" && declaration.value == "absolute" then
    some absolute
  else none

/-- The layout of the first declaration that decides one; static otherwise. -/
def ofRules (rules : List StyleRule) : Layout :=
  ((StyleRule.allDeclarations rules).findSome? ofDeclaration?).getD static

end DesignExport.Layout
