/-
# Reading a written export

A design tool writes an export as blocks: a comment with a label and below it
the declarations of the layer, one on a line. Boilerplate labels and labels
without declarations stand among the layers. Reading such a text gives one
rule for every layer, with the layer's declarations, and nothing for the other
blocks, whatever their number and place.

The argument follows the scans: the label comments are exactly the matches of
the text, every block's lines are the gap behind its comment, and the lines of
a layer are read one by one. The scan for braced rules finds no brace.
-/

import DesignExport.Proofs.Sheet.BracedRules
import DesignExport.Proofs.Sheet.DeclarationLines
import DesignExport.Sheet.Reading

namespace DesignExport

/-! ## What is written -/

/-- One half of a declaration that can be written on a line: it is trimmed, not
empty, and holds no character and no mark that would end the declaration,
the line or a group, or begin or end a comment. -/
structure Text.IsLinePart (part : Text) : Prop where
  full : part ≠ []
  trimmed : Text.trim part = part
  clear : ∀ c ∈ part, c ≠ '\n' ∧ c ≠ ';' ∧ c ≠ '{' ∧ c ≠ '}'
  noOpening : Text.occurs "/*" part = false
  noClosing : Text.occurs "*/" part = false

instance (part : Text) : Decidable (Text.IsLinePart part) :=
  decidable_of_iff
    (part ≠ [] ∧ Text.trim part = part ∧
      (∀ c ∈ part, c ≠ '\n' ∧ c ≠ ';' ∧ c ≠ '{' ∧ c ≠ '}') ∧
      Text.occurs "/*" part = false ∧ Text.occurs "*/" part = false)
    ⟨fun ⟨full, trimmed, clear, noOpening, noClosing⟩ =>
      ⟨full, trimmed, clear, noOpening, noClosing⟩,
     fun part => ⟨part.full, part.trimmed, part.clear, part.noOpening, part.noClosing⟩⟩

namespace Declaration

/-- A declaration that can be written on a line of its own. -/
structure IsWritable (declaration : Declaration) : Prop where
  property : Text.IsLinePart declaration.property
  value : Text.IsLinePart declaration.value
  noColon : ':' ∉ declaration.property

instance (declaration : Declaration) : Decidable declaration.IsWritable :=
  decidable_of_iff
    (Text.IsLinePart declaration.property ∧ Text.IsLinePart declaration.value ∧
      ':' ∉ declaration.property)
    ⟨fun ⟨property, value, noColon⟩ => ⟨property, value, noColon⟩,
     fun writable => ⟨writable.property, writable.value, writable.noColon⟩⟩

/-- The line of a declaration. -/
def row (declaration : Declaration) : Text := declaration.text ++ ";"

end Declaration

/-- A block of an export. -/
inductive ExportBlock where
  /-- A layer that says something. -/
  | layer (label : Text) (declarations : List Declaration)
  /-- A block whose label is boilerplate. -/
  | noise (label : Text) (declarations : List Declaration)
  /-- A label with nothing below it. -/
  | labelOnly (label : Text)

namespace ExportBlock

/-- The label of a block. -/
def label : ExportBlock → Text
  | layer label _ | noise label _ | labelOnly label => label

/-- The declarations below the label. -/
def declarations : ExportBlock → List Declaration
  | layer _ declarations | noise _ declarations => declarations
  | labelOnly _ => []

/-- The lines of a block: the label in a comment, and its declarations. -/
def rows (block : ExportBlock) : List Text :=
  ("/* " ++ block.label ++ " */") :: block.declarations.map Declaration.row

/-- The written block, every line with its line break. -/
def text (block : ExportBlock) : Text := block.rows.flatMap (· ++ ['\n'])

/-- The written export. -/
def exportText (blocks : List ExportBlock) : Text := blocks.flatMap text

/-- What makes a block one of its kind: a layer has a label that means something
and at least one declaration, and boilerplate has a boilerplate label. -/
def FitsKind : ExportBlock → Prop
  | layer label declarations =>
    label ≠ [] ∧ Text.trim label = label ∧ Layer.isNoise label = false ∧ declarations ≠ []
  | noise label _ => Layer.isNoise label = true
  | labelOnly _ => True

/-- A block that a design tool can write: its label ends no comment and holds no
brace, and its declarations stand on lines of their own. -/
structure WellFormed (block : ExportBlock) : Prop where
  label_clear : ∀ c ∈ block.label, c ≠ '*' ∧ c ≠ '{' ∧ c ≠ '}'
  writable : ∀ declaration ∈ block.declarations, declaration.IsWritable
  fitsKind : block.FitsKind

instance (block : ExportBlock) : Decidable block.FitsKind :=
  match block with
  | layer label declarations =>
    inferInstanceAs (Decidable (label ≠ [] ∧ Text.trim label = label ∧
      Layer.isNoise label = false ∧ declarations ≠ []))
  | noise label _ => inferInstanceAs (Decidable (Layer.isNoise label = true))
  | labelOnly _ => inferInstanceAs (Decidable True)

instance (block : ExportBlock) : Decidable block.WellFormed :=
  decidable_of_iff
    ((∀ c ∈ block.label, c ≠ '*' ∧ c ≠ '{' ∧ c ≠ '}') ∧
      (∀ declaration ∈ block.declarations, declaration.IsWritable) ∧ block.FitsKind)
    ⟨fun ⟨label_clear, writable, fitsKind⟩ => ⟨label_clear, writable, fitsKind⟩,
     fun wellFormed => ⟨wellFormed.label_clear, wellFormed.writable, wellFormed.fitsKind⟩⟩

/-- The rule of a block; only a layer has one. -/
def rule? : ExportBlock → Option StyleRule
  | layer label declarations =>
    some
      { selector := '.' :: Layer.className label
        declarations := declarations
        layer := some label }
  | noise _ _ | labelOnly _ => none

end ExportBlock

/-! ## Lines of declarations -/

/-- No comment begins in one half of a declaration. -/
theorem Text.IsLinePart.not_isInfix {part : Text} (line : Text.IsLinePart part) :
    ¬ ['/', '*'] <:+: part := by
  intro within
  have occurs := (Text.occurs_iff_isInfix "/*" part).mpr within
  rw [line.noOpening] at occurs
  exact absurd occurs Bool.false_ne_true

namespace Declaration

variable {declaration : Declaration}

/-- The line of a declaration is no line of a comment or of a braced rule. -/
theorem IsWritable.fitsLine (writable : declaration.IsWritable) : declaration.FitsLine where
  contained :=
    { property_trimmed := writable.property.trimmed
      value_trimmed := writable.value.trimmed
      property_unclosed := fun within => (writable.property.clear _ within).2.2.2 rfl
      value_unclosed := fun within => (writable.value.clear _ within).2.2.2 rfl
      noColon := writable.noColon }
  layered :=
    { named := writable.property.full
      property_clear := ⟨fun within => (writable.property.clear _ within).1 rfl,
        fun within => (writable.property.clear _ within).2.2.1 rfl⟩
      value_clear := ⟨fun within => (writable.value.clear _ within).1 rfl,
        fun within => (writable.value.clear _ within).2.2.1 rfl⟩ }
  noComment := fun begins => writable.property.not_isInfix begins.isInfix

/-- A line holds no line break and no brace. -/
theorem row_clear (writable : declaration.IsWritable) :
    ∀ c ∈ declaration.row, c ≠ '\n' ∧ c ≠ '{' ∧ c ≠ '}' := by
  have separator : ∀ c ∈ (": " : Text), c ≠ '\n' ∧ c ≠ '{' ∧ c ≠ '}' := by decide
  have ending : ∀ c ∈ (";" : Text), c ≠ '\n' ∧ c ≠ '{' ∧ c ≠ '}' := by decide
  intro c within
  simp only [row, text, List.mem_append] at within
  rcases within with ((inProperty | inSeparator) | inValue) | inEnding
  · have clear := writable.property.clear c inProperty
    exact ⟨clear.1, clear.2.2⟩
  · exact separator c inSeparator
  · have clear := writable.value.clear c inValue
    exact ⟨clear.1, clear.2.2⟩
  · exact ending c inEnding

/-- No comment begins in a line. -/
theorem row_noOpening (writable : declaration.IsWritable) :
    ¬ ['/', '*'] <:+: declaration.row := by
  have named : ¬ ['/', '*'] <:+: declaration.property ++ (": " : Text) :=
    Text.not_pair_isInfix_append writable.property.not_isInfix (by decide) (Or.inr (by decide))
  have valued : ¬ ['/', '*'] <:+: declaration.text :=
    Text.not_pair_isInfix_append named writable.value.not_isInfix (Or.inl (by simp))
  exact Text.not_pair_isInfix_append valued (by decide) (Or.inr (by decide))

/-- A line has no blank at its ends. -/
theorem trim_row (writable : declaration.IsWritable) :
    Text.trim declaration.row = declaration.row := by
  have ending : Text.trim [';'] = [';'] := by decide
  have ends := Text.trim_append_of_trimmed writable.property.full writable.property.trimmed
    (List.cons_ne_nil _ _) ending ((": " : Text) ++ declaration.value)
  simpa [row, text] using ends

theorem row_ne_nil (declaration : Declaration) : declaration.row ≠ [] := by
  simp [row]

/-- The joined lines of declarations are read as the declarations they are. -/
theorem ofLayerBody_rows {declarations : List Declaration}
    (writable : ∀ declaration ∈ declarations, declaration.IsWritable) (full : declarations ≠ []) :
    ofLayerBody (Text.joinWith ['\n'] (declarations.map row)) = declarations := by
  have onLines : ∀ line ∈ declarations.map row, '\n' ∉ line := by
    intro line within
    obtain ⟨declaration, isMember, rfl⟩ := List.mem_map.mp within
    exact fun broken => (row_clear (writable declaration isMember) '\n' broken).1 rfl
  rw [OpenDeclaration.ofLayerBody_eq_readOn, Text.splitOn_joinWith onLines (by simpa using full)]
  have fit : ∀ declaration ∈ declarations, declaration.FitsLine := fun _ within =>
    (writable _ within).fitsLine
  exact readOn_lines (List.forall_mem_nil _) fit .nothing

/-- The joined lines of declarations have no blank at their ends. -/
theorem trim_joinWith_rows {declarations : List Declaration}
    (writable : ∀ declaration ∈ declarations, declaration.IsWritable) :
    Text.trim (Text.joinWith ['\n'] (declarations.map row)) =
      Text.joinWith ['\n'] (declarations.map row) :=
  Text.trim_joinWith _ (List.forall_mem_map.mpr fun declaration _ => declaration.row_ne_nil)
    (List.forall_mem_map.mpr fun _ within => trim_row (writable _ within))

end Declaration

/-! ## Label comments -/

namespace Layer

/-- A label comment begins with its opening mark. -/
theorem comment_eq_none {text : Text} (unopened : ¬ ['/', '*'] <+: text) :
    comment text = none := by
  unfold comment
  split
  · next rest =>
      exact absurd ⟨rest, rfl⟩ unopened
  · rfl

/-- A text without a star in comment marks is a label comment. -/
theorem comment_append {inside : Text} (full : inside ≠ []) (clear : '*' ∉ inside)
    (rest : Text) :
    comment ('/' :: '*' :: inside ++ '*' :: '/' :: rest) = some (inside, inside.length + 4) := by
  have noStar : ∀ c ∈ inside, (c != '*') = true := by
    simpa using fun c within => ne_of_mem_of_not_mem within clear
  have star : ('*' != '*') = false := rfl
  have taken := Text.takeWhile_append_cons noStar star ('/' :: rest)
  have left := Text.dropWhile_append_cons noStar star ('/' :: rest)
  obtain ⟨c, label, rfl⟩ := List.exists_cons_of_ne_nil full
  simp only [comment, List.cons_append] at taken left ⊢
  rw [taken, left]
  simp

end Layer

namespace ExportBlock

variable {block : ExportBlock}

/-- What the comment of a block holds between its marks. -/
def inside (block : ExportBlock) : Text := ' ' :: block.label ++ [' ']

/-- What stands between the comment of a block and the next one. -/
def lines (block : ExportBlock) : Text :=
  '\n' :: (block.declarations.map Declaration.row).flatMap (· ++ ['\n'])

theorem text_eq (block : ExportBlock) :
    block.text = '/' :: '*' :: block.inside ++ '*' :: '/' :: block.lines := by
  simp [text, rows, inside, lines]

/-- The lines of a block with declarations are the joined ones between two line breaks. -/
theorem lines_eq_joinWith (full : block.declarations ≠ []) :
    block.lines = ['\n'] ++
      Text.joinWith ['\n'] (block.declarations.map Declaration.row) ++ ['\n'] := by
  rw [lines, Text.flatMap_append_mark '\n' (by simpa using full)]
  rfl

/-- The lines of a block end with a line break, whether there are any or not. -/
theorem getLast?_lines (block : ExportBlock) : block.lines.getLast? = some '\n' := by
  by_cases empty : block.declarations = []
  · simp [lines, empty]
  · rw [lines_eq_joinWith empty, List.getLast?_concat]

/-- No comment begins in the lines of a block. -/
theorem skips_lines (wellFormed : block.WellFormed) (rest : Text) :
    Layer.comment.Skips block.lines rest := by
  have rowsClear : ¬ ['/', '*'] <:+:
      (block.declarations.map Declaration.row).flatMap (· ++ ['\n']) := by
    refine Text.not_pair_isInfix_flatMap ?_ (by decide) (by decide)
    intro row within
    obtain ⟨declaration, isMember, rfl⟩ := List.mem_map.mp within
    exact Declaration.row_noOpening (wellFormed.writable declaration isMember)
  have breakClear : ¬ ['/', '*'] <:+: ['\n'] := by decide
  have linesClear : ¬ ['/', '*'] <:+: block.lines :=
    Text.not_pair_isInfix_append breakClear rowsClear (Or.inl (by decide))
  refine Pattern.skips_of_not_pair_isInfix (fun _ => Layer.comment_eq_none) linesClear (Or.inl ?_)
  rw [getLast?_lines]
  decide

/-- The label comments of an export are the matches of its text, each with the
lines of its block behind it. -/
theorem pieces_exportText {blocks : List ExportBlock}
    (wellFormed : ∀ block ∈ blocks, block.WellFormed) :
    Layer.comment.pieces (exportText blocks) =
      ⟨[], blocks.map fun block => (block.inside, block.lines)⟩ := by
  induction blocks with
  | nil => rfl
  | cons block others ih =>
      have first := wellFormed block List.mem_cons_self
      have rest := ih fun later within => wellFormed later (List.mem_cons_of_mem _ within)
      have clear : '*' ∉ block.inside := by
        have inLabel : '*' ∉ block.label := fun within => (first.label_clear '*' within).1 rfl
        simp [inside, inLabel]
      have full : block.inside ≠ [] := by simp [inside]
      have hit := Layer.comment_append full clear (block.lines ++ exportText others)
      have shape : exportText (block :: others) =
          ('/' :: '*' :: block.inside ++ ['*', '/']) ++ (block.lines ++ exportText others) := by
        simp [exportText, text_eq]
      rw [shape, Pattern.pieces_append_of_match (by simp) (by simpa using hit),
        Pattern.pieces_append_of_skips (skips_lines first _), rest]
      simp

/-- The comment of a block gives back the trimmed label. -/
theorem trim_inside (block : ExportBlock) :
    Text.trim block.inside = Text.trim block.label := by
  have blank : ∀ c ∈ [' '], Text.isBlank c := by decide
  exact Text.stripOf_append Text.isBlank blank blank block.label

/-- The lines of a block with declarations, without the line breaks at the ends. -/
theorem trim_lines (wellFormed : block.WellFormed) (full : block.declarations ≠ []) :
    Text.trim block.lines =
      Text.joinWith ['\n'] (block.declarations.map Declaration.row) := by
  have blank : ∀ c ∈ ['\n'], Text.isBlank c := by decide
  rw [lines_eq_joinWith full]
  exact (Text.stripOf_append Text.isBlank blank blank _).trans
    (Declaration.trim_joinWith_rows wellFormed.writable)

/-- A boilerplate phrase has no blank at its ends, so that a label with one in it
still has it when it is trimmed. -/
theorem isNoise_trim {label : Text} (noise : Layer.isNoise label = true) :
    Layer.isNoise (Text.trim label) = true := by
  have ends : ∀ phrase ∈ Layer.noisePhrases,
      (∃ c ∈ phrase.head?, Text.isBlank c = false) ∧
        ∃ c ∈ phrase.getLast?, Text.isBlank c = false := by
    simp [Layer.noisePhrases, Text.isBlank]
  obtain ⟨phrase, isPhrase, occurs⟩ := List.any_eq_true.mp noise
  rw [Text.occurs_iff_isInfix] at occurs
  refine List.any_eq_true.mpr ⟨phrase, isPhrase, ?_⟩
  rw [Text.occurs_iff_isInfix]
  exact Text.isInfix_stripOf Text.isBlank (ends phrase isPhrase).1 (ends phrase isPhrase).2 occurs

/-- Reading a block's label and lines gives the rule of the block. -/
theorem ofPair?_bind_ofLayer? (wellFormed : block.WellFormed) :
    (Layer.ofPair? (block.inside, block.lines)).bind StyleRule.ofLayer? = block.rule? := by
  have fits := wellFormed.fitsKind
  cases block with
  | layer name declarations =>
      obtain ⟨full, trimmed, meaningful, some⟩ := fits
      have label : Text.trim (layer name declarations).inside = name :=
        (trim_inside _).trans trimmed
      have body := trim_lines wellFormed some
      have read := Declaration.ofLayerBody_rows wellFormed.writable some
      have bodyFull : Text.trim (layer name declarations).lines ≠ [] := by
        rw [body]
        exact Text.joinWith_ne_nil _ (mt List.map_eq_nil_iff.mp some)
          (List.forall_mem_map.mpr fun declaration _ => declaration.row_ne_nil)
      have found : Layer.ofPair? ((layer name declarations).inside,
          (layer name declarations).lines) =
            Option.some ⟨name, Text.trim (layer name declarations).lines⟩ := by
        simp [Layer.ofPair?, label, full, bodyFull, meaningful]
      obtain ⟨first, others, rfl⟩ := List.exists_cons_of_ne_nil some
      rw [found, Option.bind_some, StyleRule.ofLayer?, body, read]
      rfl
  | noise name declarations =>
      have isNoise : Layer.isNoise (Text.trim (noise name declarations).inside) = true := by
        rw [trim_inside]
        exact isNoise_trim fits
      simp [Layer.ofPair?, isNoise, rule?]
  | labelOnly name =>
      have body : Text.trim (labelOnly name).lines = [] := by
        have noLines : (labelOnly name).lines = ['\n'] := rfl
        rw [noLines]
        decide
      simp [Layer.ofPair?, body, rule?]

/-- A written export has no brace. -/
theorem not_mem_exportText {blocks : List ExportBlock}
    (wellFormed : ∀ block ∈ blocks, block.WellFormed) : '{' ∉ exportText blocks := by
  intro within
  obtain ⟨block, isBlock, inBlock⟩ := List.mem_flatMap.mp within
  obtain ⟨row, isRow, inRow⟩ := List.mem_flatMap.mp inBlock
  have clear : '{' ∉ row := by
    rcases List.mem_cons.mp isRow with rfl | isDeclaration
    · have inLabel : '{' ∉ block.label := fun within =>
        ((wellFormed block isBlock).label_clear '{' within).2.1 rfl
      simp [inLabel]
    · obtain ⟨declaration, isMember, rfl⟩ := List.mem_map.mp isDeclaration
      have writable := (wellFormed block isBlock).writable declaration isMember
      exact fun within => (Declaration.row_clear writable '{' within).2.1 rfl
  simp [clear] at inRow

end ExportBlock

open ExportBlock in
/-- A written export is read as exactly one rule for every layer, in order, with the
layer's own declarations; the other blocks add nothing and change nothing. -/
theorem rules_ofText_exportText {blocks : List ExportBlock}
    (wellFormed : ∀ block ∈ blocks, block.WellFormed) :
    (StyleSheet.ofText (exportText blocks)).rules = blocks.filterMap rule? := by
  have layers : StyleRule.ofLayers (exportText blocks) = blocks.filterMap rule? := by
    rw [StyleRule.ofLayers, Layer.ofText, pieces_exportText wellFormed, List.filterMap_map,
      List.filterMap_filterMap]
    exact List.filterMap_congr fun block within => ofPair?_bind_ofLayer? (wellFormed block within)
  have braced : Selector.rules (exportText blocks) = [] := by
    rw [Selector.rules, Selector.braced_of_not_mem (not_mem_exportText wellFormed),
      List.filterMap_nil]
  calc
    (StyleSheet.ofText (exportText blocks)).rules =
        StyleRule.ofLayers (exportText blocks) ++ Selector.rules (exportText blocks) := rfl
    _ = blocks.filterMap rule? := by rw [layers, braced, List.append_nil]

open ExportBlock in
/-- Two layers, one of them with a repeated declaration and one with a label of two
lines, among a blank label, a boilerplate block and a label with nothing below it. -/
theorem rules_ofText_exportText_two_layers :
    (StyleSheet.ofText (exportText
      [labelOnly " ",
       layer "Primary Button" [⟨"color", "#fff"⟩, ⟨"color", "#fff"⟩, ⟨"width", "*"⟩],
       noise "\tInside auto layout / x" [⟨"flex", "none"⟩],
       labelOnly "Frame 12",
       layer "Icon\n2" [⟨"box-shadow", "0px 1px 2px: a/b"⟩]])).rules =
      [⟨".primary-button", [⟨"color", "#fff"⟩, ⟨"color", "#fff"⟩, ⟨"width", "*"⟩],
        some "Primary Button"⟩,
       ⟨".icon-2", [⟨"box-shadow", "0px 1px 2px: a/b"⟩], some "Icon\n2"⟩] :=
  (rules_ofText_exportText (by decide)).trans (by decide)

end DesignExport
