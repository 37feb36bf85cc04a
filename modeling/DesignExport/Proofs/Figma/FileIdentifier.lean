/-
# Identifiers of design files

A path names a file where a file, design or prototype segment stands directly in front of an
ASCII letter or digit. The identifier that is extracted is a whole run of letters and digits
behind such a segment, and one is extracted exactly from the paths that name a file. That the
path of a design file holds a segment does not make it name one.
-/

import DesignExport.Figma.Url
import DesignExport.Proofs.Scan
import DesignExport.Proofs.Text

namespace DesignExport.Url

/-- A run of ASCII letters and digits that what follows does not go on with. -/
structure IsIdentifier (identifier rest : Text) : Prop where
  full : identifier ≠ []
  alphanum : ∀ c ∈ identifier, c.isAlphanum = true
  whole : ∀ c ∈ rest.head?, c.isAlphanum = false

/-- A segment for files stands directly in front of an ASCII letter or digit. -/
def NamesFile (path : Text) : Prop :=
  ∃ segment ∈ fileSegments, ∃ c : Char, c.isAlphanum = true ∧ segment ++ [c] <:+: path

/-- No segment for files begins with another one. -/
theorem eq_of_isPrefix_fileSegments :
    ∀ first ∈ fileSegments, ∀ second ∈ fileSegments, first <+: second → first = second := by
  decide

/-- Of the segments for files, a text begins with one at most. -/
theorem find?_fileSegments {segment : Text} (isSegment : segment ∈ fileSegments) (rest : Text) :
    fileSegments.find? (fun other => other.isPrefixOf (segment ++ rest)) = some segment := by
  cases found : fileSegments.find? fun other => other.isPrefixOf (segment ++ rest) with
  | none =>
      rw [List.find?_eq_none] at found
      exact absurd (List.isPrefixOf_iff_prefix.mpr (List.prefix_append segment rest))
        (found segment isSegment)
  | some other =>
      have begins := List.find?_some found
      rw [List.isPrefixOf_iff_prefix] at begins
      have isOther := List.mem_of_find?_eq_some found
      rcases List.prefix_or_prefix_of_prefix begins (List.prefix_append segment rest) with
        shorter | longer
      · rw [eq_of_isPrefix_fileSegments _ isOther _ isSegment shorter]
      · rw [eq_of_isPrefix_fileSegments _ isSegment _ isOther longer]

/-- Behind a segment for files, the letters and digits that follow are the identifier. -/
theorem fileMark_segment {segment : Text} (isSegment : segment ∈ fileSegments)
    {identifier rest : Text} (isIdentifier : IsIdentifier identifier rest) :
    fileMark (segment ++ (identifier ++ rest)) =
      some (identifier, segment.length + identifier.length) := by
  have run : (identifier ++ rest).takeWhile Char.isAlphanum = identifier :=
    Text.takeWhile_append_of_head? isIdentifier.alphanum isIdentifier.whole
  have full : identifier.isEmpty = false := by simpa using isIdentifier.full
  rw [fileMark, find?_fileSegments isSegment]
  dsimp only
  rw [List.drop_left, run, full]
  rfl

/-- What is taken for an identifier is one, and stands behind a segment for files. -/
theorem exists_of_fileMark {text identifier : Text} {covered : Nat}
    (isMark : fileMark text = some (identifier, covered)) :
    ∃ segment ∈ fileSegments, ∃ rest, text = segment ++ (identifier ++ rest) ∧
      IsIdentifier identifier rest := by
  rw [fileMark] at isMark
  split at isMark
  · next segment found =>
      have begins := List.find?_some found
      rw [List.isPrefixOf_iff_prefix] at begins
      obtain ⟨behind, rfl⟩ := begins
      rw [List.drop_left] at isMark
      dsimp only at isMark
      split at isMark
      · cases isMark
      · next full =>
          obtain ⟨rfl, -⟩ := Prod.mk.inj (Option.some.inj isMark)
          refine ⟨segment, List.mem_of_find?_eq_some found,
            behind.dropWhile Char.isAlphanum, ?_, ?_, ?_, ?_⟩
          · rw [List.takeWhile_append_dropWhile]
          · simpa using full
          · exact fun c within => List.mem_takeWhile_imp within
          · exact fun c isHead => Text.eq_false_of_head?_dropWhile isHead
  · cases isMark

/-- An extracted identifier stands in the path behind a segment for files. -/
theorem exists_of_fileId? {url : Url} {identifier : Text}
    (isId : url.fileId? = some identifier) :
    ∃ segment ∈ fileSegments, ∃ rest, segment ++ (identifier ++ rest) <:+ url.path ∧
      IsIdentifier identifier rest := by
  obtain ⟨later, covered, isSuffix, isMark⟩ :=
    Pattern.exists_of_mem_all (List.mem_of_mem_head? isId)
  obtain ⟨segment, isSegment, rest, rfl, isIdentifier⟩ := exists_of_fileMark isMark
  exact ⟨segment, isSegment, rest, isSuffix, isIdentifier⟩

/-- An identifier is extracted exactly from the paths that name a file. -/
theorem exists_fileId?_iff {url : Url} :
    (∃ identifier, url.fileId? = some identifier) ↔ NamesFile url.path := by
  constructor
  · rintro ⟨identifier, isId⟩
    obtain ⟨segment, isSegment, rest, isSuffix, isIdentifier⟩ := exists_of_fileId? isId
    obtain ⟨c, more, rfl⟩ := List.exists_cons_of_ne_nil isIdentifier.full
    refine ⟨segment, isSegment, c, isIdentifier.alphanum c List.mem_cons_self, ?_⟩
    have begins : segment ++ [c] <+: segment ++ (c :: more ++ rest) :=
      ⟨more ++ rest, by simp⟩
    exact begins.isInfix.trans isSuffix.isInfix
  · rintro ⟨segment, isSegment, c, alphanum, before, behind, whole⟩
    have isIdentifier : IsIdentifier (c :: behind.takeWhile Char.isAlphanum)
        (behind.dropWhile Char.isAlphanum) := by
      refine ⟨List.cons_ne_nil _ _, ?_, fun d isHead => Text.eq_false_of_head?_dropWhile isHead⟩
      exact List.forall_mem_cons.mpr ⟨alphanum, fun d within => List.mem_takeWhile_imp within⟩
    have isMark := fileMark_segment isSegment isIdentifier
    obtain ⟨-, -, found, -, -, -, isFound, -⟩ :=
      Pattern.exists_mem_all_of_match before (by simp) isMark
    have path : before ++ (segment ++ (c :: behind.takeWhile Char.isAlphanum ++
        behind.dropWhile Char.isAlphanum)) = url.path := by
      rw [← whole, List.cons_append, List.takeWhile_append_dropWhile]
      simp
    rw [path] at isFound
    exact Option.isSome_iff_exists.mp (List.isSome_head?.mpr (List.ne_nil_of_mem isFound))

end DesignExport.Url
