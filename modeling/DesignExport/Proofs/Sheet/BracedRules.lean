/-
# Reading braced rules

The scan for braced rules reads the text once and remembers what it has read
since the last rule. This module says what the scan makes of one written rule,
and that the scan of a text goes on behind a closed part of it as if the rest
stood alone. A closed part ends with a closing brace and holds no comment, so
cleaning removes whatever of it is left in front of the next selector.
-/

import DesignExport.Proofs.Scan
import DesignExport.Proofs.Text
import DesignExport.Sheet.Selector

namespace DesignExport.Selector

/-! ## One written rule -/

/-- Text without an opening brace is kept for the next head. -/
theorem bracedFrom_none_append {front : Text} (clear : '{' ∉ front) (head rest : Text) :
    bracedFrom head none (front ++ rest) = bracedFrom (front.reverse ++ head) none rest := by
  induction front generalizing head with
  | nil => rfl
  | cons c more ih =>
      obtain ⟨differ, clear⟩ := not_or.mp (List.mem_cons.not.mp clear)
      simp [bracedFrom, Ne.symm differ, ih clear]

/-- Text without a closing brace is kept for the body. -/
theorem bracedFrom_some_append {front : Text} (clear : '}' ∉ front) (head body rest : Text) :
    bracedFrom head (some body) (front ++ rest) =
      bracedFrom head (some (front.reverse ++ body)) rest := by
  induction front generalizing body with
  | nil => rfl
  | cons c more ih =>
      obtain ⟨differ, clear⟩ := not_or.mp (List.mem_cons.not.mp clear)
      simp [bracedFrom, Ne.symm differ, ih clear]

/-- A text without an opening brace has no braced rules. -/
theorem braced_of_not_mem {text : Text} (clear : '{' ∉ text) : braced text = [] := by
  have read := bracedFrom_none_append clear [] []
  rw [List.append_nil] at read
  rw [braced, read]
  rfl

/-- A selector and a body in braces are read as one pair, with what was read before
the selector in front of it. -/
theorem bracedFrom_rule {selector body : Text} (selectorClear : '{' ∉ selector)
    (selectorFull : selector ≠ []) (bodyClear : '}' ∉ body) (bodyFull : body ≠ [])
    (head rest : Text) :
    bracedFrom head none (selector ++ '{' :: body ++ '}' :: rest) =
      (head.reverse ++ selector, body) :: bracedFrom [] none rest := by
  have opened : bracedFrom (selector.reverse ++ head) none ('{' :: (body ++ '}' :: rest)) =
      bracedFrom (selector.reverse ++ head) (some []) (body ++ '}' :: rest) := by
    simp [bracedFrom, selectorFull]
  have closed : bracedFrom (selector.reverse ++ head) (some (body.reverse ++ []))
      ('}' :: rest) = (head.reverse ++ selector, body) :: bracedFrom [] none rest := by
    simp [bracedFrom, bodyFull]
  rw [List.append_assoc, List.cons_append, bracedFrom_none_append selectorClear, opened,
    bracedFrom_some_append bodyClear, closed]

/-! ## Reading on -/

/-- What the scan remembers: the head in reverse and, when a brace is open, the
body in reverse. -/
abbrev Memory := Text × Option Text

/-- What the scan remembers behind one more character. -/
def Memory.next : Memory → Char → Memory
  | (head, none), c =>
    if c != '{' then (c :: head, none)
    else if head.isEmpty then ([], none) else (head, some [])
  | (head, some body), c =>
    if c != '}' then (head, some (c :: body))
    else if body.isEmpty then (['}'], none) else ([], none)

/-- The rule that one more character ends. -/
def Memory.ended : Memory → Char → List (Text × Text)
  | (_, none), _ => []
  | (head, some body), c =>
    if c != '}' || body.isEmpty then [] else [(head.reverse, body.reverse)]

/-- One character is read: it may end a rule, and the scan goes on from what it
remembers then. -/
theorem bracedFrom_cons (memory : Memory) (c : Char) (rest : Text) :
    bracedFrom memory.1 memory.2 (c :: rest) =
      memory.ended c ++ bracedFrom (memory.next c).1 (memory.next c).2 rest := by
  obtain ⟨head, state⟩ := memory
  cases state with
  | none =>
      simp only [bracedFrom, Memory.ended, Memory.next, List.nil_append]
      split
      · rfl
      · split <;> rfl
  | some body =>
      simp only [bracedFrom, Memory.ended, Memory.next]
      by_cases closes : c = '}'
      · cases body with
        | nil => simp [closes]
        | cons d more => simp [closes]
      · simp [closes]

/-- The scan of a text goes on behind any part of it from what it remembers. -/
theorem bracedFrom_append (memory : Memory) (front rest : Text) :
    bracedFrom memory.1 memory.2 (front ++ rest) =
      bracedFrom memory.1 memory.2 front ++
        bracedFrom (front.foldl Memory.next memory).1 (front.foldl Memory.next memory).2 rest := by
  induction front generalizing memory with
  | nil =>
      obtain ⟨head, state⟩ := memory
      cases state <;> rfl
  | cons c more ih =>
      rw [List.cons_append, bracedFrom_cons, ih, bracedFrom_cons, List.foldl_cons,
        List.append_assoc]

/-- Outside braces the scan remembers the end of what it has read. -/
def Memory.Remembers (memory : Memory) (read : Text) : Prop :=
  memory.2 = none → memory.1.reverse <:+ read

theorem Memory.Remembers.next {memory : Memory} {read : Text} (remembers : memory.Remembers read)
    (c : Char) : (memory.next c).Remembers (read ++ [c]) := by
  intro outside
  obtain ⟨head, state⟩ := memory
  cases state with
  | none =>
      have known : head.reverse ++ [c] <:+ read ++ [c] :=
        List.suffix_append_self_iff.mpr (remembers rfl)
      by_cases opens : c = '{'
      · by_cases empty : head = []
        · simp [Memory.next, opens, empty]
        · simp [Memory.next, opens, empty] at outside
      · simpa [Memory.next, opens] using known
  | some body =>
      by_cases closes : c = '}'
      · by_cases empty : body = []
        · simp [Memory.next, closes, empty]
        · simp [Memory.next, closes, empty]
      · simp [Memory.next, closes] at outside

theorem Memory.Remembers.foldl {memory : Memory} {read : Text} (remembers : memory.Remembers read)
    (front : Text) : (front.foldl Memory.next memory).Remembers (read ++ front) := by
  induction front generalizing memory read with
  | nil => simpa using remembers
  | cons c more ih => simpa using ih (remembers.next c)

/-! ## Closed texts -/

/-- A text is closed when it is empty or ends with a closing brace, and no comment
begins in it. -/
structure IsClosedOff (text : Text) : Prop where
  ending : text = [] ∨ text.getLast? = some '}'
  noComment : ¬ ['/', '*'] <:+: text

instance (text : Text) : Decidable (IsClosedOff text) :=
  decidable_of_iff
    ((text = [] ∨ text.getLast? = some '}') ∧ ¬ Text.occurs ['/', '*'] text = true)
    ⟨fun ⟨ending, noComment⟩ => ⟨ending, mt (Text.occurs_iff_isInfix _ _).mpr noComment⟩,
     fun ⟨ending, noComment⟩ => ⟨ending, mt (Text.occurs_iff_isInfix _ _).mp noComment⟩⟩

/-- Behind a closed text the scan is outside braces, and what it remembers is closed. -/
theorem IsClosedOff.exists_memory {front : Text} (closed : IsClosedOff front) :
    ∃ head, front.foldl Memory.next ([], none) = (head, none) ∧ IsClosedOff head.reverse := by
  rcases closed.ending with rfl | ending
  · exact ⟨[], rfl, closed⟩
  · obtain ⟨before, rfl⟩ := List.getLast?_eq_some_iff.mp ending
    have start : Memory.Remembers ([], none) [] := fun _ => List.nil_suffix
    have remembers := start.foldl before
    rw [List.foldl_concat]
    generalize before.foldl Memory.next ([], none) = memory at remembers
    obtain ⟨head, state⟩ := memory
    cases state with
    | none =>
        refine ⟨'}' :: head, by simp [Memory.next], Or.inr (by simp), ?_⟩
        have isSuffix : ('}' :: head).reverse <:+ before ++ ['}'] := by
          rw [List.reverse_cons]
          exact List.suffix_append_self_iff.mpr (remembers rfl)
        exact fun within => closed.noComment (within.trans isSuffix.isInfix)
    | some body =>
        cases body with
        | nil => exact ⟨['}'], by simp [Memory.next], Or.inr rfl, by decide⟩
        | cons c more => exact ⟨[], by simp [Memory.next], Or.inl rfl, by decide⟩

/-! ## Cleaning -/

/-- A comment begins with its opening mark. -/
theorem comment_eq_none {text : Text} (unopened : ¬ ['/', '*'] <+: text) :
    comment text = none := by
  unfold comment
  split
  · next rest => exact absurd ⟨rest, rfl⟩ unopened
  · rfl

/-- A comment in front is cleaned away. -/
theorem clean_comment_append {inside : Text} (clear : '*' ∉ inside) (raw : Text) :
    clean ('/' :: '*' :: inside ++ ['*', '/'] ++ raw) = clean raw := by
  have found : Text.seek (("*/" : Text).isPrefixOf) (inside ++ '*' :: '/' :: raw) =
      some inside.length := by
    induction inside with
    | nil => rfl
    | cons c more ih =>
        obtain ⟨differ, clear⟩ := not_or.mp (List.mem_cons.not.mp clear)
        have misses : ("*/" : Text).isPrefixOf (c :: (more ++ '*' :: '/' :: raw)) = false := by
          simp [List.isPrefixOf, differ]
        rw [List.cons_append, Text.seek, misses, ih clear]
        rfl
  have hit : comment ('/' :: '*' :: inside ++ ['*', '/'] ++ raw) =
      some ((), ('/' :: '*' :: inside ++ ['*', '/']).length) := by
    simp only [List.append_assoc, List.cons_append, List.nil_append, comment, found,
      Option.map_some]
    simp
  rw [clean, Pattern.erase_append_of_match (by simp) hit, clean]

/-- A closed text in front of a selector is cleaned away. -/
theorem clean_append_of_closed {front : Text} (closed : IsClosedOff front) (raw : Text) :
    clean (front ++ raw) = clean raw := by
  rcases closed.ending with rfl | ending
  · rfl
  · have skips : comment.Skips front raw :=
      Pattern.skips_of_not_pair_isInfix (fun _ => comment_eq_none) closed.noComment
        (Or.inl (by simp [ending]))
    rw [clean, Pattern.erase_append_of_skips skips, Text.afterLast_append_of_stop ending rfl, clean]

/-- A text in which no comment begins and no declaration or block ends is only
trimmed. -/
theorem clean_eq_trim {raw : Text} (noComment : ¬ ['/', '*'] <:+: raw)
    (unended : ∀ c ∈ raw, c ≠ ';' ∧ c ≠ '}') : clean raw = Text.trim raw := by
  have skips : comment.Skips raw [] :=
    Pattern.skips_of_not_pair_isInfix (fun _ => comment_eq_none) noComment (Or.inr (by simp))
  have kept : comment.erase raw = raw := by
    simpa [Pattern.erase] using Pattern.erase_append_of_skips skips
  have whole : Text.afterLast (fun c => c == ';' || c == '}') raw = raw :=
    Text.afterLast_eq_self fun c within => by simpa using unended c within
  rw [clean, kept, whole]

/-- A closed text in front of a selector does not change its rule. -/
theorem ruleOf?_append_of_closed {front : Text} (closed : IsClosedOff front) (raw body : Text) :
    ruleOf? (front ++ raw, body) = ruleOf? (raw, body) := by
  simp only [ruleOf?, clean_append_of_closed closed]

/-- A closed text behind the remembered head changes no rule, once something that is
no opening brace has been read after it. -/
theorem filterMap_bracedFrom_append {behind : Text} (closed : IsClosedOff behind.reverse)
    (memory : Memory) (full : memory.1 ≠ []) (rest : Text) :
    (bracedFrom (memory.1 ++ behind) memory.2 rest).filterMap ruleOf? =
      (bracedFrom memory.1 memory.2 rest).filterMap ruleOf? := by
  induction rest generalizing memory with
  | nil =>
      obtain ⟨head, state⟩ := memory
      cases state <;> rfl
  | cons c more ih =>
      obtain ⟨head, state⟩ := memory
      have notEmpty : head ≠ [] := full
      cases state with
      | none =>
          by_cases opens : c = '{'
          · simpa [bracedFrom, opens, notEmpty] using ih (head, some []) full
          · simpa [bracedFrom, opens] using ih (c :: head, none) (List.cons_ne_nil c head)
      | some body =>
          by_cases closes : c = '}'
          · by_cases empty : body = []
            · simp [bracedFrom, closes, empty]
            · have sameRule : ruleOf? ((head ++ behind).reverse, body.reverse) =
                  ruleOf? (head.reverse, body.reverse) := by
                rw [List.reverse_append]
                exact ruleOf?_append_of_closed closed head.reverse body.reverse
              simp only [bracedFrom, closes, bne_self_eq_false, Bool.false_eq_true, if_false,
                List.isEmpty_iff, empty, List.filterMap_cons, sameRule]
          · simpa [bracedFrom, closes] using ih (head, some (c :: body)) full

/-- Behind a closed text, the rules of a text that does not begin with an opening
brace are those that it has alone. -/
theorem filterMap_bracedFrom_of_closed {head : Text} (closed : IsClosedOff head.reverse)
    {rest : Text} (unopened : rest.head? ≠ some '{') :
    (bracedFrom head none rest).filterMap ruleOf? = rules rest := by
  cases rest with
  | nil => rfl
  | cons c more =>
      have differ : c ≠ '{' := by simpa using unopened
      have read := filterMap_bracedFrom_append closed ([c], none) (List.cons_ne_nil c []) more
      simpa [rules, braced, bracedFrom, differ] using read

end DesignExport.Selector
