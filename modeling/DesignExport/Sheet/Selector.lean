/-
# Selectors and braced rules

The scan for braced rules takes everything in front of a brace, so it also
takes comments, finished declarations and closing braces that stand ahead of
the selector. Cleaning removes them. A rule is kept when its selector names a
class, an identifier or a pseudo-element.
-/

import DesignExport.Scan
import DesignExport.Sheet.Declarations

namespace DesignExport.Selector

/-- A comment from its opening to the nearest closing mark. -/
def comment : Pattern Unit
  | '/' :: '*' :: rest =>
    (Text.seek (("*/" : Text).isPrefixOf) rest).map fun inside => ((), inside + 4)
  | _ => none

/-- The selector at the end of the text that stands in front of a brace. -/
def clean (raw : Text) : Text :=
  Text.trim (Text.afterLast (fun c => c == ';' || c == '}') (comment.erase raw))

/-- Read on for braced rules, with what was read last in reverse: the text since
the last rule, and behind an opening brace the body. An opening brace without
text in front is passed over. A closing brace behind an opening one ends no
rule and begins the text of the next. -/
def bracedFrom (head : Text) : Option Text → Text → List (Text × Text)
  | _, [] => []
  | none, c :: rest =>
    if c != '{' then bracedFrom (c :: head) none rest
    else if head.isEmpty then bracedFrom [] none rest
    else bracedFrom head (some []) rest
  | some body, c :: rest =>
    if c != '}' then bracedFrom head (some (c :: body)) rest
    else if body.isEmpty then bracedFrom ['}'] none rest
    else (head.reverse, body.reverse) :: bracedFrom [] none rest

/-- Each text up to an opening brace with the body up to the next closing brace;
neither is empty, and the body may hold opening braces. -/
def braced (text : Text) : List (Text × Text) := bracedFrom [] none text

/-- A cleaned selector that neither is empty nor begins an at-rule. -/
def isPlain (selector : Text) : Bool := !selector.isEmpty && !("@" : Text).isPrefixOf selector

/-- Whether a selector names a class, an identifier or a pseudo-element. -/
def isSpecific (selector : Text) : Bool := Text.occursAny [".", "#", "::"] selector

/-- The rule of a selector in front of a brace and the body behind it. -/
def ruleOf? (pair : Text × Text) : Option StyleRule :=
  let selector := clean pair.1
  if isPlain selector && isSpecific selector then
    some { selector := selector, declarations := Declaration.ofRuleBody (Text.trim pair.2) }
  else none

/-- The braced rules of a text, in order. -/
def rules (text : Text) : List StyleRule := (braced text).filterMap ruleOf?

end DesignExport.Selector
