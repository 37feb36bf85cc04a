/-
# The outline of a page

Every selector in front of a brace is a guess at one page element. The outline
lists the guesses by depth, shallow ones first, and in scan order within one
depth. Tags are guessed from parts of the selector.
-/

import DesignExport.Sheet.Selector

namespace DesignExport.Outline

/-- The texts in front of the opening braces, without the empty ones. -/
def rawSelectors (text : Text) : List Text :=
  (Text.splitOn '{' text).dropLast.filter fun raw => !raw.isEmpty

/-- The guess of a selector. -/
def guessOf (selector : Text) : ElementGuess :=
  let elements := Text.words selector
  ⟨selector, elements.length, elements⟩

/-- The guesses in scan order. -/
def scan (text : Text) : List ElementGuess :=
  (((rawSelectors text).map Selector.clean).filter Selector.isPlain).map guessOf

/-- The guesses by depth; guesses of one depth stay in scan order. -/
def ofText (text : Text) : List ElementGuess :=
  (scan text).mergeSort fun first second => decide (first.depth ≤ second.depth)

/-- Parts of a selector and the tag that they stand for. The first row with a
part that occurs decides. -/
def tagRows : List (List Text × Text) :=
  [(["button", "btn"], "button"),
   (["header"], "header"),
   (["footer"], "footer"),
   (["nav"], "nav"),
   (["main"], "main"),
   (["section"], "section"),
   (["article"], "article"),
   (["aside"], "aside"),
   (["h1", "title"], "h1"),
   (["h2"], "h2"),
   (["h3"], "h3"),
   (["p", "text"], "p"),
   (["span"], "span"),
   (["img", "image"], "img"),
   (["a", "link"], "a"),
   (["ul", "list"], "ul"),
   (["li", "item"], "li")]

/-- The tag guessed for a selector. -/
def tagOf (selector : Text) : Text :=
  match tagRows.find? fun row => Text.occursAny row.1 selector with
  | some row => row.2
  | none => "div"

/-- The class of an element whose selector names none. -/
def defaultClass : Text := "figma-element"

/-- A character of a class name in a selector. -/
def isClassChar (c : Char) : Bool := c.isAlphanum || c == '-' || c == '_'

/-- A class in a selector, behind its dot. -/
def classMark : Pattern Text
  | '.' :: rest =>
    let name := rest.takeWhile isClassChar
    if name.isEmpty then none else some (name, name.length + 1)
  | _ => none

/-- The first class of a selector. -/
def classOf (selector : Text) : Text := (classMark.first? selector).getD defaultClass

/-- One element, with its selector in a comment. -/
def renderGuess (guess : ElementGuess) : Text :=
  let tag := tagOf guess.selector
  "<" ++ tag ++ " class=\"" ++ classOf guess.selector ++ "\">\n      <!-- " ++
    guess.selector ++ " -->\n    </" ++ tag ++ ">"

/-- The elements of an outline, one after the other. -/
def render (guesses : List ElementGuess) : Text :=
  Text.joinWith "\n        " (guesses.map renderGuess)

end DesignExport.Outline
