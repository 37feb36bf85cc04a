/-
# Artifacts

The kinds of generated code that can be shown or written, each with a name and
the ending of its files.
-/

import DesignExport.Code.Basic

namespace DesignExport.CommandLine

/-- The kinds of artifact. -/
inductive Artifact where
  | jsx
  | css
  | html
  | tailwind
deriving DecidableEq

namespace Artifact

/-- All kinds, in the order in which they are shown. -/
def all : List Artifact := [jsx, css, html, tailwind]

/-- The name of a kind. -/
def name : Artifact → Text
  | jsx => "jsx"
  | css => "css"
  | html => "html"
  | tailwind => "tailwind"

/-- The ending of the files of a kind. -/
def ending : Artifact → Text
  | jsx => ".tsx"
  | css => ".css"
  | html => ".html"
  | tailwind => ".tailwind.txt"

/-- The artifact of a kind. -/
def of (code : GeneratedCode) : Artifact → Text
  | jsx => code.jsx
  | css => code.css
  | html => code.html
  | tailwind => code.classes

/-- The word for all kinds together. -/
def everything : Text := "all"

/-- The words that choose artifacts. -/
def choices : List Text := all.map name ++ [everything]

/-- The artifacts that a word chooses. -/
def chosen? (word : Text) : Option (List Artifact) :=
  if word == everything then some all
  else (all.find? fun artifact => artifact.name == word).map fun artifact => [artifact]

end Artifact

end DesignExport.CommandLine
