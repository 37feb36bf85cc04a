/-
# Paths and the files at them

A command runs in a folder with files and further folders. Paths are taken
relative to that folder; empty segments and single dots are left out of them.
Names have at most 255 bytes.
-/

import DesignExport.Keyed
import DesignExport.Text.Quoted
import DesignExport.Text.Utf8

namespace DesignExport.CommandLine

/-- A path as a list of segments, from the root of all files or from here. -/
structure Path where
  rooted : Bool := false
  segments : List Text := []
deriving DecidableEq

namespace Path

/-- The path that a text shows. -/
def ofText (text : Text) : Path :=
  { rooted := text.head? == some '/'
    segments :=
      (Text.splitOn '/' text).filter fun segment => !segment.isEmpty && segment != ['.'] }

/-- A path as text; the path without segments is a single dot. -/
def text (path : Path) : Text :=
  let joined := Text.joinWith ['/'] path.segments
  if path.rooted then '/' :: joined
  else if path.segments.isEmpty then ['.']
  else joined

/-- The path of an entry of a folder. -/
def child (path : Path) (name : Text) : Path :=
  { path with segments := path.segments ++ [name] }

/-- The path of the folder that holds an entry. -/
def parent (path : Path) : Path := { path with segments := path.segments.dropLast }

/-- A path and all paths above it, the shortest first. -/
def steps (path : Path) : List Path :=
  (List.range path.segments.length).map fun count =>
    { path with segments := path.segments.take (count + 1) }

end Path

/-- What is found at a place. -/
inductive Entry where
  | nothing
  | folder
  | file (bytes : List UInt8)
deriving DecidableEq

/-- Files and folders by their places, which are segments from the folder in
which a command runs. Every folder on the way to a file is there. A place above
that folder begins with steps upwards, and a place under the root of all files
begins with a slash. -/
structure Folder where
  files : Keyed (List Text) (List UInt8) := []
  folders : List (List Text) := []

/-- Why an entry cannot be made. -/
inductive EntryError where
  | nameTooLong (path : Path)
  | notAFolder (path : Path)
  | isAFolder (path : Path)
  | alreadyThere (path : Path)
deriving DecidableEq

/-- The message of an error. -/
def EntryError.message : EntryError → Text
  | nameTooLong path => "[Errno 36] File name too long: " ++ Text.quoted path.text
  | notAFolder path => "[Errno 20] Not a directory: " ++ Text.quoted path.text
  | isAFolder path => "[Errno 21] Is a directory: " ++ Text.quoted path.text
  | alreadyThere path => "[Errno 17] File exists: " ++ Text.quoted path.text

namespace Folder

/-- A step upwards. -/
def upwards : Text := ".."

/-- A step that stays where it is. -/
def stay : Text := "."

/-- The root of all files. -/
def root : Text := "/"

/-- What is found at a place. The root and all folders above are there. -/
def found (folder : Folder) (place : List Text) : Entry :=
  match Keyed.get? place folder.files with
  | some bytes => .file bytes
  | none =>
    if place == [root] || place.all (· == upwards) || folder.folders.contains place ||
        folder.files.any fun file => place.isPrefixOf file.1 then .folder
    else .nothing

/-- The place one step above a folder. -/
def above (place : List Text) : List Text :=
  if place == [root] then place
  else if place.all (· == upwards) then place ++ [upwards]
  else place.dropLast

/-- The place that one segment leads to from a place. -/
def next (place : List Text) (segment : Text) : List Text :=
  if segment.isEmpty || segment == stay then place
  else if segment == upwards then above place
  else place ++ [segment]

/-- The place that segments lead to from a place; only folders are passed through. -/
def walk (folder : Folder) (place : List Text) : List Text → Option (List Text)
  | [] => some place
  | segment :: rest =>
    if folder.found place == .folder then walk folder (next place segment) rest else none

/-- Where paths begin. -/
def start (rooted : Bool) : List Text := if rooted then [root] else []

/-- The place that a path leads to, if it can be walked to its last step. -/
def place? (folder : Folder) (path : Path) : Option (List Text) :=
  folder.walk (start path.rooted) path.segments

/-- What is found where a walk ends. -/
def reached (folder : Folder) (place : Option (List Text)) : Entry :=
  match place with
  | some place => folder.found place
  | none => .nothing

/-- What is found at a path. -/
def entry (folder : Folder) (path : Path) : Entry := folder.reached (folder.place? path)

/-- What is found at the path that a text shows, walked segment by segment as it
is written. The empty text shows none. -/
def entryAt (folder : Folder) (text : Text) : Entry :=
  if text.isEmpty then .nothing
  else folder.reached (folder.walk (start (text.head? == some '/')) (Text.splitOn '/' text))

/-- The greatest length of a name in bytes. -/
def longestName : Nat := 255

/-- The greatest length of a path in bytes. -/
def longestPath : Nat := 4095

/-- How many bytes a text has. -/
def byteCount (text : Text) : Nat := (Text.utf8 text).length

/-- Whether the last segment of a path, or the path as a whole, is too long. -/
def isTooLong (path : Path) : Bool :=
  decide (longestName < byteCount (path.segments.getLast?.getD [])) ||
    decide (longestPath < byteCount path.text)

/-- The error of a file on the way to a folder: it is named as it is where it
was found while folders were made, and else makes the whole path wrong. -/
def blocked (folder : Folder) (path step : Path) : EntryError :=
  if step == path || folder.entry step.parent != .folder then .alreadyThere step
  else .notAFolder path

/-- Make one folder on the way to a path. -/
def makeStep (folder : Folder) (path : Path) (made : Folder) (step : Path) :
    Except EntryError Folder :=
  match made.entry step with
  | .folder => .ok made
  | .file _ => .error (folder.blocked path step)
  | .nothing =>
    if isTooLong step then
      .error (.nameTooLong (if folder.entry step.parent == .folder then path else step))
    else match made.place? step with
      | some place => .ok { made with folders := place :: made.folders }
      | none => .error (.notAFolder path)

/-- Make a folder and all folders above it that are missing. -/
def makeFolder (folder : Folder) (path : Path) : Except EntryError Folder :=
  if longestPath < byteCount path.text then .error (.nameTooLong path)
  else path.steps.foldlM (folder.makeStep path) folder

/-- The place of a file that is to be written in an existing folder. -/
def placeForFile (folder : Folder) (path : Path) : Except EntryError (List Text) :=
  if isTooLong path then .error (.nameTooLong path)
  else match folder.place? path with
    | none => .error (.notAFolder path)
    | some place =>
      if folder.found place == .folder then .error (.isAFolder path) else .ok place

end Folder

end DesignExport.CommandLine
