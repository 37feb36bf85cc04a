/-
# The files that are written

Generated code goes to files in one folder, and each is named for the component and for its
kind. Such a name holds nothing that parts a path and is no step of its own, so it is one
segment. The file stands in the folder itself, and it is refused only for its length or where
a folder has its name already.
-/

import DesignExport.CommandLine.Command
import DesignExport.Proofs.Code.BindingName
import DesignExport.Proofs.CommandLine.Session
import DesignExport.Proofs.Input.SanitizedText
import DesignExport.Proofs.Sheet.NameSource

namespace DesignExport.CommandLine

namespace Folder

variable {folder : Folder}

end Folder

/-! ## The names of the files -/

namespace Command

open Session

variable {α : Type}

/-! ## What the command for code does -/

/-- A text that a command reads: that of a file, with one kind of line break and without
injection vectors. -/
def Reads (world : World) (text : Text) : Prop :=
  ∃ path bytes raw, world.folder.entryAt path = .file bytes ∧ Text.decodeUtf8 bytes = .ok raw ∧
    text = Sanitizer.sanitize (Text.unifyLines raw)

/-- What the command for code does in a world: it shows something, or it writes the code of a
text that it reads to a file in an existing folder, named for the component. -/
inductive Converts (world : World) : Effect → Prop where
  | shown {effect : Effect} (isShown : effect.IsShown) : Converts world effect
  | written {text target : Text} {made : Folder} {base : List Text} (artifact : Artifact)
      (reads : Reads world text)
      (isMade : world.folder.makeFolder (Path.ofText target) = .ok made)
      (leads : made.place? (Path.ofText target) = some base)
      (isFolder : made.found base = .folder) :
      Converts world (.write (base ++ [ComponentName.ofText text ++ artifact.ending])
        (artifact.of (GeneratedCode.ofSheet (StyleSheet.ofText text))))

end Command

/-! ## What a name is fit for -/

end DesignExport.CommandLine
