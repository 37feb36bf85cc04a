/-
# Arguments

Arguments are options and operands. A long option takes its value from behind
an equals sign or from the next argument; one-letter options may be written
together. Two dashes end the options. Of an option that is given twice the
last value counts.
-/

import DesignExport.Keyed
import DesignExport.Text.Quoted
import DesignExport.Text.Similarity

namespace DesignExport.CommandLine

/-- What an option does: take a value, or stand for one. -/
inductive OptionKind where
  | takesValue
  | means (value : Text)
deriving DecidableEq

/-- An option: how it is written, what it sets, and how. -/
structure Flag where
  name : Text
  key : Text
  kind : OptionKind
deriving DecidableEq

/-- How a command is used: its path, the pattern of its arguments, and its options. -/
structure Usage where
  path : Text
  pattern : Text
  flags : List Flag
deriving DecidableEq

/-- Why arguments are refused. -/
inductive UsageError where
  | noSuchOption (name : Text) (close : List Text)
  | needsValue (name : Text)
  | takesNoValue (name : Text)
  | missingCommand
  | noSuchCommand (name : Text) (close : List Text)
  | missingOperand (name : Text)
  | extraOperands (given : List Text)
  | notAChoice (name given : Text) (choices : List Text)
  | notAnInteger (name given : Text)
  | noSuchFile (name given : Text)
  | folderForFile (name given : Text)
  | fileForFolder (name given : Text)
deriving DecidableEq

namespace UsageError

/-- The words in front of the reason why a value is refused. -/
def invalid (name : Text) : Text := "Invalid value for '" ++ name ++ "': "

/-- The question whether a close name was meant. -/
def meant : List Text → Text
  | [] => []
  | [name] => " Did you mean " ++ Text.quoted name ++ "?"
  | names => " (Did you mean one of: " ++ Text.joinWith ", " (names.map Text.quoted) ++ "?)"

/-- The message of a refusal. -/
def message : UsageError → Text
  | noSuchOption name close => "No such option " ++ Text.quoted name ++ "." ++ meant close
  | needsValue name => "Option " ++ Text.quoted name ++ " requires an argument."
  | takesNoValue name => "Option " ++ Text.quoted name ++ " does not take a value."
  | missingCommand => "Missing command."
  | noSuchCommand name close => "No such command " ++ Text.quoted name ++ "." ++ meant close
  | missingOperand name => "Missing argument '" ++ name ++ "'."
  | extraOperands given =>
    "Got unexpected extra argument" ++ (if given.length = 1 then [] else ['s']) ++ " (" ++
      Text.joinWith [' '] given ++ ")"
  | notAChoice name given choices =>
    invalid name ++ Text.quoted given ++ " is not one of " ++
      Text.joinWith ", " (choices.map Text.quoted) ++ "."
  | notAnInteger name given => invalid name ++ Text.quoted given ++ " is not a valid integer."
  | noSuchFile name given => invalid name ++ "File " ++ Text.quoted given ++ " does not exist."
  | folderForFile name given =>
    invalid name ++ "File " ++ Text.quoted given ++ " is a directory."
  | fileForFolder name given =>
    invalid name ++ "Directory " ++ Text.quoted given ++ " is a file."

end UsageError

namespace Usage

/-- The line that shows how a command is used. -/
def line (usage : Usage) : Text := "Usage: " ++ usage.path ++ " " ++ usage.pattern

/-- The lines that tell how a command is used and how to learn more. -/
def advice (usage : Usage) : List Text :=
  [usage.line, "Try '" ++ usage.path ++ " --help' for help.", []]

/-- What is shown when arguments are refused. The refusal of an option's value
stands alone. -/
def explain (usage : Usage) (error : UsageError) : Text :=
  let refusal : List Text := ["Error: " ++ error.message]
  match error with
  | .needsValue _ | .takesNoValue _ => Text.lines refusal
  | _ => Text.lines (usage.advice ++ refusal)

/-- The options with long names. -/
def longFlags (usage : Usage) : List Flag :=
  usage.flags.filter fun flag => decide (2 < flag.name.length)

/-- The long option of a name. -/
def long? (usage : Usage) (name : Text) : Option Flag :=
  usage.longFlags.find? fun flag => flag.name == name

/-- The refusal of a long option that there is not. -/
def unknownLong (usage : Usage) (name : Text) : UsageError :=
  .noSuchOption name (Text.closeWords name (usage.longFlags.map Flag.name))

/-- The one-letter option of a letter. -/
def short? (usage : Usage) (letter : Char) : Option Flag :=
  usage.flags.find? fun flag => flag.name == ['-', letter]

end Usage

/-- What arguments give: settings in the order in which they came, and operands. -/
structure Arguments where
  settings : List (Text × Text) := []
  operands : List Text := []
deriving DecidableEq

namespace Arguments

/-- Arguments with a setting in front. -/
def set (flag : Flag) (value : Text) (arguments : Arguments) : Arguments :=
  { arguments with settings := (flag.key, value) :: arguments.settings }

/-- Arguments with an operand in front. -/
def offer (operand : Text) (arguments : Arguments) : Arguments :=
  { arguments with operands := operand :: arguments.operands }

/-- Whether an argument is written as an option. -/
def isOption (argument : Text) : Bool :=
  argument.head? == some '-' && decide (1 < argument.length)

/-- The settings of one-letter options written together. -/
def shortSettings (usage : Usage) : Text → Except UsageError (List (Text × Text))
  | [] => .ok []
  | letter :: rest =>
    match usage.short? letter with
    | none => .error (.noSuchOption ['-', letter] [])
    | some flag =>
      match flag.kind with
      | .takesValue => .error (.needsValue flag.name)
      | .means value => (shortSettings usage rest).map ((flag.key, value) :: ·)

/-- What arguments give. Operands end the options unless the two may be mixed. -/
def read (usage : Usage) (mixed : Bool) : List Text → Except UsageError Arguments
  | [] => .ok {}
  | argument :: rest =>
    if argument == "--" then .ok { operands := rest }
    else if isOption argument then
      let named := Text.cut '=' argument
      match usage.long? named.1 with
      | some flag =>
        match flag.kind, named.2, rest with
        | .means _, some _, _ => .error (.takesNoValue flag.name)
        | .means value, none, rest => (read usage mixed rest).map (set flag value)
        | .takesValue, some value, rest => (read usage mixed rest).map (set flag value)
        | .takesValue, none, value :: rest => (read usage mixed rest).map (set flag value)
        | .takesValue, none, [] => .error (.needsValue flag.name)
      | none =>
        if ("--" : Text).isPrefixOf argument then .error (usage.unknownLong named.1)
        else match shortSettings usage (argument.drop 1) with
          | .error error => .error error
          | .ok found =>
            (read usage mixed rest).map fun others =>
              { others with settings := found ++ others.settings }
    else if mixed then (read usage mixed rest).map (offer argument)
    else .ok { operands := argument :: rest }

/-- The settings in the order in which they came first, each with its last value. -/
def final (arguments : Arguments) : Keyed Text Text := Keyed.ofPairs arguments.settings

/-- The value of a setting. -/
def get? (key : Text) (arguments : Arguments) : Option Text := Keyed.get? key arguments.final

end Arguments

end DesignExport.CommandLine
