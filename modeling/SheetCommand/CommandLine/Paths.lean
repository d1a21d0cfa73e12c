import SheetCommand.CommandLine.Run

/-!
# Command line — paths

The files that a run can look at or replace, known from its arguments and its input alone.
-/

namespace SheetCommand.CommandLine

/-- The paths of the workbooks that a request names. -/
def requestPaths (line : String) : List String :=
  match (Document.read? line).bind (·.field? "args") with
  | some args => ["file", "out"].filterMap fun name => match args.field? name with
    | some (.text s) => some s
    | _ => none
  | none => []

/-- The workbooks that a command names. -/
def Command.workbooks : Command → List String
  | version | serve _ => []
  | listSheets file => [file]
  | interpret _ file _ => file.toList
  | transform file _ out _ _ _ _ => file :: out.toList

/-- The configuration files that a command may read. -/
def Command.configurations (configFile : Option String) : Command → List String
  | transform _ _ _ _ _ config _ | serve config =>
    config.toList ++ configFile.toList ++ [Settings.fileName]
  | _ => []

/-- The command that arguments ask for, if they are understood. -/
def command? (arguments : List String) : Option Command :=
  match Invocation.ofArguments arguments with
  | .command c => some c
  | _ => none

end SheetCommand.CommandLine
