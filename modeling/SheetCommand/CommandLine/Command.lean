import SheetCommand.CommandLine.Options

/-!
# Command line — commands

What the arguments of the program ask for: one of its commands, its version, or nothing that it
understands.
-/

namespace SheetCommand.CommandLine

inductive Command where
  | version
  | listSheets (file : String)
  | interpret (instruction : String) (file sheets : Option String)
  /-- `backup` says whether to copy a file before it is replaced, if the command line says so. -/
  | transform (file instruction : String) (out : Option String) (dryRun : Bool)
      (backup : Option Bool) (config : Option String) (events : Bool)
  | serve (config : Option String)
  deriving DecidableEq

/-- What a command line asks for. -/
inductive Invocation where
  | command (c : Command)
  | showVersion
  | showHelp
  /-- No command at all, where options alone ask for nothing. -/
  | nothing
  /-- Arguments that are not understood. -/
  | misuse
  deriving DecidableEq

inductive Key where
  | version | help | file | instruction | sheets | json | out | dryRun | backup | noBackup | config
  | events
  deriving DecidableEq

def help : Spelling Key := ⟨"--help", .help, false⟩

def value (text : String) (key : Key) : Spelling Key := ⟨text, key, true⟩

def switch (text : String) (key : Key) : Spelling Key := ⟨text, key, false⟩

/-- The options before the command. -/
def programOptions : List (Spelling Key) :=
  [help, switch "--version" .version, switch "-V" .version]

def fileOptions : List (Spelling Key) := [value "--file" .file, value "-f" .file]

def instructionOptions : List (Spelling Key) :=
  [value "--instruction" .instruction, value "-i" .instruction]

def listSheetsOptions : List (Spelling Key) := help :: switch "--json" .json :: fileOptions

def interpretOptions : List (Spelling Key) :=
  [help, switch "--json" .json, value "--sheets" .sheets] ++ fileOptions ++ instructionOptions

def transformOptions : List (Spelling Key) :=
  [help, switch "--json" .json, value "--out" .out, value "-o" .out, switch "--dry-run" .dryRun,
   switch "--backup" .backup, switch "--no-backup" .noBackup, value "--config" .config,
   switch "--events" .events] ++ fileOptions ++ instructionOptions

def serveOptions : List (Spelling Key) := [help, value "--config" .config]

/-- A command with its options: all that is given must be understood, and all that the command
requires must be given. -/
def readCommand (options : List (Spelling Key)) (build : Given Key → Option Command)
    (arguments : List String) : Invocation :=
  match read? options true arguments with
  | none => .misuse
  | some given =>
    if given.has .help then .showHelp
    else if !given.others.isEmpty then .misuse
    else match build given with
      | none => .misuse
      | some c => .command c

/-- The commands that concern sheets. -/
def readSheetCommand (arguments : List String) : Invocation :=
  match read? [help] false arguments with
  | none => .misuse
  | some given =>
    if given.has .help then .showHelp
    else match given.others with
      | "ls" :: rest =>
        readCommand listSheetsOptions (fun given => (given.value? .file).map .listSheets) rest
      | _ => .misuse

/-- A command by its name, and how its arguments are read. -/
def reader? : String → Option (List String → Invocation)
  | "version" => some (readCommand [help] fun _ => some .version)
  | "sheet" => some readSheetCommand
  | "interpret" => some (readCommand interpretOptions fun given => do
      some (.interpret (← given.value? .instruction) (given.value? .file) (given.value? .sheets)))
  | "transform" => some (readCommand transformOptions fun given => do
      some (.transform (← given.value? .file) (← given.value? .instruction) (given.value? .out)
        (given.has .dryRun) (given.lastOf? .backup .noBackup) (given.value? .config)
        (given.has .events)))
  | "serve" => some (readCommand serveOptions fun given => some (.serve (given.value? .config)))
  | _ => none

/-- What a command line asks for. -/
def Invocation.ofArguments (arguments : List String) : Invocation :=
  if arguments.isEmpty then .misuse
  else match read? programOptions false arguments with
    | none => .misuse
    | some given =>
      if given.has .help then .showHelp
      else match given.others with
        | [] => if given.has .version then .showVersion else .nothing
        | name :: rest => match reader? name with
          | none => .misuse
          | some reader => if given.has .version then .showVersion else reader rest

theorem ofArguments_nil : Invocation.ofArguments [] = .misuse := rfl

end SheetCommand.CommandLine
