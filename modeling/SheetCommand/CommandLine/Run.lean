import SheetCommand.CommandLine.Command
import SheetCommand.Envelope
import SheetCommand.Server.Line
import SheetCommand.Settings.Discovery

/-!
# Command line — runs

A run carries out what a command line asks for. Every command but the server prints one envelope, and
the envelope decides the exit code. What fails outside the reach of a command is reported as a failure
of no known command.
-/

namespace SheetCommand.CommandLine

def version : String := "0.1.0"

/-- What a run takes from outside: apart from the files all it can depend on. -/
structure Context where
  around : Surroundings
  /-- The configuration file that the environment names. -/
  configFile : Option String
  input : String

inductive Printed where
  | envelope (e : Envelope)
  | response (d : Document)
  | text (s : String)

structure Outcome where
  store : Store
  printed : List Printed
  events : List String
  exitCode : Nat

/-- The exit code for arguments that are not understood. -/
def misuseCode : Nat := 2

namespace Outcome

/-- The end of a run that failed outside the reach of its command. -/
def crash (s : Store) (events : List String) (before : List Printed) (f : Failure) : Outcome :=
  ⟨s, before ++ [.envelope (.failure "unknown" f .none)], events, ErrorClass.internal.exitCode⟩

/-- The end of a run with an envelope, provided that it can be written. -/
def reply (s : Store) (events : List String) (e : Envelope) : Outcome :=
  match e.print with
  | .ok _ => ⟨s, [.envelope e], events, e.exitCode⟩
  | .error f => crash s events [] f

end Outcome

/-! ### Commands -/

/-- Goes on with the settings in force, or ends the run of a command. -/
def withSettings (ctx : Context) (s : Store) (command : String) (config : Option String)
    (go : Settings → Outcome) : Outcome :=
  match Settings.discover s config ctx.configFile none with
  | .ok settings => go settings
  | .error f =>
    if f.kind = .config then .reply s [] (.failure command f .none) else .crash s [] [] f

/-- Goes on with an open workbook, or ends the run of a command. -/
def withWorkbook (s : Store) (command file : String) (go : Workbook → Outcome) : Outcome :=
  match s.openWorkbook (.ofText file) with
  | .ok w => go w
  | .error f =>
    if f.kind = .notFound ∨ f.kind = .workbookCorrupt then
      .reply s [] (.failure command f ⟨some file, none⟩)
    else .crash s [] [] f

def runListSheets (s : Store) (file : String) : Outcome :=
  withWorkbook s "sheet.ls" file fun w =>
    match w.overview.2 with
    | .error f => .crash s [] [] f
    | .ok sheets =>
      .reply s [] (.success "sheet.ls" (.list (sheets.map (·.toDocument))) ⟨some file, none⟩ [] [])

def interpretResult (instruction : String) (names : List String) (actions : List Action) :
    Document :=
  .object [("instruction", .text instruction), ("sheet_names", .texts names),
    ("actions", Server.actionsDocument actions), ("recognized", .bool (!actions.isEmpty))]

/-- The names between commas, without blanks around them. -/
def namesIn (text : String) : List String :=
  (((Text.splitAt ',' text.toList).map Text.trim).filter (!·.isEmpty)).map String.ofList

def runInterpret (s : Store) (instruction : String) (file sheets : Option String) : Outcome :=
  let answer (names : List String) : Outcome :=
    .reply s [] (.success "interpret"
      (interpretResult instruction names (interpret instruction names)) ⟨file, none⟩ [] [])
  match requireInstruction (some instruction) with
  | .error f => .reply s [] (.failure "interpret" f .none)
  | .ok _ => match Settings.given file, sheets with
    | some path, _ => withWorkbook s "interpret" path fun w => answer w.titles
    | none, some names => answer (namesIn names)
    | none, none => answer []

def runTransform (ctx : Context) (s : Store) (file instruction : String) (out : Option String)
    (dryRun : Bool) (backup : Option Bool) (config : Option String) (events : Bool) : Outcome :=
  withSettings ctx s "transform" config fun settings =>
    let emitter := Emitter.forRequest (events || settings.emitEvents) ctx.around.requestId none
    let target : Target := ⟨some file, out⟩
    let run := Transform.onFile ctx.around s ⟨.ofText file, requireInstruction (some instruction),
      .ok ((Settings.given out).map .ofText), dryRun, backup.getD settings.backup,
      settings.protectedSheets⟩
    let lines := emitter.lines run.events
    match run.result with
    | .error f => .reply run.store lines (.failure "transform" f target)
    | .ok t => .reply run.store lines (.success "transform" t.toDocument target
        t.transformed.changes t.transformed.warnings)

/-- The lines of an input. -/
def inputLines (input : String) : List String :=
  (Text.splitAt '\n' (Text.unixLines input.toList)).map String.ofList

def runServe (ctx : Context) (s : Store) (config : Option String) : Outcome :=
  withSettings ctx s "serve" config fun settings =>
    let session := Server.answerLines ctx.around settings (inputLines ctx.input) s
    let responses := session.responses.map .response
    match session.stopped with
    | some f => .crash session.store session.events responses f
    | none => ⟨session.store, responses, session.events, 0⟩

def Command.run (ctx : Context) (s : Store) : Command → Outcome
  | version =>
    .reply s [] (.success "version" (.object [("version", .text CommandLine.version)]) .none [] [])
  | listSheets file => runListSheets s file
  | interpret instruction file sheets => runInterpret s instruction file sheets
  | transform file instruction out dryRun backup config events =>
    runTransform ctx s file instruction out dryRun backup config events
  | serve config => runServe ctx s config

/-- Runs the program. -/
def run (ctx : Context) (s : Store) (arguments : List String) : Outcome :=
  match Invocation.ofArguments arguments with
  | .command c => c.run ctx s
  | .showVersion => ⟨s, [.text (version ++ "\n")], [], 0⟩
  | .showHelp | .nothing => ⟨s, [], [], 0⟩
  | .misuse => ⟨s, [], [], misuseCode⟩

theorem exitCode_crash (s : Store) (events : List String) (before : List Printed) (f : Failure) :
    (Outcome.crash s events before f).exitCode = 90 := rfl

end SheetCommand.CommandLine
