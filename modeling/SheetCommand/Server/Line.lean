import SheetCommand.Document.Shown
import SheetCommand.Server.Argument

/-!
# Server — lines

The server answers lines: a request is an object on one line, and so is its response. A blank line has
no response. A response carries the id of its request and a result, or the code and the message of
what failed. Requests share nothing but the files.

A request whose command is no scalar stops the server.
-/

namespace SheetCommand.Server

inductive Operation where
  | interpret | transform | listSheets
  deriving DecidableEq

namespace Operation

def name : Operation → String
  | interpret => "interpret"
  | transform => "transform"
  | listSheets => "sheet.ls"

def all : List Operation := [interpret, transform, listSheets]

def ofName? (name : String) : Option Operation := all.find? (·.name = name)

end Operation

/-! ### Operations -/

def actionsDocument (actions : List Action) : Document := .list (actions.map (·.toDocument))

/-- The actions that an instruction asks for. A workbook, if one is named, decides about the sheets. -/
def interpretRequest (s : Store) (args : Document) : Except Failure Document := do
  let text ← instruction args
  let listed ← listedNames args
  match ← path? args "file" with
  | some path => return actionsDocument (interpret text (← s.openWorkbook path).titles)
  | none => return actionsDocument (← interpretListed text listed)

def listSheetsRequest (s : Store) (args : Document) : Except Failure Document := do
  match ← path? args "file" with
  | some path => return .list ((← (← s.openWorkbook path).overview.2).map (·.toDocument))
  | none => .error .fileMissing

/-- The result of a transformation of a payload, with the new payload in base64. -/
def payloadResult (t : Transformed) : Document :=
  .object (t.fields ++ [("data", .text (.ofList (Base64.encode t.after.bytes)))])

/-- Transforms the payload of a request, or else the file that it names. -/
def transformRequest (around : Surroundings) (settings : Settings) (s : Store) (args : Document) :
    FileRun Document :=
  match args.field? "data" with
  | some data =>
    match payload data with
    | .error e => ⟨s, [], .error e⟩
    | .ok payload =>
      let reported := Transform.onPayload settings.protectedSheets payload (instruction args)
      ⟨s, reported.events, reported.result.map payloadResult⟩
  | none =>
    match path? args "file" with
    | .error e => ⟨s, [], .error e⟩
    | .ok none => ⟨s, [], .error .sourceMissing⟩
    | .ok (some source) =>
      let run := Transform.onFile around s ⟨source, instruction args, path? args "out",
        flag args "dry_run", flagOr args "backup" settings.backup, settings.protectedSheets⟩
      ⟨run.store, run.events, run.result.map (·.toDocument)⟩

def Operation.run (around : Surroundings) (settings : Settings) (s : Store) (args : Document) :
    Operation → FileRun Document
  | interpret => ⟨s, [], interpretRequest s args⟩
  | listSheets => ⟨s, [], listSheetsRequest s args⟩
  | transform => transformRequest around settings s args

/-! ### Responses -/

/-- What a line leads to: the files after it, the lines of its events, and the response, if the line
has one, or why the server stops. -/
structure Answer where
  store : Store
  events : List String
  response : Except Failure (Option Document)

def failureFields (code : ErrorCode) (message : String) : List (String × Document) :=
  [("ok", .bool false), ("code", .text code.name), ("error", .text message)]

def responseOf (id : Document) : Except Failure Document → Document
  | .ok result => .object [("id", id), ("ok", .bool true), ("result", result)]
  | .error e => .object (("id", id) :: failureFields e.code e.message)

/-- The arguments of a request; only an object holds any. -/
def argumentsOf (request : Document) : Except Failure Document :=
  match request.given? "args" with
  | none => .ok (.object [])
  | some (.object fields) => .ok (.object fields)
  | some _ => .error .wrongType

/-- A response, provided that it can be written. -/
def written (response : Document) : Except Failure (Option Document) :=
  if response.isWritable then .ok (some response) else .error .wrongType

def answerRequest (around : Surroundings) (settings : Settings) (s : Store) (request : Document) :
    Answer :=
  let id := (request.field? "id").getD (.text "")
  match (request.field? "command").getD (.text "") with
  | .list _ | .object _ => ⟨s, [], .error .wrongType⟩
  | command =>
    match Operation.ofName? command.shown with
    | none =>
      ⟨s, [], written (.object (("id", id) ::
        failureFields .usage ("Unknown command: " ++ command.shown)))⟩
    | some operation =>
      let emitter := Emitter.forRequest settings.emitEvents around.requestId (some id.shown)
      match argumentsOf request with
      | .error e => ⟨s, [], written (responseOf id (.error e))⟩
      | .ok args =>
        let run := operation.run around settings s args
        ⟨run.store, emitter.lines run.events, written (responseOf id run.result)⟩

/-- Answers one line. -/
def answerLine (around : Surroundings) (settings : Settings) (s : Store) (line : String) : Answer :=
  if (Text.trim line.toList).isEmpty then ⟨s, [], .ok none⟩
  else match Document.read? line with
    | none => ⟨s, [], .ok (some (.object (failureFields .usage "Invalid JSON")))⟩
    | some (.object fields) => answerRequest around settings s (.object fields)
    | some _ => ⟨s, [], .ok (some (.object (failureFields .usage "Request must be a JSON object")))⟩

/-! ### Sessions -/

/-- What a sequence of lines leads to. -/
structure Session where
  store : Store
  events : List String
  responses : List Document
  /-- Why the server stopped before the lines ended. -/
  stopped : Option Failure

/-- Answers lines in turn until they end or the server stops. -/
def answerLines (around : Surroundings) (settings : Settings) : List String → Store → Session
  | [], s => ⟨s, [], [], none⟩
  | line :: lines, s =>
    let answer := answerLine around settings s line
    match answer.response with
    | .error e => ⟨answer.store, answer.events, [], some e⟩
    | .ok response =>
      let rest := answerLines around settings lines answer.store
      ⟨rest.store, answer.events ++ rest.events, response.toList ++ rest.responses, rest.stopped⟩

theorem answerLine_of_blank {line : String} (h : (Text.trim line.toList).isEmpty = true)
    (around : Surroundings) (settings : Settings) (s : Store) :
    answerLine around settings s line = ⟨s, [], .ok none⟩ := by
  simp [answerLine, h]

end SheetCommand.Server
