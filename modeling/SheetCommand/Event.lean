import SheetCommand.Action.Encoding
import SheetCommand.Document.Printer
import SheetCommand.Failure

/-!
# Event — what a transformation reports while it runs

Events are lines of their own, apart from replies. Each carries the id of the request it belongs to.
-/

namespace SheetCommand

inductive Event where
  | started (fingerprint : String) (sheets : List String)
  | interpreted (instruction : String) (actions : List Action)
  | applied (kind : ActionKind) (target : String)
  | skipped (kind : ActionKind) (reason : String)
  | finished (recognized modified : Bool) (size : Nat)
  deriving DecidableEq

namespace Event

def name : Event → String
  | started .. => "transform.start"
  | interpreted .. => "transform.interpreted"
  | applied .. => "action.applied"
  | skipped .. => "action.skipped"
  | finished .. => "transform.done"

def data : Event → Document
  | started fingerprint sheets =>
    .object [("fingerprint", .text fingerprint), ("sheets", .texts sheets)]
  | interpreted instruction actions =>
    .object [("instruction", .text instruction), ("actions", .list (actions.map (·.toDocument)))]
  | applied kind target => .object [("type", .text kind.name), ("target", .text target)]
  | skipped kind reason => .object [("type", .text kind.name), ("reason", .text reason)]
  | finished recognized modified size =>
    .object [("recognized", .bool recognized), ("modified", .bool modified), ("bytes", .ofNat size)]

end Event

/-- Writes events for one request, if they are wanted. -/
structure Emitter where
  enabled : Bool
  requestId : String

namespace Emitter

/-- An emitter for a request; `generated` serves where the request has no id. -/
def forRequest (enabled : Bool) (generated : String) (requestId : Option String) : Emitter :=
  ⟨enabled, (requestId.filter (!·.isEmpty)).getD generated⟩

/-- The line of an event; data that does not count as given is an empty object. -/
def line (e : Emitter) (name : String) (data : Option Document) : Document :=
  .object [("event", .text name), ("request_id", .text e.requestId),
    ("data", (data.filter (·.isGiven)).getD (.object []))]

/-- The lines that an emitter writes for an event with the given name and data. -/
def emit (e : Emitter) (name : String) (data : Option Document) : Except Failure (List String) :=
  if e.enabled then
    let line := e.line name data
    if line.isWritable then .ok [line.compact] else .error .wrongType
  else .ok []

/-- The lines of the events of a transformation. -/
def lines (e : Emitter) (events : List Event) : List String :=
  if e.enabled then events.map fun event => (e.line event.name event.data).compact else []

end Emitter

end SheetCommand
