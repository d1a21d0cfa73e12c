import SheetCommand.Event
import SheetCommand.Instruction.Interpret
import SheetCommand.Workbook.Apply
import SheetCommand.Workbook.Payload

/-!
# Transform — payloads

A transformation opens a payload, interprets an instruction against its sheets, applies what it asks
for and saves the outcome. It reports events from the moment the workbook is open; a failure ends the
report where it happens.
-/

namespace SheetCommand

/-- A computation with the events it has reported, whether or not it failed. -/
structure Reported (α : Type) where
  events : List Event
  result : Except Failure α

/-- What a transformation of a payload answers with. -/
structure Transformed where
  instruction : String
  actions : List Action
  changes : List ChangeRecord
  before : Payload
  after : Payload

namespace Transformed

def recognized (t : Transformed) : Bool := !t.actions.isEmpty

/-- Whether some action was not skipped. -/
def modified (t : Transformed) : Bool := t.changes.any (!·.isSkipped)

def warnings (t : Transformed) : List Warning := t.changes.flatMap (·.warnings)

def fields (t : Transformed) : List (String × Document) :=
  [("instruction", .text t.instruction), ("actions", .list (t.actions.map (·.toDocument))),
   ("changes", .list (t.changes.map (·.toDocument))),
   ("warnings", .list (t.warnings.map (·.toDocument))),
   ("fingerprint_before", .text t.before.fingerprint),
   ("fingerprint_after", .text t.after.fingerprint)]

end Transformed

namespace Transform

/-- The event that reports a record. -/
def changeEvent (r : ChangeRecord) : Event :=
  match r.reason? with
  | some reason => .skipped r.kind reason
  | none => .applied r.kind r.target

/-- Applies actions in turn, with an event for each record. -/
def applyReporting (protectedTitles : List String) :
    List Action → Workbook → Workbook × Reported (List ChangeRecord)
  | [], w => (w, ⟨[], .ok []⟩)
  | a :: rest, w =>
    match w.apply protectedTitles a with
    | (w, .error e) => (w, ⟨[], .error e⟩)
    | (w, .ok record) =>
      let (w, more) := applyReporting protectedTitles rest w
      (w, ⟨changeEvent record :: more.events, more.result.map (record :: ·)⟩)

/-- The part of a transformation that begins with an open workbook. -/
def onWorkbook (protectedTitles : List String) (payload : Payload) (instruction : String)
    (w : Workbook) : Reported Transformed :=
  let actions := interpret instruction w.titles
  let (final, changed) := applyReporting protectedTitles actions w
  let events := .started payload.fingerprint w.titles :: .interpreted instruction actions ::
    changed.events
  match changed.result with
  | .error e => ⟨events, .error e⟩
  | .ok changes =>
    match Payload.save final with
    | .error e => ⟨events, .error e⟩
    | .ok after =>
      let t : Transformed := ⟨instruction, actions, changes, payload, after⟩
      ⟨events ++ [.finished t.recognized t.modified after.bytes.length], .ok t⟩

/-- Transforms a payload, which must not be missing, by an instruction that can be used. -/
def onPayload (protectedTitles : List String) (payload : Option Payload)
    (instruction : Except Failure String) : Reported Transformed :=
  match payload.filter (!·.isEmpty) with
  | none => ⟨[], .error .uploadMissing⟩
  | some payload =>
    match (do
      let text ← instruction
      return (text, ← payload.load)) with
    | .error e => ⟨[], .error e⟩
    | .ok (text, w) => onWorkbook protectedTitles payload text w

end Transform

end SheetCommand
