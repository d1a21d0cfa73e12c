import SheetCommand.Document.Printer
import SheetCommand.Failure
import SheetCommand.Sheet.Record

/-!
# Envelope — the reply of a command

Every command prints one envelope: what it was asked, and either a result or an error. The exit code
follows from the envelope alone: 0 for a success, otherwise the class of the first error.
-/

namespace SheetCommand

/-- The workbook that a command read and the one that it wrote. -/
structure Target where
  file : Option String
  out : Option String
  deriving DecidableEq

def Target.none : Target := ⟨.none, .none⟩

structure ErrorReport where
  code : String
  message : String
  details : Document

structure Envelope where
  ok : Bool
  command : String
  target : Target
  result : Document
  changes : List ChangeRecord
  warnings : List Warning
  errors : List ErrorReport
  duration : Nat

def Target.toDocument (t : Target) : Document :=
  .object [("file", .ofOption .text t.file), ("out", .ofOption .text t.out)]

def ErrorReport.toDocument (e : ErrorReport) : Document :=
  .object [("code", .text e.code), ("message", .text e.message), ("details", e.details)]

namespace Envelope

def success (command : String) (result : Document) (target : Target)
    (changes : List ChangeRecord) (warnings : List Warning) : Envelope :=
  ⟨true, command, target, result, changes, warnings, [], 0⟩

def error (command : String) (errors : List ErrorReport) (target : Target) (duration : Nat) :
    Envelope :=
  ⟨false, command, target, .null, [], [], errors, duration⟩

/-- How a failure of a kind is reported: internal ones by name, and an empty message by the kind. -/
def reportOf (kind : FailureKind) (message : String) : ErrorReport :=
  ⟨kind.code.name, if message.isEmpty then kind.name else message,
    if kind.code = .internal then .object [("exception", .text kind.name)] else .null⟩

def failure (command : String) (f : Failure) (target : Target) : Envelope :=
  error command [reportOf f.kind f.message] target 0

def toDocument (e : Envelope) : Document :=
  .object [("ok", .bool e.ok), ("command", .text e.command), ("target", e.target.toDocument),
    ("result", e.result), ("changes", .list (e.changes.map (·.toDocument))),
    ("warnings", .list (e.warnings.map (·.toDocument))),
    ("errors", .list (e.errors.map (·.toDocument))),
    ("metrics", .object [("duration_ms", .ofNat e.duration)])]

/-- The envelope as it is printed. -/
def print (e : Envelope) : Except Failure String :=
  if e.toDocument.isWritable then .ok e.toDocument.indented else .error .wrongType

def exitCode (e : Envelope) : Nat :=
  if e.ok then 0
  else match e.errors with
    | [] => ErrorClass.internal.exitCode
    | first :: _ => (ErrorClass.ofCodeName first.code).exitCode

theorem exitCode_success (command : String) (result : Document) (target : Target)
    (changes : List ChangeRecord) (warnings : List Warning) :
    (success command result target changes warnings).exitCode = 0 := rfl

end Envelope

end SheetCommand
