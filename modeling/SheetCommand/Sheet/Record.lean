import SheetCommand.Sheet.Cell
import SheetCommand.Number.Layout

/-!
# Sheet — change records

Every action is answered with a record: where it acted and what it did, or why it was skipped. A
skipped action carries a warning; so does a renamed sheet that did not get the title asked for.
-/

namespace SheetCommand

open Document (ofNat)

inductive WarningCode where
  | sheetNotFound | columnNotFound | protectedSheet | sheetExists
  deriving DecidableEq

def WarningCode.name : WarningCode → String
  | sheetNotFound => "WARN_SHEET_NOT_FOUND"
  | columnNotFound => "WARN_COLUMN_NOT_FOUND"
  | protectedSheet => "WARN_PROTECTED_SHEET"
  | sheetExists => "WARN_SHEET_EXISTS"

structure Warning where
  code : WarningCode
  message : String
  path : String
  deriving DecidableEq

/-- What an action did. Rows are counted without the header row. -/
inductive Effect where
  | sheetRenamed (old wanted new : String)
  | columnRenamed (before : CellValue) (after : String)
  | columnAdded (name : String) (index : Nat) (first second : String) (rows : Nat)
  | columnDeleted (header : CellValue) (index height : Nat)
  | rowsFiltered (rows dropped width : Nat) (op : Comparison) (value : Binary64)
  | rowsSorted (direction : Direction) (rows width : Nat)
  | valuesSet (value : String) (condition : String) (op : Equality) (conditionValue : String)
      (rows : List Nat)
  deriving DecidableEq

inductive Outcome where
  | applied (effect : Effect)
  | skipped (code : WarningCode) (reason : String)
  deriving DecidableEq

structure ChangeRecord where
  kind : ActionKind
  /-- The place of the change: a sheet, or a sheet and a column or cell. -/
  target : String
  outcome : Outcome
  deriving DecidableEq

def Warning.toDocument (w : Warning) : Document :=
  .object [("code", .text w.code.name), ("message", .text w.message), ("path", .text w.path)]

namespace Effect

def warnings : Effect → List Warning
  | sheetRenamed _ wanted new =>
    if new = wanted then []
    else [⟨.sheetExists, "Sheet '" ++ wanted ++ "' already exists; renamed to '" ++ new ++ "'", new⟩]
  | _ => []

def before : Effect → Document
  | sheetRenamed old _ _ => .text old
  | columnRenamed before _ => before.toDocument
  | columnDeleted header index _ => .object [("column", header.toDocument), ("index", ofNat index)]
  | rowsFiltered rows .. => .object [("rows", ofNat rows)]
  | _ => .null

def after : Effect → Document
  | sheetRenamed _ _ new => .text new
  | columnRenamed _ after => .text after
  | columnAdded name index first second _ =>
    .object [("column", .text name), ("index", ofNat index), ("sum_of", .texts [first, second])]
  | columnDeleted .. => .null
  | rowsFiltered rows dropped _ op value =>
    .object [("rows", ofNat (rows - dropped)),
      ("condition", .text (op.symbol ++ " " ++ .ofList value.condition))]
  | rowsSorted direction .. => .object [("direction", .text direction.name)]
  | valuesSet value condition op conditionValue rows =>
    .object [("value", .text value),
      ("condition", .text (condition ++ " " ++ op.symbol ++ " '" ++ conditionValue ++ "'")),
      ("rows", .list (rows.map ofNat))]

/-- How many rows and cells an effect touches; no rows are counted where none are moved. -/
def impact : Effect → List (String × Nat)
  | sheetRenamed .. => [("cells", 0)]
  | columnRenamed .. => [("cells", 1)]
  | columnAdded _ _ _ _ rows => [("rows", rows), ("cells", rows + 1)]
  | columnDeleted _ _ height => [("rows", height), ("cells", height)]
  | rowsFiltered _ dropped width _ _ => [("rows", dropped), ("cells", dropped * width)]
  | rowsSorted _ rows width => [("rows", rows), ("cells", rows * width)]
  | valuesSet _ _ _ _ rows => [("rows", rows.length), ("cells", rows.length)]

end Effect

namespace ChangeRecord

def isSkipped (r : ChangeRecord) : Bool :=
  match r.outcome with
  | .applied _ => false
  | .skipped .. => true

def reason? (r : ChangeRecord) : Option String :=
  match r.outcome with
  | .applied _ => none
  | .skipped _ reason => some reason

def warnings (r : ChangeRecord) : List Warning :=
  match r.outcome with
  | .applied effect => effect.warnings
  | .skipped code reason => [⟨code, reason, r.target⟩]

def toDocument (r : ChangeRecord) : Document :=
  let (status, before, after, impact) := match r.outcome with
    | .applied effect => ("applied", effect.before, effect.after, effect.impact)
    | .skipped .. => ("skipped", .null, .null, [])
  .object [("type", .text r.kind.name), ("status", .text status), ("target", .text r.target),
    ("before", before), ("after", after), ("reason", .ofOption .text r.reason?),
    ("impact", .object (impact.map fun (name, n) => (name, ofNat n))),
    ("warnings", .list (r.warnings.map (·.toDocument)))]

end ChangeRecord

end SheetCommand
