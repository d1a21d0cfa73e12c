import SheetCommand.Number.Binary64

/-!
# Action — what is done to a workbook

An action either renames a sheet or edits the rows and columns of one sheet, which it may name.
Actions come from two sources: instructions in words and structured documents.
-/

namespace SheetCommand

inductive Comparison where
  | greater | greaterEqual | less | lessEqual | equal | notEqual
  deriving DecidableEq

namespace Comparison

def symbol : Comparison → String
  | greater => ">"
  | greaterEqual => ">="
  | less => "<"
  | lessEqual => "<="
  | equal => "=="
  | notEqual => "!="

def all : List Comparison := [greater, greaterEqual, less, lessEqual, equal, notEqual]

def ofSymbol? (s : String) : Option Comparison := all.find? (·.symbol = s)

/-- Whether two numbers compare so, given how they compare. What compares with nothing differs from
everything. -/
def holds : Comparison → Option Ordering → Bool
  | notEqual, none => true
  | _, none => false
  | greater, some o => o == .gt
  | greaterEqual, some o => o != .lt
  | less, some o => o == .lt
  | lessEqual, some o => o != .gt
  | equal, some o => o == .eq
  | notEqual, some o => o != .eq

theorem mem_all (op : Comparison) : op ∈ all := by cases op <;> decide

theorem ofSymbol?_symbol (op : Comparison) : ofSymbol? op.symbol = some op := by
  cases op <;> decide

end Comparison

inductive Equality where
  | equal | notEqual
  deriving DecidableEq

namespace Equality

def symbol : Equality → String
  | equal => "=="
  | notEqual => "!="

def ofSymbol? (s : String) : Option Equality := [equal, notEqual].find? (·.symbol = s)

def holds (op : Equality) (same : Bool) : Bool :=
  match op with
  | equal => same
  | notEqual => !same

theorem ofSymbol?_symbol (op : Equality) : ofSymbol? op.symbol = some op := by
  cases op <;> decide

end Equality

inductive Direction where
  | ascending | descending
  deriving DecidableEq

namespace Direction

def name : Direction → String
  | ascending => "asc"
  | descending => "desc"

def ofName? (s : String) : Option Direction := [ascending, descending].find? (·.name = s)

theorem ofName?_name (d : Direction) : ofName? d.name = some d := by cases d <;> decide

end Direction

/-- A change to the rows and columns of one sheet. Columns are named by their headers. -/
inductive Edit where
  | renameColumn (old new : String)
  | addColumnSum (first second new : String)
  | deleteColumn (name : String)
  | filterRows (column : String) (op : Comparison) (value : Binary64)
  | sortBy (column : String) (direction : Direction)
  | setValueWhere (target : String) (op : Equality) (condition conditionValue value : String)
  deriving DecidableEq

inductive Action where
  | renameSheet (old new : String)
  | edit (sheet : Option String) (edit : Edit)
  deriving DecidableEq

inductive ActionKind where
  | renameSheet | renameColumn | addColumnSum | deleteColumn | filterRows | sortBy | setValueWhere
  deriving DecidableEq

namespace ActionKind

def name : ActionKind → String
  | renameSheet => "rename_sheet"
  | renameColumn => "rename_column"
  | addColumnSum => "add_column_sum"
  | deleteColumn => "delete_column"
  | filterRows => "filter_rows"
  | sortBy => "sort_by"
  | setValueWhere => "set_value_where"

/-- All kinds, in the order in which instructions are tried against them. -/
def all : List ActionKind :=
  [renameSheet, renameColumn, addColumnSum, deleteColumn, filterRows, sortBy, setValueWhere]

def ofName? (s : String) : Option ActionKind := all.find? (·.name = s)

theorem mem_all (kind : ActionKind) : kind ∈ all := by cases kind <;> decide

theorem ofName?_name (kind : ActionKind) : ofName? kind.name = some kind := by
  cases kind <;> decide

end ActionKind

def Edit.kind : Edit → ActionKind
  | renameColumn .. => .renameColumn
  | addColumnSum .. => .addColumnSum
  | deleteColumn .. => .deleteColumn
  | filterRows .. => .filterRows
  | sortBy .. => .sortBy
  | setValueWhere .. => .setValueWhere

def Action.kind : Action → ActionKind
  | renameSheet .. => .renameSheet
  | edit _ e => e.kind

/-- The sheet that an action refers to: the one to rename, or the one to edit if it names one. -/
def Action.sheet? : Action → Option String
  | renameSheet old _ => some old
  | edit sheet _ => sheet

end SheetCommand
