import SheetCommand.Action
import SheetCommand.Document.Basic

/-!
# Action — as a document

An action is an object with its kind under `type` and a field for each of its parts, the sheet of an
edit included, `null` if it names none.
-/

namespace SheetCommand

open Document (text ofOption)

namespace Edit

/-- The fields of an edit, without its kind and its sheet. -/
def fields : Edit → List (String × Document)
  | renameColumn old new => [("column_old", text old), ("column_new", text new)]
  | addColumnSum first second new =>
    [("col_a", text first), ("col_b", text second), ("new_column", text new)]
  | deleteColumn name => [("column_name", text name)]
  | filterRows column op value =>
    [("column_name", text column), ("operator", text op.symbol), ("value", .real value)]
  | sortBy column direction => [("column_name", text column), ("direction", text direction.name)]
  | setValueWhere target op condition conditionValue value =>
    [("target_column", text target), ("operator", text op.symbol),
     ("condition_column", text condition), ("condition_value", text conditionValue),
     ("value", text value)]

end Edit

namespace Action

def fields : Action → List (String × Document)
  | renameSheet old new => [("sheet_old", text old), ("sheet_new", text new)]
  | edit sheet e => ("sheet_name", ofOption text sheet) :: e.fields

def toDocument (a : Action) : Document := .object (("type", text a.kind.name) :: a.fields)

end Action

end SheetCommand
