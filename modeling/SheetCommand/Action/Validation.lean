import SheetCommand.Action.Encoding
import SheetCommand.Document.Field

/-!
# Action — from a document

A document denotes an action if it is an object whose `type` names a kind and whose other fields fit
that kind; fields that no kind knows are ignored. All faults of an object are reported together.
-/

namespace SheetCommand

namespace Action

open Document

/-- One more argument for a function that may already have failed. -/
def withField {α β : Type} (f : Except (List Fault) (α → β)) (a : Except (List Fault) α) :
    Except (List Fault) β :=
  bothOrFaults (fun g a => g a) f a

/-- An action of a known kind from its fields. -/
def ofFields (kind : ActionKind) (fields : List (String × Document)) : Except (List Fault) Action :=
  let name (field : String) := require fields field asText
  let onSheet (e : Except (List Fault) Edit) :=
    bothOrFaults Action.edit (orElse fields "sheet_name" none asTextOrNull) e
  match kind with
  | .renameSheet => bothOrFaults Action.renameSheet (name "sheet_old") (name "sheet_new")
  | .renameColumn =>
    onSheet (bothOrFaults Edit.renameColumn (name "column_old") (name "column_new"))
  | .addColumnSum =>
    onSheet (withField (bothOrFaults Edit.addColumnSum (name "col_a") (name "col_b"))
      (name "new_column"))
  | .deleteColumn => onSheet ((name "column_name").map Edit.deleteColumn)
  | .filterRows =>
    onSheet (withField (bothOrFaults Edit.filterRows (name "column_name")
      (require fields "operator" (asOneOf Comparison.ofSymbol?))) (require fields "value" asReal))
  | .sortBy =>
    onSheet (bothOrFaults Edit.sortBy (name "column_name")
      (orElse fields "direction" .ascending (asOneOf Direction.ofName?)))
  | .setValueWhere =>
    onSheet (withField (withField (withField (bothOrFaults Edit.setValueWhere (name "target_column")
      (require fields "operator" (asOneOf Equality.ofSymbol?))) (name "condition_column"))
      (name "condition_value")) (name "value"))

/-- The action that a document denotes, or everything that is wrong with it. -/
def ofDocument : Document → Except (List Fault) Action
  | .object fields =>
    match fields.lookup "type" with
    | none => .error [⟨[], .noTag⟩]
    | some (.text name) =>
      match ActionKind.ofName? name with
      | none => .error [⟨[], .unknownTag⟩]
      | some kind => (ofFields kind fields).mapError fun faults => faults.map (·.under kind.name)
    | some _ => .error [⟨[], .unknownTag⟩]
  | _ => .error [⟨[], .notObject⟩]

/-- Actions from the items of a list, `index` being the place of the first one. -/
def ofItems (index : Nat) : List Document → Except (List Fault) (List Action)
  | [] => .ok []
  | item :: items =>
    bothOrFaults List.cons
      ((ofDocument item).mapError fun faults =>
        faults.map (·.under (.ofList (Text.decimal index))))
      (ofItems (index + 1) items)

def listOfDocument : Document → Except (List Fault) (List Action)
  | .list items => ofItems 0 items
  | _ => .error [⟨[], .notList⟩]

end Action

end SheetCommand
