import SheetCommand.Action.Validation
import SheetCommand.Proofs.Document.RoundTrip

/-!
# Action — there and back

The document of an action denotes that action (`ofDocument_toDocument`), and so it still does once it
has been written and read, unless the number of a filter is not finite: that comes back as `null`,
which is no number (`ofDocument_reread_of_not_finite`). A list of actions comes back as it was, or
with one fault for each such filter (`listOfDocument_reread`).
-/

namespace SheetCommand

open Document

namespace Edit

/-- The number of an edit, if it has one, is finite. -/
def IsFinite : Edit → Prop
  | filterRows _ _ value => value.isFinite = true
  | _ => True

instance : DecidablePred IsFinite := fun e =>
  match e with
  | filterRows _ _ value => inferInstanceAs (Decidable (value.isFinite = true))
  | renameColumn .. | addColumnSum .. | deleteColumn .. | sortBy .. | setValueWhere .. =>
    inferInstanceAs (Decidable True)

end Edit

namespace Action

/-- The number of a filter, if the action is one, is finite. -/
def IsFinite : Action → Prop
  | renameSheet .. => True
  | edit _ e => e.IsFinite

instance : DecidablePred IsFinite := fun a =>
  match a with
  | renameSheet .. => inferInstanceAs (Decidable True)
  | edit _ e => inferInstanceAs (Decidable e.IsFinite)

/-! ### One action -/

theorem asTextOrNull_ofOption (sheet : Option String) :
    asTextOrNull (Document.ofOption .text sheet) = .ok sheet := by
  cases sheet <;> rfl

theorem reread_ofOption_text (sheet : Option String) :
    (Document.ofOption .text sheet).reread = Document.ofOption .text sheet := by
  cases sheet <;> rfl

/-- **The document of an action** denotes that action. -/
theorem ofDocument_toDocument (a : Action) : ofDocument a.toDocument = .ok a := by
  cases a with
  | renameSheet old new => rfl
  | edit sheet e =>
    have hsheet := asTextOrNull_ofOption sheet
    cases e <;>
      simp [toDocument, fields, Edit.fields, kind, Edit.kind, ofDocument, ActionKind.ofName?_name,
        ofFields, withField, bothOrFaults, require, orElse, List.lookup_cons, hsheet, asText, asReal,
        asOneOf, Comparison.ofSymbol?_symbol, Equality.ofSymbol?_symbol, Direction.ofName?_name,
        Except.map, Except.mapError]

/-- Nothing is lost when an action is written and read, if its number is finite. -/
theorem reread_toDocument {a : Action} (h : a.IsFinite) : a.toDocument.reread = a.toDocument := by
  cases a with
  | renameSheet old new => simp [toDocument, fields, reread, rereadFields, setField]
  | edit sheet e =>
    have hsheet := reread_ofOption_text sheet
    cases e with
    | filterRows column op value =>
      have hvalue : value.isFinite = true := h
      simp [toDocument, fields, Edit.fields, reread, rereadFields, setField, hsheet, hvalue]
    | _ => simp [toDocument, fields, Edit.fields, reread, rereadFields, setField, hsheet]

/-- The fault of a filter whose number has been lost. -/
def lostNumber : Fault := ⟨[ActionKind.filterRows.name, "value"], .notNumber⟩

/-- **A number that is not finite** is lost when an action is written and read. -/
theorem ofDocument_reread_of_not_finite {a : Action} (h : ¬ a.IsFinite) :
    ofDocument a.toDocument.reread = .error [lostNumber] := by
  cases a with
  | renameSheet old new => exact absurd trivial h
  | edit sheet e =>
    cases e with
    | filterRows column op value =>
      have hvalue : value.isFinite = false := Bool.not_eq_true _ ▸ h
      have hsheet := asTextOrNull_ofOption sheet
      simp [toDocument, fields, Edit.fields, kind, Edit.kind, reread, rereadFields, setField,
        reread_ofOption_text, hvalue, ofDocument, ActionKind.ofName?_name, ofFields, withField,
        bothOrFaults, require, orElse, List.lookup_cons, hsheet, asText, asReal, asOneOf,
        Comparison.ofSymbol?_symbol, Except.mapError, Fault.under, lostNumber]
    | _ => exact absurd trivial h

/-! ### Lists of actions -/

/-- The faults of a list of actions that has been written and read: one for each filter whose number
is not finite. -/
def lostNumbers (index : Nat) : List Action → List Fault
  | [] => []
  | a :: actions =>
    if a.IsFinite then lostNumbers (index + 1) actions
    else lostNumber.under (.ofList (Text.decimal index)) :: lostNumbers (index + 1) actions

theorem lostNumbers_eq_nil_iff (index : Nat) {actions : List Action} :
    lostNumbers index actions = [] ↔ ∀ a ∈ actions, a.IsFinite := by
  induction actions generalizing index with
  | nil => simp [lostNumbers]
  | cons a actions ih =>
    rw [lostNumbers, List.forall_mem_cons]
    split
    · rename_i h
      rw [ih, and_iff_right h]
    · rename_i h
      simp [h]

theorem rereadItems_map (actions : List Action) : rereadItems (actions.map (·.toDocument)) =
    actions.map fun a => a.toDocument.reread := by
  induction actions with
  | nil => rfl
  | cons a actions ih => rw [List.map_cons, rereadItems, ih, List.map_cons]

theorem ofItems_reread (index : Nat) (actions : List Action) :
    ofItems index (actions.map fun a => a.toDocument.reread) =
      match lostNumbers index actions with
      | [] => .ok actions
      | faults => .error faults := by
  induction actions generalizing index with
  | nil => rfl
  | cons a actions ih =>
    rw [List.map_cons, ofItems, ih, lostNumbers]
    by_cases h : a.IsFinite
    · rw [if_pos h, reread_toDocument h, ofDocument_toDocument]
      cases lostNumbers (index + 1) actions <;> rfl
    · rw [if_neg h, ofDocument_reread_of_not_finite h]
      cases lostNumbers (index + 1) actions <;> rfl

/-- What comes back of actions that have been written and read. -/
def comeBack (actions : List Action) : Except (List Fault) (List Action) :=
  match lostNumbers 0 actions with
  | [] => .ok actions
  | faults => .error faults

/-- **A list of actions** that has been written and read. -/
theorem listOfDocument_reread (actions : List Action) :
    listOfDocument (list (actions.map (·.toDocument))).reread = comeBack actions := by
  rw [reread, rereadItems_map, listOfDocument, ofItems_reread, comeBack]

/-- It comes back as it was exactly if every number in it is finite. -/
theorem comeBack_eq_ok_iff {actions : List Action} :
    comeBack actions = .ok actions ↔ ∀ a ∈ actions, a.IsFinite := by
  rw [comeBack, ← lostNumbers_eq_nil_iff 0]
  cases lostNumbers 0 actions <;> simp

end Action

end SheetCommand
