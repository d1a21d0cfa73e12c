import SheetCommand.Workbook.Basic

/-!
# Workbook — applying actions

An action acts on the sheet that its reference resolves to. A protected sheet, or a workbook without
sheets, makes it a skipped one. An action that fails leaves behind what it has done so far.
-/

namespace SheetCommand.Workbook

/-- Renames the sheet at a place. -/
def renameSheet (w : Workbook) (i : Nat) (sheet : Sheet) (wanted : String) :
    Workbook × Except Failure ChangeRecord :=
  match Title.assign w.titles (some sheet.title) wanted with
  | .error e => (w, .error e)
  | .ok title => (w.setTitle i title,
      .ok ⟨.renameSheet, sheet.title, .applied (.sheetRenamed sheet.title wanted title)⟩)

/-- What an action does to the sheet it is for. -/
def applyAt (w : Workbook) (i : Nat) (sheet : Sheet) :
    Action → Workbook × Except Failure ChangeRecord
  | .renameSheet _ new => w.renameSheet i sheet new
  | .edit _ e =>
    let attempt := e.apply sheet.title sheet.grid
    (w.setGrid i attempt.grid, attempt.result)

/-- Applies an action, and answers with what is left and with the record or the failure. -/
def apply (protectedTitles : List String) (w : Workbook) (a : Action) :
    Workbook × Except Failure ChangeRecord :=
  match w.resolve a.sheet? with
  | none => (w, .ok ⟨a.kind, a.sheet?.getD "", .skipped .sheetNotFound "Workbook has no sheets"⟩)
  | some i =>
    match w.sheets[i]? with
    | none => (w, .ok ⟨a.kind, a.sheet?.getD "", .skipped .sheetNotFound "Workbook has no sheets"⟩)
    | some sheet =>
      if protectedTitles.contains sheet.title then
        (w, .ok ⟨a.kind, sheet.title,
          .skipped .protectedSheet ("Sheet '" ++ sheet.title ++ "' is protected")⟩)
      else w.applyAt i sheet a

/-- Applies actions one after the other, up to the first that fails. -/
def applyAll (protectedTitles : List String) :
    List Action → Workbook → Workbook × Except Failure (List ChangeRecord)
  | [], w => (w, .ok [])
  | a :: rest, w =>
    match apply protectedTitles w a with
    | (w, .error e) => (w, .error e)
    | (w, .ok record) =>
      let (w, records) := applyAll protectedTitles rest w
      (w, records.map (record :: ·))

end SheetCommand.Workbook
