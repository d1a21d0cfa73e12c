import SheetCommand.Sheet.Edit
import SheetCommand.Workbook.Title

/-!
# Workbook

A workbook is a list of sheets with titles. A sheet that is referred to by a title it does not have,
or by none, is the first one.
-/

namespace SheetCommand

structure Sheet where
  title : String
  grid : Grid
  deriving DecidableEq

structure Workbook where
  sheets : List Sheet
  deriving DecidableEq

namespace Grid

/-- Puts a value as it comes from outside, nothing for a blank. -/
def enter (g : Grid) (row column : Nat) : CellValue → Except Failure Grid
  | .blank => .ok g
  | .text s => do return g.put row column (← CellValue.ofText s)
  | v => .ok (g.put row column v)

/-- Enters values side by side into a row, from a column on. -/
def enterRow (row column : Nat) : List CellValue → Grid → Except Failure Grid
  | [], g => .ok g
  | v :: values, g => do enterRow row (column + 1) values (← g.enter row column v)

def enterRows (row : Nat) : List (List CellValue) → Grid → Except Failure Grid
  | [], g => .ok g
  | values :: rest, g => do enterRows (row + 1) rest (← enterRow row 1 values g)

def ofRows (rows : List (List CellValue)) : Except Failure Grid := enterRows 1 rows empty

/-- What every position holds, row by row. -/
def rows (g : Grid) : List (List CellValue) :=
  (span 1 g.height).map fun row => g.columns.map fun column => g.value row column

end Grid

namespace Workbook

def empty : Workbook := ⟨[]⟩

def titles (w : Workbook) : List String := w.sheets.map (·.title)

/-- Adds a sheet under the given title, changed if it is taken. -/
def addSheet (w : Workbook) (title : String) (grid : Grid) : Except Failure Workbook := do
  let title ← Title.assign w.titles none (if title.isEmpty then Title.standard else title)
  return ⟨w.sheets ++ [⟨title, grid⟩]⟩

def ofSheets (sheets : List (String × List (List CellValue))) : Except Failure Workbook :=
  sheets.foldlM (fun w (title, rows) => do w.addSheet title (← Grid.ofRows rows)) empty

/-- The place of the first sheet with a title. -/
def indexOf? (w : Workbook) (title : String) : Option Nat :=
  w.sheets.findIdx? (·.title = title)

/-- The title of the sheet asked for. -/
def sheetNamed (w : Workbook) (title : String) : Except Failure String :=
  if w.titles.contains title then .ok title else .error (.sheetUnknown title)

/-- The place of the sheet that a reference means: the one with that title, else the first. -/
def resolve (w : Workbook) (title : Option String) : Option Nat :=
  match (title.filter (!·.isEmpty)).bind w.indexOf? with
  | some i => some i
  | none => if w.sheets.isEmpty then none else some 0

/-- The sheet that a reference means. -/
def resolved? (w : Workbook) (title : Option String) : Option Sheet :=
  (w.resolve title).bind (w.sheets[·]?)

def setGrid (w : Workbook) (i : Nat) (grid : Grid) : Workbook :=
  ⟨w.sheets.modify i fun sheet => { sheet with grid }⟩

def setTitle (w : Workbook) (i : Nat) (title : String) : Workbook :=
  ⟨w.sheets.modify i fun sheet => { sheet with title }⟩

/-- Reads something off the sheet that a reference means, its headers first. -/
def readSheet {α : Type} (w : Workbook) (title : Option String) (read : Grid → Except Failure α) :
    Workbook × Except Failure α :=
  match w.resolve title, w.resolved? title with
  | some i, some sheet => (w.setGrid i sheet.grid.touchHeaders, read sheet.grid)
  | _, _ => (w, .error .nothingToRead)

/-- An overview of the sheets. Reading the headers creates their cells. -/
def overview (w : Workbook) : Workbook × Except Failure (List SheetSummary) :=
  let w : Workbook := ⟨w.sheets.map fun sheet => { sheet with grid := sheet.grid.touchHeaders }⟩
  (w, w.sheets.zipIdx.mapM fun (sheet, index) => do
    return ⟨sheet.title, index, sheet.grid.height, sheet.grid.width, ← sheet.grid.listedHeaders⟩)

theorem titles_setGrid (w : Workbook) (i : Nat) (grid : Grid) :
    (w.setGrid i grid).titles = w.titles := by
  simp only [titles, setGrid]
  apply List.ext_getElem?
  intro j
  simp only [List.getElem?_map, List.getElem?_modify]
  cases w.sheets[j]? <;> simp
  split <;> rfl

end Workbook

end SheetCommand
