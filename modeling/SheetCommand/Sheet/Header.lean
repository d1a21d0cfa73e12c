import SheetCommand.Sheet.Grid

/-!
# Sheet — headers

The cells of row 1 are the headers of their columns. An instruction finds a column by its header, in
any case and spacing; the first match wins, and a blank header is none.
-/

namespace SheetCommand

/-- What the overview of a workbook says about a sheet. -/
structure SheetSummary where
  name : String
  index : Nat
  height : Nat
  width : Nat
  headers : List String
  deriving DecidableEq

def SheetSummary.toDocument (s : SheetSummary) : Document :=
  .object [("name", .text s.name), ("index", .ofNat s.index), ("max_row", .ofNat s.height),
    ("max_column", .ofNat s.width), ("headers", .texts s.headers)]

namespace Grid

/-- Creates the cells of the header row. -/
def touchHeaders (g : Grid) : Grid := g.touchAll (rectangle [1] g.columns)

/-- The labels of the header row, from the first column to the last. -/
def labels (g : Grid) : Except Failure (List (List Char)) :=
  g.columns.mapM fun column => (g.value 1 column).label

/-- The headers with their columns, blank ones left out. -/
def headers (g : Grid) : Except Failure (List (Nat × List Char)) := do
  let labels ← g.labels
  return (g.columns.zip labels).filter fun (_, label) => !(Text.trim label).isEmpty

/-- The first column whose header has the given key. -/
def columnOf (g : Grid) (key : List Char) : Except Failure (Option Nat) := do
  return ((← g.headers).find? fun (_, label) => CellValue.headerKey label = key).map (·.1)

/-- The first column with a header. -/
def findColumn (g : Grid) (header : String) : Except Failure (Option Nat) :=
  g.columnOf (CellValue.headerKey header.toList)

/-- The last column with a header, 0 if there is none. -/
def lastHeaderColumn (g : Grid) : Except Failure Nat := do
  return ((← g.headers).getLast?.map (·.1)).getD 0

/-- All labels up to the last one that is not empty. -/
def listedHeaders (g : Grid) : Except Failure (List String) := do
  let labels ← g.labels
  return ((labels.reverse.dropWhile (·.isEmpty)).reverse).map .ofList

end Grid

end SheetCommand
