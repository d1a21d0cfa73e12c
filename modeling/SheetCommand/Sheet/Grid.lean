import SheetCommand.Sheet.Cell

/-!
# Sheet — grid

A grid holds cells by row and column, both counted from 1. A cell may exist and hold nothing: reading
a position creates its cell. The height and the width of a grid are the last row and the last column
with an existing cell, and 1 without any.

Erasing a row moves the rows below it up, and erasing a column the columns to its right to the left.
Before they move, every cell of the rectangle that moves is created.

Each operation is pinned down by what it does to `get?`.
-/

namespace SheetCommand

structure Grid where
  cells : List ((Nat × Nat) × CellValue)
  deriving DecidableEq

namespace Grid

def empty : Grid := ⟨[]⟩

instance : Inhabited Grid := ⟨empty⟩

/-- The cell at a position, if it exists. -/
def get? (g : Grid) (row column : Nat) : Option CellValue := g.cells.lookup (row, column)

/-- What the cell at a position holds. -/
def value (g : Grid) (row column : Nat) : CellValue := (g.get? row column).getD .blank

/-- The last row with a cell. -/
def height (g : Grid) : Nat := g.cells.foldl (fun n cell => max n cell.1.1) 1

/-- The last column with a cell. -/
def width (g : Grid) : Nat := g.cells.foldl (fun n cell => max n cell.1.2) 1

/-- The entries with a cell put at a position, in the place of the one that is there. -/
def putIn (position : Nat × Nat) (v : CellValue) :
    List ((Nat × Nat) × CellValue) → List ((Nat × Nat) × CellValue)
  | [] => [(position, v)]
  | (other, w) :: rest =>
    if other = position then (position, v) :: rest else (other, w) :: putIn position v rest

def put (g : Grid) (row column : Nat) (v : CellValue) : Grid := ⟨putIn (row, column) v g.cells⟩

/-- Creates the cell at a position if it does not exist. -/
def touch (g : Grid) (row column : Nat) : Grid :=
  if (g.get? row column).isSome then g else g.put row column .blank

def touchAll (g : Grid) (positions : List (Nat × Nat)) : Grid :=
  positions.foldl (fun g p => g.touch p.1 p.2) g

/-- The numbers from `first` to `last`. -/
def span (first last : Nat) : List Nat := List.range' first (last + 1 - first)

/-- The positions of a rectangle, row by row. -/
def rectangle (rows columns : List Nat) : List (Nat × Nat) :=
  rows.flatMap fun row => columns.map fun column => (row, column)

/-- The rows below the headers. -/
def dataRows (g : Grid) : List Nat := span 2 g.height

def columns (g : Grid) : List Nat := span 1 g.width

/-! ### Erasing -/

/-- Where a line moves when another one is erased. -/
def shift (erased line : Nat) : Option Nat :=
  if line = erased then none else some (if erased < line then line - 1 else line)

def eraseRow (g : Grid) (row : Nat) : Grid :=
  let filled := g.touchAll (rectangle (span (row + 1) g.height) g.columns)
  ⟨filled.cells.filterMap fun (p, v) => (shift row p.1).map fun r => ((r, p.2), v)⟩

def eraseColumn (g : Grid) (column : Nat) : Grid :=
  let filled := g.touchAll (rectangle (span 1 g.height) (span (column + 1) g.width))
  ⟨filled.cells.filterMap fun (p, v) => (shift column p.2).map fun c => ((p.1, c), v)⟩

/-! ### Laws of single cells -/

theorem lookup_putIn (p q : Nat × Nat) (v : CellValue) (cells : List ((Nat × Nat) × CellValue)) :
    (putIn p v cells).lookup q = if q = p then some v else cells.lookup q := by
  have lookup_cons (r : Nat × Nat) (w : CellValue) (rest) :
      List.lookup q ((r, w) :: rest) = if q = r then some w else List.lookup q rest := by
    by_cases h : q = r
    · simp [h]
    · simp [List.lookup_cons, h, beq_eq_false_iff_ne.mpr h]
  induction cells with
  | nil => simp [putIn, lookup_cons]
  | cons cell rest ih =>
    obtain ⟨r, w⟩ := cell
    by_cases h : r = p
    · subst h
      by_cases hq : q = r <;> simp [putIn, lookup_cons, hq]
    · by_cases hq : q = r
      · subst hq
        simp [putIn, h, lookup_cons]
      · simp [putIn, h, lookup_cons, hq, ih]

theorem get?_put (g : Grid) (row column r c : Nat) (v : CellValue) :
    (g.put row column v).get? r c = if (r, c) = (row, column) then some v else g.get? r c :=
  lookup_putIn ..

theorem value_touch (g : Grid) (row column r c : Nat) :
    (g.touch row column).value r c = g.value r c := by
  unfold touch
  split
  · rfl
  · rename_i h
    simp only [value, get?_put]
    split
    · rename_i e
      obtain ⟨rfl, rfl⟩ := Prod.mk.injEq .. ▸ e
      rw [Option.not_isSome_iff_eq_none.mp h]
      rfl
    · rfl

theorem value_touchAll (g : Grid) (positions : List (Nat × Nat)) (r c : Nat) :
    (g.touchAll positions).value r c = g.value r c := by
  induction positions generalizing g with
  | nil => rfl
  | cons p rest ih =>
    simp only [touchAll, List.foldl_cons]
    exact (ih _).trans (value_touch ..)

end Grid

end SheetCommand
