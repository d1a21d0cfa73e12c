import SheetCommand.Sheet.Header
import SheetCommand.Sheet.Arrange
import SheetCommand.Sheet.Record

/-!
# Sheet — edits

What the six edits do to a grid. An edit first looks up its columns; if one is missing it is skipped.
An edit that fails leaves the grid as it was at that point: cells it has read exist, and those it has
written stay.
-/

namespace SheetCommand

/-- The grid after an attempt, whether or not it failed. -/
structure Attempt (α : Type) where
  grid : Grid
  result : Except Failure α

namespace Attempt

variable {α β : Type}

/-- Goes on with the grid and the result, unless the attempt has failed. -/
def andThen (a : Attempt α) (next : Grid → α → Attempt β) : Attempt β :=
  match a.result with
  | .ok x => next a.grid x
  | .error e => ⟨a.grid, .error e⟩

def map (f : α → β) (a : Attempt α) : Attempt β := ⟨a.grid, a.result.map f⟩

end Attempt

namespace Grid

/-! ### Columns -/

/-- The letters of a column: `A` to `Z`, `AA` to `AZ` and so on. -/
def columnLetters : Nat → List Char
  | 0 => []
  | n + 1 => columnLetters (n / 26) ++ [Char.ofNat (65 + n % 26)]
termination_by column => column
decreasing_by omega

/-- The columns under some headers, or the headers that have no column. -/
def locate (g : Grid) (names : List String) : Except Failure (Except (List String) (List Nat)) := do
  let found ← names.mapM fun name => return (name, ← g.findColumn name)
  let missing := found.filterMap fun (name, column) => if column.isNone then some name else none
  return if missing.isEmpty then .ok (found.filterMap (·.2)) else .error missing

/-! ### Reading and writing row by row -/

/-- Looks at one column in the given rows and collects the rows that do not pass. -/
def rowsFailing (column : Nat) (test : CellValue → Except Failure Bool) :
    List Nat → Grid → Attempt (List Nat)
  | [], g => ⟨g, .ok []⟩
  | row :: rows, g =>
    let g := g.touch row column
    match test (g.value row column) with
    | .error e => ⟨g, .error e⟩
    | .ok passes =>
      (rowsFailing column test rows g).map fun failing =>
        if passes then failing else row :: failing

/-- Writes the sum of two columns into a third. -/
def writeSums (first second target : Nat) : List Nat → Grid → Attempt Unit
  | [], g => ⟨g, .ok ()⟩
  | row :: rows, g =>
    let g := g.touch row first
    match (g.value row first).addend with
    | .error e => ⟨g, .error e⟩
    | .ok a =>
      let g := g.touch row second
      match (do a.add (← (g.value row second).addend)) with
      | .error e => ⟨g, .error e⟩
      | .ok sum => writeSums first second target rows (g.put row target (.ofNumber sum))

/-- Writes a value into one column wherever the text of another passes, and collects the rows. -/
def writeWhere (target condition : Nat) (passes : List Char → Bool)
    (value : Except Failure CellValue) : List Nat → Grid → Attempt (List Nat)
  | [], g => ⟨g, .ok []⟩
  | row :: rows, g =>
    let g := g.touch row condition
    match (g.value row condition).shown with
    | .error e => ⟨g, .error e⟩
    | .ok shown =>
      if passes shown then
        let g := g.touch row target
        match value with
        | .error e => ⟨g, .error e⟩
        | .ok v =>
          (writeWhere target condition passes value rows (g.put row target v)).map (row :: ·)
      else writeWhere target condition passes value rows g

/-- Puts values side by side into a row, from a column on. -/
def writeRow (row column : Nat) : List CellValue → Grid → Grid
  | [], g => g
  | v :: values, g => writeRow row (column + 1) values (g.put row column v)

/-- Puts rows of values below each other, from a row on. -/
def writeRows (row : Nat) : List (List CellValue) → Grid → Grid
  | [], g => g
  | values :: rest, g => writeRows (row + 1) rest (writeRow row 1 values g)

/-! ### Sorting rows -/

/-- Rows with what they are sorted by. A single row is not looked at. -/
def keyed (column : Nat) (rows : List (List CellValue)) :
    Except Failure (List (SortKey × List CellValue)) :=
  if rows.length < 2 then .ok (rows.map fun row => (⟨none, []⟩, row))
  else rows.mapM fun row => return (← (row[column - 1]?.getD .blank).sortKey, row)

/-- Whether a row comes strictly before another one. -/
def precedes (direction : Direction) (a b : SortKey × List CellValue) : Bool :=
  a.1.compare b.1 == match direction with
    | .ascending => .lt
    | .descending => .gt

end Grid

namespace Edit

open Grid

def missing (title : String) (kind : ActionKind) (names : List String) : ChangeRecord :=
  let quoted := ", ".intercalate (names.map fun name => "'" ++ name ++ "'")
  ⟨kind, title, .skipped .columnNotFound
    ("Column " ++ quoted ++ " not found in sheet '" ++ title ++ "'")⟩

def place (title : String) (part : String) : String := title ++ "!" ++ part

/-- The headers of the columns that an edit reads or writes. -/
def operands : Edit → List String
  | renameColumn old _ => [old]
  | addColumnSum first second _ => [first, second]
  | deleteColumn name => [name]
  | filterRows column _ _ => [column]
  | sortBy column _ => [column]
  | setValueWhere target _ condition _ _ => [target, condition]

def renameAt (title new : String) (g : Grid) (column : Nat) : Attempt ChangeRecord :=
  match CellValue.ofText new with
  | .error e => ⟨g, .error e⟩
  | .ok v => ⟨g.put 1 column v, .ok ⟨.renameColumn,
      place title (.ofList (columnLetters column ++ ['1'])),
      .applied (.columnRenamed (g.value 1 column) new)⟩⟩

def addSums (title first second new : String) (g : Grid) (a b : Nat) : Attempt ChangeRecord :=
  match g.lastHeaderColumn with
  | .error e => ⟨g, .error e⟩
  | .ok last =>
    let column := last + 1
    let g := g.touch 1 column
    match CellValue.ofText new with
    | .error e => ⟨g, .error e⟩
    | .ok header =>
      let g := g.put 1 column header
      let rows := g.dataRows
      (writeSums a b column rows g).map fun _ => ⟨.addColumnSum,
        place title (.ofList (columnLetters column)),
        .applied (.columnAdded new column first second rows.length)⟩

def deleteAt (title name : String) (g : Grid) (column : Nat) : Attempt ChangeRecord :=
  ⟨g.eraseColumn column, .ok ⟨.deleteColumn, place title name,
    .applied (.columnDeleted (g.value 1 column) column g.height)⟩⟩

/-- Rows are erased from the bottom up, so that those still to be erased keep their places. -/
def filterBy (title name : String) (op : Comparison) (value : Binary64) (g : Grid) (column : Nat) :
    Attempt ChangeRecord :=
  let rows := g.dataRows
  (rowsFailing column (·.satisfies op (.real value)) rows g).andThen fun g failing =>
    let g := failing.foldr (fun row g => g.eraseRow row) g
    ⟨g, .ok ⟨.filterRows, place title name,
      .applied (.rowsFiltered rows.length failing.length g.width op value)⟩⟩

def sortRows (title name : String) (direction : Direction) (g : Grid) (column : Nat) :
    Attempt ChangeRecord :=
  let g := g.touchAll (rectangle g.dataRows g.columns)
  let rows := g.dataRows.map fun row => g.columns.map fun c => g.value row c
  match keyed column rows with
  | .error e => ⟨g, .error e⟩
  | .ok rows =>
    let sorted := Arrange.arrange (precedes direction) rows
    ⟨writeRows 2 (sorted.map (·.2)) g, .ok ⟨.sortBy, place title name,
      .applied (.rowsSorted direction rows.length g.width)⟩⟩

def setWhere (title target : String) (op : Equality) (condition conditionValue value : String)
    (g : Grid) (targetColumn conditionColumn : Nat) : Attempt ChangeRecord :=
  let passes shown := op.holds (String.ofList shown = conditionValue)
  (writeWhere targetColumn conditionColumn passes (CellValue.ofText value) g.dataRows g).map fun rows =>
    ⟨.setValueWhere, place title target,
      .applied (.valuesSet value condition op conditionValue rows)⟩

/-- What an edit does once its columns are found. -/
def applyAt (title : String) (g : Grid) : Edit → List Nat → Attempt ChangeRecord
  | renameColumn _ new, [column] => renameAt title new g column
  | addColumnSum first second new, [a, b] => addSums title first second new g a b
  | deleteColumn name, [column] => deleteAt title name g column
  | filterRows name op value, [column] => filterBy title name op value g column
  | sortBy name direction, [column] => sortRows title name direction g column
  | setValueWhere target op condition conditionValue value, [t, c] =>
    setWhere title target op condition conditionValue value g t c
  | e, _ => ⟨g, .ok (missing title e.kind e.operands)⟩

/-- Applies an edit to the grid of the sheet with the given title. -/
def apply (e : Edit) (title : String) (g : Grid) : Attempt ChangeRecord :=
  let g := g.touchHeaders
  match g.locate e.operands with
  | .error failure => ⟨g, .error failure⟩
  | .ok (.error names) => ⟨g, .ok (missing title e.kind names)⟩
  | .ok (.ok columns) => e.applyAt title g columns

end Edit

end SheetCommand
