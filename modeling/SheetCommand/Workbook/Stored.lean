import SheetCommand.Workbook.Basic

/-!
# Workbook — storing

Storing a workbook and opening it again keeps less than the workbook held. Cells that hold nothing
vanish; an empty text and a number that is not finite leave a cell that holds nothing. A number is
stored with sixteen digits and comes back as an integer if its text is one. Line ends become `\n`.
-/

namespace SheetCommand

/-- The number that a stored text denotes. -/
def Numeral.ofStored (text : List Char) : CellValue :=
  if text.any fun c => c == '.' || c == 'e' then
    match Numeral.plainDecimal? text with
    | some x => .real x
    | none => .blank
  else match Numeral.plainInt? text with
    | some n => .int n
    | none => .blank

namespace Text

/-- Every line end becomes a line feed. -/
def unixLines : List Char → List Char
  | [] => []
  | '\r' :: '\n' :: rest => '\n' :: unixLines rest
  | '\r' :: rest => '\n' :: unixLines rest
  | c :: rest => c :: unixLines rest

end Text

/-- What a cell holds after storing and opening; no cell comes back where there was nothing. -/
def CellValue.stored : CellValue → Except Failure (Option CellValue)
  | blank => .ok none
  | int n =>
    let x := Binary64.ofInt n
    if x.isFinite then .ok (some (Numeral.ofStored x.stored)) else .error .overflow
  | real x => .ok (some (if x.isFinite then Numeral.ofStored x.stored else blank))
  | text s => .ok (some (if s.isEmpty then blank else text (.ofList (Text.unixLines s.toList))))
  | v => .ok (some v)

/-- The cells of a grid after storing and opening. -/
def Grid.stored (g : Grid) : Except Failure Grid := do
  let cells ← g.cells.mapM fun (position, v) => return (← v.stored).map (position, ·)
  return ⟨cells.filterMap id⟩

namespace Workbook

/-- The workbook as it is stored. -/
def stored (w : Workbook) : Except Failure Workbook :=
  if w.sheets.isEmpty then .error .noSheets
  else do
    let sheets ← w.sheets.mapM fun sheet => return { sheet with grid := ← sheet.grid.stored }
    return ⟨sheets⟩

/-- The workbook opened from what was stored: its sheets are added one by one, so that a title that
is taken is changed. -/
def opened (w : Workbook) : Except Failure Workbook :=
  w.sheets.foldlM (fun w sheet => w.addSheet sheet.title sheet.grid) empty

end Workbook

end SheetCommand
