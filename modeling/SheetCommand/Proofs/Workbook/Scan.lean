import SheetCommand.Proofs.Sheet.Attempt
import SheetCommand.Proofs.Workbook.Frame
import SheetCommand.Workbook.Payload

/-!
# Workbook — scans

A workbook whose headers have been scanned holds more cells than before, and the cells that it
holds decide what later deletions move. The canonical form `scanned` has the headers of every sheet
scanned; two workbooks are alike if their canonical forms are equal. Alike workbooks look alike
(`view_scanned`), answer every action alike and are left alike by it (`apply_scanned`), and are
stored as the same bytes (`save_scanned`).
-/

namespace SheetCommand

/-- A sheet after a scan of its headers. -/
def Sheet.scanned (sheet : Sheet) : Sheet := { sheet with grid := sheet.grid.touchHeaders }

theorem Sheet.scanned_scanned (sheet : Sheet) : sheet.scanned.scanned = sheet.scanned := by
  rw [scanned, scanned, Grid.touchHeaders_touchHeaders]

/-- What is seen of a sheet: its title, its extents, and what every position within them holds. -/
structure SheetView where
  title : String
  height : Nat
  width : Nat
  rows : List (List CellValue)
  deriving DecidableEq

def Sheet.view (sheet : Sheet) : SheetView :=
  ⟨sheet.title, sheet.grid.height, sheet.grid.width, sheet.grid.rows⟩

theorem Sheet.view_scanned (sheet : Sheet) : sheet.scanned.view = sheet.view := by
  simp only [view, scanned, Grid.rows, Grid.height_touchHeaders, Grid.width_touchHeaders,
    Grid.columns_touchHeaders, Grid.value_touchHeaders]

namespace Workbook

/-- A workbook after a scan of the headers of every sheet. -/
def scanned (w : Workbook) : Workbook := ⟨w.sheets.map Sheet.scanned⟩

/-- What is seen of a workbook: its sheets in order. -/
def view (w : Workbook) : List SheetView := w.sheets.map Sheet.view

theorem view_scanned (w : Workbook) : w.scanned.view = w.view := by
  simp only [view, scanned, List.map_map]
  exact List.map_congr_left fun sheet _ => sheet.view_scanned

theorem view_eq_of_scanned_eq {w w' : Workbook} (h : w.scanned = w'.scanned) :
    w.view = w'.view := by
  rw [← view_scanned w, h, view_scanned]

theorem scanned_scanned (w : Workbook) : w.scanned.scanned = w.scanned := by
  simp only [scanned, List.map_map]
  congr 1
  exact List.map_congr_left fun sheet _ => sheet.scanned_scanned

theorem titles_scanned (w : Workbook) : w.scanned.titles = w.titles := by
  simp only [titles, scanned, List.map_map]
  rfl

theorem getElem?_scanned (w : Workbook) (i : Nat) :
    w.scanned.sheets[i]? = (w.sheets[i]?).map Sheet.scanned :=
  List.getElem?_map ..

theorem resolve_scanned (w : Workbook) (title : Option String) :
    w.scanned.resolve title = w.resolve title := by
  have h : w.scanned.indexOf? = w.indexOf? := by
    funext name
    rw [indexOf?, indexOf?, scanned, List.findIdx?_map]
    rfl
  have he : w.scanned.sheets.isEmpty = w.sheets.isEmpty := List.isEmpty_map
  rw [resolve, resolve, h, he]

private theorem ext_sheets {w w' : Workbook} (h : ∀ j : Nat, w.sheets[j]? = w'.sheets[j]?) :
    w = w' := by
  cases w; cases w'
  congr 1
  exact List.ext_getElem? h

/-- Setting a grid is alike whether or not the headers are scanned, before or after. -/
theorem scanned_setGrid (w : Workbook) (i : Nat) (grid : Grid) :
    (w.scanned.setGrid i grid).scanned = (w.setGrid i grid).scanned := by
  apply ext_sheets
  intro j
  simp only [getElem?_scanned, getElem?_setGrid, Option.map_map]
  congr 1
  funext sheet
  by_cases h : i = j
  · simp [h, Sheet.scanned]
  · simp [h, Sheet.scanned_scanned]

theorem scanned_setTitle (w : Workbook) (i : Nat) (title : String) :
    (w.scanned.setTitle i title).scanned = (w.setTitle i title).scanned := by
  apply ext_sheets
  intro j
  simp only [getElem?_scanned, getElem?_setTitle, Option.map_map]
  congr 1
  funext sheet
  by_cases h : i = j
  · simp [h, Sheet.scanned, Grid.touchHeaders_touchHeaders]
  · simp [h, Sheet.scanned_scanned]

/-- A scan of one sheet is no change up to a scan of all. -/
theorem scanned_setGrid_touchHeaders {w : Workbook} {i : Nat} {sheet : Sheet}
    (hs : w.sheets[i]? = some sheet) :
    (w.setGrid i sheet.grid.touchHeaders).scanned = w.scanned := by
  apply ext_sheets
  intro j
  rw [getElem?_scanned, getElem?_scanned, getElem?_setGrid]
  by_cases h : i = j
  · subst h
    simp [hs, Sheet.scanned, Grid.touchHeaders_touchHeaders]
  · simp [h]

/-! ### Actions -/

theorem renameSheet_scanned (w : Workbook) (i : Nat) (sheet : Sheet) (wanted : String) :
    (w.scanned.renameSheet i sheet.scanned wanted).2 = (w.renameSheet i sheet wanted).2 ∧
      (w.scanned.renameSheet i sheet.scanned wanted).1.scanned =
        (w.renameSheet i sheet wanted).1.scanned := by
  simp only [renameSheet, titles_scanned, Sheet.scanned]
  split
  · exact ⟨rfl, scanned_scanned w⟩
  · exact ⟨rfl, scanned_setTitle ..⟩

theorem applyAt_scanned (w : Workbook) (i : Nat) (sheet : Sheet) (a : Action) :
    (w.scanned.applyAt i sheet.scanned a).2 = (w.applyAt i sheet a).2 ∧
      (w.scanned.applyAt i sheet.scanned a).1.scanned = (w.applyAt i sheet a).1.scanned := by
  cases a with
  | renameSheet old new => exact renameSheet_scanned w i sheet new
  | edit name e =>
    simp only [applyAt, Sheet.scanned, Edit.apply_touchHeaders]
    exact ⟨trivial, scanned_setGrid ..⟩

/-- Scanned headers make no difference to the answer of an action, nor to what it leaves. -/
theorem apply_scanned (protectedTitles : List String) (w : Workbook) (a : Action) :
    (w.scanned.apply protectedTitles a).2 = (w.apply protectedTitles a).2 ∧
      (w.scanned.apply protectedTitles a).1.scanned = (w.apply protectedTitles a).1.scanned := by
  unfold apply
  rw [resolve_scanned]
  cases hi : w.resolve a.sheet? with
  | none => exact ⟨rfl, scanned_scanned w⟩
  | some i =>
    simp only [getElem?_scanned]
    cases hs : w.sheets[i]? with
    | none => exact ⟨rfl, scanned_scanned w⟩
    | some sheet =>
      simp only [Option.map_some]
      by_cases hp : protectedTitles.contains sheet.title = true
      · rw [if_pos hp, if_pos (by exact hp)]
        exact ⟨rfl, scanned_scanned w⟩
      · rw [if_neg hp, if_neg (by exact hp)]
        exact applyAt_scanned w i sheet a

/-- A skipped action has scanned the headers of one sheet at most. -/
theorem scanned_apply_of_isSkipped {protectedTitles : List String} {w : Workbook} {a : Action}
    {r : ChangeRecord} (h : (w.apply protectedTitles a).2 = .ok r) (hr : r.isSkipped = true) :
    (w.apply protectedTitles a).1.scanned = w.scanned := by
  have d := dealt_apply protectedTitles w a
  generalize w.apply protectedTitles a = outcome at d h ⊢
  cases d with
  | sheetless _ | refused _ _ _ => rfl
  | @carriedOut i sheet _ hs _ =>
    cases a with
    | renameSheet old new =>
      replace h : (w.renameSheet i sheet new).2 = .ok r := h
      rcases renameSheet_cases w i sheet new with ⟨f, e⟩ | ⟨title, e⟩
      · rw [e] at h; cases h
      · rw [e] at h; cases h; cases hr
    | edit name e =>
      show (w.setGrid i (e.apply sheet.title sheet.grid).grid).scanned = w.scanned
      rw [Edit.grid_apply_of_isSkipped h hr, scanned_setGrid_touchHeaders hs]

end Workbook

/-! ### Storing -/

/-- Cells that hold nothing are not stored. -/
private theorem mapM_stored_of_blank {cells : List ((Nat × Nat) × CellValue)}
    (h : ∀ cell ∈ cells, cell.2 = .blank) :
    (cells.mapM fun (position, v) =>
      (do return (← v.stored).map (position, ·) :
        Except Failure (Option ((Nat × Nat) × CellValue)))) =
      .ok (List.replicate cells.length none) := by
  induction cells with
  | nil => rfl
  | cons cell rest ih =>
    obtain ⟨p, v⟩ := cell
    obtain ⟨hv, hrest⟩ := List.forall_mem_cons.mp h
    obtain rfl : v = .blank := hv
    rw [List.mapM_cons, ih hrest]
    rfl

theorem Grid.stored_touchAll (g : Grid) (positions : List (Nat × Nat)) :
    (g.touchAll positions).stored = g.stored := by
  obtain ⟨created, hcells, hblank⟩ := g.cells_touchAll positions
  rw [Grid.stored, Grid.stored, hcells, List.mapM_append, mapM_stored_of_blank hblank]
  cases g.cells.mapM fun (position, v) =>
    (do return (← v.stored).map (position, ·) :
      Except Failure (Option ((Nat × Nat) × CellValue))) with
  | error f => rfl
  | ok cells =>
    show Except.ok (Grid.mk ((cells ++ List.replicate created.length none).filterMap id)) =
      Except.ok (Grid.mk (cells.filterMap id))
    rw [List.filterMap_append, List.filterMap_replicate_of_none rfl, List.append_nil]

theorem Workbook.stored_scanned (w : Workbook) : w.scanned.stored = w.stored := by
  simp only [stored, scanned, List.isEmpty_map, List.mapM_map, Function.comp_def, Sheet.scanned,
    Grid.touchHeaders, Grid.stored_touchAll]

theorem Payload.save_scanned (w : Workbook) : save w.scanned = save w := by
  rw [save, save, Workbook.stored_scanned]

end SheetCommand
