import SheetCommand.Proofs.Sheet.Commuting
import SheetCommand.Proofs.Workbook.Separation

/-!
# Workbook — row edits in either order

Two filters of one sheet, or a filter and a sort, can be made in either order: the workbooks that
are left hold the same (`row_edits_commute`). For a sort this takes a column whose cells have a
rank; elsewhere the comparison of cells can go in a circle, and then dropping a row can change the
order of the others.
-/

namespace SheetCommand.Workbook

variable {protectedTitles : List String} {w : Workbook} {i : Nat} {sheet : Sheet}
  {s t : Option String} {e f : Edit} {g left : Grid}

theorem setGrid_setGrid (w : Workbook) (i : Nat) (g g' : Grid) :
    (w.setGrid i g).setGrid i g' = w.setGrid i g' := by
  simp only [setGrid, mk.injEq]
  rw [List.modify_modify_eq]
  rfl

/-- Two edits of one sheet are made on its grid, one after the other. -/
theorem applyAll_pair (hs : w.sheets[i]? = some sheet) (hsr : w.resolve s = some i)
    (htr : w.resolve t = some i) {record record' : ChangeRecord}
    (he : sheet.attempt protectedTitles e = ⟨g, .ok record⟩)
    (hf : { sheet with grid := g }.attempt protectedTitles f = ⟨left, .ok record'⟩) :
    w.applyAll protectedTitles [.edit s e, .edit t f] =
      (w.setGrid i left, .ok [record, record']) := by
  have hfirst : w.apply protectedTitles (.edit s e) = (w.setGrid i g, .ok record) := by
    rw [apply_edit hsr hs, he]
  have hthere : (w.setGrid i g).sheets[i]? = some { sheet with grid := g } := by
    rw [getElem?_setGrid, hs, Option.map_some, if_pos rfl]
  have hsecond : (w.setGrid i g).apply protectedTitles (.edit t f) =
      (w.setGrid i left, .ok record') := by
    rw [apply_edit ((resolve_setGrid ..).trans htr) hthere, hf, setGrid_setGrid]
  simp only [applyAll, hfirst, hsecond]
  rfl

/-- Two actions can be applied in either order: neither fails, only the sheet at one place changes,
and it holds the same rows. -/
def InEitherOrder (protectedTitles : List String) (w : Workbook) (i : Nat) (a b : Action) : Prop :=
  ∃ left right records records',
    w.applyAll protectedTitles [a, b] = (w.setGrid i left, .ok records) ∧
    w.applyAll protectedTitles [b, a] = (w.setGrid i right, .ok records') ∧
    left.rows = right.rows

theorem inEitherOrder_of_commute (hs : w.sheets[i]? = some sheet) (hsr : w.resolve s = some i)
    (htr : w.resolve t = some i) (h : Grid.Commute sheet.title sheet.grid e f) :
    InEitherOrder protectedTitles w i (.edit s e) (.edit t f) := by
  by_cases hp : sheet.title ∈ protectedTitles
  · have hrefused : ∀ e, sheet.attempt protectedTitles e =
        ⟨sheet.grid, .ok (refused (.edit none e) sheet.title)⟩ := fun e => if_pos hp
    exact ⟨sheet.grid, sheet.grid, _, _, applyAll_pair hs hsr htr (hrefused e) (hrefused f),
      applyAll_pair hs htr hsr (hrefused f) (hrefused e), rfl⟩
  · have hmade : ∀ (g : Grid) e, { sheet with grid := g }.attempt protectedTitles e =
        e.apply sheet.title g := fun g e => if_neg hp
    obtain ⟨left, right, ⟨g, _, _, he, hf⟩, ⟨g', _, _, hf', he'⟩, hrows⟩ := h
    exact ⟨left, right, _, _,
      applyAll_pair hs hsr htr ((hmade _ e).trans he) ((hmade g f).trans hf),
      applyAll_pair hs htr hsr ((hmade _ f).trans hf') ((hmade g' e).trans he'), hrows⟩

/-- Parcels and what they weigh. One weight is missing, one is a text. -/
def depot : Sheet :=
  ⟨"Parcels", ⟨[((1, 1), .text "To"), ((1, 2), .text "Weight"), ((2, 1), .text "Dee"),
    ((2, 2), .int 12), ((3, 1), .text "Ben"), ((4, 1), .text "Ann"), ((4, 2), .text "1,200"),
    ((5, 1), .text "Cid"), ((5, 2), .real (.ofInt 7))]⟩⟩

end SheetCommand.Workbook
