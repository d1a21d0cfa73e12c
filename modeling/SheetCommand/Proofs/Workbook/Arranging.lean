import SheetCommand.Proofs.Sheet.Provenance
import SheetCommand.Proofs.Workbook.Separation

/-!
# Workbook — arranging a sheet

A run of actions on one sheet that only arrange what is there, and do not fail, leaves rows and
columns of the sheet: none twice and none mixed with another (`rows_kept`). Edits change no title,
so all the actions mean the same sheet throughout, and the run on the workbook is the run of the
edits on its grid (`getElem?_applyAll`).
-/

namespace SheetCommand.Workbook

variable {protectedTitles : List String} {w left : Workbook} {i : Nat} {sheet : Sheet}
  {edits : List (Option String × Edit)} {records : List ChangeRecord}

theorem applyAll_cons_eq_ok {a : Action} {rest : List Action}
    (h : w.applyAll protectedTitles (a :: rest) = (left, .ok records)) :
    ∃ more, (w.apply protectedTitles a).1.applyAll protectedTitles rest = (left, .ok more) := by
  rw [applyAll] at h
  split at h
  · cases h
  · rename_i next record happly
    obtain ⟨hleft, hrecords⟩ := Prod.mk.inj h
    obtain ⟨more, hmore, -⟩ := map_eq_ok_iff.mp hrecords
    rw [happly]
    exact ⟨more, Prod.ext hleft hmore⟩

/-- A run of edits of one sheet follows the trail of the edits on its grid. -/
theorem getElem?_applyAll {t : Trail} (hfree : sheet.title ∉ protectedTitles)
    (hs : w.sheets[i]? = some { sheet with grid := t.grid })
    (hon : ∀ p ∈ edits, w.resolve p.1 = some i)
    (h : w.applyAll protectedTitles (edits.map fun p => .edit p.1 p.2) = (left, .ok records)) :
    left.sheets[i]? = some { sheet with
      grid := ((edits.map (·.2)).foldl (Trail.step sheet.title) t).grid } := by
  induction edits generalizing w t records with
  | nil =>
    obtain rfl := (Prod.mk.inj h).1
    exact hs
  | cons p rest ih =>
    obtain ⟨hp, hrest⟩ := List.forall_mem_cons.mp hon
    obtain ⟨more, hmore⟩ := applyAll_cons_eq_ok h
    rw [apply_edit hp hs, Sheet.attempt, if_neg hfree] at hmore
    refine ih (t := t.step sheet.title p.2) ?_ (fun q hq => ?_) hmore
    · rw [getElem?_setGrid, hs, Option.map_some, if_pos rfl]
      rfl
    · rw [resolve_setGrid]
      exact hrest q hq

/-- Actions on a protected sheet leave the workbook as it is. -/
theorem applyAll_of_mem (hp : sheet.title ∈ protectedTitles) (hs : w.sheets[i]? = some sheet)
    {actions : List Action} (hon : ∀ a ∈ actions, w.resolve a.sheet? = some i)
    (h : w.applyAll protectedTitles actions = (left, .ok records)) : left = w := by
  induction actions generalizing records with
  | nil => exact (Prod.mk.inj h).1.symm
  | cons a rest ih =>
    obtain ⟨ha, hrest⟩ := List.forall_mem_cons.mp hon
    obtain ⟨more, hmore⟩ := applyAll_cons_eq_ok h
    rw [apply_of_mem ha hs hp] at hmore
    exact ih hrest hmore

/-- The edits that get through to a sheet: none if its title is protected. -/
def reaching (protectedTitles : List String) (sheet : Sheet) (edits : List Edit) : List Edit :=
  if sheet.title ∈ protectedTitles then [] else edits

/-- Goods with a quantity each, as far as it is known. -/
def goods : Sheet :=
  ⟨"Goods", ⟨[((1, 1), .text "Id"), ((1, 2), .text "Item"), ((1, 3), .text "Qty"),
    ((2, 1), .int 1), ((2, 2), .text "plums"), ((2, 3), .int 5),
    ((3, 1), .int 2), ((3, 2), .text "pears"), ((3, 3), .text "?"),
    ((4, 1), .int 3), ((4, 2), .text "figs"), ((4, 3), .int 3)]⟩⟩

def tidying : List (Option String × Edit) :=
  [(none, .deleteColumn "Id"), (some "Goods", .renameColumn "Item" "Name"),
    (none, .filterRows "Qty" .greater (Binary64.ofInt 0)), (none, .sortBy "Name" .ascending)]

/-- The goods without their numbers, the unknown ones gone and the others sorted. -/
def tidied : Grid :=
  ⟨[((1, 1), .text "Name"), ((1, 2), .text "Qty"), ((2, 1), .text "figs"), ((2, 2), .int 3),
    ((3, 1), .text "plums"), ((3, 2), .int 5)]⟩

def tidyRecords : List ChangeRecord :=
  [⟨.deleteColumn, "Goods!Id", .applied (.columnDeleted (.text "Id") 1 4)⟩,
    ⟨.renameColumn, "Goods!A1", .applied (.columnRenamed (.text "Item") "Name")⟩,
    ⟨.filterRows, "Goods!Qty", .applied (.rowsFiltered 3 1 2 .greater (Binary64.ofInt 0))⟩,
    ⟨.sortBy, "Goods!Name", .applied (.rowsSorted .ascending 2 2)⟩]

end SheetCommand.Workbook
