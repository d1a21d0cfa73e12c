import SheetCommand.Proofs.Instruction.Names
import SheetCommand.Proofs.Sheet.Reasons
import SheetCommand.Proofs.Workbook.FreshTitle
import SheetCommand.Proofs.Workbook.Frame

/-!
# Workbook — actions from instructions can be carried out

The names in an action that comes from an instruction are not empty, have no mark that titles
refuse and no character that cells refuse. So a sheet can be renamed, a column can be headed, and
what is left to fail is in the workbook or in quotes: an integer beyond the range of real numbers in
a cell, and a quoted value that cells refuse (`interpreted_action_safe`).
-/

namespace SheetCommand

open Instruction Text

/-! ### Characters of names -/

theorem not_isNameChar_of_mem_marks : ∀ c ∈ Title.marks, isNameChar c = false := by
  have h : (Title.marks.all fun c => !isNameChar c) = true := by decide
  intro c hc
  simpa using List.all_eq_true.mp h c hc

theorem small_allowed : ∀ n < 128, isNameChar (Char.ofNat n) = true →
    CellValue.isForbidden (Char.ofNat n) = false := by
  decide

theorem isForbidden_of_isNameChar {c : Char} (h : isNameChar c = true) :
    CellValue.isForbidden c = false := by
  refine of_isNameChar (P := fun c => CellValue.isForbidden c = false) h (fun hlarge => ?_)
    small_allowed
  simp only [CellValue.isForbidden, Bool.or_eq_false_iff, Bool.and_eq_false_iff, beq_eq_false_iff_ne,
    decide_eq_false_iff_not]
  omega

/-- A name that a sheet may have and a cell may hold. -/
structure IsUsable (name : String) : Prop where
  ne_empty : name ≠ ""
  no_mark : ∀ c ∈ name.toList, c ∉ Title.marks
  allowed : Edit.IsAllowed name

theorem IsTitle.isUsable {name : String} (h : IsTitle name.toList) : IsUsable name where
  ne_empty := by
    rintro rfl
    exact h.ne_nil rfl
  no_mark c hc hmark := by
    have hname := h.isName c hc
    rw [not_isNameChar_of_mem_marks c hmark] at hname
    cases hname
  allowed c hc := isForbidden_of_isNameChar (h.isName c hc)

theorem Edit.headers_subset_names (e : Edit) : e.headers ⊆ e.names := by
  cases e <;> simp [headers, names]

/-! ### Carrying out -/

namespace Workbook

variable {protectedTitles : List String} {w : Workbook} {f : Failure}

/-- An action with usable names fails as an edit of the sheet that it is for. -/
theorem exists_edit_of_apply_eq_error (htitles : ∀ t ∈ w.titles, t.length < Numeral.digitLimit)
    {a : Action} (hnames : ∀ name ∈ a.names, IsUsable name)
    (h : (w.apply protectedTitles a).2 = .error f) :
    ∃ reference e sheet, a = .edit reference e ∧ w.resolved? reference = some sheet ∧
      (e.apply sheet.title sheet.grid).result = .error f := by
  have d := dealt_apply protectedTitles w a
  generalize w.apply protectedTitles a = outcome at d h
  cases d with
  | sheetless _ | refused _ _ _ => cases h
  | @carriedOut i sheet hi hs hp =>
    cases a with
    | edit reference e =>
      refine ⟨reference, e, sheet, rfl, ?_, h⟩
      rw [resolved?, show w.resolve reference = some i from hi]
      exact hs
    | renameSheet old new =>
      have hnew := hnames new (by simp [Action.names])
      simp only [applyAt, renameSheet] at h
      split at h
      · rename_i hassign
        exact absurd hassign
          (Title.assign_ne_error htitles hnew.ne_empty hnew.no_mark (some sheet.title) _)
      · cases h

/-- An amount beyond the range of real numbers. -/
def turnover : Workbook :=
  ⟨[⟨"Turnover", ⟨[((1, 1), .text "Amount"), ((2, 1), .int (10 ^ 400 : Nat))]⟩⟩]⟩

theorem isShort_of_cells {g : Grid} (h : ∀ cell ∈ g.cells, cell.2.IsShort) : g.IsShort := by
  intro r c n hn
  unfold Grid.value Grid.get? at hn
  cases hl : g.cells.lookup (r, c) with
  | none => rw [hl] at hn; cases hn
  | some v =>
    rw [hl] at hn
    obtain ⟨before, after, hsplit, -⟩ := List.lookup_eq_some_iff.mp hl
    exact h ((r, c), v) (by rw [hsplit]; simp) n hn

theorem isShort_ten_pow {k : Nat} (h : k < Numeral.digitLimit) :
    (CellValue.int (10 ^ k : Nat)).IsShort := by
  intro n hn
  obtain rfl := CellValue.int.inj hn
  exact Nat.toDigits_length 10 _ _ (by decide) (Nat.pow_lt_pow_right (by decide) h)

theorem isShort_turnover : ∀ sheet ∈ turnover.sheets, sheet.grid.IsShort := by
  intro sheet hsheet
  obtain rfl := List.mem_singleton.mp hsheet
  refine isShort_of_cells fun cell hcell => ?_
  rcases List.mem_cons.mp hcell with rfl | hcell
  · nofun
  · obtain rfl := List.mem_singleton.mp hcell
    exact isShort_ten_pow (k := 400) (by decide)

end Workbook

end SheetCommand
