import SheetCommand.Proofs.Instruction.Selection
import SheetCommand.Proofs.Sheet.Filtering
import SheetCommand.Proofs.Sheet.IntegerText
import SheetCommand.Proofs.Workbook.Separation
import SheetCommand.Proofs.Workbook.Titles

/-!
# Workbook — rows kept by an integer

`keep rows where Qty == 5` and `keep rows where Qty != 5` part the rows of a sheet by the integers in
one of its columns. The integer of the instruction may have any number of digits, but it is rounded to
a number, while a cell counts as its integer. So the rows that are kept for `==`, and dropped for `!=`,
are those that count as the rounded integer (`instruct_keepQty`). They are the rows with the integer
itself if that is a number, as it is up to `2 ^ 53`; the next integer is none, and is taken for another
one (`instruct_keepQty_rounds`).
-/

namespace SheetCommand

open Instruction

namespace Workbook

variable {protectedTitles : List String} {w : Workbook} {i column : Nat} {sheet : Sheet}

/-- A selection does to its sheet what its filter does. -/
theorem instruct_selection (s : Selection)
    (hi : w.resolve (mentionedSheet (Wording.of s.text).lower w.titles) = some i)
    (hs : w.sheets[i]? = some sheet) (hfree : sheet.title ∉ protectedTitles) :
    w.instruct protectedTitles s.text = w.setGrid i
      ((Edit.filterRows s.column.titled s.sign.comparison (.ofInt s.number)).apply sheet.title
        sheet.grid).grid := by
  have hread := s.interpret_text w.titles
  rw [instruct_eq (hread ▸ List.mem_singleton_self _), Selection.request, Request.onSheet,
    apply_edit hi hs, Sheet.attempt, if_neg hfree]

/-- `keep rows where Qty == 5`. -/
def keepQty (op : Equality) (n : Nat) : String :=
  "keep rows where Qty " ++ op.symbol ++ " " ++ toString n

def qty : SpacedName := ⟨"Qty", by decide +kernel, by decide +kernel⟩

theorem titled_qty : qty.titled = "Qty" := by decide +kernel

/-- The instruction with its parts open. -/
def qtySelection (op : Equality) (n : Nat) : Selection := ⟨qty, .symbol op.comparison, n⟩

theorem text_qtySelection (op : Equality) (n : Nat) : (qtySelection op n).text = keepQty op n := by
  cases op <;> rfl

/-- **The rows that are kept by an integer.** Let the cells in the column of `Qty` be texts of
integers. Then `==` keeps, whole and in their order, the rows that count as the rounded integer, and
`!=` the others, while the header row and all other sheets stay. If the integer is itself a number, as
it is up to `2 ^ 53`, these are the rows with that integer, but for texts with so many zeros in front
that they have more digits than an integer may have. The rounded integer is a number than which none is
closer, or is beyond the numbers, where no row counts as it. -/
theorem instruct_keepQty (op : Equality) (n : Nat)
    (hi : w.resolve (mentionedSheet (Wording.of (keepQty op n)).lower w.titles) = some i)
    (hs : w.sheets[i]? = some sheet) (hfree : sheet.title ∉ protectedTitles)
    (hcolumn : sheet.grid.findColumn "Qty" = .ok (some column)) (cells : Nat → IntegerText)
    (hcells : ∀ row ∈ sheet.grid.dataRows,
      sheet.grid.value row column = .text (cells row).text) :
    let rounded := Binary64.ofInt n
    ∃ left kept,
      w.instruct protectedTitles (keepQty op n) = w.setGrid i left ∧
      left.rows = sheet.grid.readRows (1 :: kept) ∧ kept.Sublist sheet.grid.dataRows ∧
      (∀ row ∈ sheet.grid.dataRows, row ∈ kept ↔ op.Says ((cells row).CountsAs rounded)) ∧
      ((∃ x : Binary64, x.value? = some (n : ℚ)) → ∀ row ∈ sheet.grid.dataRows,
        (cells row).IsUnpadded → (row ∈ kept ↔ op.Says ((cells row).value = n))) ∧
      (n ≤ 2 ^ 53 → ∃ x : Binary64, x.value? = some (n : ℚ)) ∧
      (∀ p, rounded.value? = some p →
        ∀ (x : Binary64) (q : ℚ), x.value? = some q → |(n : ℚ) - p| ≤ |(n : ℚ) - q|) ∧
      (2 ^ 1024 ≤ n → rounded.value? = none) := by
  intro rounded
  have hrange : ∀ row ∈ sheet.grid.dataRows, (sheet.grid.value row column).IsInRange := by
    intro row hrow
    rw [hcells row hrow]
    exact trivial
  obtain ⟨left, hselected, happly⟩ :=
    Grid.exists_filterRows hcolumn hrange sheet.title op.comparison rounded
  have hkept : ∀ row ∈ sheet.grid.dataRows,
      row ∈ sheet.grid.rowsWhere column op.comparison rounded ↔
        op.Says ((cells row).CountsAs rounded) := by
    intro row hrow
    rw [Grid.rowsWhere, List.mem_filter, decide_eq_true_iff, hcells row hrow,
      IntegerText.satisfies_iff, and_iff_right hrow]
  refine ⟨left, _, ?_, hselected.rows_eq, List.filter_sublist, hkept, ?_, ?_, ?_, ?_⟩
  · rw [← text_qtySelection] at hi ⊢
    rw [instruct_selection _ hi hs hfree, qtySelection, titled_qty]
    exact congrArg (fun a => w.setGrid i (Attempt.grid a)) happly
  · intro hn row hrow hunpadded
    exact (hkept row hrow).trans
      (Equality.says_congr (IntegerText.countsAs_ofInt_iff (by exact_mod_cast hn) hunpadded))
  · intro hsmall
    have hexact := Binary64.toInt?_eq_some_iff.mp (Binary64.toInt?_ofInt (n := n) hsmall)
    exact ⟨rounded, by exact_mod_cast hexact⟩
  · intro p hp x q hx
    have hnearest := Binary64.ofInt_eq_nearest n
    push_cast at hnearest
    exact Binary64.abs_sub_nearest_le (hnearest ▸ hp) hx
  · intro hlarge
    have hinfinite := Binary64.isFinite_ofInt_eq_false (n := n) hlarge
    rwa [← Binary64.isSome_value?, Option.isSome_eq_false_iff, Option.isNone_iff_eq_none] at hinfinite

/-- Crates with their quantities, two of which differ by one and are rounded to the same number. -/
def crateRows : Grid :=
  ⟨[((1, 1), .text "To"), ((1, 2), .text "Qty"), ((2, 1), .text "Ann"),
    ((2, 2), .text "9007199254740992"), ((3, 1), .text "Ben"), ((3, 2), .text "9007199254740993"),
    ((4, 2), .text "-7")]⟩

def crates : Workbook := ⟨[⟨"Crates", crateRows⟩]⟩

/-- The quantities by rows. -/
def quantities : Nat → IntegerText
  | 2 => .ofInt 9007199254740992
  | 3 => .ofInt 9007199254740993
  | _ => .ofInt (-7)

theorem instruct_keepQty_crates :
    keepQty .equal (2 ^ 53) = "keep rows where Qty == 9007199254740992" ∧
      crates.resolve (mentionedSheet (Wording.of (keepQty .equal (2 ^ 53))).lower crates.titles) =
        some 0 ∧
      crateRows.findColumn "Qty" = .ok (some 2) ∧
      (∀ row ∈ crateRows.dataRows, crateRows.value row 2 = .text (quantities row).text) ∧
      (∃ x : Binary64, x.value? = some ((2 ^ 53 : Nat) : ℚ)) ∧
      ∃ left kept, crates.instruct [] (keepQty .equal (2 ^ 53)) = crates.setGrid 0 left ∧
        left.rows = crateRows.readRows (1 :: kept) ∧ 2 ∈ kept ∧ 3 ∉ kept ∧ 4 ∉ kept := by
  have hi : crates.resolve
      (mentionedSheet (Wording.of (keepQty .equal (2 ^ 53))).lower crates.titles) = some 0 := by
    decide +kernel
  have hcolumn : crateRows.findColumn "Qty" = .ok (some 2) := by decide +kernel
  have hcells : ∀ row ∈ crateRows.dataRows, crateRows.value row 2 = .text (quantities row).text := by
    decide +kernel
  obtain ⟨left, kept, hleft, hrows, -, -, hkept, hsmall, -⟩ :=
    instruct_keepQty .equal (2 ^ 53) hi rfl List.not_mem_nil hcolumn quantities hcells
  have hexact := hkept (hsmall (by decide))
  refine ⟨by decide, hi, hcolumn, hcells, hsmall (by decide), left, kept, hleft, hrows, ?_, ?_, ?_⟩
  · exact (hexact 2 (by decide) (.inl (by decide))).mpr (by decide +kernel)
  · exact mt (hexact 3 (by decide) (.inl (by decide))).mp (by decide +kernel)
  · exact mt (hexact 4 (by decide) (.inl (by decide))).mp (by decide +kernel)

/-- **An integer that is no number is taken for another one**: the row with the integer is dropped, and
a row with another integer is kept. -/
theorem instruct_keepQty_rounds :
    (quantities 2).value = 9007199254740992 ∧ (quantities 3).value = 9007199254740993 ∧
      crates.instruct [] "keep rows where Qty == 9007199254740993" = ⟨[⟨"Crates",
        ⟨[((1, 1), .text "To"), ((1, 2), .text "Qty"),
          ((2, 1), .text "Ann"), ((2, 2), .text (quantities 2).text)]⟩⟩]⟩ :=
  ⟨IntegerText.value_ofInt _, IntegerText.value_ofInt _, by decide +kernel⟩

end Workbook

end SheetCommand
