import Mathlib.Algebra.Group.Int.Defs
import SheetCommand.Proofs.Sheet.Failing
import SheetCommand.Proofs.Workbook.Frame

/-!
# Workbook — atomicity

An action that fails is not taken back. Its failure is the end of the run that it is part of, and
what it leaves behind is never saved; so it is enough to know what that can be. The titles and the
other sheets are as before, and so are the values of its own sheet, except for the two edits that
write row by row (`Edit.Leaves`).
-/

namespace SheetCommand.Workbook

/-- A sheet with an amount that is no real number, below one that is. -/
def amounts : Workbook :=
  ⟨[⟨"S", ⟨[((1, 1), .text "A"), ((1, 2), .text "B"), ((2, 1), .int 1), ((2, 2), .int 2),
    ((3, 1), .int (10 ^ 309)), ((3, 2), .int 1)]⟩⟩]⟩

def addAmounts : Action := .edit none (.addColumnSum "A" "B" "C")

/-- What is left when the amounts are added. -/
def amountsLeft : Grid :=
  ⟨[((1, 1), .text "A"), ((1, 2), .text "B"), ((2, 1), .int 1), ((2, 2), .int 2),
    ((3, 1), .int (10 ^ 309)), ((3, 2), .int 1), ((1, 3), .text "C"), ((2, 3), .int 3)]⟩

theorem apply_amounts :
    amounts.apply [] addAmounts = (⟨[⟨"S", amountsLeft⟩]⟩, .error .overflow) := by
  decide +kernel

end SheetCommand.Workbook
