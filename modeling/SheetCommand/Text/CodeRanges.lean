/-!
# Text — tables of code points

The properties of characters that instructions and headers depend on are given by tables: a
property is a list of inclusive ranges, a case mapping a list of runs that all move by one distance.
The tables list only code points from 128 on; the ASCII part of each property is written out in the
function that uses the table, so that reasoning about ASCII text never opens one.
-/

namespace SheetCommand.Text

/-- Inclusive ranges of code points, in increasing order. -/
abbrev CodeRanges := List (Nat × Nat)

def CodeRanges.has (ranges : CodeRanges) (code : Nat) : Bool :=
  ranges.any fun (first, last) => first ≤ code && code ≤ last

/-- Runs `(first, last, step, target)`: the code points `first`, `first + step`, … up to `last`
are sent to `target`, `target + step`, …. -/
abbrev CodeRuns := List (Nat × Nat × Nat × Nat)

def CodeRuns.send? (runs : CodeRuns) (code : Nat) : Option Nat :=
  runs.findSome? fun (first, last, step, target) =>
    if first ≤ code ∧ code ≤ last ∧ (code - first) % step = 0 then some (target + (code - first))
    else none

/-- The code points that a single code point turns into. -/
abbrev CodeExpansions := List (Nat × List Nat)

theorem CodeRanges.has_nil (code : Nat) : CodeRanges.has [] code = false := rfl

theorem CodeRanges.has_cons (first last code : Nat) (ranges : CodeRanges) :
    CodeRanges.has ((first, last) :: ranges) code =
      (decide (first ≤ code) && decide (code ≤ last) || CodeRanges.has ranges code) := rfl

end SheetCommand.Text
