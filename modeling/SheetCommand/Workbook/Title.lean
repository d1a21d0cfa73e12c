import SheetCommand.Failure
import SheetCommand.Text.Blank
import SheetCommand.Text.Case.Lower
import SheetCommand.Text.Case.Fold

/-!
# Workbook — titles

A sheet title is not empty and has none of the marks `\ * ? : / [ ]`. A title that is taken, in
whatever case, gets a number: one more than the largest number that follows the wanted title anywhere
in the list of all titles, joined by commas.
-/

namespace SheetCommand.Title

open Text

def marks : List Char := ['\\', '*', '?', ':', '/', '[', ']']

/-- What follows a text at the front of another, letters compared regardless of case. -/
def after? : List Char → List Char → Option (List Char)
  | [], text => some text
  | _ :: _, [] => none
  | c :: wanted, d :: text => if sameLetter c d then after? wanted text else none

/-- A comma at the front is dropped. -/
def dropComma : List Char → List Char
  | ',' :: rest => rest
  | text => text

/-- The digits after each occurrence of `wanted`, from the left. An occurrence takes its digits and a
comma after them with it; `skip` characters are taken already. -/
def counters (wanted : List Char) (skip : Nat) : List Char → List (List Nat)
  | [] => []
  | c :: rest =>
    if skip ≠ 0 then counters wanted (skip - 1) rest
    else match after? wanted (c :: rest) with
      | none => counters wanted 0 rest
      | some text =>
        let (digits, text) := takeDigits text
        digits :: counters wanted (rest.length - (dropComma text).length) rest

def sameCase (s t : List Char) : Bool := lower s == lower t

/-- The wanted title, with a number if some sheet has it already. -/
def fresh (titles : List String) (wanted : String) : Except Failure String :=
  if titles.any fun title => sameCase title.toList wanted.toList then
    let runs := counters wanted.toList 0 (join [','] (titles.map (·.toList)))
    if runs.isEmpty then .ok wanted
    else match runs.find? fun digits => Numeral.digitLimit < digits.length with
      | some digits => .error (.titleNumber digits.length)
      | none =>
        let number := decimal ((runs.map digitsValue).foldl max 0 + 1)
        if Numeral.digitLimit < number.length then .error .integerTooLong
        else .ok (wanted ++ .ofList number)
  else .ok wanted

/-- The title that a sheet gets when `wanted` is asked for. A sheet keeps its own title as it is. -/
def assign (titles : List String) (current : Option String) (wanted : String) :
    Except Failure String :=
  if wanted.isEmpty then .error .titleEmpty
  else match wanted.toList.find? fun c => marks.contains c with
    | some c => .error (.titleMark c)
    | none => if current = some wanted then .ok wanted else fresh titles wanted

/-- The title of a new sheet without one. -/
def standard : String := "Sheet"

theorem after?_self (text rest : List Char) : after? text (text ++ rest) = some rest := by
  induction text with
  | nil => rfl
  | cons c text ih => simp [after?, sameLetter_self, ih]

end SheetCommand.Title
