import SheetCommand.Action
import SheetCommand.Instruction.Grammar
import SheetCommand.Instruction.Wording
import SheetCommand.Number.Numeral
import SheetCommand.Failure

/-!
# Instruction — what an instruction asks for

The seven kinds of request are tried in their order; the first phrase that is found and yields a
request decides. Recognising a request does not look at the workbook: the sheet that an edit is for
is settled afterwards, by the first sheet name that the instruction mentions.

* `recognize` finds the request of an instruction, if there is one.
* `interpret` completes it with the sheet and gives a list of at most one action.
-/

namespace SheetCommand

open Instruction

/-- What an instruction asks for, before the sheet of an edit is settled. -/
inductive Request where
  | renameSheet (old new : String)
  | edit (edit : Edit)
  deriving DecidableEq

namespace Request

def onSheet (sheet : Option String) : Request → Action
  | renameSheet old new => .renameSheet old new
  | edit e => .edit sheet e

def needsSheet : Request → Bool
  | renameSheet .. => false
  | edit _ => true

end Request

namespace Instruction

/-! ### The pieces of a phrase -/

abbrev Pieces := Cursor Slot

/-- The piece under a name, titled. -/
def titled (pieces : Pieces) (slot : Slot) : String :=
  .ofList (Text.titleCase (((pieces.piece? slot).map Span.chars).getD []))

/-- The piece under a name, in lower case. -/
def read (pieces : Pieces) (slot : Slot) : List Char :=
  ((pieces.piece? slot).map Span.chars).getD []

/-- The piece under a name as it was typed, if the typed text is as long as the one read. -/
def literal (wording : Wording) (pieces : Pieces) (slot : Slot) : String :=
  .ofList (((pieces.piece? slot).map fun span =>
    if wording.aligned then span.charsIn wording.typed else span.chars).getD [])

/-- A comparison as it is written; a single `=` stands for `==`. -/
def symbol (pieces : Pieces) : String :=
  let written := String.ofList (read pieces .comparison)
  if written = "=" then "==" else written

/-- The direction of a sort; ascending unless a word for descending was read. -/
def direction (pieces : Pieces) : Direction :=
  let word := match pieces.piece? .direction with
    | some span => span.chars
    | none => read pieces .laterDirection
  if "desc".toList.isPrefixOf word then .descending else .ascending

/-! ### Requests from phrases -/

/-- The request of a phrase that was found, by the kind of the phrase. -/
def build (kind : ActionKind) (wording : Wording) (pieces : Pieces) : Option Request :=
  let name := titled pieces
  match kind with
  | .renameSheet => some (.renameSheet (name .old) (name .new))
  | .renameColumn => some (.edit (.renameColumn (name .old) (name .new)))
  | .addColumnSum => some (.edit (.addColumnSum (name .first) (name .second) (name .new)))
  | .deleteColumn => some (.edit (.deleteColumn (name .name)))
  | .filterRows =>
    if filterTrigger.occursIn wording.lower then do
      let op ← Comparison.ofSymbol? (symbol pieces)
      let value ← Numeral.decimal? ((read pieces .number).filter (· ≠ ','))
      some (.edit (.filterRows (name .column) op value))
    else none
  | .sortBy => some (.edit (.sortBy (name .column) (direction pieces)))
  | .setValueWhere => do
    let op ← Equality.ofSymbol? (symbol pieces)
    some (.edit (.setValueWhere (name .target) op (name .condition)
      (literal wording pieces .conditionLiteral) (literal wording pieces .literal)))

def phrases : ActionKind → List Phrase
  | .renameSheet => renameSheetPhrases
  | .renameColumn => renameColumnPhrases
  | .addColumnSum => addColumnSumPhrases
  | .deleteColumn => deleteColumnPhrases
  | .filterRows => filterRowsPhrases
  | .sortBy => sortByPhrases
  | .setValueWhere => setValueWherePhrases

/-- The request of the first phrase of one kind that is found and yields one. -/
def recognizeAs (kind : ActionKind) (wording : Wording) : Option Request :=
  (phrases kind).findSome? fun phrase =>
    (phrase.search wording.lower).bind (build kind wording)

end Instruction

/-- The request of an instruction, if any kind recognises it. -/
def recognize (wording : Wording) : Option Request :=
  ActionKind.all.findSome? fun kind => recognizeAs kind wording

/-- The actions of an instruction against the sheet names of a workbook: none or one. -/
def interpret (instruction : String) (sheetNames : List String) : List Action :=
  let wording := Wording.of instruction
  ((recognize wording).map (·.onSheet (mentionedSheet wording.lower sheetNames))).toList

/-- The text of an instruction without the blanks around it; it must be neither empty nor too
long. -/
def requireInstruction (instruction : Option String) : Except Failure String :=
  let text := Text.trim ((instruction.getD "").toList)
  if text.isEmpty then .error .instructionMissing
  else if Failure.instructionLimit < text.length then .error (.instructionTooLong text.length)
  else .ok (.ofList text)

theorem length_interpret_le (instruction : String) (sheetNames : List String) :
    (interpret instruction sheetNames).length ≤ 1 := by
  unfold interpret
  cases recognize (Wording.of instruction) <;> simp

end SheetCommand
