import SheetCommand.Text.Blank
import SheetCommand.Text.Case.Lower
import SheetCommand.Text.Case.Upper

/-!
# Instruction — wording

An instruction is read in lower case with its white space collapsed. Names found in it are titled:
every word gets a capital. The sheet an instruction is about is the first one whose name occurs in
it.
-/

namespace SheetCommand

open Text

/-- White space at the ends is dropped and every run inside becomes one space. -/
def normalizeInstruction (text : String) : String := .ofList (collapse text.toList)

namespace Text

/-- The words of a fragment between single spaces, each with a capital first letter. -/
def titleCase (fragment : List Char) : List Char :=
  join [' '] (((splitAt ' ' fragment).filter (!·.isEmpty)).map capitalize)

/-- Whether a text occurs in another. -/
def occursIn (part : List Char) : List Char → Bool
  | [] => part.isEmpty
  | c :: rest => part.isPrefixOf (c :: rest) || occursIn part rest

end Text

def titleCase (fragment : String) : String := .ofList (Text.titleCase fragment.toList)

/-- Whether an instruction in lower case mentions a sheet: its name in lower case occurs somewhere,
even inside a word. An empty name is never mentioned. -/
def mentions (lower : List Char) (name : String) : Bool :=
  !name.isEmpty && Text.occursIn (Text.lower name.toList) lower

/-- The first sheet that an instruction in lower case mentions. -/
def mentionedSheet (lower : List Char) (names : List String) : Option String :=
  names.find? (mentions lower)

/-- An instruction as it was typed and as it is read. -/
structure Wording where
  typed : List Char
  lower : List Char

namespace Wording

def of (text : String) : Wording :=
  let typed := collapse text.toList
  ⟨typed, Text.lower typed⟩

/-- Whether the two forms agree position by position, as far as their length tells. -/
def aligned (w : Wording) : Bool := w.typed.length == w.lower.length

end Wording

end SheetCommand
