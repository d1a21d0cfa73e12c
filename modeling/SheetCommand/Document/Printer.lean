import SheetCommand.Document.Basic
import SheetCommand.Number.Layout
import SheetCommand.Text.Hidden

/-!
# Document — written form

Documents are written as JSON: on one line, or with every item of a nonempty list or object on a line of its
own, two blanks deeper than what holds it. Only quotes, backslashes and the characters below U+0020
are escaped; a number that is not finite is written as `null`.

Not every document can be written: integers must fit into 64 bits, and nesting has a limit.
-/

namespace SheetCommand

-- Powers are those of the core library in every context the module is read in.
attribute [local instance (high)] instPowNat

inductive Layout where
  | line | indented
  deriving DecidableEq

namespace Layout

/-- What stands before an item at a depth. -/
def gap (layout : Layout) (depth : Nat) : List Char :=
  match layout with
  | line => []
  | indented => '\n' :: List.replicate (2 * depth) ' '

def colon : Layout → List Char
  | line => [':']
  | indented => [':', ' ']

end Layout

namespace Document

def escape (c : Char) : List Char :=
  if c = '"' then ['\\', '"']
  else if c = '\\' then ['\\', '\\']
  else if c = '\x08' then ['\\', 'b']
  else if c = '\t' then ['\\', 't']
  else if c = '\n' then ['\\', 'n']
  else if c = '\x0c' then ['\\', 'f']
  else if c = '\r' then ['\\', 'r']
  else if c.toNat < 32 then ['\\', 'u'] ++ Text.hex 4 c.toNat
  else [c]

def writeText (s : String) : List Char := '"' :: s.toList.flatMap escape ++ ['"']

def writeInt (n : Int) : List Char :=
  (if n < 0 then ['-'] else []) ++ Text.decimal n.natAbs

mutual

def write (layout : Layout) (depth : Nat) : Document → List Char
  | null => ['n', 'u', 'l', 'l']
  | bool true => ['t', 'r', 'u', 'e']
  | bool false => ['f', 'a', 'l', 's', 'e']
  | int n => writeInt n
  | real x => if x.isFinite then x.json else ['n', 'u', 'l', 'l']
  | text s => writeText s
  | moment m => writeText m.iso
  | list [] => ['[', ']']
  | list (item :: items) =>
    '[' :: layout.gap (depth + 1) ++ write layout (depth + 1) item ++
      writeItems layout (depth + 1) items ++ layout.gap depth ++ [']']
  | object [] => ['\x7b', '\x7d']
  | object ((name, value) :: fields) =>
    '\x7b' :: layout.gap (depth + 1) ++ writeText name ++ layout.colon ++
      write layout (depth + 1) value ++ writeFields layout (depth + 1) fields ++
      layout.gap depth ++ ['\x7d']

def writeItems (layout : Layout) (depth : Nat) : List Document → List Char
  | [] => []
  | item :: items =>
    ',' :: layout.gap depth ++ write layout depth item ++ writeItems layout depth items

def writeFields (layout : Layout) (depth : Nat) : List (String × Document) → List Char
  | [] => []
  | (name, value) :: fields =>
    ',' :: layout.gap depth ++ writeText name ++ layout.colon ++ write layout depth value ++
      writeFields layout depth fields

end

/-- The document on one line. -/
def compact (d : Document) : String := .ofList (d.write .line 0)

def indented (d : Document) : String := .ofList (d.write .indented 0)

/-! ### What can be written -/

/-- Integers of 64 bits, with a sign or without. -/
def isWideInt (n : Int) : Bool := n < -(2 ^ (63 : Nat)) || 2 ^ (64 : Nat) ≤ n

/-- Lists and objects may be nested this deep in what is written. -/
def nestingLimit : Nat := 254

mutual

/-- Whether every integer fits and nothing is nested deeper than `room`. -/
def fits (room : Nat) : Document → Bool
  | int n => !isWideInt n
  | list items => room != 0 && itemsFit (room - 1) items
  | object fields => room != 0 && fieldsFit (room - 1) fields
  | _ => true

def itemsFit (room : Nat) : List Document → Bool
  | [] => true
  | item :: items => fits room item && itemsFit room items

def fieldsFit (room : Nat) : List (String × Document) → Bool
  | [] => true
  | (_, value) :: fields => fits room value && fieldsFit room fields

end

def isWritable (d : Document) : Bool := d.fits nestingLimit

end Document

end SheetCommand
