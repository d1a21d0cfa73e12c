import SheetCommand.Document.Printer
import SheetCommand.Failure
import SheetCommand.Text.Blank
import SheetCommand.Text.Case.Lower
import SheetCommand.Text.Case.Fold
import SheetCommand.Text.Order
import SheetCommand.Action

/-!
# Sheet — cells

A cell holds nothing, a truth value, a number, a text or a moment. Three readings of a cell decide
what edits do with it:

* `number?`: the number it stands for, if any; texts count, truth values do not.
* `text`: the text it shows, by which conditions compare it.
* `sortKey`: both, by which rows are sorted: two numbers compare as numbers, anything else as texts,
  regardless of case at first.
-/

namespace SheetCommand

inductive CellValue where
  | blank
  | bool (b : Bool)
  | int (n : Int)
  | real (x : Binary64)
  | text (s : String)
  | moment (m : Moment)
  deriving DecidableEq, Inhabited

/-- What sorting compares of a cell. -/
structure SortKey where
  number : Option Number
  text : List Char

namespace CellValue

def toDocument : CellValue → Document
  | blank => .null
  | bool b => .bool b
  | int n => .int n
  | real x => .real x
  | text s => .text s
  | moment m => .moment m

def ofNumber : Number → CellValue
  | .int n => int n
  | .real x => real x

/-! ### As a text -/

def boolText (b : Bool) : List Char := if b then ['T', 'r', 'u', 'e'] else ['F', 'a', 'l', 's', 'e']

/-- The digits of an integer, unless there are too many. -/
def intText (n : Int) : Except Failure (List Char) :=
  let digits := Text.decimal n.natAbs
  if Numeral.digitLimit < digits.length then .error .integerTooLong
  else .ok (if n < 0 then '-' :: digits else digits)

/-- The text by which headers are compared and listed: a number with a fraction keeps it. -/
def label : CellValue → Except Failure (List Char)
  | blank => .ok []
  | bool b => .ok (boolText b)
  | int n => intText n
  | real x => .ok x.shown
  | text s => .ok s.toList
  | moment m => .ok m.shown.toList

/-- The text that a cell shows: a whole number has no fraction. -/
def shown : CellValue → Except Failure (List Char)
  | real x => match x.toInt? with
    | some n => intText n
    | none => .ok x.shown
  | v => v.label

/-- A header without regard to case and spacing. -/
def headerKey (header : List Char) : List Char := Text.lower (Text.collapse header)

/-! ### As a number -/

/-- The number that a cell stands for. An integer must be in the range of real numbers. -/
def number? : CellValue → Except Failure (Option Number)
  | int n => if (Binary64.ofInt n).isFinite then .ok (some (.int n)) else .error .overflow
  | real x => .ok (if x.isFinite then some (.real x) else none)
  | text s => .ok (Numeral.number? s.toList)
  | _ => .ok none

/-- Whether a cell compares so with a number. What is no number differs from all numbers. -/
def satisfies (v : CellValue) (op : Comparison) (target : Number) : Except Failure Bool := do
  match ← v.number? with
  | none => return op == .notEqual
  | some n => return op.holds (n.compare? target)

/-- The same with the comparison given by its symbol, which matters only to numbers. -/
def satisfiesSymbol (v : CellValue) (symbol : String) (target : Number) : Except Failure Bool := do
  match Comparison.ofSymbol? symbol with
  | some op => v.satisfies op target
  | none => if (← v.number?).isNone then return false else .error (.comparisonUnknown symbol)

/-! ### In order -/

def sortKey (v : CellValue) : Except Failure SortKey := do
  let number ← v.number?
  return ⟨number, ← v.shown⟩

end CellValue

/-- Numbers by value; otherwise texts by their folded form, then by their letters. -/
def SortKey.compare (a b : SortKey) : Ordering :=
  match a.number, b.number with
  | some m, some n => (m.compare? n).getD .eq
  | _, _ => (Text.order (Text.fold a.text) (Text.fold b.text)).then (Text.order a.text b.text)

namespace CellValue

def compare (a b : CellValue) : Except Failure Ordering := do
  let a ← a.sortKey
  let b ← b.sortKey
  return a.compare b

/-! ### Storing texts -/

/-- Cells hold this many characters of a text. -/
def textLimit : Nat := 32767

/-- Control characters other than tabs and line ends. -/
def isForbidden (c : Char) : Bool :=
  let n := c.toNat
  n ≤ 8 || n == 11 || n == 12 || (14 ≤ n && n ≤ 31)

/-- The cell that a text makes. -/
def ofText (s : String) : Except Failure CellValue :=
  let chars := s.toList.take textLimit
  if chars.any isForbidden then .error (.forbiddenText (.ofList chars)) else .ok (text (.ofList chars))

end CellValue

/-- The sum of two numbers. Integers add exactly; next to a real number an integer becomes real, for
which it must be in range. -/
def Number.add : Number → Number → Except Failure Number
  | int m, int n => .ok (int (m + n))
  | int m, real y =>
    let x := Binary64.ofInt m
    if x.isFinite then .ok (real (x.add y)) else .error .overflow
  | real x, int n =>
    let y := Binary64.ofInt n
    if y.isFinite then .ok (real (x.add y)) else .error .overflow
  | real x, real y => .ok (real (x.add y))

/-- What a cell contributes to a sum: zero, unless it stands for a number. -/
def CellValue.addend (v : CellValue) : Except Failure Number := do
  match ← v.number? with
  | none => return .int 0
  | some (.real x) => return if x.isZero then .int 0 else .real x
  | some n => return n

end SheetCommand
