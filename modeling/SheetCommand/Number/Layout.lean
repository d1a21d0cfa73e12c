import SheetCommand.Number.Decimal
import SheetCommand.Text.Digit

/-!
# Number — written numbers

The text of a number is the layout of a decimal: positional while the exponent of its first digit
stays in a range, otherwise one digit before the point and a power of ten. The layouts in use differ
in four points and in the number of digits.

* `shown`: the shortest digits, as numbers appear in records and messages.
* `json`: the shortest digits, as numbers appear in documents.
* `stored`: sixteen digits, as numbers are written into a workbook.
* `condition`: six digits, as the number of a filter appears in its record.
-/

namespace SheetCommand

structure NumberLayout where
  /-- The least exponent that is written positionally. -/
  positionalFrom : Int
  /-- The first exponent that is no longer written positionally. -/
  positionalBelow : Int
  /-- Whether a whole number keeps `.0`. -/
  keepPoint : Bool
  /-- Whether a power of ten has a sign and at least two digits. -/
  wideExponent : Bool

namespace NumberLayout

/-- A positional number whose first digit has the given exponent. -/
def positional (layout : NumberLayout) (digits : List Char) (first : Int) : List Char :=
  if first < 0 then ['0', '.'] ++ List.replicate (-first - 1).toNat '0' ++ digits
  else
    let whole := first.toNat + 1
    if digits.length ≤ whole then
      digits ++ List.replicate (whole - digits.length) '0' ++
        (if layout.keepPoint then ['.', '0'] else [])
    else digits.take whole ++ ['.'] ++ digits.drop whole

def exponentText (layout : NumberLayout) (first : Int) : List Char :=
  let digits := Text.decimal first.natAbs
  if layout.wideExponent then
    ['e', if first < 0 then '-' else '+'] ++ List.replicate (2 - digits.length) '0' ++ digits
  else 'e' :: (if first < 0 then ['-'] else []) ++ digits

def scientific (layout : NumberLayout) (digits : List Char) (first : Int) : List Char :=
  match digits with
  | [] => []
  | [d] => d :: layout.exponentText first
  | d :: rest => d :: '.' :: rest ++ layout.exponentText first

def write (layout : NumberLayout) (negative : Bool) (d : Decimal) : List Char :=
  let digits := Text.decimal d.digits
  let first := d.exponent + digits.length - 1
  (if negative then ['-'] else []) ++
    (if layout.positionalFrom ≤ first ∧ first < layout.positionalBelow then
      layout.positional digits first
    else layout.scientific digits first)

/-- The text of a number whose significant digits are given, none for zero. -/
def text (layout : NumberLayout) (digits? : Option Decimal) : Binary64 → List Char
  | .nan => ['n', 'a', 'n']
  | .infinity negative => (if negative then ['-'] else []) ++ ['i', 'n', 'f']
  | .finite negative _ _ _ => layout.write negative (digits?.getD ⟨0, 0⟩)

end NumberLayout

namespace Binary64

/-- The number as it is shown. -/
def shown (x : Binary64) : List Char := NumberLayout.text ⟨-4, 16, true, true⟩ x.shortest? x

/-- The number in a document. -/
def json (x : Binary64) : List Char := NumberLayout.text ⟨-5, 16, true, false⟩ x.shortest? x

/-- The number as a workbook stores it. -/
def stored (x : Binary64) : List Char :=
  NumberLayout.text ⟨-4, 16, false, true⟩ (x.rounded? 16) x

/-- The number as the record of a filter names it. -/
def condition (x : Binary64) : List Char :=
  NumberLayout.text ⟨-4, 6, false, true⟩ (x.rounded? 6) x

end Binary64

end SheetCommand
