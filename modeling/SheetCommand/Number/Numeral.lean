import SheetCommand.Number.Decimal
import SheetCommand.Text.Digit
import SheetCommand.Text.Blank

/-!
# Number — numerals

Numerals are read in two dialects. A cell or an instruction may use the digits of any script, with
single underscores between digits. A number in a structured action uses ASCII digits; blanks around
it are dropped, or else underscores inside it.
-/

namespace SheetCommand

/-- An integer or a binary64 number; the two never compare as the same kind. -/
inductive Number where
  | int (n : Int)
  | real (x : Binary64)
  deriving DecidableEq

namespace Number

/-- How two numbers compare, by their exact values. -/
def compare? : Number → Number → Option Ordering
  | int m, int n => some (compare m n)
  | int m, real y => Binary64.compareInt? m y
  | real x, int n => (Binary64.compareInt? n x).map Ordering.swap
  | real x, real y => x.compare? y

end Number

namespace Numeral

/-- Longer digit runs are not read as integers, and integers with more digits are not written. -/
def digitLimit : Nat := 4300

/-! ### Signs, underscores and digits of other scripts -/

/-- The sign of a numeral and what follows it. -/
def splitSign : List Char → Bool × List Char
  | '-' :: rest => (true, rest)
  | '+' :: rest => (false, rest)
  | text => (false, text)

/-- Digits of any script become ASCII digits; any other character outside ASCII spoils the
numeral. -/
def toAscii? (text : List Char) : Option (List Char) :=
  text.mapM fun c =>
    if c.toNat < 128 then some c else (Text.digitValue? c).map Nat.digitChar

/-- Removes underscores, each of which must stand between two digits. -/
def joinFrom (last : Char) : List Char → Option (List Char)
  | [] => if last = '_' then none else some []
  | c :: rest =>
    if c = '_' then if Text.isAsciiDigit last then joinFrom '_' rest else none
    else if last = '_' ∧ ¬ Text.isAsciiDigit c then none
    else (joinFrom c rest).map (c :: ·)

def joinDigits? (text : List Char) : Option (List Char) := joinFrom ' ' text

/-! ### Integers -/

/-- ASCII digits with an optional sign. -/
def plainInt? (text : List Char) : Option Int :=
  let (negative, digits) := splitSign text
  if digits.isEmpty ∨ digits.any (!Text.isAsciiDigit ·) ∨ digitLimit < digits.length then none
  else some (Binary64.signed negative (Text.digitsValue (Text.takeDigits digits).1))

def int? (text : List Char) : Option Int := do
  plainInt? (← joinDigits? (← toAscii? text))

/-! ### Decimals -/

/-- The digits at the start of a text and what follows them. -/
def spanDigits (text : List Char) : List Char × List Char := text.span Text.isAsciiDigit

/-- The power of ten at the end of a numeral. -/
def exponent? : List Char → Option Int
  | [] => some 0
  | e :: rest =>
    if e = 'e' ∨ e = 'E' then
      let (negative, digits) := splitSign rest
      if digits.isEmpty ∨ digits.any (!Text.isAsciiDigit ·) then none
      else some (Binary64.signed negative (Text.digitsValue (Text.takeDigits digits).1))
    else none

/-- Digits with an optional point among them and an optional power of ten, without a sign. -/
def magnitude? (text : List Char) : Option Decimal :=
  let (whole, rest) := spanDigits text
  let (fraction, rest) := match rest with
    | '.' :: rest => spanDigits rest
    | _ => ([], rest)
  if whole.isEmpty ∧ fraction.isEmpty then none
  else (exponent? rest).map fun e =>
    ⟨Text.digitsValue (Text.takeDigits (whole ++ fraction)).1, e - fraction.length⟩

/-- A decimal in ASCII, or the name of an infinity or of what is not a number. -/
def plainDecimal? (text : List Char) : Option Binary64 :=
  let (negative, body) := splitSign text
  let name := String.ofList (body.map Char.toLower)
  if name = "nan" then some .nan
  else if name = "inf" ∨ name = "infinity" then some (.infinity negative)
  else (magnitude? body).map (·.toBinary64 negative)

/-- A decimal in the digits of any script, blanks around it allowed. -/
def decimal? (text : List Char) : Option Binary64 := do
  plainDecimal? (← joinDigits? (← toAscii? (Text.trim text)))

/-- Whether two underscores stand side by side. -/
def hasDoubleUnderscore : List Char → Bool
  | [] => false
  | c :: rest => (c == '_' && rest.head? == some '_') || hasDoubleUnderscore rest

/-- Removes single underscores, wherever they stand inside the text. -/
def dropUnderscores? (text : List Char) : Option (List Char) :=
  if text.contains '_' ∧ text.head? ≠ some '_' ∧ text.getLast? ≠ some '_' ∧
      ¬ hasDoubleUnderscore text then
    some (text.filter (· ≠ '_'))
  else none

/-- A decimal in a structured action. -/
def field? (text : List Char) : Option Binary64 :=
  match plainDecimal? (Text.trimBy Text.isPlainBlank text) with
  | some x => some x
  | none => (dropUnderscores? text).bind plainDecimal?

/-! ### Numbers in cells -/

/-- The number a text stands for: commas are dropped, blanks around it too; an integer if it reads
as one, otherwise a finite decimal. -/
def number? (text : List Char) : Option Number :=
  let body := Text.trim (text.filter (· ≠ ','))
  match int? body with
  | some n => some (.int n)
  | none => match decimal? body with
    | some x => if x.isFinite then some (.real x) else none
    | none => none

end Numeral

end SheetCommand
