import SheetCommand.Document.Reader

/-!
# Yaml — what plain scalars denote

A scalar without quotes denotes a truth value, a number, nothing or a time if it is written like one,
and otherwise its text. Numbers may have underscores among their digits, a base (`0b`, `0x`, or `0`
for octal) or parts to the base 60 after colons. A number needs a point to be real, and its power of
ten needs a sign.
-/

namespace SheetCommand.Yaml

/-- What is wrong with a text. -/
inductive Problem where
  /-- The text does not follow the grammar, or a node stands where it may not. -/
  | unreadable
  /-- A scalar is written like a number or a time that does not exist. -/
  | malformed
  deriving DecidableEq

/-! ### Words -/

def boolWords : List (String × Bool) :=
  [("yes", true), ("Yes", true), ("YES", true), ("no", false), ("No", false), ("NO", false),
   ("true", true), ("True", true), ("TRUE", true), ("false", false), ("False", false),
   ("FALSE", false), ("on", true), ("On", true), ("ON", true), ("off", false), ("Off", false),
   ("OFF", false)]

def nullWords : List String := ["", "~", "null", "Null", "NULL"]

/-- The mark of a key whose value lends its entries to the mapping. -/
def mergeWord : List Char := ['<', '<']

/-- The mark of a default value, which is a text only as a key. -/
def defaultWord : List Char := ['=']

/-! ### Numbers -/

def isSpacedDigit (c : Char) : Bool := Text.isAsciiDigit c || c == '_'

def withoutUnderscores (text : List Char) : List Char := text.filter (· ≠ '_')

/-- The value of digits to a base; there must be one. -/
def digitsIn (base : Nat) (digits : List Char) : Except Problem Nat :=
  match withoutUnderscores digits with
  | [] => .error .malformed
  | digits =>
    if base = 10 ∧ Numeral.digitLimit < digits.length then .error .malformed
    else .ok (digits.foldl (fun n d => base * n + (Document.hexValue? d).getD 0) 0)

/-- Whether a text is the part of a number behind a colon: one or two digits, less than 60. -/
def isSixtieth : List Char → Bool
  | [d] => Text.isAsciiDigit d
  | [d, e] => '0' ≤ d && d ≤ '5' && Text.isAsciiDigit e
  | _ => false

/-- Digits, the first of which is no underscore. -/
def isDigitRun : List Char → Bool
  | [] => false
  | d :: rest => Text.isAsciiDigit d && rest.all isSpacedDigit

/-- A whole number to the base 60, by its parts. -/
def sixtieths (parts : List (List Char)) : Except Problem Nat :=
  parts.foldlM (fun n part => (digitsIn 10 part).map (60 * n + ·)) 0

/-- The whole number that a text without its sign is written like. -/
def whole? (text : List Char) : Option (Except Problem Nat) :=
  match text with
  | '0' :: 'b' :: digits =>
    if !digits.isEmpty && digits.all fun d => d == '0' || d == '1' || d == '_' then
      some (digitsIn 2 digits)
    else none
  | '0' :: 'x' :: digits =>
    if !digits.isEmpty && digits.all fun d => (Document.hexValue? d).isSome || d == '_' then
      some (digitsIn 16 digits)
    else none
  | '0' :: digits =>
    if digits.all fun d => ('0' ≤ d && d ≤ '7') || d == '_' then some (digitsIn 8 text) else none
  | _ => match Text.splitAt ':' text with
    | first :: parts =>
      if isDigitRun first && parts.all isSixtieth then some (sixtieths (first :: parts)) else none
    | [] => none

/-- The real number that parts to the base 60 denote, the last of them with a point. -/
def sixtiethsReal (parts : List (List Char)) (last : List Char) : Except Problem Binary64 := do
  let whole ← sixtieths parts
  return ((Numeral.plainDecimal? last).getD .nan).add (.ofInt (60 * whole))

/-- Whether a text is the power of ten of a real number. -/
def isPower : List Char → Bool
  | [] => true
  | e :: sign :: digits =>
    (e == 'e' || e == 'E') && (sign == '+' || sign == '-') && !digits.isEmpty &&
      digits.all Text.isAsciiDigit
  | _ => false

/-- The real number that a text without its sign is written like. -/
def magnitude? (signed : Bool) (text : List Char) : Option (Except Problem Binary64) :=
  let (whole, rest) := text.span (· ≠ '.')
  match rest with
  | [] => none
  | _ :: rest =>
    let (fraction, power) := rest.span isSpacedDigit
    if whole.isEmpty then
      if ["inf", "Inf", "INF"].contains (String.ofList rest) then some (.ok (.infinity false))
      else if !signed && ["nan", "NaN", "NAN"].contains (String.ofList rest) then some (.ok .nan)
      else if !signed && isDigitRun fraction && isPower power then
        (Numeral.plainDecimal? (withoutUnderscores text)).map .ok
      else none
    else match (Text.splitAt ':' whole).reverse with
      | [_] =>
        if isDigitRun whole && isPower power then
          (Numeral.plainDecimal? (withoutUnderscores text)).map .ok
        else none
      | last :: parts =>
        let parts := parts.reverse
        if isSixtieth last && (parts.drop 1).all isSixtieth && (parts.take 1).all isDigitRun &&
            power.isEmpty then
          some (sixtiethsReal parts (last ++ '.' :: withoutUnderscores fraction))
        else none
      | [] => none

def negateIf (negative : Bool) (x : Binary64) : Binary64 :=
  match x with
  | .finite s mantissa exponent canonical => .finite (s != negative) mantissa exponent canonical
  | .infinity s => .infinity (s != negative)
  | .nan => .nan

/-- The number that a text is written like. -/
def number? (text : List Char) : Option (Except Problem Document) :=
  let (negative, body) := Numeral.splitSign text
  match magnitude? (body.length != text.length) body with
  | some x => some (x.map fun x => .real (negateIf negative x))
  | none => (whole? body).map fun n => n.map fun n => .int (Binary64.signed negative n)

/-! ### Times -/

/-- At least `least` and at most `most` digits at the front of a text. -/
def digits? (least most : Nat) (text : List Char) : Option (Nat × List Char) :=
  let digits := (text.take most).takeWhile Text.isAsciiDigit
  if digits.length < least then none
  else some (Text.digitsValue (Text.takeDigits digits).1, text.drop digits.length)

/-- What follows a character at the front of a text. -/
def after? (c : Char) : List Char → Option (List Char)
  | x :: rest => if x = c then some rest else none
  | [] => none

/-- The minutes of an offset from universal time. -/
def zone? : List Char → Option Nat
  | [] | ['Z'] => some 0
  | sign :: rest => do
    if sign ≠ '+' ∧ sign ≠ '-' then none
    else
      let (hours, rest) ← digits? 1 2 rest
      if rest.isEmpty then some (60 * hours)
      else
        let (minutes, rest) ← digits? 2 2 (← after? ':' rest)
        if rest.isEmpty then some (60 * hours + minutes) else none

/-- Whether a time of day exists, for a text that is written like one. -/
def timeExists? (text : List Char) : Option Bool := do
  let (hour, rest) ← digits? 1 2 text
  let (minute, rest) ← digits? 2 2 (← after? ':' rest)
  let (second, rest) ← digits? 2 2 (← after? ':' rest)
  let rest := match rest with
    | '.' :: rest => rest.dropWhile Text.isAsciiDigit
    | _ => rest
  let blank (c : Char) : Bool := c == ' ' || c == '\t'
  let zone := rest.dropWhile blank
  if zone.isEmpty && !rest.isEmpty then none
  else
    let offset ← zone? zone
    some (hour < 24 && minute < 60 && second < 60 && offset < 1440)

def isLeapYear (year : Nat) : Bool := year % 4 == 0 && (year % 100 != 0 || year % 400 == 0)

def daysOf (year month : Nat) : Nat :=
  if month = 2 then if isLeapYear year then 29 else 28
  else if [4, 6, 9, 11].contains month then 30 else 31

def dateExists (year month day : Nat) : Bool :=
  1 ≤ year && 1 ≤ month && month ≤ 12 && 1 ≤ day && day ≤ daysOf year month

/-- The date or time that a text is written like. -/
def moment? (text : List Char) : Option (Except Problem Document) := do
  let (year, rest) ← digits? 4 4 text
  let (month, rest) ← digits? 1 2 (← after? '-' rest)
  let (day, rest) ← digits? 1 2 (← after? '-' rest)
  let answer (hasTime found : Bool) : Except Problem Document :=
    if dateExists year month day && found then .ok (.moment ⟨.ofList text, hasTime⟩)
    else .error .malformed
  match rest with
  | [] => if text.length = 10 then some (answer false true) else none
  | 'T' :: rest | 't' :: rest => (timeExists? rest).map (answer true)
  | c :: rest =>
    if c = ' ' ∨ c = '\t' then
      (timeExists? (rest.dropWhile fun c => c == ' ' || c == '\t')).map (answer true)
    else none

/-! ### Scalars -/

/-- What a scalar without quotes denotes. -/
def plainValue (text : List Char) : Except Problem Document :=
  let s := String.ofList text
  match boolWords.lookup s with
  | some b => .ok (.bool b)
  | none => match number? text with
    | some number => number
    | none =>
      if nullWords.contains s then .ok .null
      else if text = mergeWord ∨ text = defaultWord then .error .unreadable
      else (moment? text).getD (.ok (.text s))

/-- What a scalar with a tag denotes. -/
def taggedValue (tag text : List Char) : Except Problem Document :=
  match String.ofList tag with
  | "!" => plainValue text
  | "!!str" => .ok (.text (.ofList text))
  | "!!null" => .ok .null
  | "!!bool" => match boolWords.lookup (.ofList (text.map Char.toLower)) with
    | some b => .ok (.bool b)
    | none => .error .malformed
  | "!!int" => match number? text with
    | some (.ok (.int n)) => .ok (.int n)
    | _ => .error .malformed
  | "!!float" => match number? text with
    | some (.ok (.real x)) => .ok (.real x)
    | some (.ok (.int n)) => .ok (.real (.ofInt n))
    | _ => .error .malformed
  | _ => .error .unreadable

end SheetCommand.Yaml
