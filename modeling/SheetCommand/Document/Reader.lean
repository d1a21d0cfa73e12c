import SheetCommand.Document.Printer
import SheetCommand.Number.Numeral

/-!
# Document — reading

The reader accepts one document with blanks around its parts and nothing after it. Numbers follow the
strict grammar (no leading zeros, no bare point); an integer beyond 64 bits is read as a real number.
A number beyond the largest finite one, half a surrogate pair, a bare control character in a text and
nesting beyond a limit are all refused.
-/

namespace SheetCommand.Document

def isSpace (c : Char) : Bool := c == ' ' || c == '\t' || c == '\n' || c == '\r'

def skipSpace (text : List Char) : List Char := text.dropWhile isSpace

/-! ### Texts -/

def hexValue? (c : Char) : Option Nat :=
  if '0' ≤ c ∧ c ≤ '9' then some (c.toNat - 48)
  else if 'a' ≤ c ∧ c ≤ 'f' then some (c.toNat - 87)
  else if 'A' ≤ c ∧ c ≤ 'F' then some (c.toNat - 55)
  else none

/-- Four hexadecimal digits and what follows them. -/
def unit? : List Char → Option (Nat × List Char)
  | a :: b :: c :: d :: rest => do
    let a ← hexValue? a
    let b ← hexValue? b
    let c ← hexValue? c
    let d ← hexValue? d
    some (((a * 16 + b) * 16 + c) * 16 + d, rest)
  | _ => none

def isHigh (unit : Nat) : Bool := 0xD800 ≤ unit && unit < 0xDC00

def isLow (unit : Nat) : Bool := 0xDC00 ≤ unit && unit < 0xE000

/-- The character of one unit or of a surrogate pair, and what follows. -/
def codePoint? (text : List Char) : Option (Char × List Char) := do
  let (unit, rest) ← unit? text
  if isLow unit then none
  else if isHigh unit then
    match rest with
    | '\\' :: 'u' :: rest => do
      let (low, rest) ← unit? rest
      if isLow low then some (Char.ofNat (0x10000 + (unit - 0xD800) * 0x400 + (low - 0xDC00)), rest)
      else none
    | _ => none
  else some (Char.ofNat unit, rest)

/-- The character that a letter after a backslash stands for. -/
def escaped? (c : Char) : Option Char :=
  [('"', '"'), ('\\', '\\'), ('/', '/'), ('b', '\x08'), ('f', '\x0c'), ('n', '\n'), ('r', '\r'),
   ('t', '\t')].lookup c

/-- A text up to its closing quote, read for at most `fuel` characters. -/
def readText : Nat → List Char → Option (List Char × List Char)
  | 0, _ => none
  | _ + 1, [] => none
  | _ + 1, '"' :: rest => some ([], rest)
  | fuel + 1, '\\' :: 'u' :: rest => do
    let (c, rest) ← codePoint? rest
    let (s, rest) ← readText fuel rest
    some (c :: s, rest)
  | fuel + 1, '\\' :: c :: rest => do
    let c ← escaped? c
    let (s, rest) ← readText fuel rest
    some (c :: s, rest)
  | fuel + 1, c :: rest =>
    if c.toNat < 32 ∨ c = '\\' then none
    else (readText fuel rest).map fun (s, rest) => (c :: s, rest)

/-! ### Numbers -/

def isNumberChar (c : Char) : Bool :=
  Text.isAsciiDigit c || c == '+' || c == '-' || c == '.' || c == 'e' || c == 'E'

/-- Digits that do not begin with a superfluous zero. -/
def isWholePart : List Char → Bool
  | [] => false
  | ['0'] => true
  | digits => digits.head? != some '0'

/-- The number a numeral denotes: an integer if it has neither point nor power of ten. -/
def ofNumeral? (numeral : List Char) : Option Document := do
  let (negative, body) := match numeral with
    | '-' :: rest => (true, rest)
    | _ => (false, numeral)
  let (whole, rest) := Numeral.spanDigits body
  if !isWholePart whole then none
  else if rest.isEmpty then
    some (int (Binary64.signed negative (Text.digitsValue (Text.takeDigits whole).1)))
  else
    let (fraction, power) ← match rest with
      | '.' :: rest =>
        let (fraction, power) := Numeral.spanDigits rest
        if fraction.isEmpty then none else some (fraction, power)
      | _ => some ([], rest)
    let e ← Numeral.exponent? power
    let d : Decimal :=
      ⟨Text.digitsValue (Text.takeDigits (whole ++ fraction)).1, e - fraction.length⟩
    let x := d.toBinary64 negative
    if x.isFinite then some (real x) else none

/-! ### Documents -/

/-- The rest of a text after a word, if it begins with it. -/
def afterWord? (word : String) (text : List Char) : Option (List Char) :=
  if word.toList.isPrefixOf text then some (text.drop word.length) else none

mutual

/-- A document at the front of a text. -/
def readValue : Nat → Nat → List Char → Option (Document × List Char)
  | 0, _, _ => none
  | fuel + 1, room, source =>
    match skipSpace source with
    | [] => none
    | '"' :: rest =>
      (readText (rest.length + 1) rest).map fun (s, rest) => (text (.ofList s), rest)
    | '[' :: rest =>
      if room = 0 then none
      else match skipSpace rest with
        | ']' :: rest => some (list [], rest)
        | rest => (readItems fuel (room - 1) rest).map fun (items, rest) => (list items, rest)
    | '\x7b' :: rest =>
      if room = 0 then none
      else match skipSpace rest with
        | '\x7d' :: rest => some (object [], rest)
        | rest =>
          (readFields fuel (room - 1) [] rest).map fun (fields, rest) => (object fields, rest)
    | 't' :: rest => (afterWord? "rue" rest).map (bool true, ·)
    | 'f' :: rest => (afterWord? "alse" rest).map (bool false, ·)
    | 'n' :: rest => (afterWord? "ull" rest).map (null, ·)
    | rest => (ofNumeral? (rest.takeWhile isNumberChar)).map (·, rest.dropWhile isNumberChar)

/-- One or more documents up to the closing bracket. -/
def readItems : Nat → Nat → List Char → Option (List Document × List Char)
  | 0, _, _ => none
  | fuel + 1, room, source => do
    let (item, rest) ← readValue fuel room source
    match skipSpace rest with
    | ',' :: rest =>
      let (items, rest) ← readItems fuel room rest
      some (item :: items, rest)
    | ']' :: rest => some ([item], rest)
    | _ => none

/-- One or more fields up to the closing brace, added to those already read. -/
def readFields : Nat → Nat → List (String × Document) → List Char →
    Option (List (String × Document) × List Char)
  | 0, _, _, _ => none
  | fuel + 1, room, fields, source => do
    let '"' :: rest := skipSpace source | none
    let (name, rest) ← readText (rest.length + 1) rest
    let ':' :: rest := skipSpace rest | none
    let (value, rest) ← readValue fuel room rest
    let fields := setField fields (.ofList name) value
    match skipSpace rest with
    | ',' :: rest => readFields fuel room fields rest
    | '\x7d' :: rest => some (fields, rest)
    | _ => none

end

/-- Lists and objects may be nested this deep in what is read. -/
def readingLimit : Nat := 1024

/-- The document that a text denotes, its integers in full. -/
def readExact? (source : String) : Option Document := do
  let chars := source.toList
  let (d, rest) ← readValue (2 * chars.length + 1) readingLimit chars
  if (skipSpace rest).isEmpty then some d else none

/-! ### Integers of 64 bits -/

def narrowInt? (n : Int) : Option Document :=
  if isWideInt n then
    let x := Binary64.ofInt n
    if x.isFinite then some (real x) else none
  else some (int n)

mutual

/-- Integers beyond 64 bits become real numbers. -/
def narrow? : Document → Option Document
  | int n => narrowInt? n
  | list items => (narrowItems? items).map list
  | object fields => (narrowFields? fields).map object
  | d => some d

def narrowItems? : List Document → Option (List Document)
  | [] => some []
  | item :: items => do
    let item ← narrow? item
    let items ← narrowItems? items
    some (item :: items)

def narrowFields? : List (String × Document) → Option (List (String × Document))
  | [] => some []
  | (name, value) :: fields => do
    let value ← narrow? value
    let fields ← narrowFields? fields
    some ((name, value) :: fields)

end

/-- The document that a text denotes. -/
def read? (source : String) : Option Document := (readExact? source).bind narrow?

end SheetCommand.Document
