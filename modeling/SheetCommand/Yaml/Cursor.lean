/-!
# Yaml — cursor

A cursor stands before a character and knows its line and column, as the structure of a document
follows from where its lines begin. Only spaces indent; a tab can begin nothing.
-/

namespace SheetCommand.Yaml

def isBreak (c : Char) : Bool :=
  c == '\n' || c == '\r' || c == '\u0085' || c == '\u2028' || c == '\u2029'

def isGap (c : Char) : Bool := c == ' ' || c == '\t' || isBreak c

/-- Whether a text is at its end or goes on with white space. -/
def endsWord : List Char → Bool
  | [] => true
  | c :: _ => isGap c

structure Cursor where
  rest : List Char
  column : Nat
  line : Nat

namespace Cursor

def ofText (text : List Char) : Cursor := ⟨text, 0, 0⟩

/-- The cursor after the next character. -/
def next (c : Cursor) : Cursor :=
  match c.rest with
  | [] => c
  | x :: rest => if isBreak x then ⟨rest, 0, c.line + 1⟩ else ⟨rest, c.column + 1, c.line⟩

/-- The cursor after `n` characters. -/
def skip : Nat → Cursor → Cursor
  | 0, c => c
  | n + 1, c => skip n c.next

def peek? (c : Cursor) : Option Char := c.rest.head?

/-- The cursor after the characters of a class. -/
def skipWhile (c : Cursor) (p : Char → Bool) : Cursor := c.skip (c.rest.takeWhile p).length

def skipSpaces (c : Cursor) : Cursor := c.skipWhile (· == ' ')

/-- Whether a line consists of a mark between documents. -/
def atMark (c : Cursor) : Bool :=
  c.column == 0 && match c.rest with
    | '-' :: '-' :: '-' :: rest => endsWord rest
    | '.' :: '.' :: '.' :: rest => endsWord rest
    | _ => false

/-- Whether nothing of the document is left. -/
def atEnd (c : Cursor) : Bool := c.rest.isEmpty || c.atMark

/-- Skips spaces, comments and line ends, at most `fuel` lines. -/
def skipGapsFor : Nat → Cursor → Cursor
  | 0, c => c
  | fuel + 1, c =>
    let c := c.skipSpaces
    let c := if c.peek? == some '#' then c.skipWhile (!isBreak ·) else c
    match c.peek? with
    | some x => if isBreak x then skipGapsFor fuel c.next else c
    | none => c

/-- The cursor before the next thing that is neither space nor comment. -/
def skipGaps (c : Cursor) : Cursor := skipGapsFor (c.rest.length + 1) c

/-- Whether an indicator stands here: the character with white space behind it. -/
def atIndicator (c : Cursor) (indicator : Char) : Bool :=
  match c.rest with
  | x :: rest => x == indicator && endsWord rest
  | [] => false

end Cursor

/-- What a line end inside a scalar contributes. -/
def breakText (c : Char) : List Char := if c == '\u2028' || c == '\u2029' then [c] else ['\n']

/-- The text of one or more line ends between two pieces of a scalar: a single one is a space. -/
def fold (first : Char) (more : List Char) : List Char :=
  (if breakText first ≠ ['\n'] then breakText first else if more.isEmpty then [' '] else []) ++ more

end SheetCommand.Yaml
