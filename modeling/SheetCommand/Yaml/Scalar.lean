import SheetCommand.Document.Reader
import SheetCommand.Yaml.Cursor

/-!
# Yaml — scalars

Scalars are plain, between single or double quotes, or blocks of lines. Inside the first two kinds a
line end and the white space around it count as one space, and further line ends are kept; a block
keeps its line ends, or folds them between lines that begin with no white space.
-/

namespace SheetCommand.Yaml

/-! ### Plain scalars -/

/-- Characters with which no plain scalar begins. -/
def indicators : List Char :=
  ['-', '?', ':', ',', '[', ']', '\x7b', '\x7d', '#', '&', '*', '!', '|', '>', '\'', '"', '%', '@',
   '\u0060']

/-- Marks that end a plain scalar inside a list or an object in brackets. -/
def flowMarks : List Char := [',', '?', '[', ']', '\x7b', '\x7d']

/-- Whether a plain scalar can begin here. -/
def startsPlain (flow : Bool) : List Char → Bool
  | [] => false
  | c :: rest =>
    (!isGap c && !indicators.contains c) ||
      (!endsWord rest && (c == '-' || (!flow && (c == '?' || c == ':'))))

/-- Whether a colon ends the word before it, given what follows it. -/
def endsKey (flow : Bool) : List Char → Bool
  | [] => true
  | c :: _ => isGap c || (flow && [',', '[', ']', '\x7b', '\x7d'].contains c)

/-- The characters of a plain scalar up to white space or a mark. -/
def plainWord (flow : Bool) : List Char → List Char
  | [] => []
  | c :: rest =>
    if isGap c || (c == ':' && endsKey flow rest) || (flow && flowMarks.contains c) then []
    else c :: plainWord flow rest

/-- Skips spaces and line ends; the line ends, or none if a mark between documents is met. -/
def lineEnds : Nat → Cursor → Option (List Char) × Cursor
  | 0, c => (some [], c)
  | fuel + 1, c =>
    let c := c.skipSpaces
    match c.peek? with
    | some x =>
      if isBreak x then
        let c := c.next
        if c.atMark then (none, c)
        else
          let (more, c) := lineEnds fuel c
          (more.map (breakText x ++ ·), c)
      else (some [], c)
    | none => (some [], c)

/-- What stands between two words of a plain scalar, none if it cannot go on. -/
def plainGap (c : Cursor) : Option (List Char) × Cursor :=
  let after := c.skipSpaces
  match after.peek? with
  | some x =>
    if isBreak x then
      let c := after.next
      if c.atMark then (none, c)
      else
        let (more, c) := lineEnds c.rest.length c
        (more.map (fold x), c)
    else if after.column = c.column then (none, after)
    else (some (List.replicate (after.column - c.column) ' '), after)
  | none => (none, after)

/-- The words of a plain scalar. In a block every further line must be indented by `indent`. -/
def plainFrom (flow : Bool) (indent : Nat) : Nat → Cursor → List Char × Cursor
  | 0, c => ([], c)
  | fuel + 1, c =>
    let word := plainWord flow c.rest
    let c := c.skip word.length
    let (gap, after) := plainGap c
    match gap with
    | none => (word, after)
    | some gap =>
      if after.peek? == some '#' || (!flow && after.column < indent) ||
          (plainWord flow after.rest).isEmpty then (word, after)
      else
        let (more, last) := plainFrom flow indent fuel after
        (word ++ gap ++ more, last)

/-! ### Quoted scalars -/

/-- The characters that stand for others after a backslash. -/
def escapes : List (Char × Char) :=
  [('0', '\x00'), ('a', '\x07'), ('b', '\x08'), ('t', '\t'), ('\t', '\t'), ('n', '\n'), ('v', '\x0b'),
   ('f', '\x0c'), ('r', '\r'), ('e', '\x1b'), (' ', ' '), ('"', '"'), ('\\', '\\'), ('/', '/'),
   ('N', '\u0085'), ('_', '\u00a0'), ('L', '\u2028'), ('P', '\u2029')]

/-- Skips blanks and line ends inside quotes, where no mark between documents may stand. -/
def quotedLineEnds : Nat → Cursor → Option (List Char × Cursor)
  | 0, _ => none
  | fuel + 1, c =>
    if c.atMark then none
    else
      let c := c.skipWhile fun x => x == ' ' || x == '\t'
      match c.peek? with
      | some x =>
        if isBreak x then
          (quotedLineEnds fuel c.next).map fun (more, c) => (breakText x ++ more, c)
        else some ([], c)
      | none => some ([], c)

/-- The number that hexadecimal digits denote. -/
def hexNumber? (digits : List Char) : Option Nat :=
  digits.foldlM (fun n d => (Document.hexValue? d).map (16 * n + ·)) 0

/-- What follows a backslash. -/
def escape? (c : Cursor) : Option (List Char × Cursor) := do
  let x ← c.peek?
  if isBreak x then quotedLineEnds (c.rest.length + 1) c.next
  else match escapes.lookup x with
    | some y => some ([y], c.next)
    | none =>
      let width ← [('x', 2), ('u', 4), ('U', 8)].lookup x
      let digits := (c.rest.drop 1).take width
      let code ← hexNumber? digits
      if digits.length = width ∧ code < 0x110000 then
        some ([Char.ofNat code], c.skip (width + 1))
      else none

/-- A scalar between quotes; the cursor stands behind the opening one. -/
def quotedFrom (double : Bool) : Nat → Cursor → Option (List Char × Cursor)
  | 0, _ => none
  | fuel + 1, c => do
    let x ← c.peek?
    let go (piece : List Char) (c : Cursor) : Option (List Char × Cursor) :=
      (quotedFrom double fuel c).map fun (more, c) => (piece ++ more, c)
    if x == (if double then '"' else '\'') then
      if !double && c.next.peek? == some '\'' then go ['\''] (c.skip 2) else some ([], c.next)
    else if double && x == '\\' then
      let (piece, c) ← escape? c.next
      go piece c
    else if x == ' ' || x == '\t' then
      let after := c.skipWhile fun x => x == ' ' || x == '\t'
      match after.peek? with
      | none => none
      | some y =>
        if isBreak y then go [] after else go (c.rest.take (after.column - c.column)) after
    else if isBreak x then
      let (more, c) ← quotedLineEnds (c.rest.length + 1) c.next
      go (fold x more) c
    else go [x] c.next

/-! ### Blocks of lines -/

/-- How the line ends at the end of a block are kept. -/
inductive Chomping where
  | strip | clip | keep
  deriving DecidableEq

/-- The signs behind the mark of a block, in either order: how it ends and how far it is indented. -/
def blockHeader? : List Char → Option (Chomping × Option Nat × Nat)
  | '+' :: d :: _ =>
    if Text.isAsciiDigit d then if d = '0' then none else some (.keep, some (d.toNat - 48), 2)
    else some (.keep, none, 1)
  | '-' :: d :: _ =>
    if Text.isAsciiDigit d then if d = '0' then none else some (.strip, some (d.toNat - 48), 2)
    else some (.strip, none, 1)
  | ['+'] => some (.keep, none, 1)
  | ['-'] => some (.strip, none, 1)
  | d :: rest =>
    if Text.isAsciiDigit d then
      if d = '0' then none
      else match rest.head? with
        | some '+' => some (.keep, some (d.toNat - 48), 2)
        | some '-' => some (.strip, some (d.toNat - 48), 2)
        | _ => some (.clip, some (d.toNat - 48), 1)
    else some (.clip, none, 0)
  | [] => some (.clip, none, 0)

/-- Skips empty lines indented by less than `indent`. -/
def blockBreaks (indent : Nat) : Nat → Cursor → List Char × Cursor
  | 0, c => ([], c)
  | fuel + 1, c =>
    let c := c.skip (min (indent - c.column) (c.rest.takeWhile (· == ' ')).length)
    match c.peek? with
    | some x =>
      if isBreak x then
        let (more, c) := blockBreaks indent fuel c.next
        (breakText x ++ more, c)
      else ([], c)
    | none => ([], c)

/-- The widest indentation of the lines up to the first that is not empty. -/
def blockIndent : Nat → Cursor → Nat
  | 0, _ => 0
  | fuel + 1, c =>
    let c := c.skipSpaces
    match c.peek? with
    | some x => if isBreak x then max c.column (blockIndent fuel c.next) else c.column
    | none => c.column

def startsBlank (c : Cursor) : Bool := c.peek? == some ' ' || c.peek? == some '\t'

/-- The lines of a block from a line that belongs to it, without its last line end; that line end, and
the empty lines after it. -/
def blockLines (folded : Bool) (indent : Nat) : Nat → Cursor →
    List Char × List Char × List Char × Cursor
  | 0, c => ([], [], [], c)
  | fuel + 1, c =>
    let line := c.rest.takeWhile (!isBreak ·)
    let after := c.skip line.length
    let ending := ((after.peek?).map breakText).getD []
    let (breaks, next) := blockBreaks indent (c.rest.length + 1) after.next
    if next.column = indent && !next.rest.isEmpty then
      let gap :=
        if folded && ending == ['\n'] && !startsBlank c && !startsBlank next then
          if breaks.isEmpty then [' '] else []
        else ending
      let (more, lastEnding, lastBreaks, last) := blockLines folded indent fuel next
      (line ++ gap ++ breaks ++ more, lastEnding, lastBreaks, last)
    else (line, ending, breaks, next)

/-- A block; the cursor stands behind its mark, inside a collection indented by less than
`leastIndent`. -/
def block? (folded : Bool) (leastIndent : Nat) (c : Cursor) : Option (List Char × Cursor) := do
  let (chomping, increment, width) ← blockHeader? c.rest
  let c := (c.skip width).skipSpaces
  let c := if c.peek? == some '#' then c.skipWhile (!isBreak ·) else c
  if (c.peek?).any (!isBreak ·) then none
  else
    let c := c.next
    let fuel := c.rest.length + 1
    let least := max leastIndent 1
    let indent := match increment with
      | some n => least + n - 1
      | none => max least (blockIndent fuel c)
    let (breaks, c) := blockBreaks indent fuel c
    if c.column = indent && !c.rest.isEmpty then
      let (lines, ending, more, c) := blockLines folded indent fuel c
      some (breaks ++ lines ++ (if chomping = .strip then [] else ending) ++
        (if chomping = .keep then more else []), c)
    else some (if chomping = .keep then breaks else [], c)

end SheetCommand.Yaml
