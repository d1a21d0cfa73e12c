import SheetCommand.Yaml.Scalar

/-!
# Yaml — nodes

A document is one node: a scalar, a sequence or a mapping. The parts of a block collection begin at
one column, deeper than what holds it; between brackets parts are separated by commas and may begin
anywhere. A node may carry an anchor and a tag, and an alias stands for the node with its anchor.

A key is what a colon follows on the line where the key begins. A block collection begins only where
nothing but its own marks stands before it on the line.
-/

namespace SheetCommand.Yaml

inductive Node where
  | plain (text : List Char)
  | quoted (text : List Char)
  | sequence (items : List Node)
  | mapping (entries : List (Node × Node))
  | reference (name : List Char)
  | anchored (name : List Char) (node : Node)
  | tagged (tag : List Char) (node : Node)
  deriving Inhabited

namespace Node

/-- What is left out. -/
def absent : Node := plain []

/-- A node with an anchor, which it must not have yet. -/
def withAnchor? (name : List Char) : Node → Option Node
  | reference _ | anchored .. => none
  | node => some (anchored name node)

/-- A node with a tag, which it must not have yet. The anchor stands for the node with its tag. -/
def withTag? (tag : List Char) : Node → Option Node
  | reference _ | tagged .. | anchored _ (tagged ..) => none
  | anchored name node => some (anchored name (tagged tag node))
  | node => some (tagged tag node)

end Node

/-! ### Names -/

def isNameChar (c : Char) : Bool := c.isAlphanum || c == '-' || c == '_'

/-- The name of an anchor, behind its mark. -/
def name? (c : Cursor) : Option (List Char × Cursor) :=
  let name := c.rest.takeWhile isNameChar
  let after := c.skip name.length
  if name.isEmpty then none
  else if endsWord after.rest ||
      (after.peek?).any ['?', ':', ',', ']', '\x7d', '%', '@', '\u0060'].contains then
    some (name, after)
  else none

/-- A tag with its mark, up to white space. -/
def tagHere (c : Cursor) : List Char × Cursor :=
  let tag := c.rest.takeWhile (!isGap ·)
  (tag, c.skip tag.length)

/-! ### Nodes without blocks -/

/-- Keys may have this many characters. -/
def keyLimit : Nat := 1024

/-- Whether a colon here belongs to a key that began at a place. -/
def closesKey (start colon : Cursor) : Bool :=
  colon.line == start.line && colon.column - start.column ≤ keyLimit

mutual

/-- A node that is written in line, with its marks; `marked` says that it may be left out, as it has
marks already or is not required. In a block a further line must be indented by `least`. -/
def inline? (flow marked : Bool) (least : Nat) : Nat → Cursor → Option (Node × Cursor)
  | 0, _ => none
  | fuel + 1, c =>
    let skip (c : Cursor) : Cursor := if flow then c.skipGaps else c.skipSpaces
    match c.peek? with
    | some '&' => do
      let (name, after) ← name? c.next
      let (node, after) ← inline? flow true least fuel (skip after)
      some (← node.withAnchor? name, after)
    | some '!' => do
      let (tag, after) := tagHere c
      let (node, after) ← inline? flow true least fuel (skip after)
      some (← node.withTag? tag, after)
    | _ => match content? flow least fuel c with
      | some found => some found
      | none => if marked then some (.absent, c) else none

/-- A node in line without its marks. -/
def content? (flow : Bool) (least : Nat) : Nat → Cursor → Option (Node × Cursor)
  | 0, _ => none
  | fuel + 1, c =>
    if c.atMark then none
    else match c.peek? with
      | some '*' => (name? c.next).map fun (name, after) => (.reference name, after)
      | some '"' => (quotedFrom true (c.rest.length + 1) c.next).map fun (text, after) =>
          (.quoted text, after)
      | some '\'' => (quotedFrom false (c.rest.length + 1) c.next).map fun (text, after) =>
          (.quoted text, after)
      | some '[' => (flowEntries ']' fuel c.next).map fun (entries, after) =>
          (.sequence (entries.map fun (key, value) => match value with
            | none => key
            | some value => .mapping [(key, value)]), after)
      | some '\x7b' => (flowEntries '\x7d' fuel c.next).map fun (entries, after) =>
          (.mapping (entries.map fun (key, value) => (key, value.getD .absent)), after)
      | _ =>
        if startsPlain flow c.rest then
          let (text, after) := plainFrom flow least (c.rest.length + 1) c
          some (.plain text, after)
        else none

/-- What stands between brackets, up to the closing one; a comma may stand behind the last part. -/
def flowEntries (close : Char) : Nat → Cursor → Option (List (Node × Option Node) × Cursor)
  | 0, _ => none
  | fuel + 1, c =>
    let c := c.skipGaps
    if c.peek? == some close then some ([], c.next)
    else do
      let (entry, after) ← flowEntry fuel c
      let after := after.skipGaps
      if after.peek? == some ',' then
        let (more, last) ← flowEntries close fuel after.next
        some (entry :: more, last)
      else if after.peek? == some close then some ([entry], after.next)
      else none

/-- A part between brackets: a node, and a value if a colon makes it a key. -/
def flowEntry : Nat → Cursor → Option ((Node × Option Node) × Cursor)
  | 0, _ => none
  | fuel + 1, c => do
    let isKey := c.peek? == some '?'
    let start := if isKey then c.next.skipGaps else c
    let (key, after) ← inline? true isKey 0 fuel start
    let colon := after.skipGaps
    if colon.peek? == some ':' && (isKey || closesKey start colon) then
      let (value, after) ← inline? true true 0 fuel colon.next.skipGaps
      some ((key, some value), after)
    else some ((key, if isKey then some .absent else none), after)

end

/-! ### Blocks -/

/-- A key of a block mapping; the cursor after it is behind the colon. -/
def key? (fuel least : Nat) (c : Cursor) : Option (Node × Cursor) := do
  let (key, after) ← inline? false false least fuel c
  let colon := after.skipSpaces
  if colon.atIndicator ':' && closesKey c colon then some (key, colon.next) else none

mutual

/-- A node that begins at column `least` or behind; nothing, if the next thing begins before it.
`fresh` says that a block collection may begin on this line, and `level` that the items of a
sequence may begin one column before `least`. -/
def blockNode (least : Nat) (fresh level : Bool) : Nat → Cursor → Option (Node × Cursor)
  | 0, _ => none
  | fuel + 1, c =>
    let start := c.skipGaps
    let fresh := fresh || start.line != c.line
    if start.atEnd then some (.absent, start)
    else if start.column < least then
      if level && fresh && start.column + 1 == least && start.atIndicator '-' then
        (blockItems start.column fuel start).map fun (items, after) => (.sequence items, after)
      else some (.absent, start)
    else if start.atIndicator '-' then
      if fresh then
        (blockItems start.column fuel start).map fun (items, after) => (.sequence items, after)
      else none
    else if fresh && (start.atIndicator '?' || (key? fuel least start).isSome) then
      (blockEntries start.column fuel start).map fun (entries, after) => (.mapping entries, after)
    else match start.peek? with
      | some '&' => do
        let (name, after) ← name? start.next
        let (node, after) ← blockNode least false level fuel after
        some (← node.withAnchor? name, after)
      | some '!' => do
        let (tag, after) := tagHere start
        let (node, after) ← blockNode least false level fuel after
        some (← node.withTag? tag, after)
      | some '|' => (block? false least start.next).map fun (text, after) => (.quoted text, after)
      | some '>' => (block? true least start.next).map fun (text, after) => (.quoted text, after)
      | _ => content? false least fuel start

/-- The items at a column, each behind a dash. -/
def blockItems (column : Nat) : Nat → Cursor → Option (List Node × Cursor)
  | 0, _ => none
  | fuel + 1, c =>
    let c := c.skipGaps
    if c.atEnd || c.column != column || !c.atIndicator '-' then some ([], c)
    else do
      let (item, after) ← blockNode (column + 1) true false fuel c.next
      let (more, last) ← blockItems column fuel after
      some (item :: more, last)

/-- The entries whose keys begin at a column. -/
def blockEntries (column : Nat) : Nat → Cursor → Option (List (Node × Node) × Cursor)
  | 0, _ => none
  | fuel + 1, c =>
    let c := c.skipGaps
    if c.atEnd || c.column != column then some ([], c)
    else if c.atIndicator '?' then do
      let (key, after) ← blockNode (column + 1) true true fuel c.next
      let colon := after.skipGaps
      let (value, after) ←
        if !colon.atEnd && colon.column == column && colon.atIndicator ':' then
          blockNode (column + 1) true true fuel colon.next
        else some (.absent, after)
      let (more, last) ← blockEntries column fuel after
      some ((key, value) :: more, last)
    else match key? fuel (column + 1) c with
      | none => some ([], c)
      | some (key, after) => do
        let (value, after) ← blockNode (column + 1) false true fuel after
        let (more, last) ← blockEntries column fuel after
        some ((key, value) :: more, last)

end

/-! ### Documents -/

/-- Whether a line states a version of the format that is understood, or nothing about it. -/
def isDirective (line : List Char) : Bool :=
  match (Text.words line).map String.ofList with
  | "%YAML" :: version :: _ => version.toList.take 2 = ['1', '.']
  | ["%YAML"] => false
  | _ => true

/-- Skips the lines in front of a document that begin with `%`; after any there must be a mark. -/
def skipDirectives : Nat → Cursor → Option Cursor
  | 0, _ => none
  | fuel + 1, c =>
    let c := c.skipGaps
    let line := c.rest.takeWhile (!isBreak ·)
    if c.column == 0 && line.head? == some '%' then
      if isDirective line then
        let after := (c.skip line.length).skipGaps
        if after.atMark || after.peek? == some '%' then skipDirectives fuel after else none
      else none
    else some c

/-- Whether nothing but marks that end documents is left. -/
def isOver : Nat → Cursor → Bool
  | 0, _ => false
  | fuel + 1, c =>
    let c := c.skipGaps
    c.rest.isEmpty || (c.atMark && c.peek? == some '.' && isOver fuel (c.skip 3))

/-- The only document of a text; a text without any holds nothing. -/
def Node.ofText? (text : List Char) : Option Node := do
  let fuel := 8 * text.length + 16
  let start ← skipDirectives fuel (.ofText text)
  let (node, after) ←
    if start.atMark then
      if start.peek? == some '-' then blockNode 0 false false fuel (start.skip 3) else none
    else blockNode 0 true false fuel start
  if isOver fuel after then some node else none

end SheetCommand.Yaml
