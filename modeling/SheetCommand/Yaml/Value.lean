import SheetCommand.Yaml.Node
import SheetCommand.Yaml.Resolution

/-!
# Yaml — values

What a node denotes, once its scalars are resolved, its aliases replaced and the entries that it
borrows from other mappings put before its own. Keys must be scalars; a later entry with the same key
wins.
-/

namespace SheetCommand.Yaml

inductive Value where
  | scalar (d : Document)
  | sequence (items : List Value)
  | mapping (entries : List (Document × Value))
  deriving Inhabited

namespace Value

mutual

/-- The value as a document, without the entries whose keys are no texts. -/
def toDocument : Value → Document
  | scalar d => d
  | sequence items => .list (itemDocuments items)
  | mapping entries => .object (entryFields [] entries)

def itemDocuments : List Value → List Document
  | [] => []
  | item :: items => toDocument item :: itemDocuments items

/-- Adds the fields of entries to those before them. -/
def entryFields (fields : List (String × Document)) :
    List (Document × Value) → List (String × Document)
  | [] => fields
  | (.text name, value) :: entries =>
    entryFields (Document.setField fields name (toDocument value)) entries
  | _ :: entries => entryFields fields entries

end

/-- The entries that a value lends, if it is a mapping or a sequence of mappings. Of a sequence the
earlier mappings come later, so that their entries win. -/
def lent? : Value → Option (List (Document × Value))
  | mapping entries => some entries
  | sequence items => (items.reverse.mapM fun item => match item with
    | mapping entries => some entries
    | _ => none).map List.flatten
  | scalar _ => none

end Value

/-! ### Resolution of nodes -/

abbrev Anchors := List (List Char × Value)

/-- A computation that knows the anchors met so far. -/
abbrev Resolving := StateT Anchors (Except Problem)

/-- What an alias inside the node of its own anchor stands for: something of its kind. -/
def Node.outline : Node → Value
  | mapping _ => .mapping []
  | tagged _ node => node.outline
  | _ => .sequence []

/-- The text of a scalar. -/
def Node.text? : Node → Option (List Char)
  | plain text | quoted text => some text
  | _ => none

/-- Whether a tag fits a collection. -/
def Value.hasTag (tag : List Char) : Value → Bool
  | sequence _ => tag == "!!seq".toList || tag == ['!']
  | mapping _ => tag == "!!map".toList || tag == ['!']
  | scalar _ => false

mutual

def Node.resolve : Node → Resolving Value
  | .plain text => return .scalar (← plainValue text)
  | .quoted text => return .scalar (.text (.ofList text))
  | .sequence items => return .sequence (← resolveItems items)
  | .mapping entries => do
    let (lent, own) ← resolveEntries entries
    return .mapping (lent ++ own)
  | .reference name => do
    match (← get).lookup name with
    | some value => return value
    | none => throw .unreadable
  | .anchored name node => do
    if ((← get).lookup name).isSome then throw .unreadable
    modify ((name, node.outline) :: ·)
    let value ← node.resolve
    modify ((name, value) :: ·)
    return value
  | .tagged tag node =>
    match node.text? with
    | some text => return .scalar (← taggedValue tag text)
    | none => do
      let value ← node.resolve
      if value.hasTag tag then return value else throw .unreadable

def resolveItems : List Node → Resolving (List Value)
  | [] => return []
  | item :: items => do
    let value ← item.resolve
    return value :: (← resolveItems items)

/-- The entries that are lent to a mapping and its own. -/
def resolveEntries : List (Node × Node) → Resolving (List (Document × Value) × List (Document × Value))
  | [] => return ([], [])
  | (.plain key, node) :: entries => do
    if key = mergeWord then
      let value ← node.resolve
      match value.lent? with
      | none => throw .unreadable
      | some borrowed =>
        let (lent, own) ← resolveEntries entries
        return (borrowed ++ lent, own)
    else
      let key ← if key = defaultWord then pure (.text (.ofList key)) else plainValue key
      let value ← node.resolve
      let (lent, own) ← resolveEntries entries
      return (lent, (key, value) :: own)
  | (key, node) :: entries => do
    match ← key.resolve with
    | .scalar key =>
      let value ← node.resolve
      let (lent, own) ← resolveEntries entries
      return (lent, (key, value) :: own)
    | _ => throw .unreadable

end

/-! ### Texts -/

/-- The characters that a document may be written with. -/
def isAllowed (c : Char) : Bool :=
  let n := c.toNat
  n == 0x09 || n == 0x0A || n == 0x0D || (0x20 ≤ n && n ≤ 0x7E) || n == 0x85 ||
    (0xA0 ≤ n && n ≤ 0xD7FF) || (0xE000 ≤ n && n ≤ 0xFFFD) || 0x10000 ≤ n

/-- The value that a text denotes; a byte order mark at its front does not count. -/
def Value.ofText (text : String) : Except Problem Value :=
  let chars := text.toList
  if !chars.all isAllowed then .error .unreadable
  else
    let body := if chars.head? = some '\ufeff' then chars.drop 1 else chars
    match Node.ofText? body with
    | none => .error .unreadable
    | some node => (node.resolve.run []).map (·.1)

end SheetCommand.Yaml
