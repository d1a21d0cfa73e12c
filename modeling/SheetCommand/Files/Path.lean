import SheetCommand.Text.Blank

/-!
# Files — paths

A path is written with slashes between its parts; empty parts and single dots do not count. A
location is where a path leads to: the parts from the root on, with every `..` resolved.
-/

namespace SheetCommand

abbrev Location := List String

def Location.text (l : Location) : String := "/" ++ "/".intercalate l

structure FilePath where
  absolute : Bool
  parts : List String
  deriving DecidableEq

namespace FilePath

def ofText (text : String) : FilePath :=
  ⟨text.toList.head? = some '/',
    ((Text.splitAt '/' text.toList).map String.ofList).filter fun part => part ≠ "" ∧ part ≠ "."⟩

def text (p : FilePath) : String :=
  if p.absolute then Location.text p.parts
  else if p.parts.isEmpty then "."
  else "/".intercalate p.parts

/-- The last part; empty for the root and for the folder that paths start from. -/
def name (p : FilePath) : String := p.parts.getLast?.getD ""

def parent (p : FilePath) : FilePath := { p with parts := p.parts.dropLast }

/-- A path beside this one. -/
def withName (p : FilePath) (name : String) : FilePath :=
  { p with parts := p.parts.dropLast ++ [name] }

/-- A name without its last extension, and that extension with its dot. A dot at either end of a name
begins no extension. -/
def splitExtension (name : List Char) : List Char × List Char :=
  let after := (name.reverse.takeWhile (· ≠ '.')).reverse
  let stem := name.take (name.length - after.length - 1)
  if after.isEmpty ∨ stem.isEmpty ∨ after.length = name.length then (name, [])
  else (stem, '.' :: after)

/-- One step of a location. -/
def step (l : Location) (part : String) : Location :=
  if part = ".." then l.dropLast else l ++ [part]

/-- Where a path leads to from a folder. -/
def locate (p : FilePath) (folder : Location) : Location :=
  p.parts.foldl step (if p.absolute then [] else folder)

theorem parent_withName (p : FilePath) (name : String) : (p.withName name).parent = p.parent := by
  simp [parent, withName]

theorem name_withName (p : FilePath) (name : String) : (p.withName name).name = name := by
  simp [FilePath.name, withName]

end FilePath

end SheetCommand
