import SheetCommand.Files.Path
import SheetCommand.Workbook.Payload

/-!
# Files — store

A store maps locations to files and folders. The folder that relative paths start from, and all above
it, exist. To look at a store does not change it, and to put or to remove a file changes nothing else:
`lookup_putEntry`, `remove_put`.
-/

namespace SheetCommand

inductive Entry where
  | file (content : Payload)
  | folder
  deriving DecidableEq

structure Store where
  /-- The folder that relative paths start from. -/
  base : Location
  entries : List (Location × Entry)
  /-- The lock files that are held. -/
  held : List Location
  /-- The files written so far, the latest first, lock files aside. -/
  written : List Location

namespace Store

def ofEntries (base : Location) (entries : List (Location × Entry)) : Store := ⟨base, entries, [], []⟩

/-! ### Finding -/

def get? (s : Store) (l : Location) : Option Entry :=
  if l.isPrefixOf s.base then some .folder else s.entries.lookup l

/-- Names may have this many bytes. -/
def nameLimit : Nat := 255

/-- Follows the parts of a path from a location; all but the last must lead to folders. -/
def walk (s : Store) (l : Location) : List String → Except FileProblem Location
  | [] => .ok l
  | part :: parts =>
    match s.get? l with
    | none => .error .absent
    | some (.file _) => .error .notFolder
    | some .folder =>
      if nameLimit < part.utf8ByteSize then .error .nameTooLong
      else walk s (FilePath.step l part) parts

/-- Where a path leads to and what is there. -/
def find (s : Store) (p : FilePath) : Except FileProblem (Location × Entry) := do
  let l ← s.walk (if p.absolute then [] else s.base) p.parts
  match s.get? l with
  | none => .error .absent
  | some e => .ok (l, e)

/-- Paths with a character that ends texts denote nothing. -/
def isUsable (p : FilePath) : Bool := p.parts.all fun part => !part.toList.contains '\x00'

/-- Whether there is anything at a path. -/
def present (s : Store) (p : FilePath) : Except Failure Bool :=
  if !isUsable p then .ok false
  else match s.find p with
    | .ok _ => .ok true
    | .error .nameTooLong => .error (.file .nameTooLong p.text)
    | .error _ => .ok false

/-- Where a path leads to, whether or not anything is there. -/
def resolve (s : Store) (p : FilePath) : Except Failure Location :=
  if isUsable p then .ok (p.locate s.base) else .error .malformed

/-! ### Reading -/

def read (s : Store) (p : FilePath) : Except Failure Payload :=
  if !isUsable p then .error .malformed
  else match s.find p with
    | .error problem => .error (.file problem p.text)
    | .ok (_, .folder) => .error (.file .isFolder p.text)
    | .ok (_, .file content) => .ok content

/-- The text of a file, its line ends as line feeds. -/
def readText (s : Store) (p : FilePath) : Except Failure String := do
  match Utf8.decodeMarked? (← s.read p).bytes with
  | some text => return .ofList (Text.unixLines text.toList)
  | none => .error .undecodable

/-! ### Writing -/

def putEntry (l : Location) (e : Entry) : List (Location × Entry) → List (Location × Entry)
  | [] => [(l, e)]
  | (other, old) :: rest =>
    if other = l then (l, e) :: rest else (other, old) :: putEntry l e rest

def put (s : Store) (l : Location) (content : Payload) : Store :=
  { s with entries := putEntry l (.file content) s.entries }

/-- Puts a file and remembers that it was written. -/
def record (s : Store) (l : Location) (content : Payload) : Store :=
  { s.put l content with written := l :: s.written }

/-- The store without the file at a location. -/
def remove (s : Store) (l : Location) : Store :=
  { s with entries := s.entries.filter fun entry => entry.1 ≠ l }

/-! ### Laws of single entries -/

theorem lookup_putEntry (l m : Location) (e : Entry) (entries : List (Location × Entry)) :
    (putEntry l e entries).lookup m = if m = l then some e else entries.lookup m := by
  have lookup_cons (k : Location) (x : Entry) (rest) :
      List.lookup m ((k, x) :: rest) = if m = k then some x else List.lookup m rest := by
    by_cases h : m = k
    · simp [h]
    · simp [List.lookup_cons, h, beq_eq_false_iff_ne.mpr h]
  induction entries with
  | nil => simp [putEntry, lookup_cons]
  | cons entry rest ih =>
    obtain ⟨k, x⟩ := entry
    by_cases h : k = l
    · subst h
      by_cases hm : m = k <;> simp [putEntry, lookup_cons, hm]
    · by_cases hm : m = k
      · subst hm
        simp [putEntry, h, lookup_cons]
      · simp [putEntry, h, lookup_cons, hm, ih]

theorem filter_putEntry (l : Location) (e : Entry) (entries : List (Location × Entry)) :
    (putEntry l e entries).filter (fun entry => entry.1 ≠ l) =
      entries.filter fun entry => entry.1 ≠ l := by
  induction entries with
  | nil => simp [putEntry]
  | cons entry rest ih =>
    obtain ⟨k, x⟩ := entry
    by_cases h : k = l
    · simp [putEntry, h]
    · simp only [putEntry, h, if_false, List.filter_cons, ih]

theorem putEntry_putEntry (l : Location) (e f : Entry) (entries : List (Location × Entry)) :
    putEntry l f (putEntry l e entries) = putEntry l f entries := by
  induction entries with
  | nil => simp [putEntry]
  | cons entry rest ih =>
    obtain ⟨k, x⟩ := entry
    by_cases h : k = l <;> simp [putEntry, h, ih]

theorem put_put (s : Store) (l : Location) (c d : Payload) : (s.put l c).put l d = s.put l d := by
  simp only [put, putEntry_putEntry]

theorem remove_put (s : Store) (l : Location) (content : Payload) :
    (s.put l content).remove l = s.remove l := by
  simp only [put, remove, filter_putEntry]

theorem get?_put (s : Store) (l m : Location) (content : Payload) :
    (s.put l content).get? m =
      if m.isPrefixOf s.base then some .folder
      else if m = l then some (.file content) else s.entries.lookup m := by
  simp only [get?, put, lookup_putEntry]

theorem lookup_eq_none_of_free {s : Store} {l : Location} (h : s.get? l = none) :
    s.entries.lookup l = none := by
  unfold get? at h
  split at h
  · cases h
  · exact h

/-- There is nothing to remove where nothing is. -/
theorem remove_of_free {s : Store} {l : Location} (h : s.get? l = none) : s.remove l = s := by
  have kept : s.entries.filter (fun entry => entry.1 ≠ l) = s.entries := by
    rw [List.filter_eq_self]
    intro entry member
    have absent := List.lookup_eq_none_iff.mp (lookup_eq_none_of_free h) entry member
    exact decide_eq_true fun e => by simp [e] at absent
  simp only [remove, kept]

end Store

end SheetCommand
