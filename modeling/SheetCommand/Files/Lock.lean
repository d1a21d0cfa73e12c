import SheetCommand.Files.Store

/-!
# Files — locks

A workbook is locked through a file of its own beside it, which is created when needed and stays. At
most one holder has the lock; to ask for a held one fails and changes nothing but that its file
exists.
-/

namespace SheetCommand

/-- The end of the name of a lock file. -/
def lockSuffix : String := ".sheetbol.lock"

namespace Store

/-- The lock file of a workbook. -/
def lockFile (s : Store) (p : FilePath) : Except Failure Location := do
  let l ← s.resolve p
  match l.getLast? with
  | none => .error (.emptyName "/")
  | some name => return l.dropLast ++ [name ++ lockSuffix]

/-- What is at a lock file, if it can be opened or created. -/
def openLock (s : Store) (lock : Location) : Except Failure (Option Entry) :=
  match s.walk [] lock with
  | .error problem => .error (.file problem (Location.text lock))
  | .ok _ => match s.get? lock with
    | some .folder => .error (.file .isFolder (Location.text lock))
    | found => .ok found

/-- Takes a lock, and leaves a note in its file. -/
def acquire (s : Store) (lock : Location) (note : List UInt8) : Store × Except Failure Unit :=
  match s.openLock lock with
  | .error e => (s, .error e)
  | .ok found =>
    let s := if found.isNone then s.put lock (.raw []) else s
    if s.held.contains lock then (s, .error .lockHeld)
    else ({ s.put lock (.raw note) with held := lock :: s.held }, .ok ())

/-- Gives a lock back. -/
def release (s : Store) (lock : Location) : Store := { s with held := s.held.erase lock }

end Store

/-- A lock of one workbook that its owner may take and give back again and again. -/
structure WorkbookLock where
  file : Location
  holds : Bool

namespace WorkbookLock

def enter (k : WorkbookLock) (s : Store) (note : List UInt8) :
    WorkbookLock × Store × Except Failure Unit :=
  match s.acquire k.file note with
  | (s, .ok ()) => ({ k with holds := true }, s, .ok ())
  | (s, .error e) => (k, s, .error e)

def leave (k : WorkbookLock) (s : Store) : WorkbookLock × Store :=
  if k.holds then ({ k with holds := false }, s.release k.file) else (k, s)

end WorkbookLock

end SheetCommand
