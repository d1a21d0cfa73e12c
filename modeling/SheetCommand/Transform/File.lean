import SheetCommand.Files.Lock
import SheetCommand.Files.Replacement
import SheetCommand.Settings
import SheetCommand.Transform.Workbook

/-!
# Transform — files

A workbook on disk is transformed under the lock of the file to be written, which is the workbook
itself unless another path is given. Nothing is written on a trial run, nor when a workbook that would
be replaced itself has not been modified. What is replaced is copied first, if backups are wanted.
-/

namespace SheetCommand

/-- What a run takes from its surroundings. -/
structure Surroundings where
  /-- The time, as the names of copies have it. -/
  stamp : String
  /-- What the holder of a lock writes into its file. -/
  note : List UInt8
  /-- The id of a request that has none. -/
  requestId : String

/-- What is asked for. An instruction or a path that cannot be used fails the request only once it is
its turn to be checked. -/
structure FileRequest where
  source : FilePath
  instruction : Except Failure String
  out : Except Failure (Option FilePath)
  dryRun : Bool
  backup : Bool
  protectedTitles : List String

structure FileTransformed where
  transformed : Transformed
  applied : Bool
  dryRun : Bool
  out : FilePath
  backupPath : Option String

namespace FileTransformed

def toDocument (t : FileTransformed) : Document :=
  let skipped := t.transformed.changes.countP (·.isSkipped)
  .object [("applied", .bool t.applied), ("dry_run", .bool t.dryRun),
    ("recognized", .bool t.transformed.recognized), ("out", .text t.out.text),
    ("backup_path", .ofOption .text t.backupPath),
    ("actions", .list (t.transformed.actions.map (·.toDocument))),
    ("actions_applied", .ofNat (t.transformed.changes.length - skipped)),
    ("actions_skipped", .ofNat skipped),
    ("fingerprint_before", .text t.transformed.before.fingerprint),
    ("fingerprint_after",
      if t.applied then .text t.transformed.after.fingerprint else .null)]

end FileTransformed

/-- A run over files: what is left, what was reported and how it ended. -/
structure FileRun (α : Type) where
  store : Store
  events : List Event
  result : Except Failure α

namespace Transform

/-- What is checked before the lock is taken: the source, the instruction, the paths as they lead. -/
def checkRequest (s : Store) (r : FileRequest) : Except Failure (FilePath × Bool × Location) := do
  if !(← s.present r.source) then .error (.workbookNotFound r.source.text)
  else
    let _ ← r.instruction
    let out := (← r.out).getD r.source
    let inPlace := (← s.resolve out) == (← s.resolve r.source)
    return (out, inPlace, ← s.lockFile out)

/-- Copies what is at a path, if anything is. -/
def backupPresent (s : Store) (wanted : Bool) (p : FilePath) (stamp : String) :
    Store × Except Failure (Option String) :=
  if !wanted then (s, .ok none)
  else match s.present p with
    | .error e => (s, .error e)
    | .ok false => (s, .ok none)
    | .ok true =>
      let (s, copied) := s.backup p stamp
      (s, copied.map some)

/-- Writes what a transformation gave, unless there is no reason to. -/
def writeOut (s : Store) (r : FileRequest) (out : FilePath) (inPlace : Bool) (stamp : String)
    (t : Transformed) : Store × Except Failure FileTransformed :=
  if r.dryRun || (inPlace && !t.modified) then (s, .ok ⟨t, false, r.dryRun, out, none⟩)
  else
    match backupPresent s r.backup out stamp with
    | (s, .error e) => (s, .error e)
    | (s, .ok copy) =>
      match s.replace out t.after with
      | (s, .error e) => (s, .error e)
      | (s, .ok ()) => (s, .ok ⟨t, true, r.dryRun, out, copy⟩)

/-- The part of a run that needs the lock. -/
def whileLocked (s : Store) (r : FileRequest) (out : FilePath) (inPlace : Bool) (stamp : String) :
    FileRun FileTransformed :=
  match s.read r.source with
  | .error e => ⟨s, [], .error e⟩
  | .ok payload =>
    let reported := onPayload r.protectedTitles payload r.instruction
    match reported.result with
    | .error e => ⟨s, reported.events, .error e⟩
    | .ok t =>
      let (s, result) := writeOut s r out inPlace stamp t
      ⟨s, reported.events, result⟩

/-- Transforms a workbook on disk. -/
def onFile (around : Surroundings) (s : Store) (r : FileRequest) : FileRun FileTransformed :=
  match checkRequest s r with
  | .error e => ⟨s, [], .error e⟩
  | .ok (out, inPlace, lock) =>
    match s.acquire lock around.note with
    | (s, .error e) => ⟨s, [], .error e⟩
    | (s, .ok ()) =>
      let run := whileLocked s r out inPlace around.stamp
      { run with store := run.store.release lock }

end Transform

/-- The workbook at a path, which messages call by its location. -/
def Store.openWorkbook (s : Store) (p : FilePath) : Except Failure Workbook := do
  let l ← s.resolve p
  let resolved : FilePath := ⟨true, l⟩
  if !(← s.present resolved) then .error (.workbookNotFound (Location.text l))
  else (← s.read resolved).openFrom (Location.text l)

end SheetCommand
