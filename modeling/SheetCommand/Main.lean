import SheetCommand.CommandLine.Paths
import SheetCommand.Files.Stamp
import Std.Time.DateTime.Timestamp

/-!
# Main

The program. It loads the files that a run can look at, runs, and writes what the run has changed.
-/

open SheetCommand

/-- The parts of a path of this machine. -/
def partsOf (path : String) : Location := (FilePath.ofText path).parts

/-- Loads what is at a location, unless it is loaded already or nothing is there. -/
def loadEntry (s : Store) (l : Location) : IO Store := do
  if (s.get? l).isSome then return s
  match ← (IO.FS.realPath (Location.text l)).toBaseIO with
  | .error _ => return s
  | .ok path =>
    if (← path.metadata).type == .dir then
      return { s with entries := s.entries ++ [(l, .folder)] }
    else
      let bytes ← IO.FS.readBinFile path
      return { s with entries := s.entries ++ [(l, .file (.ofBytes bytes.toList))] }

/-- Loads the locations on the way to where a path leads. -/
def loadPath (s : Store) (path : String) : IO Store := do
  let l := (FilePath.ofText path).locate s.base
  (List.range l.length).foldlM (fun s n => loadEntry s (l.take (n + 1))) s

/-- Loads a workbook and its lock file, and marks the lock as held if another process holds it. The
lock is kept as long as the handle is. -/
def loadWorkbook (s : Store) (path : String) : IO (Store × List IO.FS.Handle) := do
  let s ← loadPath s path
  match s.lockFile (.ofText path) with
  | .error _ => return (s, [])
  | .ok lock =>
    let s ← loadPath s (Location.text lock)
    match s.entries.lookup lock with
    | some (.file _) =>
      let handle ← IO.FS.Handle.mk (Location.text lock) .append
      if ← handle.tryLock then return (s, [handle])
      else return ({ s with held := lock :: s.held }, [])
    | _ => return (s, [])

def loadWorkbooks (s : Store) (paths : List String) : IO (Store × List IO.FS.Handle) :=
  paths.foldlM (fun (s, handles) path => do
    let (s, more) ← loadWorkbook s path
    return (s, handles ++ more)) (s, [])

/-- Writes the files that a run has changed, each beside its place first. -/
def writeChanges (before after : Store) : IO Unit := do
  for (l, entry) in after.entries do
    if before.entries.lookup l != some entry then
      match entry with
      | .file content =>
        let target := Location.text l
        let bytes : ByteArray := ⟨content.bytes.toArray⟩
        if target.endsWith lockSuffix then IO.FS.writeBinFile target bytes
        else
          let draft := target ++ ".part"
          try
            IO.FS.writeBinFile draft bytes
            IO.FS.rename draft target
          catch e =>
            let _ ← (IO.FS.removeFile draft).toBaseIO
            throw e
      | .folder => pure ()

/-- What a run takes from this machine now. -/
def surroundings : IO Surroundings := do
  let now := (← Std.Time.Timestamp.now).toSecondsSinceUnixEpoch.val.toNat
  let id ← IO.getRandomBytes 6
  return ⟨stamp now, Utf8.encode ("time=" ++ stamp now ++ "\n"),
    .ofList (id.toList.flatMap fun b => Text.hex 2 b.toNat)⟩

def printOne : CommandLine.Printed → IO Unit
  | .envelope e => match e.print with
    | .ok text => IO.println text
    | .error _ => pure ()
  | .response d => IO.println d.compact
  | .text s => IO.print s

/-- Prints what a run reports, and answers with its exit code. -/
def finish (before : Store) (o : CommandLine.Outcome) : IO UInt32 := do
  writeChanges before o.store
  for line in o.events do IO.eprintln line
  for printed in o.printed do printOne printed
  return o.exitCode.toUInt32

/-- Answers requests until the input ends. -/
partial def serve (settings : Settings) (base : Location) (input : IO.FS.Stream) : IO UInt32 := do
  let line ← input.getLine
  if line.isEmpty then return 0
  let (before, handles) ← loadWorkbooks (.ofEntries base []) (CommandLine.requestPaths line)
  let answer := Server.answerLine (← surroundings) settings before line
  writeChanges before answer.store
  for handle in handles do handle.unlock
  for line in answer.events do IO.eprintln line
  match answer.response with
  | .error f => finish answer.store (.crash answer.store [] [] f)
  | .ok response =>
    for d in response do IO.println d.compact
    (← IO.getStdout).flush
    serve settings base input

def main (arguments : List String) : IO UInt32 := do
  let base := partsOf (← IO.currentDir).toString
  let configFile ← IO.getEnv "SHEETBOL_CONFIG"
  let command := CommandLine.command? arguments
  let configurations := (command.map (·.configurations configFile)).getD []
  let s ← configurations.foldlM loadPath (.ofEntries base [])
  let (s, handles) ← loadWorkbooks s ((command.map (·.workbooks)).getD [])
  let ctx : CommandLine.Context := ⟨← surroundings, configFile, ""⟩
  match command with
  | some (.serve config) =>
    match Settings.discover s config configFile none with
    | .ok settings => serve settings base (← IO.getStdin)
    | .error _ => finish s (CommandLine.run ctx s arguments)
  | _ =>
    let code ← finish s (CommandLine.run ctx s arguments)
    for handle in handles do handle.unlock
    return code
