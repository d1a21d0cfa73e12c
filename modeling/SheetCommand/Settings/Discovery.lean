import SheetCommand.Files.Store
import SheetCommand.Settings
import SheetCommand.Yaml.Value

/-!
# Settings — discovery

Settings are read from a configuration file: the one that is named, else the one that the environment
names, else the one of standard name in a folder, if it is there. Without any the standard settings
hold. A named file must exist.
-/

namespace SheetCommand.Settings

def fileName : String := "sheetbol.yaml"

/-- The fields that a configuration holds; none if it holds nothing that counts as given. -/
def fieldsOf : Yaml.Value → Except Failure (Option (List (String × Document)))
  | .mapping entries =>
    if entries.all fun (key, _) => match key with
        | .text _ => true
        | _ => false
    then .ok (some (Yaml.Value.entryFields [] entries))
    else .error .wrongType
  | .sequence [] => .ok (some [])
  | .sequence _ => .ok none
  | .scalar d => .ok (if d.isGiven then none else some [])

/-- The settings that the text of a configuration file denotes. -/
def ofText (path text : String) : Except Failure Settings :=
  match Yaml.Value.ofText text with
  | .error .unreadable => .error (.config path .unreadable)
  | .error .malformed => .error .malformed
  | .ok value => do
    match ← fieldsOf value with
    | none => .error (.config path .notMapping)
    | some fields => (ofFields fields).mapError fun faults => .config path (.invalid faults)

/-- The settings of a configuration file, which messages call by the text of its path. -/
def load (s : Store) (path : String) : Except Failure Settings :=
  match s.readText (.ofText path) with
  | .ok text => ofText path text
  | .error (.file ..) => .error (.config path .unreadable)
  | .error e => .error e

/-- A text that says something. -/
def given (text : Option String) : Option String := text.filter (!·.isEmpty)

/-- The configuration file of standard name in a folder. -/
def standardPath (s : Store) (folder : Option String) : FilePath :=
  let folder := match given folder with
    | some text => FilePath.ofText text
    | none => ⟨true, s.base⟩
  { folder with parts := folder.parts ++ [fileName] }

/-- The settings in force, by the file that is named, the one that the environment names and the
folder where one may be. -/
def discover (s : Store) (named environment folder : Option String) : Except Failure Settings :=
  match given named with
  | some path => do
    if ← s.present (.ofText path) then load s path else .error (.config path .absent)
  | none => match given environment with
    | some path => load s path
    | none => do
      let path := standardPath s folder
      if ← s.present path then load s path.text else return standard

theorem discover_named {path : String} (h : path.isEmpty = false) (s : Store)
    (environment folder : Option String) :
    discover s (some path) environment folder =
      (do if ← s.present (.ofText path) then load s path else .error (.config path .absent)) := by
  simp [discover, given, Option.filter, h]

end SheetCommand.Settings
