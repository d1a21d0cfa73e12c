import SheetCommand.Number.Binary64

/-!
# Document

Requests, actions, records and replies are documents: scalars, lists and objects. The fields of an
object keep the order in which they were given; a field given twice keeps its first place and takes
its last value.
-/

namespace SheetCommand

/-- A calendar date, with a time of day or without, by its text `2024-01-02T03:04:05`. -/
structure Moment where
  iso : String
  hasTime : Bool
  deriving DecidableEq

/-- The text of a moment as it is shown: a blank stands between date and time. -/
def Moment.shown (m : Moment) : String :=
  .ofList (m.iso.toList.map fun c => if c = 'T' then ' ' else c)

inductive Document where
  | null
  | bool (b : Bool)
  | int (n : Int)
  | real (x : Binary64)
  | text (s : String)
  | moment (m : Moment)
  | list (items : List Document)
  | object (fields : List (String × Document))
  deriving Inhabited

namespace Document

def ofOption {α : Type} (encode : α → Document) : Option α → Document
  | none => null
  | some a => encode a

def texts (items : List String) : Document := list (items.map text)

def ofNat (n : Nat) : Document := int n

/-- Gives a field a value, in the place it already has or at the end. -/
def setField (fields : List (String × Document)) (name : String) (value : Document) :
    List (String × Document) :=
  match fields with
  | [] => [(name, value)]
  | (other, old) :: rest =>
    if other = name then (name, value) :: rest else (other, old) :: setField rest name value

/-- The value of a field of an object. -/
def field? (name : String) : Document → Option Document
  | object fields => fields.lookup name
  | _ => none

/-- Whether a document counts as a value at all where one may be left out: zeros and what is empty
do not. -/
def isGiven : Document → Bool
  | null => false
  | bool b => b
  | int n => n != 0
  | real x => !x.isZero
  | text s => !s.isEmpty
  | moment _ => true
  | list items => !items.isEmpty
  | object fields => !fields.isEmpty

/-- The value of a field, unless it is missing or does not count as given. -/
def given? (name : String) (d : Document) : Option Document := (d.field? name).filter isGiven

theorem lookup_setField (fields : List (String × Document)) (name : String) (value : Document) :
    (setField fields name value).lookup name = some value := by
  induction fields with
  | nil => simp [setField]
  | cons entry rest ih =>
    obtain ⟨other, old⟩ := entry
    by_cases h : other = name
    · simp [setField, h]
    · have h' : (name == other) = false := by simpa using fun e => h e.symm
      simp [setField, h, List.lookup_cons, h', ih]

end Document

end SheetCommand
