import SheetCommand.Document.Basic
import SheetCommand.Document.Fault
import SheetCommand.Number.Numeral

/-!
# Document — fields

Reading the fields of an object into values. Values are converted where nothing is lost by it: a
number may be given as a text, a truth value as a word or as 0 or 1. Faults are collected over all
fields.
-/

namespace SheetCommand

-- Powers are those of the core library in every context the module is read in.
attribute [local instance (high)] instPowNat

namespace Document

/-! ### One field -/

/-- A field read in two steps: whether it is there, and what it denotes. -/
def require {α : Type} (fields : List (String × Document)) (name : String)
    (read : Document → Except FaultKind α) : Except (List Fault) α :=
  match fields.lookup name with
  | none => .error [⟨[name], .missing⟩]
  | some d => match read d with
    | .ok a => .ok a
    | .error kind => .error [⟨[name], kind⟩]

/-- A field that takes a standard value if it is left out. -/
def orElse {α : Type} (fields : List (String × Document)) (name : String) (standard : α)
    (read : Document → Except FaultKind α) : Except (List Fault) α :=
  if (fields.lookup name).isNone then .ok standard else require fields name read

def asText : Document → Except FaultKind String
  | text s => .ok s
  | _ => .error .notText

def asTextOrNull : Document → Except FaultKind (Option String)
  | null => .ok none
  | d => (asText d).map some

/-- One of the texts that `find?` knows. -/
def asOneOf {α : Type} (find? : String → Option α) : Document → Except FaultKind α
  | text s => match find? s with
    | some a => .ok a
    | none => .error .notAmong
  | _ => .error .notAmong

/-- A number, a truth value or the text of a number. -/
def asReal : Document → Except FaultKind Binary64
  | real x => .ok x
  | bool b => .ok (.ofInt (if b then 1 else 0))
  | int n =>
    let x := Binary64.ofInt n
    if x.isFinite then .ok x else .error .notNumber
  | text s => match Numeral.field? s.toList with
    | some x => .ok x
    | none => .error .unreadableNumber
  | _ => .error .notNumber

/-- The texts of a list, `index` being the place of the first one. -/
def textItems (index : Nat) : List Document → Except (List Fault) (List String)
  | [] => .ok []
  | item :: items =>
    match asText item, textItems (index + 1) items with
    | .ok s, .ok rest => .ok (s :: rest)
    | .ok _, .error faults => .error faults
    | .error kind, rest =>
      let fault : Fault := ⟨[.ofList (Text.decimal index)], kind⟩
      .error (fault :: match rest with
        | .ok _ => []
        | .error faults => faults)

def asTexts : Document → Except (List Fault) (List String)
  | list items => textItems 0 items
  | _ => .error [⟨[], .notList⟩]

/-- The texts that denote truth values, in lower case. -/
def boolWords : List (String × Bool) :=
  [("0", false), ("f", false), ("n", false), ("no", false), ("off", false), ("false", false),
   ("1", true), ("t", true), ("y", true), ("yes", true), ("on", true), ("true", true)]

/-- Integers of 64 bits with a sign. -/
def isLong (n : Int) : Bool := -(2 ^ (63 : Nat)) ≤ n && n < 2 ^ (63 : Nat)

/-- A truth value, one of its texts, or a number that is 0 or 1. -/
def asBool : Document → Except FaultKind Bool
  | bool b => .ok b
  | text s => match boolWords.lookup (.ofList (s.toList.map Char.toLower)) with
    | some b => .ok b
    | none => .error .unreadableBool
  | int n =>
    if n = 0 then .ok false
    else if n = 1 then .ok true
    else .error (if isLong n then .unreadableBool else .notBool)
  | real x => match x.toInt? with
    | some n =>
      if n = 0 then .ok false
      else if n = 1 then .ok true
      else .error (if isLong n then .unreadableBool else .notBool)
    | none => .error .notBool
  | _ => .error .notBool

end Document

/-! ### Several fields -/

/-- Both results, or the faults of both. -/
def bothOrFaults {α β γ : Type} (f : α → β → γ) :
    Except (List Fault) α → Except (List Fault) β → Except (List Fault) γ
  | .ok a, .ok b => .ok (f a b)
  | .ok _, .error faults => .error faults
  | .error faults, .ok _ => .error faults
  | .error faults, .error more => .error (faults ++ more)

end SheetCommand
