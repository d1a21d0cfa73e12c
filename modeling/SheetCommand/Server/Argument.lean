import SheetCommand.Bytes.Base64
import SheetCommand.Transform.File

/-!
# Server — arguments

A request carries its arguments in an object. An argument counts as missing if it is not given or
says nothing; one of a type that its use does not take fails the request when it is used.
-/

namespace SheetCommand.Server

/-- The instruction of a request, if it can be used. -/
def instruction (args : Document) : Except Failure String :=
  match args.given? "instruction" with
  | none => requireInstruction none
  | some (.text s) => requireInstruction (some s)
  | some _ => .error .wrongType

/-- The path that an argument gives. -/
def path? (args : Document) (name : String) : Except Failure (Option FilePath) :=
  match args.given? name with
  | none => .ok none
  | some (.text s) => .ok (some (.ofText s))
  | some _ => .error .wrongType

/-- Whether an argument says yes. -/
def flag (args : Document) (name : String) : Bool := (args.given? name).isSome

/-- Whether an argument says yes, or what holds if it is null or missing. -/
def flagOr (args : Document) (name : String) (standard : Bool) : Bool :=
  match args.field? name with
  | none | some .null => standard
  | some d => d.isGiven

/-- The payload that a request carries in base64. -/
def payload : Document → Except Failure (Option Payload)
  | .text s =>
    if s.isEmpty then .ok none
    else if s.toList.any fun c => 128 ≤ c.toNat then .error .malformed
    else match Base64.decode? s.toList with
      | some bytes => .ok (some (.ofBytes bytes))
      | none => .error .payloadUnreadable
  | d => if d.isGiven then .error .payloadUnreadable else .ok none

/-! ### Sheet names -/

/-- What a request lists as sheet names: the items of a list, the names of an object's fields or the
characters of a text. -/
def listedNames (args : Document) : Except Failure (List Document) :=
  match args.given? "sheets" with
  | none => .ok []
  | some (.list items) => .ok items
  | some (.object fields) => .ok (fields.map fun (name, _) => .text name)
  | some (.text s) => .ok (s.toList.map fun c => .text (.ofList [c]))
  | some _ => .error .wrongType

/-- The names before the first item that is neither a text nor empty, and whether there is one. -/
def usableNames : List Document → List String × Bool
  | [] => ([], false)
  | .text s :: items =>
    let (names, spoiled) := usableNames items
    (s :: names, spoiled)
  | item :: items => if item.isGiven then ([], true) else usableNames items

/-- Whether an edit has found no sheet that it mentions. -/
def isUnplaced : Action → Bool
  | .edit none _ => true
  | _ => false

/-- The actions of an instruction against listed names, which are looked at one after the other until
one is mentioned. -/
def interpretListed (text : String) (items : List Document) : Except Failure (List Action) :=
  let (names, spoiled) := usableNames items
  let actions := interpret text names
  if spoiled && actions.any isUnplaced then .error .wrongType else .ok actions

end SheetCommand.Server
