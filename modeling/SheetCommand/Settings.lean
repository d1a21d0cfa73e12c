import SheetCommand.Document.Field

/-!
# Settings

Settings say whether a workbook is copied before it is replaced, whether events are written, which
sheets are protected and how long to wait for a lock. All have a standard value; no other field is
allowed.
-/

namespace SheetCommand

structure Settings where
  backup : Bool := true
  emitEvents : Bool := false
  protectedSheets : List String := []
  /-- Seconds; no waiting if none are given. -/
  lockTimeout : Option Binary64 := none
  deriving DecidableEq

namespace Settings

def standard : Settings := {}

def fieldNames : List String := ["backup", "emit_events", "protected_sheets", "lock_timeout"]

/-- A field that must be a list of texts, if it is given. -/
def textsField (fields : List (String × Document)) (name : String) :
    Except (List Fault) (List String) :=
  match fields.lookup name with
  | none => .ok []
  | some d => d.asTexts.mapError fun faults => faults.map (·.under name)

def unknownFields (fields : List (String × Document)) : Except (List Fault) Unit :=
  match fields.filter fun (name, _) => !fieldNames.contains name with
  | [] => .ok ()
  | unknown => .error (unknown.map fun (name, _) => ⟨[name], .unknownField⟩)

/-- The settings that fields denote, or everything that is wrong with them. -/
def ofFields (fields : List (String × Document)) : Except (List Fault) Settings :=
  let flags := bothOrFaults Prod.mk
    (Document.orElse fields "backup" true Document.asBool)
    (Document.orElse fields "emit_events" false Document.asBool)
  let others := bothOrFaults Prod.mk (textsField fields "protected_sheets")
    (Document.orElse fields "lock_timeout" none fun d => d.asReal.map some)
  bothOrFaults (fun s _ => s)
    (bothOrFaults (fun flags others => ⟨flags.1, flags.2, others.1, others.2⟩) flags others)
    (unknownFields fields)

def toDocument (s : Settings) : Document :=
  .object [("backup", .bool s.backup), ("emit_events", .bool s.emitEvents),
    ("protected_sheets", .texts s.protectedSheets),
    ("lock_timeout", match s.lockTimeout with
      | none => .int 0
      | some x => .real x)]

theorem ofFields_nil : ofFields [] = .ok standard := rfl

end Settings

end SheetCommand
