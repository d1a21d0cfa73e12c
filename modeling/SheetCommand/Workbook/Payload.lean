import SheetCommand.Bytes.Sha256
import SheetCommand.Bytes.Utf8
import SheetCommand.Document.Reader
import SheetCommand.Workbook.Stored

/-!
# Workbook — payloads

A payload is what a file or a request holds: a stored workbook or any other bytes. As bytes a stored
workbook is a mark followed by a document that lists the sheets and their cells. Only payloads with
that mark and a well-formed document behind it can be opened.
-/

namespace SheetCommand

inductive Payload where
  | raw (bytes : List UInt8)
  | workbook (w : Workbook)
  deriving DecidableEq

namespace Payload

/-! ### Stored workbooks as documents -/

def cellDocument : (Nat × Nat) × CellValue → Document
  | ((row, column), v) => .list [.ofNat row, .ofNat column, v.toDocument]

def sheetDocument (sheet : Sheet) : Document :=
  .list [.text sheet.title, .list (sheet.grid.cells.map cellDocument)]

def workbookDocument (w : Workbook) : Document := .list (w.sheets.map sheetDocument)

def cellValue? : Document → Option CellValue
  | .null => some .blank
  | .bool b => some (.bool b)
  | .int n => some (.int n)
  | .real x => some (.real x)
  | .text s => some (.text s)
  | _ => none

def cell? : Document → Option ((Nat × Nat) × CellValue)
  | .list [.int (.ofNat row), .int (.ofNat column), v] => do
    some ((row, column), ← cellValue? v)
  | _ => none

def sheet? : Document → Option Sheet
  | .list [.text title, .list cells] => do some ⟨title, ⟨← cells.mapM cell?⟩⟩
  | _ => none

def workbook? : Document → Option Workbook
  | .list sheets => do some ⟨← sheets.mapM sheet?⟩
  | _ => none

/-! ### Bytes -/

/-- The bytes in front of a stored workbook. -/
def mark : List UInt8 := [0x93, 0x53, 0x48, 0x45, 0x45, 0x54, 0x00]

def bytes : Payload → List UInt8
  | raw bytes => bytes
  | workbook w => mark ++ Utf8.encode (workbookDocument w).compact

def ofBytes (bytes : List UInt8) : Payload :=
  if mark.isPrefixOf bytes then
    match (Utf8.decode? (bytes.drop mark.length)).bind Document.readExact? |>.bind workbook? with
    | some w => workbook w
    | none => raw bytes
  else raw bytes

def isEmpty : Payload → Bool
  | raw bytes => bytes.isEmpty
  | workbook _ => false

/-- The digest by which records and events name a payload. -/
def fingerprint (p : Payload) : String := "sha256:" ++ .ofList (Sha256.hexDigest p.bytes)

/-! ### Saving and opening -/

def save (w : Workbook) : Except Failure Payload := w.stored.map workbook

/-- The workbook of a payload; `source` is what a message calls the payload. -/
def openFrom (source : String) : Payload → Except Failure Workbook
  | raw _ => .error (.workbookCorrupt source)
  | workbook w => w.opened.mapError fun _ => .workbookCorrupt source

/-- What a message calls a payload that is not a file. -/
def unnamed : String := "<bytes>"

/-- The workbook of a payload, which must not be empty. -/
def load (p : Payload) : Except Failure Workbook :=
  if p.isEmpty then .error .payloadMissing else p.openFrom unnamed

end Payload

end SheetCommand
