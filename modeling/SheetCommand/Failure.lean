import SheetCommand.Document.Fault
import SheetCommand.Number.Numeral
import SheetCommand.Text.Hidden

/-!
# Failure — why a request is not served

Every failure is a cause with the facts that its message needs. Its kind decides the code under which
a reply reports it; kinds without a code of their own are internal and are reported by name.
-/

namespace SheetCommand

/-! ### Causes -/

/-- What keeps a file from being opened or replaced. -/
inductive FileProblem where
  | absent | denied | isFolder | notFolder | busy | nameTooLong | noSpace
  deriving DecidableEq

namespace FileProblem

def number : FileProblem → Nat
  | absent => 2
  | denied => 13
  | busy => 16
  | notFolder => 20
  | isFolder => 21
  | noSpace => 28
  | nameTooLong => 36

def reason : FileProblem → String
  | absent => "No such file or directory"
  | denied => "Permission denied"
  | busy => "Device or resource busy"
  | notFolder => "Not a directory"
  | isFolder => "Is a directory"
  | noSpace => "No space left on device"
  | nameTooLong => "File name too long"

end FileProblem

/-- What is wrong with a configuration file. -/
inductive ConfigProblem where
  | absent
  | unreadable
  | notMapping
  | invalid (faults : List Fault)
  deriving DecidableEq

inductive Failure where
  | instructionMissing
  | instructionTooLong (length : Nat)
  /-- A request for a transformation without a payload. -/
  | uploadMissing
  /-- An empty payload where a workbook is loaded. -/
  | payloadMissing
  | workbookCorrupt (source : String)
  | workbookNotFound (path : String)
  | config (path : String) (problem : ConfigProblem)
  | lockHeld
  /-- The payload of a request is not in base64. -/
  | payloadUnreadable
  | sourceMissing
  | fileMissing
  | titleEmpty
  | titleMark (c : Char)
  /-- The number after a sheet title has too many digits to be raised. -/
  | titleNumber (digits : Nat)
  | forbiddenText (text : String)
  | sheetUnknown (name : String)
  /-- A workbook without sheets where one is looked at. -/
  | nothingToRead
  | comparisonUnknown (symbol : String)
  | overflow
  | integerTooLong
  | noSheets
  | file (problem : FileProblem) (path : String)
  | emptyName (path : String)
  /-- Bytes that are not in the encoding of texts. -/
  | undecodable
  /-- A text that is not of its format. -/
  | malformed
  /-- A value of a type that the operation does not take. -/
  | wrongType
  | invalid (faults : List Fault)
  deriving DecidableEq

/-! ### Codes -/

inductive ErrorCode where
  | missingInstruction | instructionTooLong | missingDocument | workbookCorrupt | workbookNotFound
  | configInvalid | lockHeld | invalidArgument | usage | internal
  deriving DecidableEq

/-- Codes fall into classes, by what has to be mended. -/
inductive ErrorClass where
  | validation | io | internal
  deriving DecidableEq

def ErrorClass.exitCode : ErrorClass → Nat
  | validation => 10
  | io => 50
  | internal => 90

namespace ErrorCode

def name : ErrorCode → String
  | missingInstruction => "ERR_MISSING_INSTRUCTION"
  | instructionTooLong => "ERR_INSTRUCTION_TOO_LONG"
  | missingDocument => "ERR_MISSING_DOCUMENT"
  | workbookCorrupt => "ERR_WORKBOOK_CORRUPT"
  | workbookNotFound => "ERR_WORKBOOK_NOT_FOUND"
  | configInvalid => "ERR_CONFIG_INVALID"
  | lockHeld => "ERR_LOCK_HELD"
  | invalidArgument => "ERR_INVALID_ARGUMENT"
  | usage => "ERR_USAGE"
  | internal => "ERR_INTERNAL"

def all : List ErrorCode :=
  [missingInstruction, instructionTooLong, missingDocument, workbookCorrupt, workbookNotFound,
   configInvalid, lockHeld, invalidArgument, usage, internal]

def errorClass : ErrorCode → ErrorClass
  | missingInstruction | instructionTooLong | missingDocument | configInvalid | usage
  | invalidArgument => .validation
  | workbookNotFound | workbookCorrupt | lockHeld => .io
  | internal => .internal

theorem mem_all (code : ErrorCode) : code ∈ all := by cases code <;> decide

end ErrorCode

/-- The class of a code by its name; an unknown name is internal. -/
def ErrorClass.ofCodeName (name : String) : ErrorClass :=
  match ErrorCode.all.find? (·.name = name) with
  | some code => code.errorClass
  | none => .internal

/-! ### Kinds -/

inductive FailureKind where
  | instructionMissing | instructionTooLong | documentMissing | workbookCorrupt | notFound
  | config | lock | input
  /-- A kind without a code of its own. -/
  | other (name : String)
  deriving DecidableEq

namespace FailureKind

def name : FailureKind → String
  | instructionMissing => "InstructionMissingError"
  | instructionTooLong => "InstructionTooLongError"
  | documentMissing => "DocumentMissingError"
  | workbookCorrupt => "WorkbookCorruptError"
  | notFound => "FileNotFoundError"
  | config => "ConfigError"
  | lock => "LockException"
  | input => "InputError"
  | other name => name

def coded : List FailureKind :=
  [instructionMissing, instructionTooLong, documentMissing, workbookCorrupt, notFound, config, lock,
   input]

def ofName (name : String) : FailureKind := (coded.find? (·.name = name)).getD (other name)

def code : FailureKind → ErrorCode
  | instructionMissing => .missingInstruction
  | instructionTooLong => .instructionTooLong
  | documentMissing => .missingDocument
  | workbookCorrupt => .workbookCorrupt
  | notFound => .workbookNotFound
  | config => .configInvalid
  | lock => .lockHeld
  | input => .invalidArgument
  | other _ => .internal

end FailureKind

namespace Failure

def kind : Failure → FailureKind
  | instructionMissing => .instructionMissing
  | instructionTooLong _ => .instructionTooLong
  | uploadMissing | payloadMissing => .documentMissing
  | workbookCorrupt _ => .workbookCorrupt
  | workbookNotFound _ => .notFound
  | config .. => .config
  | lockHeld => .lock
  | payloadUnreadable | sourceMissing | fileMissing => .input
  | titleEmpty | titleMark _ | titleNumber _ | integerTooLong | emptyName _ | malformed =>
    .other "ValueError"
  | forbiddenText _ => .other "IllegalCharacterError"
  | sheetUnknown _ | comparisonUnknown _ => .other "KeyError"
  | nothingToRead => .other "AttributeError"
  | overflow => .other "OverflowError"
  | noSheets => .other "IndexError"
  | file .absent _ => .notFound
  | file .isFolder _ => .other "IsADirectoryError"
  | file .notFolder _ => .other "NotADirectoryError"
  | file .denied _ => .other "PermissionError"
  | file .busy _ | file .nameTooLong _ | file .noSpace _ => .other "OSError"
  | undecodable => .other "UnicodeDecodeError"
  | wrongType => .other "TypeError"
  | invalid _ => .other "ValidationError"

def code (f : Failure) : ErrorCode := f.kind.code

/-! ### Messages -/

/-- Instructions may have this many characters. -/
def instructionLimit : Nat := 500

/-- A text between quotes, as messages show it. -/
def quoted (s : String) : String := .ofList (Text.quoted s.toList)

/-- A number as messages show it. -/
def number (n : Nat) : String := .ofList (Text.decimal n)

def configMessage (path : String) : ConfigProblem → String
  | .absent => "Config file not found: " ++ path
  | .unreadable => "Cannot read config " ++ path
  | .notMapping => "Config " ++ path ++ " must be a mapping."
  | .invalid _ => "Invalid config " ++ path

def message : Failure → String
  | instructionMissing => "Instruction required"
  | instructionTooLong length =>
    "Instruction is " ++ number length ++ " characters; the limit is " ++ number instructionLimit
  | uploadMissing => "No file uploaded"
  | payloadMissing => "No workbook data supplied"
  | workbookCorrupt source => "Cannot open workbook " ++ source
  | workbookNotFound path => "Workbook not found: " ++ path
  | config path problem => configMessage path problem
  | lockHeld => "[Errno 11] Resource temporarily unavailable"
  | payloadUnreadable => "Invalid base64 'data'"
  | sourceMissing => "Provide 'file' or base64 'data' in args"
  | fileMissing => "Missing 'file' in args"
  | titleEmpty => "Title must have at least one character"
  | titleMark c => "Invalid character " ++ c.toString ++ " found in sheet title"
  | titleNumber digits =>
    "Exceeds the limit (" ++ number Numeral.digitLimit ++ " digits) for integer string conversion: value has "
      ++ number digits ++ " digits; use sys.set_int_max_str_digits() to increase the limit"
  | integerTooLong =>
    "Exceeds the limit (" ++ number Numeral.digitLimit ++ " digits) for integer string conversion; use "
      ++ "sys.set_int_max_str_digits() to increase the limit"
  | forbiddenText text => text ++ " cannot be used in worksheets."
  | sheetUnknown name => quoted ("Sheet not found: " ++ name)
  | comparisonUnknown symbol => quoted symbol
  | nothingToRead => "no sheet"
  | overflow => "int too large to convert to float"
  | noSheets => "At least one sheet must be visible"
  | file problem path =>
    "[Errno " ++ number problem.number ++ "] " ++ problem.reason ++ ": " ++ quoted path
  | emptyName path => "PosixPath(" ++ quoted path ++ ") has an empty name"
  | undecodable => "invalid start byte"
  | malformed => "invalid value"
  | wrongType => "unsupported type"
  | invalid _ => "invalid document"

theorem code_eq_internal_iff (f : Failure) :
    f.code = .internal ↔ ∃ name, f.kind = .other name := by
  unfold code
  cases f.kind <;> simp [FailureKind.code]

end Failure

end SheetCommand
