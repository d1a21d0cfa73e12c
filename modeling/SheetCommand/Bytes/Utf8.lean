/-!
# Bytes — UTF-8

Texts as bytes and back. A mark of the encoding at the front of a file is not part of its text.
-/

namespace SheetCommand.Utf8

def encode (s : String) : List UInt8 := s.toUTF8.toList

def decode? (bytes : List UInt8) : Option String := String.fromUTF8? ⟨bytes.toArray⟩

/-- The text without a byte order mark. -/
def decodeMarked? (bytes : List UInt8) : Option String :=
  decode? (match bytes with
    | 0xEF :: 0xBB :: 0xBF :: rest => rest
    | _ => bytes)

end SheetCommand.Utf8
