/-!
# Document — faults

What is wrong with a document that should denote an action or the settings, and at which path.
-/

namespace SheetCommand

inductive FaultKind where
  /-- An object was expected. -/
  | notObject
  /-- The object does not say which kind of action it is. -/
  | noTag
  | unknownTag
  | missing
  | unknownField
  | notText
  /-- One of a few texts was expected. -/
  | notAmong
  | notNumber
  | unreadableNumber
  | notBool
  | unreadableBool
  | notList
  deriving DecidableEq

def FaultKind.name : FaultKind → String
  | notObject => "model_attributes_type"
  | noTag => "union_tag_not_found"
  | unknownTag => "union_tag_invalid"
  | missing => "missing"
  | unknownField => "extra_forbidden"
  | notText => "string_type"
  | notAmong => "literal_error"
  | notNumber => "float_type"
  | unreadableNumber => "float_parsing"
  | notBool => "bool_type"
  | unreadableBool => "bool_parsing"
  | notList => "list_type"

structure Fault where
  path : List String
  kind : FaultKind
  deriving DecidableEq

/-- The fault seen from one level further out. -/
def Fault.under (name : String) (f : Fault) : Fault := { f with path := name :: f.path }

end SheetCommand
