import SheetCommand.Document.Basic
import SheetCommand.Number.Layout
import SheetCommand.Text.Hidden

/-!
# Document — shown form

The form in which messages and ids show a document. A text is shown as it is, but between quotes when
it stands in a list or an object.
-/

namespace SheetCommand.Document

def showBool (b : Bool) : List Char := if b then "True".toList else "False".toList

def showInt (n : Int) : List Char := (if n < 0 then ['-'] else []) ++ Text.decimal n.natAbs

mutual

/-- The shown form of a document inside another. -/
def showInside : Document → List Char
  | null => "None".toList
  | bool b => showBool b
  | int n => showInt n
  | real x => x.shown
  | text s => Text.quoted s.toList
  | moment m => m.shown.toList
  | list [] => ['[', ']']
  | list (item :: items) => '[' :: showInside item ++ showItems items ++ [']']
  | object [] => ['\x7b', '\x7d']
  | object ((name, value) :: fields) =>
    '\x7b' :: Text.quoted name.toList ++ ':' :: ' ' :: showInside value ++ showFields fields ++ ['\x7d']

def showItems : List Document → List Char
  | [] => []
  | item :: items => ',' :: ' ' :: showInside item ++ showItems items

def showFields : List (String × Document) → List Char
  | [] => []
  | (name, value) :: fields =>
    ',' :: ' ' :: Text.quoted name.toList ++ ':' :: ' ' :: showInside value ++ showFields fields

end

def shown : Document → String
  | text s => s
  | d => .ofList d.showInside

theorem shown_text (s : String) : (text s).shown = s := rfl

end SheetCommand.Document
