import SheetCommand.Proofs.Instruction.Plain
import SheetCommand.Proofs.Number.Whole

/-!
# Templates — the canonical phrases

For every kind of request there is a canonical phrase in English and one in Hindi. Their names are
plain: no word of them is one of the grammar. With its names left open a canonical phrase is a form,
and this form is explored once for all names: the phrases tried before miss it (`outline_missed`),
and the one it was made for finds it (`form_found`).
-/

namespace SheetCommand.Instruction

/-! ### What may be asked for -/

inductive Language where
  | english | hindi
  deriving DecidableEq

namespace Language

def all : List Language := [english, hindi]

theorem mem_all (language : Language) : language ∈ all := by cases language <;> decide

end Language

/-- A comparison as it may be written: by its symbol, or equality by a single `=`. -/
inductive Sign (α : Type) where
  | symbol (op : α)
  | single

namespace Sign

/-- The signs of some operators. -/
def all {α : Type} (ops : List α) : List (Sign α) := .single :: ops.map .symbol

theorem mem_all {α : Type} {ops : List α} (h : ∀ op, op ∈ ops) (sign : Sign α) :
    sign ∈ all ops := by
  cases sign with
  | symbol op => exact List.mem_cons_of_mem _ (List.mem_map_of_mem (h op))
  | single => exact List.mem_cons_self

def comparison : Sign Comparison → Comparison
  | symbol op => op
  | single => .equal

def equality : Sign Equality → Equality
  | symbol op => op
  | single => .equal

def comparisonText : Sign Comparison → String
  | symbol op => op.symbol
  | single => "="

def equalityText : Sign Equality → String
  | symbol op => op.symbol
  | single => "="

end Sign

/-- The integers that a number of a condition holds exactly. -/
abbrev ExactInt := { n : Int // n.natAbs ≤ 2 ^ 53 }

/-- A request to be put into words. -/
inductive Wish where
  | renameSheet (old new : PlainName)
  | renameColumn (old new : PlainName)
  | addColumnSum (new first second : PlainName)
  | deleteColumn (name : PlainName)
  | filterRows (column : PlainName) (sign : Sign Comparison) (number : ExactInt)
  | sortBy (column : PlainName) (direction : Direction)
  | setValueWhere (target value condition : PlainName) (sign : Sign Equality)
      (conditionValue : PlainName)

namespace Wish

def kind : Wish → ActionKind
  | renameSheet .. => .renameSheet
  | renameColumn .. => .renameColumn
  | addColumnSum .. => .addColumnSum
  | deleteColumn .. => .deleteColumn
  | filterRows .. => .filterRows
  | sortBy .. => .sortBy
  | setValueWhere .. => .setValueWhere

/-- The canonical phrases. -/
def phrase : Language → Wish → String
  | .english, renameSheet old new => "rename sheet " ++ old.text ++ " to " ++ new.text
  | .hindi, renameSheet old new => old.text ++ " sheet ka naam " ++ new.text ++ " rakho"
  | .english, renameColumn old new => "rename column " ++ old.text ++ " to " ++ new.text
  | .hindi, renameColumn old new => old.text ++ " column ka naam " ++ new.text ++ " rakho"
  | .english, addColumnSum new first second =>
    "add column " ++ new.text ++ " = " ++ first.text ++ " + " ++ second.text
  | .hindi, addColumnSum new first second =>
    new.text ++ " column add karo jo " ++ first.text ++ " + " ++ second.text ++ " ho"
  | .english, deleteColumn name => "delete column " ++ name.text
  | .hindi, deleteColumn name => name.text ++ " column hatao"
  | .english, filterRows column sign number =>
    "keep rows where " ++ column.text ++ " " ++ sign.comparisonText ++ " " ++
      .ofList (Numeral.written number)
  | .hindi, filterRows column sign number =>
    "sirf woh rows rakho jahan " ++ column.text ++ " " ++ sign.comparisonText ++ " " ++
      .ofList (Numeral.written number)
  | .english, sortBy column direction => "sort by " ++ column.text ++ " " ++ direction.name
  | .hindi, sortBy column direction =>
    column.text ++ " ke hisaab se sort karo " ++ direction.name
  | .english, setValueWhere target value condition sign conditionValue =>
    "set " ++ target.text ++ " to '" ++ value.text ++ "' where " ++ condition.text ++ " " ++
      sign.equalityText ++ " '" ++ conditionValue.text ++ "'"
  | .hindi, setValueWhere target value condition sign conditionValue =>
    target.text ++ " ko '" ++ value.text ++ "' set karo jahan " ++ condition.text ++ " " ++
      sign.equalityText ++ " '" ++ conditionValue.text ++ "'"

/-- The request itself, with its names titled and its literals as they are written. -/
def request : Wish → Request
  | renameSheet old new => .renameSheet old.titled new.titled
  | renameColumn old new => .edit (.renameColumn old.titled new.titled)
  | addColumnSum new first second =>
    .edit (.addColumnSum first.titled second.titled new.titled)
  | deleteColumn name => .edit (.deleteColumn name.titled)
  | filterRows column sign number =>
    .edit (.filterRows column.titled sign.comparison (.ofInt number))
  | sortBy column direction => .edit (.sortBy column.titled direction)
  | setValueWhere target value condition sign conditionValue =>
    .edit (.setValueWhere target.titled sign.equality condition.titled conditionValue.text
      value.text)

end Wish

/-! ### Templates -/

def name (slot : Slot) (i : Nat) : Stretch := .kept slot [.hole .name i]

/-- The canonical phrases with their names open. `choice` stands for a sign or a direction, and
`number` for the number of a filter. -/
def template (choice number : Sketch) : Language → ActionKind → Form
  | .english, .renameSheet => [.text "rename sheet ", name .old 0, .text " to ", name .new 1]
  | .hindi, .renameSheet => [name .old 0, .text " sheet ka naam ", name .new 1, .text " rakho"]
  | .english, .renameColumn => [.text "rename column ", name .old 0, .text " to ", name .new 1]
  | .hindi, .renameColumn => [name .old 0, .text " column ka naam ", name .new 1, .text " rakho"]
  | .english, .addColumnSum =>
    [.text "add column ", name .new 0, .text " = ", name .first 1, .text " + ", name .second 2]
  | .hindi, .addColumnSum =>
    [name .new 0, .text " column add karo jo ", name .first 1, .text " + ", name .second 2,
      .text " ho"]
  | .english, .deleteColumn => [.text "delete column ", name .name 0]
  | .hindi, .deleteColumn => [name .name 0, .text " column hatao"]
  | .english, .filterRows =>
    [.text "keep rows where ", name .column 0, .text " ", .kept .comparison choice, .text " ",
      .kept .number number]
  | .hindi, .filterRows =>
    [.text "sirf woh rows rakho jahan ", name .column 0, .text " ", .kept .comparison choice,
      .text " ", .kept .number number]
  | .english, .sortBy => [.text "sort by ", name .column 0, .text " ", .kept .direction choice]
  | .hindi, .sortBy =>
    [name .column 0, .text " ke hisaab se sort karo ", .kept .laterDirection choice]
  | .english, .setValueWhere =>
    [.text "set ", name .target 0, .text " to '", name .literal 1, .text "' where ",
      name .condition 2, .text " ", .kept .comparison choice, .text " '",
      name .conditionLiteral 3, .text "'"]
  | .hindi, .setValueWhere =>
    [name .target 0, .text " ko '", name .literal 1, .text "' set karo jahan ", name .condition 2,
      .text " ", .kept .comparison choice, .text " '", name .conditionLiteral 3, .text "'"]

/-- The place, among all phrases, of the one that a canonical phrase is read by. -/
def place : Language → ActionKind → Nat
  | .english, .renameSheet => 1
  | .hindi, .renameSheet => 0
  | .english, .renameColumn => 6
  | .hindi, .renameColumn => 5
  | .english, .addColumnSum => 11
  | .hindi, .addColumnSum => 10
  | .english, .deleteColumn => 12
  | .hindi, .deleteColumn => 14
  | _, .filterRows => 15
  | .english, .sortBy => 17
  | .hindi, .sortBy => 16
  | .english, .setValueWhere => 18
  | .hindi, .setValueWhere => 19

def literally (s : String) : Sketch := .ofChars s.toList

/-- What signs and directions are made of. -/
def choiceHole : Hole := .run ['<', '>', '=', '!', 'a', 'c', 'd', 'e', 's']

def digitsHole : Hole := .run ['0', '1', '2', '3', '4', '5', '6', '7', '8', '9']

def numberHole : Hole := .run ['-', '0', '1', '2', '3', '4', '5', '6', '7', '8', '9']

/-- A number with its sign written out. -/
def signed : Bool → Sketch
  | true => [.char '-', .hole digitsHole 6]
  | false => [.hole digitsHole 6]

/-- A canonical phrase with everything open. -/
def outline (language : Language) (kind : ActionKind) : Form :=
  template [.hole choiceHole 4] [.hole numberHole 5] language kind

namespace Wish

/-- The sign or the direction of a request. -/
def choice : Wish → String
  | filterRows _ sign _ => sign.comparisonText
  | sortBy _ direction => direction.name
  | setValueWhere _ _ _ sign _ => sign.equalityText
  | _ => ""

/-- The number of a filter. -/
def number : Wish → Sketch
  | filterRows _ _ n => signed (decide (n.val < 0))
  | _ => []

/-- The canonical phrase with its names and digits open. -/
def form (language : Language) (wish : Wish) : Form :=
  template (literally wish.choice) wish.number language wish.kind

/-- What the open parts are filled with. -/
def filling : Wish → Filling
  | renameSheet old new => fun | 0 => old.chars | _ => new.chars
  | renameColumn old new => fun | 0 => old.chars | _ => new.chars
  | addColumnSum new first second => fun | 0 => new.chars | 1 => first.chars | _ => second.chars
  | deleteColumn name => fun _ => name.chars
  | filterRows column sign n => fun
    | 0 => column.chars
    | 4 => sign.comparisonText.toList
    | 5 => Numeral.written n
    | _ => Text.decimal n.val.natAbs
  | sortBy column direction => fun | 0 => column.chars | _ => direction.name.toList
  | setValueWhere target value condition sign conditionValue => fun
    | 0 => target.chars
    | 1 => value.chars
    | 2 => condition.chars
    | 3 => conditionValue.chars
    | _ => sign.equalityText.toList

end Wish

/-! ### Exploring the templates -/

/-- The phrases tried before are found in no canonical phrase. -/
def isMissed (language : Language) (kind : ActionKind) : Bool :=
  (ranked.take (place language kind)).all fun x => x.2.misses (outline language kind).sketch

-- A certificate over all cases is one evaluation, which reads the words of the grammar once.

theorem outline_missed (language : Language) (kind : ActionKind) :
    isMissed language kind = true := by
  have hall : (Language.all.all fun language => ActionKind.all.all (isMissed language)) = true := by
    decide +kernel
  exact List.all_eq_true.mp (List.all_eq_true.mp hall language language.mem_all) kind kind.mem_all

theorem found_filter (language : Language) (sign : Sign Comparison) (negative : Bool) :
    (template (literally sign.comparisonText) (signed negative) language .filterRows).isFoundAt 15 =
      true := by
  have hall : (Language.all.all fun language => (Sign.all Comparison.all).all fun sign =>
      [true, false].all fun negative =>
        (template (literally sign.comparisonText) (signed negative) language
          .filterRows).isFoundAt 15) = true := by
    decide +kernel
  have hlanguage := List.all_eq_true.mp hall language language.mem_all
  have hsign := List.all_eq_true.mp hlanguage sign (sign.mem_all Comparison.mem_all)
  exact List.all_eq_true.mp hsign negative (by cases negative <;> decide)

theorem found_set (language : Language) (sign : Sign Equality) :
    (template (literally sign.equalityText) [] language .setValueWhere).isFoundAt
      (place language .setValueWhere) = true := by
  have hall : (Language.all.all fun language =>
      (Sign.all [Equality.equal, .notEqual]).all fun sign =>
        (template (literally sign.equalityText) [] language .setValueWhere).isFoundAt
          (place language .setValueWhere)) = true := by
    decide +kernel
  have hlanguage := List.all_eq_true.mp hall language language.mem_all
  exact List.all_eq_true.mp hlanguage sign (sign.mem_all fun op => by cases op <;> decide)

theorem found_sort (language : Language) (direction : Direction) :
    (template (literally direction.name) [] language .sortBy).isFoundAt (place language .sortBy) =
      true := by
  have hall : (Language.all.all fun language =>
      [Direction.ascending, .descending].all fun direction =>
        (template (literally direction.name) [] language .sortBy).isFoundAt
          (place language .sortBy)) = true := by
    decide +kernel
  have hlanguage := List.all_eq_true.mp hall language language.mem_all
  exact List.all_eq_true.mp hlanguage direction (by cases direction <;> decide)

theorem found_names (language : Language) {kind : ActionKind}
    (h : kind = .renameSheet ∨ kind = .renameColumn ∨ kind = .addColumnSum ∨
      kind = .deleteColumn) :
    (template (literally "") [] language kind).isFoundAt (place language kind) = true := by
  have hall : (Language.all.all fun language =>
      [ActionKind.renameSheet, .renameColumn, .addColumnSum, .deleteColumn].all fun kind =>
        (template (literally "") [] language kind).isFoundAt (place language kind)) = true := by
    decide +kernel
  have hlanguage := List.all_eq_true.mp hall language language.mem_all
  exact List.all_eq_true.mp hlanguage kind (by simpa using h)

theorem form_found (language : Language) (wish : Wish) :
    (wish.form language).isFoundAt (place language wish.kind) = true := by
  cases wish with
  | renameSheet => exact found_names language (.inl rfl)
  | renameColumn => exact found_names language (.inr (.inl rfl))
  | addColumnSum => exact found_names language (.inr (.inr (.inl rfl)))
  | deleteColumn => exact found_names language (.inr (.inr (.inr rfl)))
  | filterRows _ sign n =>
    cases language <;> exact found_filter _ sign (decide (n.val < 0))
  | sortBy _ direction => exact found_sort language direction
  | setValueWhere _ _ _ sign _ => exact found_set language sign

/-- A word that makes a condition a filter is found in both phrases of a filter. -/
theorem trigger_found (language : Language) :
    filterTrigger.finds (outline language .filterRows).sketch [] = true := by
  cases language <;> decide +kernel

theorem outline_plain (language : Language) (kind : ActionKind) :
    (outline language kind).sketch.isPlain = true := by
  cases language <;> cases kind <;> decide

end SheetCommand.Instruction
