import SheetCommand.Proofs.Action.RoundTrip
import SheetCommand.Proofs.Computation
import SheetCommand.Proofs.Document.Fields

/-!
# Action — which documents denote an action

An object denotes an action if its `type` is the name of the action's kind and its fields hold the
action's parts (`Action.Denotes`): texts as they are, the sheet and the direction unless they are
left out, the number in any of the shapes a number has. Nothing is said about other fields, and they
may be there.

* `ofDocument_eq_ok_iff`: these are the documents that are accepted, each as the action it denotes.
* `comesBack`: an action is accepted as itself when it is written as a document, on its own, in a
  list, and when it had been accepted from a document that was written otherwise.
-/

namespace SheetCommand

open Document

variable {fields : List (String × Document)}

/-- Where everything is found under its own name, it is found under that name only. -/
theorem find?_name_eq_some_iff {α : Type} {items : List α} {name : α → String}
    (hown : ∀ a, (items.find? fun b => name b = name a) = some a) {s : String} {a : α} :
    (items.find? fun b => name b = s) = some a ↔ s = name a := by
  constructor
  · intro h
    exact (of_decide_eq_true (List.find?_some h :)).symm
  · rintro rfl
    exact hown a

theorem Comparison.ofSymbol?_eq_some_iff {s : String} {op : Comparison} :
    ofSymbol? s = some op ↔ s = op.symbol :=
  find?_name_eq_some_iff ofSymbol?_symbol

theorem Equality.ofSymbol?_eq_some_iff {s : String} {op : Equality} :
    ofSymbol? s = some op ↔ s = op.symbol :=
  find?_name_eq_some_iff ofSymbol?_symbol

theorem Direction.ofName?_eq_some_iff {s : String} {direction : Direction} :
    ofName? s = some direction ↔ s = direction.name :=
  find?_name_eq_some_iff ofName?_name

theorem ActionKind.ofName?_eq_some_iff {s : String} {kind : ActionKind} :
    ofName? s = some kind ↔ s = kind.name :=
  find?_name_eq_some_iff ofName?_name

/-! ### The parts of an action -/

namespace Document

/-- A field holds a text. -/
def HasText (fields : List (String × Document)) (name s : String) : Prop :=
  fields.lookup name = some (text s)

/-- A field holds what stands for a number. -/
def HasNumber (fields : List (String × Document)) (name : String) (x : Binary64) : Prop :=
  ∃ d, fields.lookup name = some d ∧ IsNumber d x

theorem require_asText_eq_ok_iff {name s : String} :
    require fields name asText = .ok s ↔ HasText fields name s := by
  simp [require_eq_ok_iff, asText_eq_ok_iff, HasText]

theorem require_asReal_eq_ok_iff {name : String} {x : Binary64} :
    require fields name asReal = .ok x ↔ HasNumber fields name x := by
  simp only [require_eq_ok_iff, asReal_eq_ok_iff, HasNumber]

theorem require_asOneOf_eq_ok_iff {α : Type} {find? : String → Option α} {a : α} {name s : String}
    (hfind : ∀ {word}, find? word = some a ↔ word = s) :
    require fields name (asOneOf find?) = .ok a ↔ HasText fields name s := by
  simp [require_eq_ok_iff, asOneOf_eq_ok_iff, hfind, HasText]

end Document

theorem require_comparison_eq_ok_iff {name : String} {op : Comparison} :
    require fields name (asOneOf Comparison.ofSymbol?) = .ok op ↔ HasText fields name op.symbol :=
  require_asOneOf_eq_ok_iff Comparison.ofSymbol?_eq_some_iff

theorem require_equality_eq_ok_iff {name : String} {op : Equality} :
    require fields name (asOneOf Equality.ofSymbol?) = .ok op ↔ HasText fields name op.symbol :=
  require_asOneOf_eq_ok_iff Equality.ofSymbol?_eq_some_iff

/-- The sheet of an edit: left out or `null` if it names none. -/
inductive NamesSheet (fields : List (String × Document)) : Option String → Prop
  | leftOut (h : fields.lookup "sheet_name" = none) : NamesSheet fields none
  | null (h : fields.lookup "sheet_name" = some .null) : NamesSheet fields none
  | text {s : String} (h : HasText fields "sheet_name" s) : NamesSheet fields (some s)

theorem asTextOrNull_eq_ok_iff {d : Document} {sheet : Option String} :
    asTextOrNull d = .ok sheet ↔ d = .ofOption .text sheet := by
  cases d <;> cases sheet <;> simp [asTextOrNull, asText, Except.map, Document.ofOption]

theorem orElse_sheet_eq_ok_iff {sheet : Option String} :
    orElse fields "sheet_name" none asTextOrNull = .ok sheet ↔ NamesSheet fields sheet := by
  simp only [orElse_eq_ok_iff, require_eq_ok_iff, asTextOrNull_eq_ok_iff]
  constructor
  · rintro (⟨h, rfl⟩ | ⟨_, h, rfl⟩)
    · exact .leftOut h
    · cases sheet with
      | none => exact .null h
      | some s => exact .text h
  · rintro (h | h | h)
    · exact .inl ⟨h, rfl⟩
    · exact .inr ⟨_, h, rfl⟩
    · exact .inr ⟨_, h, rfl⟩

/-- The direction of a sort: ascending if it is left out. -/
inductive HasDirection (fields : List (String × Document)) : Direction → Prop
  | leftOut (h : fields.lookup "direction" = none) : HasDirection fields .ascending
  | name {direction : Direction} (h : HasText fields "direction" direction.name) :
    HasDirection fields direction

theorem orElse_direction_eq_ok_iff {direction : Direction} :
    orElse fields "direction" .ascending (asOneOf Direction.ofName?) = .ok direction ↔
      HasDirection fields direction := by
  rw [orElse_eq_ok_iff, require_asOneOf_eq_ok_iff Direction.ofName?_eq_some_iff]
  constructor
  · rintro (⟨h, rfl⟩ | h)
    · exact .leftOut h
    · exact .name h
  · rintro (h | h)
    · exact .inl ⟨h, rfl⟩
    · exact .inr h

/-- Fields hold the parts of an edit. -/
inductive Edit.Stands (fields : List (String × Document)) : Edit → Prop
  | renameColumn {old new : String} (hold : HasText fields "column_old" old)
      (hnew : HasText fields "column_new" new) : Stands fields (.renameColumn old new)
  | addColumnSum {first second new : String} (hfirst : HasText fields "col_a" first)
      (hsecond : HasText fields "col_b" second) (hnew : HasText fields "new_column" new) :
    Stands fields (.addColumnSum first second new)
  | deleteColumn {name : String} (hname : HasText fields "column_name" name) :
    Stands fields (.deleteColumn name)
  | filterRows {column : String} {op : Comparison} {value : Binary64}
      (hcolumn : HasText fields "column_name" column) (hop : HasText fields "operator" op.symbol)
      (hvalue : HasNumber fields "value" value) :
    Stands fields (.filterRows column op value)
  | sortBy {column : String} {direction : Direction}
      (hcolumn : HasText fields "column_name" column)
      (hdirection : HasDirection fields direction) : Stands fields (.sortBy column direction)
  | setValueWhere {target condition conditionValue value : String} {op : Equality}
      (htarget : HasText fields "target_column" target)
      (hop : HasText fields "operator" op.symbol)
      (hcondition : HasText fields "condition_column" condition)
      (hconditionValue : HasText fields "condition_value" conditionValue)
      (hvalue : HasText fields "value" value) :
    Stands fields (.setValueWhere target op condition conditionValue value)

namespace Action

/-- Fields hold the parts of an action. -/
inductive Stands (fields : List (String × Document)) : Action → Prop
  | renameSheet {old new : String} (hold : HasText fields "sheet_old" old)
      (hnew : HasText fields "sheet_new" new) : Stands fields (.renameSheet old new)
  | edit {sheet : Option String} {e : Edit} (hsheet : NamesSheet fields sheet)
      (he : e.Stands fields) : Stands fields (.edit sheet e)

/-- **Fields denote an action**: the name of its kind and its parts stand among them. -/
structure Denotes (fields : List (String × Document)) (a : Action) : Prop where
  type : HasText fields "type" a.kind.name
  parts : a.Stands fields

/-! ### Acceptance -/

theorem stands_of_ofFields {kind : ActionKind} {a : Action} (h : ofFields kind fields = .ok a) :
    a.kind = kind ∧ a.Stands fields := by
  cases kind <;>
    simp only [ofFields, withField, bothOrFaults_eq_ok_iff, map_eq_ok_iff,
      require_asText_eq_ok_iff, require_asReal_eq_ok_iff, require_comparison_eq_ok_iff,
      require_equality_eq_ok_iff, orElse_sheet_eq_ok_iff, orElse_direction_eq_ok_iff] at h
  case renameSheet =>
    obtain ⟨old, new, hold, hnew, rfl⟩ := h
    exact ⟨rfl, .renameSheet hold hnew⟩
  case renameColumn =>
    obtain ⟨sheet, _, hsheet, ⟨old, new, hold, hnew, rfl⟩, rfl⟩ := h
    exact ⟨rfl, .edit hsheet (.renameColumn hold hnew)⟩
  case addColumnSum =>
    obtain ⟨sheet, _, hsheet,
      ⟨_, new, ⟨first, second, hfirst, hsecond, rfl⟩, hnew, rfl⟩, rfl⟩ := h
    exact ⟨rfl, .edit hsheet (.addColumnSum hfirst hsecond hnew)⟩
  case deleteColumn =>
    obtain ⟨sheet, _, hsheet, ⟨name, hname, rfl⟩, rfl⟩ := h
    exact ⟨rfl, .edit hsheet (.deleteColumn hname)⟩
  case filterRows =>
    obtain ⟨sheet, _, hsheet, ⟨_, value, ⟨column, op, hcolumn, hop, rfl⟩, hvalue, rfl⟩, rfl⟩ := h
    exact ⟨rfl, .edit hsheet (.filterRows hcolumn hop hvalue)⟩
  case sortBy =>
    obtain ⟨sheet, _, hsheet, ⟨column, direction, hcolumn, hdirection, rfl⟩, rfl⟩ := h
    exact ⟨rfl, .edit hsheet (.sortBy hcolumn hdirection)⟩
  case setValueWhere =>
    obtain ⟨sheet, _, hsheet, ⟨_, value, ⟨_, conditionValue, ⟨_, condition,
      ⟨target, op, htarget, hop, rfl⟩, hcondition, rfl⟩, hconditionValue, rfl⟩,
      hvalue, rfl⟩, rfl⟩ := h
    exact ⟨rfl, .edit hsheet (.setValueWhere htarget hop hcondition hconditionValue hvalue)⟩

theorem ofFields_of_stands {a : Action} (h : a.Stands fields) :
    ofFields a.kind fields = .ok a := by
  cases h with
  | renameSheet hold hnew =>
    simp only [kind, ofFields, bothOrFaults_eq_ok_iff, require_asText_eq_ok_iff]
    exact ⟨_, _, hold, hnew, rfl⟩
  | edit hsheet he =>
    cases he <;>
      simp only [kind, Edit.kind, ofFields, withField, bothOrFaults_eq_ok_iff, map_eq_ok_iff,
        require_asText_eq_ok_iff, require_asReal_eq_ok_iff, require_comparison_eq_ok_iff,
        require_equality_eq_ok_iff, orElse_sheet_eq_ok_iff, orElse_direction_eq_ok_iff]
    case renameColumn hold hnew =>
      exact ⟨_, _, hsheet, ⟨_, _, hold, hnew, rfl⟩, rfl⟩
    case addColumnSum hfirst hsecond hnew =>
      exact ⟨_, _, hsheet, ⟨_, _, ⟨_, _, hfirst, hsecond, rfl⟩, hnew, rfl⟩, rfl⟩
    case deleteColumn hname =>
      exact ⟨_, _, hsheet, ⟨_, hname, rfl⟩, rfl⟩
    case filterRows hcolumn hop hvalue =>
      exact ⟨_, _, hsheet, ⟨_, _, ⟨_, _, hcolumn, hop, rfl⟩, hvalue, rfl⟩, rfl⟩
    case sortBy hcolumn hdirection =>
      exact ⟨_, _, hsheet, ⟨_, _, hcolumn, hdirection, rfl⟩, rfl⟩
    case setValueWhere htarget hop hcondition hconditionValue hvalue =>
      exact ⟨_, _, hsheet, ⟨_, _, ⟨_, _, ⟨_, _, ⟨_, _, htarget, hop, rfl⟩, hcondition, rfl⟩,
        hconditionValue, rfl⟩, hvalue, rfl⟩, rfl⟩

theorem ofFields_eq_ok_iff {kind : ActionKind} {a : Action} :
    ofFields kind fields = .ok a ↔ a.kind = kind ∧ a.Stands fields := by
  constructor
  · exact stands_of_ofFields
  · rintro ⟨rfl, h⟩
    exact ofFields_of_stands h

/-- **The documents that are accepted** are the objects that denote an action. -/
theorem ofDocument_eq_ok_iff {d : Document} {a : Action} :
    ofDocument d = .ok a ↔ ∃ fields, d = .object fields ∧ Denotes fields a := by
  constructor
  · intro h
    cases d with
    | object fields =>
      refine ⟨fields, rfl, ?_⟩
      cases htag : fields.lookup "type" with
      | none => simp [ofDocument, htag] at h
      | some tag =>
        cases tag with
        | text name =>
          cases hkind : ActionKind.ofName? name with
          | none => simp [ofDocument, htag, hkind] at h
          | some kind =>
            simp only [ofDocument, htag, hkind, mapError_eq_ok_iff, ofFields_eq_ok_iff] at h
            obtain ⟨rfl, hparts⟩ := h
            exact ⟨ActionKind.ofName?_eq_some_iff.mp hkind ▸ htag, hparts⟩
        | _ => simp [ofDocument, htag] at h
    | _ => cases h
  · rintro ⟨fields, rfl, htype, hparts⟩
    have htag : fields.lookup "type" = some (.text a.kind.name) := htype
    simp only [ofDocument, htag, ActionKind.ofName?_name, mapError_eq_ok_iff, ofFields_eq_ok_iff]
    exact ⟨trivial, hparts⟩

/-- The fields of an action denote that action and no other one. -/
theorem Denotes.unique {a b : Action} (h : Denotes fields a) (h' : Denotes fields b) : a = b :=
  Except.ok.inj ((ofDocument_eq_ok_iff.mpr ⟨fields, rfl, h⟩).symm.trans
    (ofDocument_eq_ok_iff.mpr ⟨fields, rfl, h'⟩))

theorem ofItems_map_toDocument (index : Nat) (actions : List Action) :
    ofItems index (actions.map (·.toDocument)) = .ok actions := by
  induction actions generalizing index with
  | nil => rfl
  | cons a actions ih => rw [List.map_cons, ofItems, ih, ofDocument_toDocument]; rfl

/-- **Actions come back** from their documents, in a list and on their own. An object that is
accepted is one that denotes an action, with whatever else it holds; the document of that action is
accepted as the same action. -/
theorem comesBack :
    (∀ actions : List Action,
      listOfDocument (.list (actions.map (·.toDocument))) = .ok actions) ∧
    (∀ d a, ofDocument d = .ok a ↔ ∃ fields, d = .object fields ∧ Denotes fields a) ∧
    ∀ d a, ofDocument d = .ok a → ofDocument a.toDocument = .ok a :=
  ⟨ofItems_map_toDocument 0, fun _ _ => ofDocument_eq_ok_iff,
    fun _ a _ => ofDocument_toDocument a⟩

/-- A filter as it may be written by hand: no sheet, the number as a text, a remark. -/
def handwritten : Document :=
  .object [("operator", .text ">="), ("remark", .text "big ones"), ("type", .text "filter_rows"),
    ("value", .text "1_000"), ("column_name", .text "Amount")]

def bigOnes : Action := .edit none (.filterRows "Amount" .greaterEqual (.ofInt 1000))

theorem comesBack_handwritten :
    ofDocument handwritten = .ok bigOnes ∧ ofDocument bigOnes.toDocument = .ok bigOnes :=
  have h : ofDocument handwritten = .ok bigOnes := by decide +kernel
  ⟨h, comesBack.2.2 handwritten bigOnes h⟩

end Action

end SheetCommand
