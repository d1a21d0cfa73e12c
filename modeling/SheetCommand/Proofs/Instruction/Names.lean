import SheetCommand.Proofs.Instruction.Kept
import SheetCommand.Proofs.Text.NameChars

/-!
# The names in an action

Whatever the instruction, a name in the action that it is interpreted as is the title of a piece
that some phrase has kept under the name of a name. Such a piece begins with a word character and
goes on with word characters, hyphens and white space, so its title is a name and is not empty
(`isTitle_of_mem_names`).
-/

namespace SheetCommand

/-- A name that is not empty. -/
structure Text.IsTitle (text : List Char) : Prop where
  ne_nil : text ≠ []
  isName : IsName text

/-- The names of columns in an edit. -/
def Edit.names : Edit → List String
  | renameColumn old new => [old, new]
  | addColumnSum first second new => [first, second, new]
  | deleteColumn name => [name]
  | filterRows column _ _ => [column]
  | sortBy column _ => [column]
  | setValueWhere target _ condition _ _ => [target, condition]

/-- The names of sheets and columns that an action takes from an instruction. -/
def Action.names : Action → List String
  | renameSheet old new => [old, new]
  | edit _ e => e.names

namespace Instruction
open Text

/-- The pieces that the names in a request of each kind are the titles of. -/
def nameSlots : ActionKind → List Slot
  | .renameSheet => [.old, .new]
  | .renameColumn => [.old, .new]
  | .addColumnSum => [.first, .second, .new]
  | .deleteColumn => [.name]
  | .filterRows => [.column]
  | .sortBy => [.column]
  | .setValueWhere => [.target, .condition]

/-! ### What stands under the name of a name -/

/-- Classes of characters that names are made of. -/
def isNaming : CharClass → Bool
  | .word => true
  | .blank => true
  | .only chars => chars.all isNameChar
  | .either a b => isNaming a && isNaming b
  | .digit => false
  | .allBut _ => false

def isWordClass : CharClass → Bool
  | .word => true
  | _ => false

theorem isNaming_spec (cls : CharClass) (h : isNaming cls = true) (c : Char)
    (hc : cls.accepts c = true) : isNameChar c = true ∨ isBlank c = true := by
  induction cls with
  | word => exact .inl (isNameChar_of_isWordChar hc)
  | blank => exact .inr hc
  | only chars => exact .inl (List.all_eq_true.mp h c (List.contains_iff_mem.mp hc))
  | either a b iha ihb =>
    rw [isNaming, Bool.and_eq_true] at h
    rw [CharClass.accepts, Bool.or_eq_true] at hc
    exact hc.elim (iha h.1) (ihb h.2)
  | digit | allBut => cases h

/-- A phrase keeps all names it needs, and under each only what is a name. -/
def keepsNames (kind : ActionKind) (p : Phrase) : Bool :=
  (nameSlots kind).all (p.keepsSurely ·) &&
    p.slots.all fun s => !(nameSlots kind).contains s.1 ||
      (s.2.consistsOf isNaming && s.2.beginsWith isWordClass)

theorem keepsNames_ranked : ∀ x ∈ ranked, keepsNames x.1 x.2 = true := by decide +kernel

/-! ### Titles of pieces -/

/-- What names are made of in an instruction as it is read is a name, and so is its title. -/
theorem isTitle_titleCase {p : Phrase} (hnaming : p.consistsOf isNaming = true)
    (hword : p.beginsWith isWordClass = true) {typed piece : List Char} (hp : p.Spells piece)
    (hpiece : piece <:+: lower (collapse typed)) : IsTitle (Text.titleCase piece) := by
  have hname : IsName piece := fun c hc =>
    (hp.forall (Pattern.only_of_consistsOf isNaming_spec hnaming) c hc).elim id
      (isNameChar_of_isBlank (hpiece.subset hc))
  refine ⟨?_, isName_titleCase hname⟩
  obtain ⟨cls, c, rest, hcls, hc, rfl⟩ := hp.exists_cons hword
  cases cls with
  | word =>
    refine titleCase_ne_nil ?_
    rintro rfl
    exact absurd hc (by decide)
  | _ => cases hcls

/-- A phrase that is found has kept every name. -/
theorem exists_piece {x : ActionKind × Phrase} (hx : x ∈ ranked) {text : List Char} {c : Pieces}
    (hc : x.2.search text = some c) {slot : Slot} (hslot : slot ∈ nameSlots x.1) :
    ∃ span, c.piece? slot = some span := by
  have hkeeps := keepsNames_ranked x hx
  rw [keepsNames, Bool.and_eq_true, List.all_eq_true] at hkeeps
  obtain ⟨b, -, -, hb⟩ := Pattern.exists_mem_outcomes_of_search hc
  exact Option.isSome_iff_exists.mp (Pattern.isSome_piece? (hkeeps.1 slot hslot) hb)

theorem isTitle_titled {x : ActionKind × Phrase} (hx : x ∈ ranked) {w : Wording} {text : List Char}
    (hw : w.lower = lower (collapse text)) {c : Pieces} (hc : x.2.search w.lower = some c)
    {slot : Slot} (hslot : slot ∈ nameSlots x.1) : IsTitle (titled c slot).toList := by
  obtain ⟨span, hspan⟩ := exists_piece hx hc hslot
  obtain ⟨hpiece, q, hq, hspells⟩ := Pattern.isKept_of_search hc hspan
  have hkeeps := keepsNames_ranked x hx
  rw [keepsNames, Bool.and_eq_true, List.all_eq_true (l := x.2.slots)] at hkeeps
  have hnames := hkeeps.2 _ hq
  rw [List.contains_iff_mem.mpr hslot, Bool.not_true, Bool.false_or, Bool.and_eq_true] at hnames
  rw [titled, hspan, String.toList_ofList]
  exact isTitle_titleCase hnames.1 hnames.2 hspells (hw ▸ hpiece)

/-! ### Names of actions -/

/-- The names in a request are the titles of its pieces. -/
theorem names_of_build {kind : ActionKind} {w : Wording} {c : Pieces} {r : Request}
    (h : build kind w c = some r) (sheet : Option String) :
    (r.onSheet sheet).names = (nameSlots kind).map (titled c) := by
  cases built_of_build h <;> rfl

/-- An action comes from a phrase that is found and yields a request. -/
theorem exists_build_of_mem_interpret {instruction : String} {sheetNames : List String}
    {a : Action} (h : a ∈ interpret instruction sheetNames) :
    ∃ x ∈ ranked, ∃ c r, x.2.search (Wording.of instruction).lower = some c ∧
      build x.1 (Wording.of instruction) c = some r ∧
      a = r.onSheet (mentionedSheet (Wording.of instruction).lower sheetNames) := by
  obtain ⟨r, hr, rfl⟩ := Option.map_eq_some_iff.mp (Option.mem_toList.mp h)
  rw [recognize_eq_findSome?] at hr
  obtain ⟨x, hx, hyield⟩ := List.exists_of_findSome?_eq_some hr
  obtain ⟨c, hc, hbuild⟩ := Option.bind_eq_some_iff.mp hyield
  exact ⟨x, hx, c, r, hc, hbuild, rfl⟩

/-- **Every name in an action** that an instruction is interpreted as is a name and not empty. -/
theorem isTitle_of_mem_names {instruction : String} {sheetNames : List String} {a : Action}
    (h : a ∈ interpret instruction sheetNames) {name : String} (hname : name ∈ a.names) :
    IsTitle name.toList := by
  obtain ⟨x, hx, c, r, hc, hbuild, rfl⟩ := exists_build_of_mem_interpret h
  rw [names_of_build hbuild] at hname
  obtain ⟨slot, hslot, rfl⟩ := List.mem_map.mp hname
  exact isTitle_titled hx rfl hc hslot

end Instruction

end SheetCommand
