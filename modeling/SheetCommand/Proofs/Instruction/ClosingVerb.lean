import SheetCommand.Proofs.Instruction.Canonical
import SheetCommand.Proofs.Instruction.SpacedName

/-!
# Closing verbs — where a new name ends

`price column ka naam unit cost rakho` gives a column a new name, and the verb ends it. More words
may follow the verb, or a locator such as `sales sheet me`. For a sheet the new name is everything
up to the verb, whatever follows; for a column too, but for one case: if the new name has several
words and a locator follows the verb, the locator begins right behind the first word and takes in the
rest of the name and the verb (`NewName.interpret_spec`).
-/

namespace SheetCommand.Instruction

/-- What gets a new name. -/
inductive Subject where
  | sheet | column
  deriving DecidableEq

/-- What follows the closing verb. -/
inductive Trailer where
  | nothing
  | words (name : PlainName)
  /-- `sales sheet me`. -/
  | locator (sheet : PlainName)

/-- An instruction that gives a sheet or a column a new name, up to a closing verb and beyond. -/
structure NewName where
  subject : Subject
  old : PlainName
  new : PlainName
  verb : String
  isVerb : verb ∈ closingVerbs
  trailer : Trailer

namespace Subject

def word : Subject → String
  | sheet => "sheet"
  | column => "column"

def kind : Subject → ActionKind
  | sheet => .renameSheet
  | column => .renameColumn

/-- The place, among all phrases, of the one that is read. -/
def place : Subject → Nat
  | sheet => 0
  | column => 5

def request (old new : String) : Subject → Request
  | sheet => .renameSheet old new
  | column => .edit (.renameColumn old new)

end Subject

namespace Trailer

def text : Trailer → String
  | nothing => ""
  | words name => " " ++ name.text
  | locator sheet => " " ++ sheet.text ++ " sheet me"

def isLocator : Trailer → Bool
  | nothing => false
  | words _ => false
  | locator _ => true

end Trailer

namespace PlainName

/-- The first word of a name. -/
def head (name : PlainName) : PlainName where
  first := name.first
  others := []
  plain := by simpa using name.plain name.first (by simp)

/-- What follows the first word, if there is anything. -/
def tail? : PlainName → Option PlainName
  | ⟨_, [], _⟩ => none
  | ⟨_, first :: others, plain⟩ =>
    some ⟨first, others, fun word hword => plain word (List.mem_cons_of_mem _ hword)⟩

theorem chars_eq_of_tail? {name rest : PlainName} (h : name.tail? = some rest) :
    name.chars = name.head.chars ++ ' ' :: rest.chars := by
  rcases name with ⟨first, _ | ⟨second, others⟩, plain⟩
  · cases h
  · cases h
    simp [chars, head, Text.join]

theorem head_chars_of_tail? {name : PlainName} (h : name.tail? = none) :
    name.head.chars = name.chars := by
  rcases name with ⟨first, _ | ⟨second, others⟩, plain⟩
  · rfl
  · cases h

theorem fills_head (name : PlainName) : Hole.word.Fills name.head.chars :=
  Hole.IsWord.fills (isWord_of_plain (name.plain name.first (by simp)))

/-- Titling a name keeps its length. -/
theorem length_titled (name : PlainName) : name.titled.toList.length = name.chars.length := by
  have hwords : ∀ word ∈ name.first :: name.others,
      word ≠ [] ∧ ' ' ∉ word ∧ ∀ c ∈ word, c.toNat < 128 :=
    fun word hword => (isWord_of_plain (name.plain word hword)).ascii
  have htitled := (Text.titleCase_of_ascii (by simp) hwords).2
  simpa [titled, text, titleCase, chars] using congrArg List.length htitled

end PlainName

namespace NewName

def text (r : NewName) : String :=
  r.old.text ++ " " ++ r.subject.word ++ " ka naam " ++ r.new.text ++ " " ++ r.verb ++
    r.trailer.text

/-- The locator takes in a part of the new name. -/
def Swallows (r : NewName) : Prop :=
  r.subject = .column ∧ r.trailer.isLocator = true ∧ r.new.tail?.isSome = true

instance (r : NewName) : Decidable r.Swallows := by unfold Swallows; infer_instance

/-- The new name as it is read. -/
def readName (r : NewName) : PlainName := if r.Swallows then r.new.head else r.new

end NewName

/-! ### Forms -/

/-- What of a new name a phrase is to keep. -/
inductive Shape where
  | whole
  /-- The name is a single word. -/
  | single
  /-- More words follow the one that is kept. -/
  | cut

def Shape.stretches : Shape → List Stretch
  | whole => [name .new 1]
  | single => [.kept .new [.hole .word 1]]
  | cut => [.kept .new [.hole .word 1], .text " ", .passed [.hole .name 2]]

def wordsForm : List Stretch := [.text " ", .passed [.hole .name 3]]

def locatorForm : List Stretch := [.text " ", .passed [.hole .name 3], .text " sheet me"]

/-- The instruction with its names open. -/
def newNameForm (subject : Subject) (shape : Shape) (verb : String) (trailer : List Stretch) :
    Form :=
  [name .old 0, .text " ", .text subject.word, .text " ka naam "] ++ shape.stretches ++
    [.text " ", .text verb] ++ trailer

/-- The phrases tried before miss the form, and the phrase of its kind finds it. -/
def isFollowed (subject : Subject) (shape : Shape) (trailer : List Stretch) (verb : String) :
    Bool :=
  let form := newNameForm subject shape verb trailer
  form.sketch.isPlain && form.isFoundAt subject.place &&
    (ranked.take subject.place).all fun x => x.2.misses form.sketch

/-- What is kept of a new name, by the subject and by what stands behind the verb. -/
def shapes : List (Subject × Shape × List Stretch) :=
  [(.sheet, .whole, []), (.sheet, .whole, wordsForm), (.sheet, .whole, locatorForm),
    (.column, .whole, []), (.column, .whole, wordsForm),
    (.column, .single, locatorForm), (.column, .cut, locatorForm)]

theorem shapes_followed : ∀ x ∈ shapes,
    closingVerbs.all (isFollowed x.1 x.2.1 x.2.2) = true := by
  have hall : (shapes.all fun x => closingVerbs.all (isFollowed x.1 x.2.1 x.2.2)) = true := by
    decide +kernel
  exact List.all_eq_true.mp hall

namespace Trailer

def form : Trailer → List Stretch
  | nothing => []
  | words _ => wordsForm
  | locator _ => locatorForm

/-- What fills the open part, if there is one. -/
def name (other : PlainName) : Trailer → PlainName
  | nothing => other
  | words name => name
  | locator sheet => sheet

theorem form_of_locator {trailer : Trailer} (h : trailer.isLocator = true) :
    trailer.form = locatorForm := by
  cases trailer with
  | nothing | words => cases h
  | locator => rfl

variable {v : Filling} {other : PlainName}

theorem fits_form (trailer : Trailer) (hv : v 3 = (trailer.name other).chars) :
    Sketch.Fits v (Form.sketch trailer.form) := by
  cases trailer <;>
    simp_all [form, wordsForm, locatorForm, Form.sketch, Sketch.fits_append, Sketch.fits_ofChars,
      Sketch.Fits, name, PlainName.fills]

theorem fill_form (trailer : Trailer) (hv : v 3 = (trailer.name other).chars) :
    Sketch.fill v (Form.sketch trailer.form) = trailer.text.toList := by
  cases trailer <;>
    simp_all [form, wordsForm, locatorForm, Form.sketch, Sketch.fill_append, Sketch.fill_ofChars,
      Sketch.fill, name, text, PlainName.text]

end Trailer

namespace NewName

variable (r : NewName)

def shape : Shape :=
  if r.subject = .column ∧ r.trailer.isLocator = true then
    if r.new.tail?.isSome then .cut else .single
  else .whole

def form : Form := newNameForm r.subject r.shape r.verb r.trailer.form

def filling : Filling := fun
  | 0 => r.old.chars
  | 1 => r.readName.chars
  | 2 => (r.new.tail?.getD r.new).chars
  | _ => (r.trailer.name r.new).chars

theorem isPlain_filling (i : Nat) : IsPlain (r.filling i) := by
  unfold filling
  split <;> exact PlainName.isPlain _

/-- The three shapes of the form, each with what it says of the name. -/
theorem shape_cases :
    (r.shape = .whole ∧ ¬ (r.subject = .column ∧ r.trailer.isLocator = true) ∧ r.readName = r.new) ∨
    (r.shape = .single ∧ (r.subject = .column ∧ r.trailer.isLocator = true) ∧
      r.new.tail? = none ∧ r.readName = r.new) ∨
    (r.shape = .cut ∧ (r.subject = .column ∧ r.trailer.isLocator = true) ∧
      (∃ rest, r.new.tail? = some rest) ∧ r.readName = r.new.head) := by
  by_cases hlocated : r.subject = .column ∧ r.trailer.isLocator = true
  · cases htail : r.new.tail? with
    | none => exact .inr (.inl (by simp [shape, readName, Swallows, hlocated, htail]))
    | some rest => exact .inr (.inr (by simp [shape, readName, Swallows, hlocated, htail]))
  · refine .inl ⟨by simp only [shape, if_neg hlocated], hlocated, ?_⟩
    exact if_neg fun h => hlocated ⟨h.1, h.2.1⟩

theorem shape_mem : (r.subject, r.shape, r.trailer.form) ∈ shapes := by
  rcases r.shape_cases with ⟨hs, hnot, -⟩ | ⟨hs, ⟨hc, hl⟩, -⟩ | ⟨hs, ⟨hc, hl⟩, -⟩
  · rw [hs]
    cases hsubject : r.subject with
    | sheet => cases r.trailer <;> simp [Trailer.form, shapes]
    | column =>
      cases htrailer : r.trailer with
      | nothing | words => simp [Trailer.form, shapes]
      | locator => exact absurd ⟨hsubject, by rw [htrailer]; rfl⟩ hnot
  · rw [hs, hc, Trailer.form_of_locator hl]
    simp [shapes]
  · rw [hs, hc, Trailer.form_of_locator hl]
    simp [shapes]

theorem isFollowed_form : isFollowed r.subject r.shape r.trailer.form r.verb = true :=
  List.all_eq_true.mp (shapes_followed _ r.shape_mem) r.verb r.isVerb

/-! ### The instruction is a filling of its form -/

theorem filling_three : r.filling 3 = (r.trailer.name r.new).chars := rfl

theorem fits_shape : Sketch.Fits r.filling (Form.sketch r.shape.stretches) := by
  rcases r.shape_cases with ⟨hs, -⟩ | ⟨hs, -, htail, hread⟩ | ⟨hs, -, -, hread⟩
  · simp [hs, Shape.stretches, name, Form.sketch, Sketch.Fits, filling, PlainName.fills]
  · have hhead : Hole.word.Fills r.readName.chars := by
      rw [hread, ← PlainName.head_chars_of_tail? htail]
      exact r.new.fills_head
    simp [hs, Shape.stretches, Form.sketch, Sketch.Fits, filling, hhead]
  · have hhead : Hole.word.Fills r.readName.chars := hread ▸ r.new.fills_head
    simp [hs, Shape.stretches, Form.sketch, Sketch.fits_append, Sketch.fits_ofChars, Sketch.Fits,
      filling, hhead, PlainName.fills]

theorem fill_shape : Sketch.fill r.filling (Form.sketch r.shape.stretches) = r.new.chars := by
  rcases r.shape_cases with ⟨hs, -, hread⟩ | ⟨hs, -, -, hread⟩ | ⟨hs, -, ⟨rest, htail⟩, hread⟩
  · simp [hs, Shape.stretches, name, Form.sketch, Sketch.fill, filling, hread]
  · simp [hs, Shape.stretches, Form.sketch, Sketch.fill, filling, hread]
  · simp [hs, Shape.stretches, Form.sketch, Sketch.fill_append, Sketch.fill_ofChars, Sketch.fill,
      filling, hread, htail, PlainName.chars_eq_of_tail? htail]

theorem fits_form : r.form.sketch.Fits r.filling := by
  simp only [form, newNameForm, Form.sketch_append, Sketch.fits_append]
  refine ⟨⟨⟨?_, r.fits_shape⟩, ?_⟩, r.trailer.fits_form r.filling_three⟩
  · simp [name, Form.sketch, Sketch.fits_append, Sketch.fits_ofChars, Sketch.Fits, filling,
      PlainName.fills]
  · simp [Form.sketch, Sketch.fits_append, Sketch.fits_ofChars]

theorem text_eq_fill : r.text.toList = r.form.sketch.fill r.filling := by
  simp only [form, newNameForm, Form.sketch_append, Sketch.fill_append, fill_shape,
    r.trailer.fill_form r.filling_three]
  simp [text, name, Form.sketch, Sketch.fill_append, Sketch.fill_ofChars, Sketch.fill, filling,
    PlainName.text]

theorem piece?_old : r.form.piece? .old = some [.hole .name 0] := by
  have htrailer : Form.piece? .old r.trailer.form = none := by cases r.trailer <;> rfl
  have hshape : Form.piece? .old r.shape.stretches = none := by cases r.shape <;> rfl
  simp [form, newNameForm, Form.piece?_append, htrailer, hshape, name, Form.piece?]

theorem piece?_new : (r.form.piece? .new).map (Sketch.fill r.filling) = some r.readName.chars := by
  have htrailer : Form.piece? .new r.trailer.form = none := by cases r.trailer <;> rfl
  have hshape : (Form.piece? .new r.shape.stretches).map (Sketch.fill r.filling) =
      some r.readName.chars := by
    cases r.shape <;> simp [Shape.stretches, name, Form.piece?, Sketch.fill, filling]
  simp [form, newNameForm, Form.piece?_append, htrailer, hshape, name, Form.piece?]

theorem build_form {w : Wording} {c : Pieces} (h : r.form.Reading r.filling r.filling w c) :
    build r.subject.kind w c = some (r.subject.request r.old.titled r.readName.titled) := by
  have hold : titled c .old = r.old.titled := by
    rw [h.titled_eq, piece?_old]
    simp [Sketch.fill, filling, PlainName.titled, PlainName.text, titleCase]
  have hnew : titled c .new = r.readName.titled := by
    rw [h.titled_eq, piece?_new]
    simp [PlainName.titled, PlainName.text, titleCase]
  cases hs : r.subject <;> simp [Subject.kind, Subject.request, build, hold, hnew]

theorem isPlain_sketch : r.form.sketch.isPlain = true := by
  have hfollowed := r.isFollowed_form
  simp only [isFollowed, Bool.and_eq_true] at hfollowed
  exact hfollowed.1.1

theorem collapse_text :
    Text.collapse r.text.toList = r.form.sketch.fill r.filling := by
  rw [text_eq_fill]
  exact Text.collapse_of_tidy (IsPlain.fill r.isPlain_sketch r.isPlain_filling).tidy

theorem recognize_text :
    recognize (Wording.of r.text) = some (r.subject.request r.old.titled r.readName.titled) := by
  have hfollowed := r.isFollowed_form
  simp only [isFollowed, Bool.and_eq_true, List.all_eq_true] at hfollowed
  obtain ⟨⟨-, hfound⟩, hmissed⟩ := hfollowed
  have hkind : (ranked[r.subject.place]?).map Prod.fst = some r.subject.kind := by
    cases r.subject <;> rfl
  have hlow : r.form.sketch.all Piece.isLowAscii = true := by
    have hplain := r.isPlain_sketch
    simp only [Sketch.isPlain, Bool.and_eq_true] at hplain
    exact hplain.2
  exact (Cased.of_isPlain r.isPlain_filling).recognize_eq
    (fun x hx => Pattern.search_of_misses (hmissed x hx) r.fits_form) hfound hkind hlow r.fits_form
    r.collapse_text fun _ _ _ h => r.build_form h

theorem lower_text : (Wording.of r.text).lower = r.text.toList := by
  have hplain : IsPlain r.text.toList :=
    r.text_eq_fill ▸ IsPlain.fill r.isPlain_sketch r.isPlain_filling
  have hwording := wording_of_plain hplain
  rw [String.ofList_toList] at hwording
  rw [hwording]

theorem interpret_text (sheetNames : List String) :
    interpret r.text sheetNames = [(r.subject.request r.old.titled r.readName.titled).onSheet
      (mentionedSheet r.text.toList sheetNames)] := by
  rw [interpret, recognize_text, lower_text]
  rfl

/-- A part of a name has another title than the name. -/
theorem titled_readName_iff : r.readName.titled = r.new.titled ↔ ¬ r.Swallows := by
  constructor
  · intro htitled hswallows
    obtain ⟨rest, htail⟩ := Option.isSome_iff_exists.mp hswallows.2.2
    rw [readName, if_pos hswallows] at htitled
    have hlength := congrArg (fun s : String => s.toList.length) htitled
    simp only [PlainName.length_titled, PlainName.chars_eq_of_tail? htail, List.length_append,
      List.length_cons] at hlength
    omega
  · intro hswallows
    rw [readName, if_neg hswallows]

/-- **Closing verbs**: a request for the names before the words for a sheet or a column and before
the closing verb, whatever follows the verb; unless it is a column, a locator follows the verb and
the new name has several words. Then the new name is the first of them. -/
theorem interpret_spec (sheetNames : List String) :
    interpret r.text sheetNames = [(r.subject.request r.old.titled r.readName.titled).onSheet
        (mentionedSheet r.text.toList sheetNames)] ∧
      ((∃ sheet, interpret r.text sheetNames =
        [(r.subject.request r.old.titled r.new.titled).onSheet sheet]) ↔ ¬ r.Swallows) := by
  refine ⟨r.interpret_text sheetNames, ?_⟩
  rw [← titled_readName_iff, interpret_text]
  constructor
  · rintro ⟨sheet, heq⟩
    cases hs : r.subject <;> simp_all [Subject.request, Request.onSheet]
  · intro htitled
    exact ⟨_, by rw [htitled]⟩

/-- `price column ka naam unit cost rakho sales sheet me`. -/
def unitCost : NewName where
  subject := .column
  old := ⟨"price".toList, [], by decide⟩
  new := ⟨"unit".toList, ["cost".toList], by decide⟩
  verb := "rakho"
  isVerb := by decide
  trailer := .locator ⟨"sales".toList, [], by decide⟩

/-- A locator that begins at `cost` leaves one word of the new name. -/
theorem interpret_unitCost :
    unitCost.text = "price column ka naam unit cost rakho sales sheet me" ∧
      interpret unitCost.text [] = [.edit none (.renameColumn "Price" "Unit")] ∧
      ¬ ∃ sheet, interpret unitCost.text [] =
        [(unitCost.subject.request unitCost.old.titled unitCost.new.titled).onSheet sheet] := by
  have htext : unitCost.text = "price column ka naam unit cost rakho sales sheet me" := by decide
  have hread : interpret "price column ka naam unit cost rakho sales sheet me" [] =
      [.edit none (.renameColumn "Price" "Unit")] := by decide +kernel
  have hnew : unitCost.new.titled = "Unit Cost" := by decide
  rw [htext, hread, hnew]
  simp [unitCost, Subject.request, Request.onSheet]

end NewName

end SheetCommand.Instruction
