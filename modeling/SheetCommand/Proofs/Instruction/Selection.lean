import SheetCommand.Proofs.Instruction.Canonical
import SheetCommand.Proofs.Instruction.SpacedName

/-!
# Selections — rows by a number

`keep rows where Qty == 5` is read as a filter of the column with the titled name, by the number
nearest to the integer (`interpret_text`). The name may be typed in any case and spacing, and the
integer may be of any size.
-/

namespace SheetCommand

namespace Instruction

/-- A selection of rows to be put into words. -/
structure Selection where
  column : SpacedName
  sign : Sign Comparison
  number : Int

namespace Selection

/-- `keep rows where Qty == 5`. -/
def text (s : Selection) : String :=
  "keep rows where " ++ s.column.text ++ " " ++ s.sign.comparisonText ++ " " ++
    .ofList (Numeral.written s.number)

def request (s : Selection) : Request :=
  .edit (.filterRows s.column.titled s.sign.comparison (.ofInt s.number))

/-- The selection with its name and its digits open. -/
def form (s : Selection) : Form :=
  template (literally s.sign.comparisonText) (signed (decide (s.number < 0))) .english .filterRows

/-- What fills the open parts, by the name of the column. -/
def filling (s : Selection) (column : List Char) : Filling := fun
  | 0 => column
  | 4 => s.sign.comparisonText.toList
  | 5 => Numeral.written s.number
  | _ => Text.decimal s.number.natAbs

variable (s : Selection)

theorem isPlain_filling (i : Nat) : IsPlain (s.filling s.column.lower i) := by
  simp only [filling]
  split
  · exact s.column.isPlain
  · exact isPlain_of_isChoice (isChoice_comparison s.sign)
  · exact isPlain_written s.number
  · exact isPlain_written s.number.natAbs

theorem filling_of_ne_zero {i : Nat} (hi : i ≠ 0) (a b : List Char) :
    s.filling a i = s.filling b i := by
  unfold filling
  split
  · exact absurd rfl hi
  · rfl
  · rfl
  · rfl

/-- The name is typed in any case, and the rest in lower case. -/
theorem cased_filling : Cased (s.filling s.column.typed) (s.filling s.column.lower) := by
  have hplain := Cased.of_isPlain s.isPlain_filling
  constructor
  · intro i
    by_cases hi : i = 0
    · exact hi ▸ s.column.ascii
    · rw [s.filling_of_ne_zero hi s.column.typed s.column.lower]
      exact hplain.ascii i
  · intro i
    by_cases hi : i = 0
    · rw [hi]; rfl
    · rw [s.filling_of_ne_zero hi s.column.typed s.column.lower]
      exact hplain.lower_eq i

theorem fits_outline :
    (outline .english .filterRows).sketch.Fits (s.filling s.column.lower) := by
  simp [outline, template, name, Form.sketch, Sketch.fits_append, Sketch.fits_ofChars, Sketch.Fits,
    filling, SpacedName.fills, fills_written, fills_of_isChoice, isChoice_comparison]

theorem fits_form : s.form.sketch.Fits (s.filling s.column.lower) := by
  have hdigits : digitsHole.Fills (s.filling s.column.lower 6) := fills_decimal _
  have hname : Hole.name.Fills (s.filling s.column.lower 0) := s.column.fills
  simp [form, template, name, Form.sketch, Sketch.fits_append, Sketch.fits_ofChars, Sketch.Fits,
    literally, Wish.fits_signed _ hdigits, hname]

theorem fill_form (column : List Char) : s.form.sketch.fill (s.filling column) =
    (outline .english .filterRows).sketch.fill (s.filling column) := by
  have hsigned := Wish.fill_signed (v := s.filling column) (n := s.number) rfl
  simp only [form, outline, template, name, Form.sketch, Sketch.fill_append, Sketch.fill_ofChars,
    Sketch.fill, literally, hsigned, filling, List.append_nil]

theorem lead_eq : "keep rows where ".toList = "keep rows where".toList ++ [' '] := rfl

theorem toList_space : " ".toList = [' '] := rfl

theorem toList_text : s.text.toList = Text.join [' '] ["keep rows where".toList,
    s.column.text.toList, s.sign.comparisonText.toList, Numeral.written s.number] := by
  unfold Selection.text
  simp only [Text.join, String.toList_append, String.toList_ofList, lead_eq, toList_space,
    List.append_assoc]

theorem collapse_text : Text.collapse s.text.toList =
    s.form.sketch.fill (s.filling s.column.typed) := by
  have hsign := (isPlain_of_isChoice (isChoice_comparison s.sign)).tidy
  have hnumber := (isPlain_written s.number).tidy
  have hlead : Text.IsTidy "keep rows where".toList := by
    unfold Text.IsTidy
    decide
  rw [toList_text, Text.collapse_join, fill_form]
  · simp only [outline, template, name, Form.sketch, Sketch.fill_append, Sketch.fill_ofChars,
      Sketch.fill, filling, List.map_cons, List.map_nil, Text.collapse_of_tidy hlead,
      Text.collapse_of_tidy hsign, Text.collapse_of_tidy hnumber, SpacedName.typed, Text.join,
      lead_eq, toList_space, List.append_assoc, List.append_nil]
  · simpa using ⟨Text.words_ne_nil_of_tidy hlead, s.column.worded,
      Text.words_ne_nil_of_tidy hsign, Text.words_ne_nil_of_tidy hnumber⟩

theorem build_text {w : Wording} {c : Pieces}
    (hw : w.lower = s.form.sketch.fill (s.filling s.column.lower))
    (hc : s.form.Reading (s.filling s.column.typed) (s.filling s.column.lower) w c) :
    build .filterRows w c = some s.request := by
  have htrigger : filterTrigger.occursIn w.lower = true := by
    rw [hw, fill_form, ← String.toList_ofList (l := Sketch.fill _ _)]
    exact trigger_occurs_of_outline s.fits_outline String.toList_ofList
  have hsigned := Wish.fill_signed (v := s.filling s.column.lower) (n := s.number) rfl
  have hcolumn : s.filling s.column.lower 0 = s.column.lower := rfl
  simp [build, request, htrigger, hc.titled_eq, hc.read_eq, symbol, form, template,
    Instruction.name, Form.piece?, Sketch.fill, hcolumn, SpacedName.titled, literally,
    Sketch.fill_ofChars, hsigned, Wish.ofSymbol?_comparison, Wish.filter_written,
    Numeral.decimal?_written]

theorem sketch_isLowAscii : s.form.sketch.all Piece.isLowAscii = true := by
  rcases s with ⟨column, sign, number⟩
  rcases sign with (_ | _ | _ | _ | _ | _) | _ <;>
    cases hn : decide (number < 0) <;> simp only [form, hn] <;> decide +kernel

theorem recognize_text : recognize (Wording.of s.text) = some s.request := by
  refine s.cased_filling.recognize_eq (f := s.form) (fun x hx => ?_)
    (found_filter .english s.sign (decide (s.number < 0))) rfl s.sketch_isLowAscii s.fits_form
    s.collapse_text fun w c hw hc => s.build_text hw hc
  rw [fill_form]
  exact Pattern.search_of_misses
    (List.all_eq_true.mp (outline_missed .english .filterRows) x hx) s.fits_outline

/-- **A selection by an integer** is a filter by the number nearest to it. -/
theorem interpret_text (sheetNames : List String) : interpret s.text sheetNames =
    [s.request.onSheet (mentionedSheet (Wording.of s.text).lower sheetNames)] := by
  simp [interpret, recognize_text]

end Selection

end Instruction

end SheetCommand
