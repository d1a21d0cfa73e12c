import SheetCommand.Proofs.Instruction.Condition

/-!
# Located requests — a sheet locator in front

`Sales sheet me Price column hatao` is the request `Price column hatao` behind a locator. The locator
makes the phrases for the name of a sheet eligible, since it has the word `sheet` in it, and the
scope in front of a phrase may end anywhere. Both are settled by exploring each request twice, bare
and behind a locator, with its names open (`plea_missed`, `plea_found`): no phrase that is tried
before is found, and the same stretches are kept. So the locator changes nothing but the sheet
(`interpret_located`).
-/

namespace SheetCommand.Instruction

/-! ### Requests behind a locator -/

/-- A figure in ASCII digits, without groups. -/
abbrev PlainFigure :=
  { f : Figure // (∀ c ∈ f.whole, c.isDigit = true) ∧ ∀ c ∈ f.fraction, c.isDigit = true }

/-- A request, in Hindi, that a locator may stand in front of. -/
inductive Plea where
  | renameColumn (old new : PlainName)
  | addColumnSum (new first second : PlainName)
  | deleteColumn (name : PlainName)
  | filterRows (column : PlainName) (figure : PlainFigure)
  | sortBy (column : PlainName)
  | setValueWhere (target value condition conditionValue : PlainName)

namespace Plea

def phrase : Plea → String
  | renameColumn old new => old.text ++ " column ka naam " ++ new.text ++ " rakho"
  | addColumnSum new first second =>
    new.text ++ " column add karo jo " ++ first.text ++ " + " ++ second.text ++ " ho"
  | deleteColumn name => name.text ++ " column hatao"
  | filterRows column figure =>
    "sirf woh rows rakho jahan " ++ column.text ++ " > " ++ .ofList figure.val.chars
  | sortBy column => column.text ++ " ke hisaab se sort karo"
  | setValueWhere target value condition conditionValue =>
    target.text ++ " ko '" ++ value.text ++ "' set karo jahan " ++ condition.text ++ " == '" ++
      conditionValue.text ++ "'"

/-- The request behind a locator. -/
def located (sheet : PlainName) (plea : Plea) : String :=
  sheet.text ++ " sheet me " ++ plea.phrase

def edit : Plea → Edit
  | renameColumn old new => .renameColumn old.titled new.titled
  | addColumnSum new first second => .addColumnSum first.titled second.titled new.titled
  | deleteColumn name => .deleteColumn name.titled
  | filterRows column figure => .filterRows column.titled .greater figure.val.number
  | sortBy column => .sortBy column.titled .ascending
  | setValueWhere target value condition conditionValue =>
    .setValueWhere target.titled .equal condition.titled conditionValue.text value.text

def kind : Plea → ActionKind
  | renameColumn .. => .renameColumn
  | addColumnSum .. => .addColumnSum
  | deleteColumn .. => .deleteColumn
  | filterRows .. => .filterRows
  | sortBy .. => .sortBy
  | setValueWhere .. => .setValueWhere

theorem kind_ne (plea : Plea) : plea.kind ≠ .renameSheet := by cases plea <;> nofun

end Plea

/-! ### Their forms -/

/-- What stands in front of a request: a locator or nothing. -/
def front (located : Bool) : Form :=
  if located then [.passed [.hole .name 7], .text " sheet me "] else []

/-- A figure with its digits open. -/
def figureSketch (negative pointed : Bool) : Sketch :=
  (if negative then [.char '-'] else []) ++ .hole digitsHole 5 ::
    (if pointed then [.char '.', .hole digitsHole 6] else [])

/-- What figures are made of. -/
def figureHole : Hole := .run ['-', '.', '0', '1', '2', '3', '4', '5', '6', '7', '8', '9']

/-- A request with its names open; `choice` stands for a sign of equality and `figure` for a
figure. -/
def pleaForm (choice figure : Sketch) : ActionKind → Form
  | .sortBy => [name .column 0, .text " ke hisaab se sort karo"]
  | .filterRows => template (literally ">") figure .hindi .filterRows
  | kind => template choice [] .hindi kind

/-- No request but a filter has a figure in it. -/
theorem pleaForm_of_ne {kind : ActionKind} (h : kind ≠ .filterRows) (choice figure : Sketch) :
    pleaForm choice figure kind = pleaForm choice [] kind := by
  cases kind with
  | filterRows => contradiction
  | _ => rfl

/-- A request with everything open. -/
def pleaOutline : ActionKind → Form := pleaForm [.hole choiceHole 4] [.hole figureHole 4]

/-- What may be asked for behind a locator. -/
def pleaKinds : List ActionKind :=
  [.renameColumn, .addColumnSum, .deleteColumn, .filterRows, .sortBy, .setValueWhere]

theorem mem_pleaKinds {kind : ActionKind} (h : kind ≠ .renameSheet) : kind ∈ pleaKinds := by
  cases kind with
  | renameSheet => contradiction
  | _ => decide

/-- The phrases tried before are found in no request, bare or behind a locator. -/
theorem plea_missed {kind : ActionKind} (h : kind ≠ .renameSheet) (located : Bool) :
    ((ranked.take (place .hindi kind)).all fun x =>
      x.2.misses (front located ++ pleaOutline kind).sketch) = true := by
  have hall : (pleaKinds.all fun kind => [false, true].all fun located =>
      (ranked.take (place .hindi kind)).all fun x =>
        x.2.misses (front located ++ pleaOutline kind).sketch) = true := by
    decide +kernel
  have hkind := List.all_eq_true.mp hall kind (mem_pleaKinds h)
  exact List.all_eq_true.mp hkind located (by cases located <;> decide)

/-- The phrase that a request was made for finds it and keeps what it is to keep. -/
theorem plea_found {kind : ActionKind} (hsheet : kind ≠ .renameSheet) (hfilter : kind ≠ .filterRows)
    (located : Bool) (figure : Sketch) :
    (front located ++ pleaForm (literally "==") figure kind).isFoundAt (place .hindi kind) =
      true := by
  have hall : ((pleaKinds.erase .filterRows).all fun kind => [false, true].all fun located =>
      (front located ++ pleaForm (literally "==") [] kind).isFoundAt (place .hindi kind)) =
        true := by
    decide +kernel
  have hmem : kind ∈ pleaKinds.erase .filterRows :=
    (List.mem_erase_of_ne hfilter).mpr (mem_pleaKinds hsheet)
  rw [pleaForm_of_ne hfilter]
  exact List.all_eq_true.mp (List.all_eq_true.mp hall kind hmem) located
    (by cases located <;> decide)

theorem filter_found (located negative pointed : Bool) :
    (front located ++ pleaForm (literally "==") (figureSketch negative pointed)
      .filterRows).isFoundAt 15 = true := by
  have hall : ([false, true].all fun located => [false, true].all fun negative =>
      [false, true].all fun pointed =>
        (front located ++ pleaForm (literally "==") (figureSketch negative pointed)
          .filterRows).isFoundAt 15) = true := by
    decide +kernel
  have hmem : ∀ b, b ∈ [false, true] := by decide
  have hlocated := List.all_eq_true.mp hall located (hmem located)
  have hnegative := List.all_eq_true.mp hlocated negative (hmem negative)
  exact List.all_eq_true.mp hnegative pointed (hmem pointed)

theorem plea_plain {kind : ActionKind} (h : kind ≠ .renameSheet) (located : Bool) :
    (front located ++ pleaOutline kind).sketch.isPlain = true := by
  cases kind with
  | renameSheet => contradiction
  | _ => cases located <;> decide

/-! ### Their fillings -/

namespace PlainFigure

variable (figure : PlainFigure)

theorem isPlain_char {c : Char} (h : c.isDigit = true) :
    Text.isBlank c = false ∧ isLowAscii c = true := by
  have hname : Hole.name.isLetter c = true := by simp [Hole.isLetter, h]
  exact ⟨Hole.isBlank_of_name hname, isLowAscii_of_name hname⟩

theorem whole_ne_nil : figure.val.whole ≠ [] := by
  obtain ⟨c, rest, hwhole, -⟩ := figure.val.exists_cons_whole
  simp [hwhole]

theorem mem_chars {c : Char} (h : c ∈ figure.val.chars) : c = '-' ∨ c = '.' ∨ c.isDigit = true :=
  (Numeral.mem_numeral h).imp_right (·.imp_right fun h =>
    h.elim (figure.property.1 c) (figure.property.2 c))

theorem chars_ne_nil : figure.val.chars ≠ [] := by
  simp [Figure.chars, Numeral.numeral, figure.whole_ne_nil]

theorem isPlain : IsPlain figure.val.chars := by
  refine isPlain_of_chars figure.chars_ne_nil fun c hc => ?_
  rcases figure.mem_chars hc with rfl | rfl | hc
  · decide
  · decide
  · exact isPlain_char hc

theorem isPlain_whole : IsPlain figure.val.whole :=
  isPlain_of_chars figure.whole_ne_nil fun c hc => isPlain_char (figure.property.1 c hc)

theorem fills : figureHole.Fills figure.val.chars := by
  refine fills_of_forall figure.chars_ne_nil fun c hc => ?_
  rcases figure.mem_chars hc with rfl | rfl | hc
  · decide
  · decide
  · rw [List.contains_cons, List.contains_cons, contains_digits hc, Bool.or_true, Bool.or_true]

/-- What stands behind the point; without a point, what stands in its place is never looked at. -/
def decimals : List Char :=
  if figure.val.fraction = [] then figure.val.whole else figure.val.fraction

theorem isPlain_decimals : IsPlain figure.decimals := by
  rw [decimals]
  split
  · exact figure.isPlain_whole
  · rename_i hne
    exact isPlain_of_chars hne fun c hc => isPlain_char (figure.property.2 c hc)

def sketch : Sketch := figureSketch figure.val.negative (!figure.val.fraction.isEmpty)

variable {figure} {v : Filling}

theorem fits_sketch (hwhole : v 5 = figure.val.whole) (hdecimals : v 6 = figure.decimals) :
    figure.sketch.Fits v := by
  have hfirst : digitsHole.Fills (v 5) :=
    hwhole ▸ fills_of_forall figure.whole_ne_nil fun c hc => contains_digits (figure.property.1 c hc)
  rw [sketch, figureSketch, Sketch.fits_append]
  refine ⟨by cases figure.val.negative <;> trivial, hfirst, ?_⟩
  by_cases hne : figure.val.fraction = []
  · simp [hne, Sketch.Fits]
  · have hsecond : digitsHole.Fills (v 6) := by
      rw [hdecimals, decimals, if_neg hne]
      exact fills_of_forall hne fun c hc => contains_digits (figure.property.2 c hc)
    simp [hne, Sketch.Fits, hsecond]

theorem fill_sketch (hwhole : v 5 = figure.val.whole) (hdecimals : v 6 = figure.decimals) :
    figure.sketch.fill v = figure.val.chars := by
  rw [decimals] at hdecimals
  rw [sketch, figureSketch, Sketch.fill_append, Sketch.fill, hwhole, Figure.chars, Numeral.numeral]
  cases figure.val.negative <;> cases hf : figure.val.fraction <;>
    simp [Sketch.fill, Numeral.pointed, hf, hdecimals]

end PlainFigure

namespace Plea

variable (sheet : PlainName) (located : Bool) (plea : Plea)

/-- A request, bare or behind a locator. -/
def text : Bool → String
  | false => plea.phrase
  | true => plea.located sheet

def figure : Plea → Sketch
  | filterRows _ figure => figure.sketch
  | _ => []

def form : Form := front located ++ pleaForm (literally "==") plea.figure plea.kind

def outline : Form := front located ++ pleaOutline plea.kind

theorem found : (plea.form located).isFoundAt (place .hindi plea.kind) = true := by
  cases plea with
  | filterRows => exact filter_found located _ _
  | renameColumn | addColumnSum | deleteColumn | sortBy | setValueWhere =>
    exact plea_found (by simp [kind]) (by simp [kind]) located _

/-- What the open parts are filled with. -/
def filling : Plea → Filling
  | renameColumn old new => fun | 0 => old.chars | 7 => sheet.chars | _ => new.chars
  | addColumnSum new first second => fun
    | 0 => new.chars | 1 => first.chars | 7 => sheet.chars | _ => second.chars
  | deleteColumn name => fun | 7 => sheet.chars | _ => name.chars
  | filterRows column figure => fun
    | 0 => column.chars
    | 4 => figure.val.chars
    | 5 => figure.val.whole
    | 6 => figure.decimals
    | _ => sheet.chars
  | sortBy column => fun | 7 => sheet.chars | _ => column.chars
  | setValueWhere target value condition conditionValue => fun
    | 0 => target.chars
    | 1 => value.chars
    | 2 => condition.chars
    | 3 => conditionValue.chars
    | 4 => "==".toList
    | _ => sheet.chars

theorem filling_seven : plea.filling sheet 7 = sheet.chars := by cases plea <;> rfl

theorem fits_front : (front located).sketch.Fits (plea.filling sheet) := by
  cases located with
  | false => trivial
  | true =>
    simp [front, Form.sketch, Sketch.fits_ofChars, Sketch.Fits, filling_seven, PlainName.fills]

theorem fits_outline : (plea.outline located).sketch.Fits (plea.filling sheet) := by
  rw [outline, Form.sketch_append, Sketch.fits_append]
  refine ⟨plea.fits_front sheet located, ?_⟩
  have hsign : choiceHole.Fills ['=', '='] := fills_of_isChoice (by decide)
  cases plea <;>
    simp [pleaOutline, pleaForm, template, kind, name, Form.sketch, Sketch.fits_append,
      Sketch.fits_ofChars, Sketch.Fits, filling, PlainName.fills, PlainFigure.fills, literally,
      hsign]

theorem fits_form : (plea.form located).sketch.Fits (plea.filling sheet) := by
  rw [form, Form.sketch_append, Sketch.fits_append]
  refine ⟨plea.fits_front sheet located, ?_⟩
  cases plea <;>
    simp [pleaForm, template, kind, name, Form.sketch, Sketch.fits_append, Sketch.fits_ofChars,
      Sketch.Fits, filling, PlainName.fills, figure, PlainFigure.fits_sketch, literally]

/-- A text is filled in behind a locator as it is without. -/
theorem toList_text {t : Sketch} (h : plea.phrase.toList = t.fill (plea.filling sheet)) :
    (plea.text sheet located).toList =
      ((front located).sketch ++ t).fill (plea.filling sheet) := by
  cases located with
  | false => exact h
  | true =>
    simp [text, Plea.located, h, front, Form.sketch, Sketch.fill_append, Sketch.fill_ofChars,
      Sketch.fill, filling_seven, PlainName.text]

theorem text_outline :
    (plea.text sheet located).toList = (plea.outline located).sketch.fill (plea.filling sheet) := by
  rw [outline, Form.sketch_append]
  refine plea.toList_text sheet located ?_
  cases plea <;> unfold phrase <;>
    simp only [pleaOutline, pleaForm, template, kind, name, Form.sketch, Sketch.fill_append,
      Sketch.fill_ofChars, Sketch.fill, filling, PlainName.text, literally, String.toList_append,
      String.toList_ofList, List.append_assoc, List.append_nil] <;>
    rfl

theorem text_form :
    (plea.text sheet located).toList = (plea.form located).sketch.fill (plea.filling sheet) := by
  rw [form, Form.sketch_append]
  refine plea.toList_text sheet located ?_
  cases plea <;> unfold phrase <;>
    simp only [pleaForm, template, kind, name, Form.sketch, Sketch.fill_append,
      Sketch.fill_ofChars, Sketch.fill, filling, PlainName.text, figure, PlainFigure.fill_sketch,
      literally, String.toList_append, String.toList_ofList, List.append_assoc, List.append_nil] <;>
    rfl

theorem isPlain_filling (i : Nat) : IsPlain (plea.filling sheet i) := by
  cases plea <;> simp only [filling]
  case renameColumn old new => split; exacts [old.isPlain, sheet.isPlain, new.isPlain]
  case addColumnSum new first second =>
    split; exacts [new.isPlain, first.isPlain, sheet.isPlain, second.isPlain]
  case deleteColumn name => split; exacts [sheet.isPlain, name.isPlain]
  case filterRows column figure =>
    split
    exacts [column.isPlain, figure.isPlain, figure.isPlain_whole, figure.isPlain_decimals,
      sheet.isPlain]
  case sortBy column => split; exacts [sheet.isPlain, column.isPlain]
  case setValueWhere target value condition conditionValue =>
    split
    exacts [target.isPlain, value.isPlain, condition.isPlain, conditionValue.isPlain,
      isPlain_of_isChoice (by decide), sheet.isPlain]

/-- A request is read as it is written. -/
theorem wording_text : Wording.of (plea.text sheet located) =
    ⟨(plea.text sheet located).toList, (plea.text sheet located).toList⟩ := by
  have h := wording_of_plain (plea.text_outline sheet located ▸
    IsPlain.fill (plea_plain plea.kind_ne located) (plea.isPlain_filling sheet))
  rwa [String.ofList_toList] at h

/-- What stands in front of a request. -/
theorem exists_text : ∃ before, Text.EndsApart before ∧
    (plea.text sheet located).toList = before ++ plea.phrase.toList := by
  cases located with
  | false => exact ⟨[], nofun, rfl⟩
  | true =>
    refine ⟨sheet.chars ++ " sheet me ".toList, fun c hc => ?_, ?_⟩
    · rw [List.getLast?_append] at hc
      obtain rfl : ' ' = c := Option.some.inj hc
      decide
    · simp only [text, Plea.located, String.toList_append, PlainName.text, String.toList_ofList]

theorem trigger_occurs {plea : Plea} (h : plea.kind = .filterRows) :
    filterTrigger.occursIn (plea.text sheet located).toList = true := by
  cases plea <;> cases h
  rename_i column figure
  obtain ⟨before, hbefore, htext⟩ := (filterRows column figure).exists_text sheet located
  have hphrase : (filterRows column figure).phrase.toList = "sirf".toList ++
      (" woh rows rakho jahan ".toList ++ (column.chars ++ (" > ".toList ++ figure.val.chars))) := by
    unfold phrase
    simp only [String.toList_append, PlainName.text, String.toList_ofList, List.append_assoc]
    rfl
  refine filterTrigger_occursIn_iff.mpr ⟨"sirf".toList, .inl ⟨"sirf", by simp, rfl⟩, before, _,
    hphrase ▸ htext, hbefore, fun c hc => ?_⟩
  obtain rfl : ' ' = c := Option.some.inj hc
  decide

/-- What the form keeps of a request, a locator in front of it or not. -/
theorem piece?_form (slot : Slot) : (plea.form located).piece? slot =
    (pleaForm (literally "==") plea.figure plea.kind).piece? slot := by
  cases located <;> simp [form, front, Form.piece?]

theorem build_text {c : Pieces} (h : (plea.form located).Reading (plea.filling sheet)
      (plea.filling sheet)
      ⟨(plea.text sheet located).toList, (plea.text sheet located).toList⟩ c) :
    build plea.kind ⟨(plea.text sheet located).toList, (plea.text sheet located).toList⟩ c =
      some (.edit plea.edit) := by
  cases plea with
  | renameColumn | addColumnSum | deleteColumn =>
    simp [build, kind, edit, h.titled_eq, piece?_form, pleaForm, template, name, Form.piece?,
      Sketch.fill, filling, PlainName.titled, PlainName.text, titleCase]
  | filterRows column figure =>
    have htrigger :
        filterTrigger.occursIn ((filterRows column figure).text sheet located).toList = true :=
      trigger_occurs sheet located rfl
    have hfigure : Sketch.fill ((filterRows column figure).filling sheet) figure.sketch =
        figure.val.chars := PlainFigure.fill_sketch rfl rfl
    have hcolumn : (filterRows column figure).filling sheet 0 = column.chars := rfl
    have hsign : Comparison.ofSymbol? ">" = some .greater := rfl
    have hnumber : Numeral.decimal? (figure.val.chars.filter fun c => !decide (c = ',')) =
        some figure.val.number := by simpa using figure.val.decimal?_eq
    simp [build, kind, edit, htrigger, h.titled_eq, h.read_eq, symbol, piece?_form, pleaForm,
      template, name, Form.piece?, Sketch.fill, hcolumn, PlainName.titled, PlainName.text,
      titleCase, literally, Sketch.fill_ofChars, Plea.figure, hfigure, hsign,
      hnumber]
  | sortBy column =>
    simp [build, kind, edit, h.titled_eq, h.direction_eq, piece?_form, pleaForm, name, Form.piece?,
      Sketch.fill, filling, PlainName.titled, PlainName.text, titleCase]
  | setValueWhere target value condition conditionValue =>
    have hsign : Equality.ofSymbol? "==" = some .equal := rfl
    simp [build, kind, edit, h.titled_eq, h.read_eq, h.literal_eq, symbol, piece?_form, pleaForm,
      template, name, Form.piece?, Sketch.fill, filling, PlainName.titled, PlainName.text,
      titleCase, literally, Sketch.fill_ofChars, hsign]

theorem recognize_text :
    recognize (Wording.of (plea.text sheet located)) = some (.edit plea.edit) := by
  rw [wording_text]
  refine recognize_of_isFoundAt (plea.found located) (kind_place .hindi plea.kind) (fun x hx => ?_)
    (plea.fits_form sheet located) (plea.text_form sheet located) (plea.text_form sheet located)
    (fun _ _ => rfl) fun c hc => plea.build_text sheet located hc
  have hmissed := List.all_eq_true.mp (plea_missed plea.kind_ne located) x hx
  have hnone := Pattern.search_of_misses hmissed (plea.fits_outline sheet located)
  rw [← outline, ← text_outline] at hnone
  rw [hnone, Option.bind_none]

theorem interpret_text (sheetNames : List String) :
    interpret (plea.text sheet located) sheetNames =
      [.edit (mentionedSheet (plea.text sheet located).toList sheetNames) plea.edit] := by
  have hlower := congrArg Wording.lower (plea.wording_text sheet located)
  simp [interpret, recognize_text, hlower, Request.onSheet]

end Plea

/-- **A leading locator** changes nothing of a request but the sheet, which is the first one that
the whole instruction mentions. -/
theorem interpret_located (sheet : PlainName) (plea : Plea) (sheetNames : List String) :
    interpret plea.phrase sheetNames =
        [.edit (mentionedSheet plea.phrase.toList sheetNames) plea.edit] ∧
      interpret (plea.located sheet) sheetNames =
        [.edit (mentionedSheet (plea.located sheet).toList sheetNames) plea.edit] :=
  ⟨plea.interpret_text sheet false sheetNames, plea.interpret_text sheet true sheetNames⟩

end SheetCommand.Instruction
