import SheetCommand.Proofs.Action.RoundTrip
import SheetCommand.Proofs.Instruction.Canonical
import SheetCommand.Proofs.Instruction.Filter
import SheetCommand.Proofs.Instruction.Names

/-!
# The range of the numbers in actions

The number of a filter is read from a numeral in the instruction. It is finite if the instruction is
short enough (`isFinite_of_mem_interpret`): a numeral beyond the range of numbers has more than 308
digits. No bound on integers is needed for a canonical phrase to be interpreted as a filter, which is
by the number nearest to the integer in it (`interpret_amount`); so there are instructions for filters
by an infinity (`not_isFinite_of_large`).
-/

namespace SheetCommand.Instruction

/-! ### Short instructions -/

/-- A piece that has been read lies in the text. -/
theorem isInfix_read {p : Phrase} {text : List Char} {c : Pieces} (h : p.search text = some c)
    (slot : Slot) : read c slot <:+: text := by
  rw [read]
  cases hpiece : c.piece? slot with
  | none => exact List.nil_infix
  | some span => exact (Pattern.isKept_of_search h hpiece).1

theorem mem_phrases_of_mem_ranked {x : ActionKind × Phrase} (h : x ∈ ranked) :
    x.2 ∈ phrases x.1 := by
  obtain ⟨kind, -, hx⟩ := List.mem_flatMap.mp h
  obtain ⟨p, hp, rfl⟩ := List.mem_map.mp hx
  exact hp

/-- The number of a filter is finite if the instruction is short. -/
theorem isFinite_of_build_filter {w : Wording} {c : Pieces} {r : Request}
    (hlength : w.lower.length ≤ 308) (hc : filterCondition.search w.lower = some c)
    (h : build .filterRows w c = some r) (sheet : Option String) : (r.onSheet sheet).IsFinite := by
  obtain ⟨b, -, -, hb⟩ := Pattern.exists_mem_outcomes_of_search hc
  obtain ⟨negative, digits, fraction, hfilter, hne, hdigits, hfraction⟩ :=
    exists_numeral_of_spells (read_filterCondition hb).2
  have hshort : digits.length ≤ 308 := by
    calc digits.length ≤ (Numeral.numeral negative digits fraction).length := by
          simp only [Numeral.numeral, List.length_append]
          omega
      _ ≤ (read c .number).length := hfilter ▸ List.length_filter_le ..
      _ ≤ w.lower.length := (isInfix_read hc .number).length_le
      _ ≤ 308 := hlength
  cases built_of_build h with
  | filterRows _ _ number =>
    rw [hfilter] at number
    exact Numeral.isFinite_numeral hne hdigits hfraction hshort number

/-- **The numbers of a short instruction** are finite. -/
theorem isFinite_of_mem_interpret {instruction : String} {sheetNames : List String} {a : Action}
    (hlength : (Wording.of instruction).lower.length ≤ 308)
    (h : a ∈ interpret instruction sheetNames) : a.IsFinite := by
  obtain ⟨⟨kind, p⟩, hx, c, r, hc, hbuild, rfl⟩ := exists_build_of_mem_interpret h
  cases built_of_build hbuild with
  | filterRows =>
    obtain rfl : p = filterCondition := List.mem_singleton.mp (mem_phrases_of_mem_ranked hx)
    exact isFinite_of_build_filter hlength hc hbuild _
  | renameSheet | renameColumn | addColumnSum | deleteColumn | sortBy | setValueWhere => trivial

/-! ### Integers of any size -/

/-- A filter to be put into words, by an integer of any size. -/
structure Amount where
  column : PlainName
  sign : Sign Comparison
  number : Int

namespace Amount

/-- The canonical phrase. -/
def phrase (language : Language) (a : Amount) : String :=
  (match language with
    | .english => "keep rows where "
    | .hindi => "sirf woh rows rakho jahan ") ++
    a.column.text ++ " " ++ a.sign.comparisonText ++ " " ++ .ofList (Numeral.written a.number)

def request (a : Amount) : Request :=
  .edit (.filterRows a.column.titled a.sign.comparison (.ofInt a.number))

/-- The canonical phrase with its name and its digits open. -/
def form (language : Language) (a : Amount) : Form :=
  template (literally a.sign.comparisonText) (signed (decide (a.number < 0))) language .filterRows

def filling (a : Amount) : Filling := fun
  | 0 => a.column.chars
  | 4 => a.sign.comparisonText.toList
  | 5 => Numeral.written a.number
  | _ => Text.decimal a.number.natAbs

variable (language : Language) (a : Amount)

theorem isPlain_filling (i : Nat) : IsPlain (a.filling i) := by
  simp only [filling]
  split
  · exact a.column.isPlain
  · exact isPlain_of_isChoice (isChoice_comparison a.sign)
  · exact isPlain_written a.number
  · exact isPlain_written a.number.natAbs

theorem fits_outline : (outline language .filterRows).sketch.Fits a.filling := by
  cases language <;>
    simp [outline, template, name, Form.sketch, Sketch.fits_append, Sketch.fits_ofChars,
      Sketch.Fits, filling, PlainName.fills, fills_written, fills_of_isChoice, isChoice_comparison]

theorem fits_form : (a.form language).sketch.Fits a.filling := by
  have hdigits : digitsHole.Fills (a.filling 6) := fills_decimal _
  cases language <;>
    simp [form, template, name, Form.sketch, Sketch.fits_append, Sketch.fits_ofChars, Sketch.Fits,
      literally, Wish.fits_signed _ hdigits] <;>
    exact a.column.fills

theorem phrase_outline :
    (a.phrase language).toList = (outline language .filterRows).sketch.fill a.filling := by
  cases language <;> unfold phrase <;>
    simp only [outline, template, name, Form.sketch, Sketch.fill_append, Sketch.fill_ofChars,
      Sketch.fill, filling, PlainName.text, String.toList_append, String.toList_ofList,
      List.append_assoc, List.append_nil]

theorem phrase_form : (a.phrase language).toList = (a.form language).sketch.fill a.filling := by
  have hsigned := Wish.fill_signed (v := a.filling) (n := a.number) rfl
  cases language <;> unfold phrase <;>
    simp only [form, template, name, Form.sketch, Sketch.fill_append, Sketch.fill_ofChars,
      Sketch.fill, literally, hsigned, PlainName.text, String.toList_append, String.toList_ofList,
      List.append_assoc, List.append_nil] <;>
    rfl

theorem length_phrase : (a.phrase .english).toList.length =
    18 + a.column.chars.length + a.sign.comparisonText.toList.length +
      (Numeral.written a.number).length := by
  have hlead : "keep rows where ".toList.length = 16 := rfl
  have hspace : " ".toList.length = 1 := rfl
  unfold phrase
  simp only [PlainName.text, String.toList_append, String.toList_ofList, List.length_append, hlead,
    hspace]
  omega

theorem wording_phrase :
    Wording.of (a.phrase language) = ⟨(a.phrase language).toList, (a.phrase language).toList⟩ :=
  wording_of_outline a.isPlain_filling (a.phrase_outline language)

theorem build_phrase {c : Pieces} (h : (a.form language).Reading a.filling a.filling
      ⟨(a.phrase language).toList, (a.phrase language).toList⟩ c) :
    build .filterRows ⟨(a.phrase language).toList, (a.phrase language).toList⟩ c =
      some a.request := by
  have htrigger := trigger_occurs_of_outline (a.fits_outline language) (a.phrase_outline language)
  have hsigned := Wish.fill_signed (v := a.filling) (n := a.number) rfl
  have hcolumn : a.filling 0 = a.column.chars := rfl
  cases language <;>
    simp [build, request, htrigger, h.titled_eq, h.read_eq, symbol, form, template,
      Instruction.name, Form.piece?, Sketch.fill, hcolumn, PlainName.titled, PlainName.text,
      titleCase, literally, Sketch.fill_ofChars, hsigned, Wish.ofSymbol?_comparison,
      Wish.filter_written, Numeral.decimal?_written]

theorem recognize_phrase : recognize (Wording.of (a.phrase language)) = some a.request := by
  have hplace : place language .filterRows = 15 := by cases language <;> rfl
  have hfound : (a.form language).isFoundAt (place language .filterRows) = true :=
    hplace ▸ found_filter language a.sign _
  exact recognize_of_outline a.isPlain_filling (a.fits_outline language)
    (a.phrase_outline language) hfound (a.fits_form language) (a.phrase_form language)
    fun _ hc => a.build_phrase language hc

/-- **A filter by an integer** of any size. -/
theorem interpret_amount (sheetNames : List String) : interpret (a.phrase language) sheetNames =
    [a.request.onSheet (mentionedSheet (a.phrase language).toList sheetNames)] := by
  have hlower := congrArg Wording.lower (a.wording_phrase language)
  simp [interpret, recognize_phrase, hlower]

/-- **A filter by an infinity.** -/
theorem not_isFinite_of_large (h : 2 ^ 1024 ≤ a.number.natAbs) (sheet : Option String) :
    ¬ (a.request.onSheet sheet).IsFinite := by
  show ¬ (Binary64.ofInt a.number).isFinite = true
  rw [Binary64.isFinite_ofInt_eq_false h]
  decide

end Amount

end SheetCommand.Instruction
