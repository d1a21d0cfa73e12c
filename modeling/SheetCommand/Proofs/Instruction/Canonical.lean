import SheetCommand.Proofs.Instruction.Templates

/-!
# Canonical phrases

Each canonical phrase is interpreted as the one request it was made for (`interpret_phrase`). The
two languages differ at most in the sheet an edit is for, since that is the first one whose name
occurs in the phrase as it is written.
-/

namespace SheetCommand.Instruction

/-! ### The fillings of a phrase -/

theorem fills_of_forall {letters text : List Char} (hne : text ≠ [])
    (h : ∀ c ∈ text, letters.contains c = true) : (Hole.run letters).Fills text :=
  Hole.IsWord.fills ⟨h, by simpa [Hole.refused] using hne⟩

theorem isPlain_written (n : Int) : IsPlain (Numeral.written n) := by
  refine isPlain_of_chars (Numeral.written_ne_nil n) fun c hc => ?_
  rcases Numeral.mem_written hc with rfl | hc
  · decide
  · have hname : Hole.name.isLetter c = true := by simp [Hole.isLetter, hc]
    exact ⟨Hole.isBlank_of_name hname, isLowAscii_of_name hname⟩

theorem contains_digits {c : Char} (h : c.isDigit = true) :
    ['0', '1', '2', '3', '4', '5', '6', '7', '8', '9'].contains c = true := by
  obtain ⟨hlow, hhigh⟩ := Numeral.toNat_of_isDigit h
  have hcode : c.toNat < 58 := by omega
  refine Text.of_toNat_lt (P := fun c => 48 ≤ c.toNat →
    ['0', '1', '2', '3', '4', '5', '6', '7', '8', '9'].contains c = true) ?_ hcode hlow
  decide

theorem fills_decimal (n : Nat) : digitsHole.Fills (Text.decimal n) :=
  fills_of_forall Nat.toDigits_ne_nil fun _ hc => contains_digits (Text.isDigit_of_mem_decimal hc)

theorem fills_written (n : Int) : numberHole.Fills (Numeral.written n) := by
  refine fills_of_forall (Numeral.written_ne_nil n) fun c hc => ?_
  rcases Numeral.mem_written hc with rfl | hc
  · decide
  · rw [List.contains_cons, contains_digits hc, Bool.or_true]

/-- What a choice is: some of its letters, at least one. -/
def isChoice (text : List Char) : Bool :=
  !text.isEmpty && text.all ['<', '>', '=', '!', 'a', 'c', 'd', 'e', 's'].contains

theorem fills_of_isChoice {text : List Char} (h : isChoice text = true) :
    choiceHole.Fills text := by
  simp only [isChoice, Bool.and_eq_true, Bool.not_eq_true', List.isEmpty_eq_false_iff,
    List.all_eq_true] at h
  exact fills_of_forall h.1 h.2

theorem isPlain_of_isChoice {text : List Char} (h : isChoice text = true) : IsPlain text := by
  simp only [isChoice, Bool.and_eq_true, Bool.not_eq_true', List.isEmpty_eq_false_iff,
    List.all_eq_true] at h
  refine isPlain_of_chars h.1 fun c hc => ?_
  have hletters : ['<', '>', '=', '!', 'a', 'c', 'd', 'e', 's'].all
      (fun d => !Text.isBlank d && isLowAscii d) = true := by decide
  simpa using List.all_eq_true.mp hletters c (List.contains_iff_mem.mp (h.2 c hc))

theorem isChoice_comparison (sign : Sign Comparison) :
    isChoice sign.comparisonText.toList = true := by
  rcases sign with (_ | _ | _ | _ | _ | _) | _ <;> decide

theorem isChoice_equality (sign : Sign Equality) : isChoice sign.equalityText.toList = true := by
  rcases sign with (_ | _) | _ <;> decide

theorem isChoice_direction (d : Direction) : isChoice d.name.toList = true := by
  cases d <;> decide

/-! ### Fillings of an outline -/

theorem kind_place (language : Language) (kind : ActionKind) :
    (ranked[place language kind]?).map Prod.fst = some kind := by
  cases language <;> cases kind <;> rfl

section

variable {language : Language} {kind : ActionKind} {v : Filling} {phrase : String}

/-- A plain filling of an outline is read as it is written. -/
theorem wording_of_outline (hplain : ∀ i, IsPlain (v i))
    (hphrase : phrase.toList = (outline language kind).sketch.fill v) :
    Wording.of phrase = ⟨phrase.toList, phrase.toList⟩ := by
  have h := wording_of_plain (hphrase ▸ IsPlain.fill (outline_plain language kind) hplain)
  rwa [String.ofList_toList] at h

/-- Every filling of the outline of a filter asks for a filter. -/
theorem trigger_occurs_of_outline (hfits : (outline language .filterRows).sketch.Fits v)
    (hphrase : phrase.toList = (outline language .filterRows).sketch.fill v) :
    filterTrigger.occursIn phrase.toList = true := by
  obtain ⟨c, hc, -⟩ := Pattern.search_of_finds (trigger_found language) hfits
  rw [Pattern.occursIn, hphrase, hc]
  rfl

/-- **A filling of an outline** is recognized by the phrase of its own kind: all phrases before it
miss, since they miss whatever fills the outline. -/
theorem recognize_of_outline (hplain : ∀ i, IsPlain (v i))
    (hfits : (outline language kind).sketch.Fits v)
    (hphrase : phrase.toList = (outline language kind).sketch.fill v) {f : Form} {r : Request}
    (hfound : f.isFoundAt (place language kind) = true) (hform : f.sketch.Fits v)
    (hphrase' : phrase.toList = f.sketch.fill v)
    (hbuild : ∀ c, f.Reading v v ⟨phrase.toList, phrase.toList⟩ c →
      build kind ⟨phrase.toList, phrase.toList⟩ c = some r) :
    recognize (Wording.of phrase) = some r := by
  rw [wording_of_outline hplain hphrase]
  refine recognize_of_isFoundAt hfound (kind_place language kind) (fun x hx => ?_) hform hphrase'
    hphrase' (fun _ _ => rfl) hbuild
  have hmissed := List.all_eq_true.mp (outline_missed language kind) x hx
  have hnone := Pattern.search_of_misses hmissed hfits
  rw [← hphrase] at hnone
  rw [hnone]
  rfl

end

namespace Wish

theorem isPlain_filling (wish : Wish) (i : Nat) : IsPlain (wish.filling i) := by
  cases wish with
  | renameSheet old new | renameColumn old new =>
    simp only [filling]; split
    · exact old.isPlain
    · exact new.isPlain
  | addColumnSum new first second =>
    simp only [filling]; split
    · exact new.isPlain
    · exact first.isPlain
    · exact second.isPlain
  | deleteColumn name => exact name.isPlain
  | filterRows column sign n =>
    simp only [filling]; split
    · exact column.isPlain
    · exact isPlain_of_isChoice (isChoice_comparison sign)
    · exact isPlain_written n
    · exact isPlain_written n.val.natAbs
  | sortBy column direction =>
    simp only [filling]; split
    · exact column.isPlain
    · exact isPlain_of_isChoice (isChoice_direction direction)
  | setValueWhere target value condition sign conditionValue =>
    simp only [filling]; split
    · exact target.isPlain
    · exact value.isPlain
    · exact condition.isPlain
    · exact conditionValue.isPlain
    · exact isPlain_of_isChoice (isChoice_equality sign)

theorem fits_outline (language : Language) (wish : Wish) :
    (outline language wish.kind).sketch.Fits wish.filling := by
  cases wish <;> cases language <;>
    simp [outline, template, kind, name, Form.sketch, Sketch.fits_append, Sketch.fits_ofChars,
      Sketch.Fits, filling, PlainName.fills, fills_written, fills_of_isChoice, isChoice_comparison,
      isChoice_equality, isChoice_direction]

theorem fits_signed (negative : Bool) {v : Filling} (h : digitsHole.Fills (v 6)) :
    Sketch.Fits v (signed negative) := by
  cases negative <;> exact ⟨h, trivial⟩

theorem fits_form (language : Language) (wish : Wish) :
    (wish.form language).sketch.Fits wish.filling := by
  cases wish <;> cases language <;>
    simp [form, template, kind, name, Form.sketch, Sketch.fits_append, Sketch.fits_ofChars,
      Sketch.Fits, filling, PlainName.fills, literally, number, fits_signed, fills_decimal]

theorem phrase_outline (language : Language) (wish : Wish) :
    (wish.phrase language).toList = (outline language wish.kind).sketch.fill wish.filling := by
  cases wish <;> cases language <;> unfold phrase <;>
    simp only [outline, template, kind, name, Form.sketch, Sketch.fill_append, Sketch.fill_ofChars,
      Sketch.fill, filling, PlainName.text, String.toList_append, String.toList_ofList,
      List.append_assoc, List.append_nil]

theorem fill_signed {v : Filling} {n : Int} (h : v 6 = Text.decimal n.natAbs) :
    Sketch.fill v (signed (decide (n < 0))) = Numeral.written n := by
  by_cases hn : n < 0 <;> simp [signed, Sketch.fill, Numeral.written, hn, h]

theorem phrase_form (language : Language) (wish : Wish) :
    (wish.phrase language).toList = (wish.form language).sketch.fill wish.filling := by
  cases wish <;> cases language <;> unfold phrase <;>
    simp only [form, template, kind, name, Form.sketch, Sketch.fill_append, Sketch.fill_ofChars,
      Sketch.fill, filling, PlainName.text, String.toList_append, String.toList_ofList, literally,
      choice, number, fill_signed, List.append_assoc, List.append_nil]

theorem wording_phrase (language : Language) (wish : Wish) :
    Wording.of (wish.phrase language) =
      ⟨(wish.phrase language).toList, (wish.phrase language).toList⟩ :=
  wording_of_outline wish.isPlain_filling (wish.phrase_outline language)

/-! ### What is kept -/

theorem ofSymbol?_comparison (sign : Sign Comparison) :
    Comparison.ofSymbol? (if sign.comparisonText = "=" then "==" else sign.comparisonText) =
      some sign.comparison := by
  rcases sign with (_ | _ | _ | _ | _ | _) | _ <;> decide

theorem ofSymbol?_equality (sign : Sign Equality) :
    Equality.ofSymbol? (if sign.equalityText = "=" then "==" else sign.equalityText) =
      some sign.equality := by
  rcases sign with (_ | _) | _ <;> decide

theorem filter_written (n : Int) :
    (Numeral.written n).filter (fun c => !decide (c = ',')) = Numeral.written n := by
  refine List.filter_eq_self.mpr fun c hc => ?_
  rcases Numeral.mem_written hc with rfl | hc
  · decide
  · rw [Bool.not_eq_true', decide_eq_false_iff_not]
    rintro rfl
    cases hc

theorem trigger_occurs (language : Language) {wish : Wish} (h : wish.kind = .filterRows) :
    filterTrigger.occursIn (wish.phrase language).toList = true :=
  trigger_occurs_of_outline (h ▸ wish.fits_outline language) (h ▸ wish.phrase_outline language)

theorem build_phrase (language : Language) (wish : Wish) {c : Pieces}
    (h : (wish.form language).Reading wish.filling wish.filling
      ⟨(wish.phrase language).toList, (wish.phrase language).toList⟩ c) :
    build wish.kind ⟨(wish.phrase language).toList, (wish.phrase language).toList⟩ c =
      some wish.request := by
  have htrigger := wish.trigger_occurs language
  cases wish with
  | renameSheet | renameColumn | deleteColumn | addColumnSum =>
    cases language <;>
      simp [build, kind, request, h.titled_eq, form, template, Instruction.name, Form.piece?,
        Sketch.fill, filling, PlainName.titled, PlainName.text, titleCase]
  | filterRows column sign n =>
    cases language <;>
      simp [build, kind, request, htrigger rfl, h.titled_eq, h.read_eq, symbol, form, template,
        Instruction.name, Form.piece?, Sketch.fill, filling, PlainName.titled, PlainName.text,
        titleCase, literally, choice, Sketch.fill_ofChars, number, fill_signed,
        ofSymbol?_comparison, filter_written, Numeral.decimal?_written]
  | sortBy column direction =>
    cases language <;> cases direction <;>
      simp [build, kind, request, h.titled_eq, h.direction_eq, form, template, Instruction.name,
        Form.piece?, Sketch.fill, filling, PlainName.titled, PlainName.text, titleCase, literally,
        choice, Sketch.fill_ofChars, Direction.name]
  | setValueWhere target value condition sign conditionValue =>
    cases language <;>
      simp [build, kind, request, h.titled_eq, h.read_eq, h.literal_eq, symbol, form, template,
        Instruction.name, Form.piece?, Sketch.fill, filling, PlainName.titled, PlainName.text,
        titleCase, literally, choice, Sketch.fill_ofChars, ofSymbol?_equality]

end Wish

/-! ### Interpreting a canonical phrase -/

theorem recognize_phrase (language : Language) (wish : Wish) :
    recognize (Wording.of (wish.phrase language)) = some wish.request :=
  recognize_of_outline wish.isPlain_filling (wish.fits_outline language)
    (wish.phrase_outline language) (form_found language wish) (wish.fits_form language)
    (wish.phrase_form language) fun _ hc => wish.build_phrase language hc

/-- **Canonical phrases** are interpreted as the request they were made for, in both languages, for
the first sheet whose name occurs in the phrase. -/
theorem interpret_phrase (language : Language) (wish : Wish) (sheetNames : List String) :
    interpret (wish.phrase language) sheetNames =
      [wish.request.onSheet (mentionedSheet (wish.phrase language).toList sheetNames)] := by
  have hlower := congrArg Wording.lower (wish.wording_phrase language)
  simp [interpret, recognize_phrase, hlower]

/-- A sheet name may occur in one language only; and a value is set under no comparison but
equality. -/
theorem not_alike :
    interpret "delete column price" ["Delete"] ≠ interpret "price column hatao" ["Delete"] ∧
      interpret "set status to 'done' where type > 'a'" [] = [] := by
  decide +kernel

end SheetCommand.Instruction
