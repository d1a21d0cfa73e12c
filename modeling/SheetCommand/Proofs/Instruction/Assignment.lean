import SheetCommand.Proofs.Instruction.Filter
import SheetCommand.Proofs.Instruction.Plain
import SheetCommand.Proofs.Text.Lower

/-!
# Conditional assignments

`set Status to 'Done' where Type == 'A'`, with any tidy literals in its quotes. It is read as an
assignment of just these literals unless a part of them is mistaken for another kind of request that
is tried before (`Assignment.isMistaken`), and then it is never read so
(`interpret_assignment_iff`). The literals are those typed, unless lower-casing one of them changes
its length.
-/

namespace SheetCommand.Instruction

open Pattern

/-! ### Assignments -/

/-- A column name of one ASCII word, in any case, that is no word of the grammar. -/
structure ColumnWord where
  chars : List Char
  plain : isAsciiWord chars = true

/-- A text that may stand in quotes. -/
structure Literal where
  chars : List Char
  nonempty : chars ≠ []
  tidy : Text.collapse chars = chars
  unquoted : '\'' ∉ chars ∧ '"' ∉ chars

namespace ColumnWord

def lower (name : ColumnWord) : List Char := name.chars.map Char.toLower

def titled (name : ColumnWord) : String := .ofList (Text.titleCase name.lower)

theorem ascii (name : ColumnWord) : ∀ c ∈ name.chars, c.toNat < 128 := by
  have h := name.plain
  simp only [isAsciiWord, Bool.and_eq_true, List.all_eq_true] at h
  exact fun c hc => ascii_of_alphanum (h.1.2 c hc)

theorem fills (name : ColumnWord) : Hole.name.Fills name.lower :=
  (isWord_of_ascii name.plain).fills

theorem tidy (name : ColumnWord) : Text.IsTidy name.chars := by
  have h := name.plain
  simp only [isAsciiWord, Bool.and_eq_true, Bool.not_eq_true', List.all_eq_true,
    List.isEmpty_eq_false_iff] at h
  refine @Text.tidy_join [name.chars] (by simp) fun w hw => ?_
  obtain rfl := List.mem_singleton.mp hw
  exact ⟨h.1.1, fun c hc => isBlank_of_alphanum (h.1.2 c hc)⟩

end ColumnWord

namespace Literal

def lower (l : Literal) : List Char := Text.lower l.chars

/-- Whether its lower case is as long as the literal. -/
def isStable (l : Literal) : Bool := l.lower.length == l.chars.length

/-- What an action gets of the literal: what was typed, or else what was read. -/
def value (asTyped : Bool) (l : Literal) : String := .ofList (if asTyped then l.chars else l.lower)

theorem isTidy (l : Literal) : Text.IsTidy l.chars := Text.tidy_of_collapse l.tidy l.nonempty

end Literal

/-- A value to be set under a condition. -/
structure Assignment where
  target : ColumnWord
  value : Literal
  condition : ColumnWord
  conditionValue : Literal

/-- `set Status to 'Done' where Type == 'A'`. -/
def Assignment.text (a : Assignment) : String :=
  "set " ++ .ofList a.target.chars ++ " to '" ++ .ofList a.value.chars ++ "' where " ++
    .ofList a.condition.chars ++ " " ++ Equality.equal.symbol ++ " '" ++
    .ofList a.conditionValue.chars ++ "'"

/-! ### The form of an assignment -/

def literalHole : Hole := .free ['\n', '\'', '"']

def assignmentForm : Form :=
  [.text "set ", .kept .target [.hole .name 0], .text " to '", .kept .literal [.hole literalHole 1],
    .text "' where ", .kept .condition [.hole .name 2], .text " ",
    .kept .comparison (.ofChars Equality.equal.symbol.toList), .text " '",
    .kept .conditionLiteral [.hole literalHole 3], .text "'"]

/-- Any text that ends in a quote. -/
def endsQuoted : Sketch := [.hole (.free []) 0, .char '\'']

/-- Whether a place is that of a phrase that may be found inside quotes. -/
def looksInside (n : Nat) : Bool := n == 0 || n == 5 || n == 15

theorem assignmentForm_found : assignmentForm.isFoundAt 18 = true := by decide +kernel

theorem endsQuoted_missed :
    ((ranked.take 18).zipIdx.all fun x => looksInside x.2 || x.1.2.misses endsQuoted) = true := by
  decide +kernel

theorem columnNamed_missed :
    (all (start :: columnNamed)).misses assignmentForm.sketch = true := by decide +kernel

/-- In front of the first quote. -/
def frontSketch : Sketch :=
  Sketch.ofChars "set ".toList ++ .hole .name 0 :: Sketch.ofChars " to ".toList

/-- Between the two literals. -/
def middleSketch : Sketch :=
  Sketch.ofChars " where ".toList ++ .hole .name 2 :: Sketch.ofChars " == ".toList

theorem outside_missed :
    (insiders.all fun p => [frontSketch, middleSketch, []].all fun t => p.misses t) = true := by
  decide +kernel

/-! ### The texts of an assignment -/

/-- What is typed into the open parts. -/
def Assignment.typed (a : Assignment) : Filling
  | 0 => a.target.chars
  | 1 => a.value.chars
  | 2 => a.condition.chars
  | _ => a.conditionValue.chars

/-- What is read in the open parts. -/
def Assignment.read (a : Assignment) : Filling
  | 0 => a.target.lower
  | 1 => a.value.lower
  | 2 => a.condition.lower
  | _ => a.conditionValue.lower

theorem ColumnWord.lower_between (name : ColumnWord) {a b : List Char}
    (h : (a ++ b).all isLowAscii = true) :
    Text.lower (a ++ name.chars ++ b) = a ++ name.lower ++ b := by
  have hlow : ∀ c ∈ a ++ b, c.toNat < 128 ∧ c.toLower = c := fun c hc => by
    simpa [isLowAscii] using List.all_eq_true.mp h c hc
  have hmap : ∀ text : List Char, (∀ c ∈ text, c ∈ a ++ b) →
      text.map Char.toLower = text := fun text ht =>
    (List.map_congr_left fun c hc => (hlow c (ht c hc)).2).trans (List.map_id _)
  rw [Text.lower_of_ascii, List.map_append, List.map_append, hmap a (by simp +contextual),
    hmap b (by simp +contextual)]
  · rfl
  · intro c hc
    simp only [List.mem_append] at hc hlow
    rcases hc with (hc | hc) | hc
    · exact (hlow c (.inl hc)).1
    · exact name.ascii c hc
    · exact (hlow c (.inr hc)).1

theorem newline_not_mem_lower {text : List Char} (h : Text.collapse text = text) :
    '\n' ∉ Text.lower text := by
  intro hm
  have hmem := Text.mem_of_mem_lower (by decide) hm
  rw [← h] at hmem
  exact absurd (Text.eq_space_of_mem_collapse hmem (by decide)) (by decide)

theorem Literal.fills (l : Literal) : literalHole.Fills l.lower := by
  refine Hole.IsWord.fills ⟨fun c hc => ?_, fun hm => ?_⟩
  · have hother : ∀ d : Char, 0 < d.toNat ∧ d.toNat < 0x41 → d ∉ l.chars → c ≠ d := by
      rintro d hd hnot rfl
      exact hnot (Text.mem_of_mem_lower hd hc)
    have hline : c ≠ '\n' := by
      rintro rfl
      exact newline_not_mem_lower l.tidy hc
    simp [literalHole, Hole.isLetter, hline, hother '\'' (by decide) l.unquoted.1,
      hother '"' (by decide) l.unquoted.2]
  · have hlen := Text.length_lower_le l.chars
    have hnil : l.lower = [] := by simpa [literalHole, Hole.refused] using hm
    rw [Literal.lower] at hnil
    rw [hnil] at hlen
    exact l.nonempty (List.length_eq_zero_iff.mp (Nat.le_zero.mp hlen))

namespace Assignment

section

variable (a : Assignment)

theorem toList_text : a.text.toList = assignmentForm.sketch.fill a.typed := by
  unfold text
  simp only [assignmentForm, Form.sketch, Sketch.fill_append, Sketch.fill_ofChars, Sketch.fill,
    typed, String.toList_append, String.toList_ofList, List.append_assoc, List.append_nil]

theorem tidy_text : Text.IsTidy a.text.toList := by
  rw [toList_text]
  refine Sketch.tidyAfter_fill (fun i => ?_) (by decide)
  unfold typed
  split
  · exact a.target.tidy
  · exact a.value.isTidy
  · exact a.condition.tidy
  · exact a.conditionValue.isTidy

/-- The instruction as it is read. -/
def lower : List Char := Text.lower a.text.toList

theorem lower_eq : a.lower = assignmentForm.sketch.fill a.read := by
  have hfront := a.target.lower_between (a := "set ".toList) (b := " to".toList) (by decide)
  have hmiddle := a.condition.lower_between (a := "where ".toList) (b := " ==".toList) (by decide)
  have hsplit : a.text.toList =
      ("set ".toList ++ a.target.chars ++ " to".toList) ++ ' ' ::
        ('\'' :: (a.value.chars ++ ['\'']) ++ ' ' ::
          (("where ".toList ++ a.condition.chars ++ " ==".toList) ++
            ' ' :: ('\'' :: (a.conditionValue.chars ++ ['\''])))) := by
    rw [toList_text]
    simp [assignmentForm, Form.sketch, Sketch.fill_append, Sketch.fill_ofChars, Sketch.fill,
      typed, Equality.symbol]
  rw [lower, hsplit, Text.lower_append_space, Text.lower_append_space, Text.lower_append_space,
    hfront, hmiddle, Text.lower_quoted, Text.lower_quoted]
  simp [assignmentForm, Form.sketch, Sketch.fill_append, Sketch.fill_ofChars, Sketch.fill, read,
    Equality.symbol, Literal.lower]

theorem wording_text :
    Wording.of a.text =
      ⟨assignmentForm.sketch.fill a.typed, assignmentForm.sketch.fill a.read⟩ := by
  have hlower := a.lower_eq
  rw [lower, toList_text] at hlower
  rw [Wording.of, Text.collapse_of_tidy a.tidy_text, toList_text, hlower]

theorem wording_lower : (Wording.of a.text).lower = a.lower := by rw [wording_text, lower_eq]

/-- Whether lower-casing changes the length of neither literal. -/
def isStable : Bool := a.value.isStable && a.conditionValue.isStable

theorem wording_aligned : (Wording.of a.text).aligned = a.isStable := by
  have hvalue := Text.length_lower_le a.value.chars
  have hcondition := Text.length_lower_le a.conditionValue.chars
  rw [wording_text, Bool.eq_iff_iff]
  simp only [Wording.aligned, assignmentForm, Form.sketch, Sketch.fill_append, Sketch.fill_ofChars,
    Sketch.fill, typed, read, List.length_append, ColumnWord.lower, List.length_map, isStable,
    Literal.isStable, Literal.lower, List.length_nil, Nat.add_zero, beq_iff_eq, Bool.and_eq_true]
  omega

theorem length_typed (h : a.isStable = true) (i : Nat) :
    (a.typed i).length = (a.read i).length := by
  simp only [isStable, Literal.isStable, Bool.and_eq_true, beq_iff_eq] at h
  unfold typed read
  split <;> simp [ColumnWord.lower, h]

theorem fits : assignmentForm.sketch.Fits a.read := by
  simp [assignmentForm, Form.sketch, Sketch.fits_append, Sketch.fits_ofChars, Sketch.Fits, read,
    ColumnWord.fills, Literal.fills]

/-! ### Inside and outside of the quotes -/

/-- The instruction as it is read, cut at its quotes. -/
theorem lower_eq_quotes :
    a.lower = frontSketch.fill a.read ++ '\'' :: (a.value.lower ++ '\'' ::
      (middleSketch.fill a.read ++ '\'' :: (a.conditionValue.lower ++ '\'' :: []))) := by
  rw [lower_eq]
  simp [assignmentForm, frontSketch, middleSketch, Form.sketch, Sketch.fill_append,
    Sketch.fill_ofChars, Sketch.fill, read, Equality.symbol]

theorem exists_quote_at_end : ∃ text, text ≠ [] ∧ a.lower = text ++ ['\''] := by
  refine ⟨frontSketch.fill a.read ++ '\'' :: (a.value.lower ++ '\'' ::
    (middleSketch.fill a.read ++ '\'' :: a.conditionValue.lower)), by simp, ?_⟩
  rw [lower_eq_quotes]
  simp

/-- Whether a phrase is found in one of the literals. -/
def hasInside (p : Phrase) : Bool := p.occursIn a.value.lower || p.occursIn a.conditionValue.lower

/-- **What cannot read a quote** is found in an assignment only inside the literals. -/
theorem occursIn_lower {p : Phrase} (hp : p ∈ insiders) : p.occursIn a.lower = a.hasInside p := by
  have hblind : p.isBlind '\'' = true := List.all_eq_true.mp insiders_blind p hp
  have hmiss : ∀ t ∈ [frontSketch, middleSketch, []], t.Fits a.read →
      p.occursIn (t.fill a.read) = false := by
    intro t ht hfits
    have hmisses := List.all_eq_true.mp (List.all_eq_true.mp outside_missed p hp) t ht
    rw [occursIn, search_of_misses hmisses hfits]
    rfl
  have hfront := hmiss frontSketch (by simp)
    (by simp [frontSketch, Sketch.fits_append, Sketch.fits_ofChars, Sketch.Fits, read,
      ColumnWord.fills])
  have hmiddle := hmiss middleSketch (by simp)
    (by simp [middleSketch, Sketch.fits_append, Sketch.fits_ofChars, Sketch.Fits, read,
      ColumnWord.fills])
  have hend : p.occursIn [] = false := hmiss [] (by simp) trivial
  have hmark : Text.isWordChar '\'' = false := by decide
  rw [lower_eq_quotes, occursIn_append_mark hmark hblind, occursIn_append_mark hmark hblind,
    occursIn_append_mark hmark hblind, occursIn_append_mark hmark hblind, hfront, hmiddle, hend,
    Bool.false_or, Bool.false_or, Bool.or_false, hasInside]

/-- Whether something inside the quotes is taken for another kind of request: it names a sheet or a
column anew, or it is a condition on a number and the instruction has a word for a filter. -/
def isMistaken : Bool :=
  a.hasInside sheetNaming || a.hasInside columnNaming ||
    a.hasInside filterCondition && filterTrigger.occursIn a.lower

end

variable {a : Assignment}

theorem sheetNaming_missed (h : a.hasInside sheetNaming = false) :
    (all (sheetNamed ++ [choice verbStop empty, ending])).search a.lower = none := by
  have hnone := a.occursIn_lower (p := sheetNaming) (by simp [insiders])
  obtain ⟨text, -, htext⟩ := a.exists_quote_at_end
  rw [h, htext] at hnone
  rw [htext]
  refine search_eq_none_iff.mpr (Bool.eq_false_iff.mpr fun hfound => ?_)
  rw [sheetNaming_of_found hfound] at hnone
  cases hnone

theorem columnNaming_missed (h : a.hasInside columnNaming = false) :
    (all (scope :: (columnNamed ++ [choice verbStop tail, ending]))).search a.lower = none := by
  have hnone := a.occursIn_lower (p := columnNaming) (by simp [insiders])
  have hfirst := search_of_misses columnNamed_missed a.fits
  obtain ⟨text, -, htext⟩ := a.exists_quote_at_end
  rw [← lower_eq, htext] at hfirst
  rw [h, htext] at hnone
  rw [htext]
  refine search_eq_none_iff.mpr (Bool.eq_false_iff.mpr fun hfound => ?_)
  rw [columnNaming_of_found (search_eq_none_iff.mp hfirst) hfound] at hnone
  cases hnone

theorem filter_missed (h : (a.hasInside filterCondition && filterTrigger.occursIn a.lower) = false)
    {w : Wording} (hw : w.lower = a.lower) :
    (filterCondition.search w.lower).bind (build .filterRows w) = none := by
  by_cases htrigger : filterTrigger.occursIn a.lower = true
  · rw [htrigger, Bool.and_true] at h
    rw [hw, search_eq_none_iff.mpr ((a.occursIn_lower (by simp [insiders])).trans h)]
    rfl
  · cases filterCondition.search w.lower with
    | none => rfl
    | some c => simp [build, hw, htrigger]

/-- Unless something inside the quotes is mistaken, nothing is found by the phrases tried before. -/
theorem nothing_found (h : a.isMistaken = false) :
    ∀ x ∈ ranked.take 18,
      (x.2.search (Wording.of a.text).lower).bind (build x.1 (Wording.of a.text)) = none := by
  intro x hx
  have hw := a.wording_lower
  simp only [isMistaken, Bool.or_eq_false_iff] at h
  obtain ⟨n, hn⟩ := List.mem_iff_getElem?.mp hx
  have hplace := List.all_eq_true.mp endsQuoted_missed (x, n) (List.mem_zipIdx_iff_getElem?.mpr hn)
  rw [Bool.or_eq_true] at hplace
  rcases hplace with hinside | hmiss
  · simp only [looksInside, Bool.or_eq_true, beq_iff_eq] at hinside
    rcases hinside with (rfl | rfl) | rfl
    · obtain rfl : _ = x := Option.some.inj (ranked_sheetNamed.symm.trans hn)
      rw [hw, sheetNaming_missed h.1.1]
      rfl
    · obtain rfl : _ = x := Option.some.inj (ranked_columnNamed.symm.trans hn)
      rw [hw, columnNaming_missed h.1.2]
      rfl
    · obtain rfl : _ = x := Option.some.inj (ranked_filterCondition.symm.trans hn)
      exact filter_missed h.2 hw
  · obtain ⟨text, hne, htext⟩ := a.exists_quote_at_end
    have hfits : endsQuoted.Fits fun _ => text :=
      ⟨Hole.IsWord.fills ⟨fun _ _ => rfl, by simpa [Hole.refused] using hne⟩, trivial⟩
    have hnone : x.2.search (text ++ ['\'']) = none := search_of_misses hmiss hfits
    rw [hw, htext, hnone]
    rfl

/-! ### Reading an assignment -/

/-- What an assignment asks for. -/
def request (a : Assignment) : Request :=
  .edit (.setValueWhere a.target.titled .equal a.condition.titled
    (a.conditionValue.value a.isStable) (a.value.value a.isStable))

theorem build_text (a : Assignment) {c : Pieces}
    (h : assignmentForm.Reading a.typed a.read (Wording.of a.text) c) :
    build .setValueWhere (Wording.of a.text) c = some a.request := by
  have hsymbol : Equality.ofSymbol? "==" = some .equal := Equality.ofSymbol?_symbol .equal
  cases hstable : a.isStable <;>
    simp [build, request, symbol, h.titled_eq, h.read_eq, h.literal_eq, a.wording_aligned, hstable,
      assignmentForm, Form.piece?, Sketch.fill, Sketch.fill_ofChars, read, typed,
      ColumnWord.titled, Literal.value, Equality.symbol, hsymbol]

theorem recognize_text (h : a.isMistaken = false) :
    recognize (Wording.of a.text) = some a.request :=
  recognize_of_isFoundAt assignmentForm_found rfl (nothing_found h) a.fits
    (congrArg Wording.lower a.wording_text) (congrArg Wording.typed a.wording_text)
    (fun ha => a.length_typed (a.wording_aligned ▸ ha)) fun _ => a.build_text

/-! ### Mistaking an assignment -/

theorem newline_not_mem (a : Assignment) : '\n' ∉ a.lower :=
  newline_not_mem_lower (Text.collapse_of_tidy a.tidy_text)

/-- What is mistaken is found by a phrase that is tried before, and yields a request. -/
theorem exists_mistake (h : a.isMistaken = true) : ∃ n ≤ 15, ∃ x, ranked[n]? = some x ∧
    ∃ r, (x.2.search a.lower).bind (build x.1 (Wording.of a.text)) = some r := by
  have hfound : ∀ p : Phrase, p.occursIn a.lower = true → ∃ c, p.search a.lower = some c :=
    fun p hp => Option.isSome_iff_exists.mp hp
  simp only [isMistaken, Bool.or_eq_true, Bool.and_eq_true] at h
  rcases h with (h | h) | ⟨h, htrigger⟩
  · rw [← a.occursIn_lower (by simp [insiders])] at h
    obtain ⟨c, hc⟩ := hfound _ (found_of_sheetNaming a.newline_not_mem h)
    exact ⟨0, by decide, _, ranked_sheetNamed, _,
      Option.bind_eq_some_iff.mpr ⟨c, hc, rfl⟩⟩
  · rw [← a.occursIn_lower (by simp [insiders])] at h
    obtain ⟨c, hc⟩ := hfound _ (found_of_columnNaming a.newline_not_mem h)
    exact ⟨5, by decide, _, ranked_columnNamed, _,
      Option.bind_eq_some_iff.mpr ⟨c, hc, rfl⟩⟩
  · rw [← a.occursIn_lower (by simp [insiders])] at h
    obtain ⟨c, hc⟩ := hfound _ h
    obtain ⟨before, -, -, hmem⟩ := exists_mem_outcomes_of_search hc
    obtain ⟨r, hr⟩ := exists_build_filter hmem (w := Wording.of a.text)
      (a.wording_lower.symm ▸ htrigger)
    exact ⟨15, by decide, _, ranked_filterCondition, r,
      Option.bind_eq_some_iff.mpr ⟨c, hc, hr⟩⟩

theorem recognize_mistaken (h : a.isMistaken = true) : ∃ r,
    recognize (Wording.of a.text) = some r ∧
      ∀ sheet, (r.onSheet sheet).kind ≠ .setValueWhere := by
  obtain ⟨n, hn, x, hx, r, hr⟩ := exists_mistake h
  rw [← wording_lower] at hr
  obtain ⟨y, hy, c, r', hbuild, hrecognize⟩ := exists_recognize hx hr
  refine ⟨r', hrecognize, fun sheet => ?_⟩
  rw [kind_of_build hbuild sheet]
  have hearly : ((ranked.take 16).all fun x => x.1 != .setValueWhere) = true := by decide
  have hmem : y ∈ ranked.take 16 := List.take_subset_take_left _ (by omega) hy
  simpa using List.all_eq_true.mp hearly y hmem

end Assignment

/-- **Quoted literals are opaque** unless they are mistaken: an assignment is interpreted as typed,
for the first sheet that it mentions, if and only if nothing inside the quotes names a sheet or a
column anew or is a condition of a filter. -/
theorem interpret_assignment_iff (a : Assignment) (sheetNames : List String) :
    interpret a.text sheetNames = [a.request.onSheet (mentionedSheet a.lower sheetNames)] ↔
      a.isMistaken = false := by
  rw [interpret, a.wording_lower]
  cases hmistaken : a.isMistaken with
  | false => simp [Assignment.recognize_text hmistaken]
  | true =>
    obtain ⟨r, hr, hkind⟩ := Assignment.recognize_mistaken hmistaken
    simp only [hr, Option.map_some, Option.toList_some, List.cons.injEq, and_true,
      Bool.true_eq_false, iff_false]
    intro heq
    exact hkind _ (by rw [heq]; rfl)

/-- The condition of a filter inside the quotes deletes rows; and the lower case of `İ` is longer
than the letter, so it is not kept as it was typed. -/
theorem not_opaque :
    interpret "set status to 'keep where x > 5' where type == 'a'" [] =
        [.edit none (.filterRows "X" .greater (.ofInt 5))] ∧
      interpret "set status to 'İ' where type == 'A'" [] ≠
        [.edit none (.setValueWhere "Status" .equal "Type" "A" "İ")] := by
  decide +kernel

end SheetCommand.Instruction
