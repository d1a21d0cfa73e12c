import Mathlib.Data.List.DropRight
import SheetCommand.Proofs.Instruction.Condition

/-!
# Numbers with separators

`keep rows where qty >= 1,500` may be followed by commas and points that end a sentence, but not by
ones that belong to a malformed number. What a filter is told by is the part of the number in which
every comma and every point is directly followed by a digit (`goingPart`): if that part is a figure,
rows are filtered by it, otherwise the instruction asks for nothing (`NumberText.readBy_spec`).
Up to the commas and points at its end this is the whole number, unless two of them stand side by
side inside it.
-/

namespace SheetCommand

open Text

/-- A comma or a point. -/
def isSeparator (c : Char) : Bool := c == ',' || c == '.'

/-- Digits, commas and points, a digit first. -/
structure NumberText where
  first : Char
  rest : List Char
  isDigit_first : isAsciiDigit first = true
  only : ∀ c ∈ rest, isAsciiDigit c = true ∨ isSeparator c = true

namespace NumberText

def chars (d : NumberText) : List Char := d.first :: d.rest

/-- Without the commas and points at its end. -/
def trimmed (d : NumberText) : List Char := d.chars.rdropWhile isSeparator

/-- `keep rows where qty >= 1,500`. -/
def text (d : NumberText) : String := "keep rows where qty >= " ++ .ofList d.chars

/-- The filter of the rows by a figure. -/
def request (f : Figure) : Request := .edit (.filterRows "Qty" .greaterEqual f.number)

variable (d : NumberText)

theorem mem_chars {c : Char} (h : c ∈ d.chars) : isAsciiDigit c = true ∨ isSeparator c = true :=
  (List.mem_cons.mp h).elim (fun h => .inl (h ▸ d.isDigit_first)) (d.only c)

end NumberText

/-! ### The part that goes on -/

variable {text : List Char}

theorem exists_goingPart_append (text : List Char) :
    ∃ after, text = goingPart text ++ after ∧ goesOn after = false := by
  induction text with
  | nil => exact ⟨[], rfl, rfl⟩
  | cons c text ih =>
    rw [goingPart]
    split
    · obtain ⟨after, htext, hafter⟩ := ih
      exact ⟨after, congrArg (c :: ·) htext, hafter⟩
    · rename_i hstop
      exact ⟨c :: text, rfl, by simpa using hstop⟩

theorem goesOn_of_separators (h : ∀ c ∈ text, isSeparator c = true) : goesOn text = false := by
  have hword : ∀ {c : Char}, isSeparator c = true → isWordChar c = false ∧ isDigit c = false := by
    intro c hc
    rw [isSeparator, Bool.or_eq_true, beq_iff_eq, beq_iff_eq] at hc
    rcases hc with rfl | rfl <;> decide
  match text, h with
  | [], _ => rfl
  | [c], h => simp [goesOn, (hword (h c (by simp))).1]
  | c :: d :: _, h => simp [goesOn, (hword (h c (by simp))).1, (hword (h d (by simp))).2]

namespace Figure

/-- A figure that does not begin with a sign goes on up to its end. -/
theorem goesThrough_chars {f : Figure} (h : ∀ c ∈ f.chars.head?, c ≠ '-') :
    GoesThrough f.chars := by
  cases hn : f.negative with
  | true =>
    rw [chars_eq, hn] at h
    exact absurd rfl (h '-' rfl)
  | false =>
    rw [chars_eq, hn]
    exact f.goesThrough_body

end Figure

namespace NumberText

variable {d : NumberText} {f : Figure}

theorem chars_goesThrough {after : List Char} (h : f.chars ++ after = d.chars) :
    GoesThrough f.chars := by
  refine f.goesThrough_chars fun c hc => ?_
  obtain ⟨e, rest, hf⟩ : ∃ e rest, f.chars = e :: rest := by
    refine List.exists_cons_of_ne_nil fun hnil => ?_
    rw [hnil] at hc
    cases hc
  rw [hf] at h hc
  obtain rfl : e = c := Option.some.inj hc
  rw [(List.cons.inj h).1]
  exact ne_of_isDigit (isDigit_of_isAsciiDigit d.isDigit_first) (by decide)

/-- A figure that the text begins with and that ends there is the part that goes on. -/
theorem goingPart_eq_chars {after : List Char} (h : f.chars ++ after = d.chars)
    (hafter : goesOn after = false) : goingPart d.chars = f.chars := by
  rw [← h]
  exact goingPart_append (chars_goesThrough h) hafter

/-- If the text without the separators at its end is a figure, it is the part that goes on. -/
theorem goingPart_of_trimmed (h : f.chars = d.trimmed) : goingPart d.chars = d.trimmed := by
  rw [← h]
  have hsplit : f.chars ++ d.chars.rtakeWhile isSeparator = d.chars := by
    rw [h]
    exact List.rdropWhile_append_rtakeWhile ..
  exact goingPart_eq_chars hsplit (goesOn_of_separators fun c hc => List.mem_rtakeWhile_imp hc)

end NumberText

namespace Instruction

open Pattern

/-! ### Only the filter -/

/-- Digits, commas and points. -/
def numberChars : List Char := ['0', '1', '2', '3', '4', '5', '6', '7', '8', '9', ',', '.']

/-- The instruction with its number open. -/
def numberSketch : Sketch :=
  Sketch.ofChars "keep rows where qty >= ".toList ++ [.hole (.run numberChars) 0]

theorem numberSketch_missed :
    ((ranked.take 15 ++ ranked.drop 16).all fun x => x.2.misses numberSketch) = true := by
  decide +kernel

/-- If all other phrases yield nothing, one phrase alone decides. -/
theorem recognize_eq_of_ranked {w : Wording} {n : Nat} {kind : ActionKind} {p : Phrase}
    (hn : ranked[n]? = some (kind, p)) (hmiss : ∀ x ∈ ranked.take n ++ ranked.drop (n + 1),
      (x.2.search w.lower).bind (build x.1 w) = none) :
    recognize w = (p.search w.lower).bind (build kind w) := by
  obtain ⟨hlt, hget⟩ := List.getElem?_eq_some_iff.mp hn
  have hsplit : ranked = ranked.take n ++ (kind, p) :: ranked.drop (n + 1) := by
    rw [← hget, List.getElem_cons_drop, List.take_append_drop]
  obtain ⟨hbefore, hafter⟩ := List.forall_mem_append.mp hmiss
  have hfront := List.findSome?_eq_none_iff.mpr hbefore
  have hback := List.findSome?_eq_none_iff.mpr hafter
  rw [recognize_eq_findSome?, hsplit, List.findSome?_append, hfront, List.findSome?_cons, hback]
  cases (p.search w.lower).bind (build kind w) <;> rfl

end Instruction

namespace NumberText

open Instruction

variable (d : NumberText)

theorem isLowAscii_of_mem {c : Char} (h : c ∈ d.chars) :
    numberChars.contains c = true ∧ isBlank c = false ∧ isLowAscii c = true := by
  rcases d.mem_chars h with h | h
  · have hcode : c.toNat < 128 := by
      have hdigit := toNat_of_isAsciiDigit h
      omega
    refine of_toNat_lt (P := fun c => isAsciiDigit c = true →
      numberChars.contains c = true ∧ isBlank c = false ∧ isLowAscii c = true) ?_ hcode h
    decide +kernel
  · rw [isSeparator, Bool.or_eq_true, beq_iff_eq, beq_iff_eq] at h
    rcases h with rfl | rfl <;> decide

theorem isPlain_chars : IsPlain d.chars :=
  isPlain_of_chars (by simp [chars]) fun _ hc => (d.isLowAscii_of_mem hc).2

theorem fits : numberSketch.Fits fun _ => d.chars := by
  have hfills : (Hole.run numberChars).Fills d.chars :=
    fills_of_forall (by simp [chars]) fun _ hc => (d.isLowAscii_of_mem hc).1
  simp [numberSketch, Sketch.fits_append, Sketch.fits_ofChars, Sketch.Fits, hfills]

theorem toList_text : d.text.toList = "keep rows where qty >= ".toList ++ d.chars := by
  unfold NumberText.text
  simp only [String.toList_append, String.toList_ofList]

theorem toList_eq_fill : d.text.toList = numberSketch.fill fun _ => d.chars := by
  rw [toList_text, numberSketch, Sketch.fill_append, Sketch.fill_ofChars, Sketch.fill, Sketch.fill,
    List.append_nil]

theorem wording_text : Wording.of d.text = ⟨d.text.toList, d.text.toList⟩ := by
  have hplain : IsPlain d.text.toList := by
    rw [toList_eq_fill]
    exact IsPlain.fill (by decide +kernel) fun _ => d.isPlain_chars
  have hwording := wording_of_plain hplain
  rwa [String.ofList_toList] at hwording

theorem recognize_text : recognize (.of d.text) = recognizeAs .filterRows (.of d.text) := by
  rw [recognizeAs_filterRows_eq]
  refine recognize_eq_of_ranked ranked_filterCondition fun x hx => ?_
  have hmiss := Pattern.search_of_misses (List.all_eq_true.mp numberSketch_missed x hx) d.fits
  rw [wording_text, toList_eq_fill, hmiss]
  rfl

/-! ### The condition in the text -/

theorem hasTrigger_text : HasTrigger d.text.toList := by
  refine ⟨"keep".toList, .inl ⟨"keep", by simp, rfl⟩, [], _, toList_text d, by simp [EndsApart], ?_⟩
  intro c hc
  obtain rfl : ' ' = c := Option.some.inj hc
  decide

/-- In front of the number a condition can begin at one place only. -/
theorem start_of_lead : ∀ start < 23, ∀ m ∈ ['w', 'j'],
    ("keep rows where qty >= ".toList.drop start).head? = some m →
      ("keep rows where qty >= ".toList.take start).getLast?.any isWordChar = true ∨
        start = 10 := by
  decide

theorem start_eq {c : Condition} {start : Nat} (h : c.StandsAt d.text.toList start) :
    start = 10 := by
  obtain ⟨hends, after, hbegins, -⟩ := h
  obtain ⟨m, hm, hhead⟩ := Condition.head_opening c.isOpening (' ' :: c.tail ++ after)
  rw [← List.append_assoc] at hhead
  replace hhead := (congrArg List.head? hbegins).trans hhead
  rw [toList_text] at hends hhead
  have hlead : "keep rows where qty >= ".toList.length = 23 := rfl
  by_cases hlt : start < 23
  · rw [List.take_append_of_le_length (by omega)] at hends
    rw [List.drop_append_of_le_length (by omega), List.head?_append_of_ne_nil _
      (List.ne_nil_of_length_pos (by rw [List.length_drop]; omega))] at hhead
    refine (start_of_lead start hlt m hm hhead).resolve_left ?_
    rw [endsApart_iff.mp hends]
    decide
  · rw [List.drop_append, List.drop_of_length_le (by omega), List.nil_append] at hhead
    have hmem := d.mem_chars (List.mem_of_mem_drop (List.mem_of_head? hhead))
    have hletters : ∀ m ∈ ['w', 'j'], ¬ (isAsciiDigit m = true ∨ isSeparator m = true) := by decide
    exact absurd hmem (hletters m hm)

theorem drop_text : d.text.toList.drop 10 = "where".toList ++ ' ' :: ("qty ".toList ++
    (">=".toList ++ (" ".toList ++ d.chars))) := by
  rw [toList_text]
  rfl

/-- The number of a condition in the text is the part that goes on. -/
theorem figure_of_standsAt {c : Condition} (h : c.StandsAt d.text.toList 10) :
    c.figure.chars = goingPart d.chars ∧ c.request = request c.figure := by
  obtain ⟨-, hbegins⟩ := h
  rw [drop_text] at hbegins
  obtain ⟨-, hcolumn, hsign, -, after, hfigure, hends⟩ := hbegins.cut (by decide) (by decide)
    (by decide) (by decide) (Condition.beginsNumber_of_isDigit
      (isDigit_of_isAsciiDigit d.isDigit_first) d.rest)
  have hwords : c.words = ["qty".toList] := by
    rw [← Condition.words_eq c, hcolumn]
    decide
  have hcomparison : c.sign = .symbol .greaterEqual := Condition.comparisonText_inj hsign
  refine ⟨(goingPart_eq_chars hfigure hends).symm, ?_⟩
  rw [Condition.request, hwords, hcomparison]
  rfl

/-- A figure makes the condition. -/
theorem exists_standsAt {f : Figure} (h : f.chars = goingPart d.chars) :
    ∃ c : Condition, c.StandsAt d.text.toList 10 ∧ c.request = request f := by
  have hqty : ∀ w ∈ ["qty".toList], IsNameWord w := by
    intro w hw
    rw [List.mem_singleton.mp hw]
    exact ⟨'q', "ty".toList, rfl, by decide, by decide⟩
  obtain ⟨after, hchars, hends⟩ := exists_goingPart_append d.chars
  refine ⟨⟨"where", ["qty".toList], true, .symbol .greaterEqual, true, f, by decide, by simp, hqty⟩,
    ⟨?_, after, ?_, hends⟩, rfl⟩
  · rw [toList_text, List.take_append_of_le_length (by decide)]
    exact endsApart_iff.mpr (by decide)
  · rw [drop_text, hchars, ← h]
    simp [Condition.chars, Condition.tail, Condition.gap, join, Sign.comparisonText,
      Comparison.symbol]

/-- **The text is recognised by its figure**: the part that goes on, if it is one. -/
theorem recognize_eq_some_iff {r : Request} : recognize (.of d.text) = some r ↔
    ∃ f : Figure, f.chars = goingPart d.chars ∧ r = request f := by
  have hspaces : ∀ b ∈ (Wording.of d.text).lower, isBlank b = true → b = ' ' :=
    fun b => eq_space_of_isBlank
  rw [recognize_text, recognizeAs_filterRows_eq_some_iff hspaces, wording_text]
  constructor
  · rintro ⟨-, start, c, hc, -, rfl⟩
    obtain rfl := d.start_eq hc
    exact ⟨c.figure, d.figure_of_standsAt hc⟩
  · rintro ⟨f, hf, rfl⟩
    obtain ⟨c, hc, hrequest⟩ := d.exists_standsAt hf
    refine ⟨d.hasTrigger_text, 10, c, hc, fun m hm c' hc' => ?_, hrequest.symm⟩
    exact Nat.ne_of_lt hm (d.start_eq hc')

/-! ### What the text is read as -/

/-- Read by a part of its number: as the filter by that part if it is a figure, and as nothing if it
is not. -/
structure ReadBy (part : List Char) (sheetNames : List String) : Prop where
  figure : ∀ f : Figure, f.chars = part → interpret d.text sheetNames =
    [(request f).onSheet (mentionedSheet d.text.toList sheetNames)]
  nothing : (∀ f : Figure, f.chars ≠ part) → interpret d.text sheetNames = []

theorem readBy_goingPart (sheetNames : List String) :
    d.ReadBy (goingPart d.chars) sheetNames := by
  constructor
  · intro f hf
    have hrecognize := d.recognize_eq_some_iff.mpr ⟨f, hf, rfl⟩
    have hlower : (Wording.of d.text).lower = d.text.toList := by rw [wording_text]
    simp [interpret, hrecognize, hlower]
  · intro hnone
    have hrecognize : recognize (.of d.text) = none :=
      Option.eq_none_iff_forall_ne_some.mpr fun r hr => by
        obtain ⟨f, hf, -⟩ := d.recognize_eq_some_iff.mp hr
        exact hnone f hf
    simp [interpret, hrecognize]

/-- **What a number with separators is read as.** An instruction to keep the rows with a quantity of
at least a number is read by the part of the number in which every comma and every point is directly
followed by a digit. So it is read by the number without the separators at its end exactly if the
two are the same or that part is no figure. -/
theorem readBy_spec (sheetNames : List String) :
    d.ReadBy (goingPart d.chars) sheetNames ∧
      (d.ReadBy d.trimmed sheetNames ↔
        goingPart d.chars = d.trimmed ∨ ∀ f : Figure, f.chars ≠ goingPart d.chars) := by
  have hgoing := d.readBy_goingPart sheetNames
  refine ⟨hgoing, fun htrimmed => ?_, ?_⟩
  · by_contra hnot
    obtain ⟨hne, hfigure⟩ := not_or.mp hnot
    push Not at hfigure
    obtain ⟨f, hf⟩ := hfigure
    -- The number is no figure as a whole, but rows are filtered by a part of it.
    have hnone : ∀ g : Figure, g.chars ≠ d.trimmed := fun g hg => hne (goingPart_of_trimmed hg)
    have hempty := htrimmed.nothing hnone
    rw [hgoing.figure f hf] at hempty
    cases hempty
  · rintro (heq | hnone)
    · rwa [heq] at hgoing
    · refine ⟨fun f hf => ?_, fun _ => hgoing.nothing hnone⟩
      exact absurd (hf.trans (goingPart_of_trimmed hf).symm) (hnone f)

/-- Two commas side by side, and the rows are filtered by what stands in front of them. -/
theorem not_readBy_trimmed : ¬ ∀ (d : NumberText) (sheetNames : List String),
    d.ReadBy d.trimmed sheetNames := by
  intro h
  let d : NumberText := ⟨'1', ",,000".toList, by decide, by decide⟩
  have hpart : goingPart d.chars = ['1'] := by decide
  have hnone : ∀ f : Figure, f.chars ≠ d.trimmed := fun f hf =>
    absurd (goingPart_of_trimmed hf) (by decide)
  have hread := (d.readBy_goingPart []).figure
    ⟨false, ['1'], [], .inl ⟨by simp, by decide⟩, by simp⟩ hpart.symm
  rw [(h d []).nothing hnone] at hread
  cases hread

end NumberText

end SheetCommand
