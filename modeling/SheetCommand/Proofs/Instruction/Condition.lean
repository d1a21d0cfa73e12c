import SheetCommand.Proofs.Instruction.Canonical
import SheetCommand.Proofs.Instruction.Filter
import SheetCommand.Proofs.Instruction.Leftmost

/-!
# Conditions — the grammar of a filter

`where unit price >= 1,500` is a condition: an opening word, the words of a column's name, a
comparison and a figure. The filter's phrase finds exactly the conditions that stand in an
instruction, the leftmost one first (`recognizeAs_filterRows_spec`), and at one place there stands
one condition at most (`Condition.StandsAt.unique`).
-/

namespace SheetCommand

open Text

variable {text x : List Char}

/-! ### Parts that cannot be told otherwise -/

/-- A text is cut in one way behind the characters with a property. -/
theorem append_unique {p : Char → Bool} {a b a' b' : List Char} (h : a ++ b = a' ++ b')
    (ha : ∀ c ∈ a, p c = true) (ha' : ∀ c ∈ a', p c = true) (hb : ∀ c ∈ b.head?, p c = false)
    (hb' : ∀ c ∈ b'.head?, p c = false) : a = a' ∧ b = b' := by
  have key : ∀ {a b : List Char}, (∀ c ∈ a, p c = true) → (∀ c ∈ b.head?, p c = false) →
      (a ++ b).takeWhile p = a := by
    intro a b ha hb
    rw [List.takeWhile_append_of_pos ha]
    cases b with
    | nil => simp
    | cons c b => simp [hb c rfl]
  have hfirst : a = a' := by rw [← key ha hb, h, key ha' hb']
  subst hfirst
  exact ⟨rfl, List.append_cancel_left h⟩

/-! ### Names -/

/-- A word character, then word characters and hyphens. -/
def IsNameWord (word : List Char) : Prop :=
  ∃ c rest, word = c :: rest ∧ isWordChar c = true ∧ ∀ d ∈ rest, isWordChar d = true ∨ d = '-'

theorem IsNameWord.space_not_mem {word : List Char} (h : IsNameWord word) : ' ' ∉ word := by
  obtain ⟨c, rest, rfl, hc, hrest⟩ := h
  intro hmem
  rcases List.mem_cons.mp hmem with rfl | hmem
  · exact absurd hc (by decide)
  · exact absurd (hrest _ hmem) (by decide)

theorem IsNameWord.ne_nil {word : List Char} (h : IsNameWord word) : word ≠ [] := by
  obtain ⟨c, rest, rfl, -⟩ := h
  simp

theorem join_cons_eq (w : List Char) (ws : List (List Char)) :
    join [' '] (w :: ws) = w ++ (ws.map (' ' :: ·)).flatten := by
  induction ws generalizing w with
  | nil => simp [join]
  | cons v ws ih =>
    rw [join_cons_ne_nil w (by simp), ih, List.map_cons, List.flatten_cons]
    rfl

namespace Instruction

open Pattern

theorem spells_nameChars_iff : nameChars.Spells x ↔ IsNameWord x := by
  have haccepts : ∀ d, CharClass.name.accepts d = true ↔ isWordChar d = true ∨ d = '-' := by
    simp [CharClass.name, CharClass.accepts]
  constructor
  · rintro ⟨_, rest, ⟨c, hc, rfl⟩, hrest, rfl⟩
    exact ⟨c, rest, rfl, hc, fun d hd => (haccepts d).mp (spells_many_one_iff.mp hrest d hd)⟩
  · rintro ⟨c, rest, rfl, hc, hrest⟩
    exact ⟨[c], rest, ⟨c, hc, rfl⟩,
      spells_many_one_iff.mpr fun d hd => (haccepts d).mpr (hrest d hd), rfl⟩

/-- **What a phrase spells for a name**: words with single spaces between them. -/
theorem spells_phrase_iff {slot : Slot} (hspaces : ∀ b ∈ x, isBlank b = true → b = ' ') :
    (phrase slot).Spells x ↔
      ∃ words, words ≠ [] ∧ (∀ w ∈ words, IsNameWord w) ∧ x = join [' '] words := by
  constructor
  · rintro ⟨first, _, hfirst, ⟨parts, hparts, rfl⟩, rfl⟩
    have hwords : ∀ part ∈ parts, ∃ w, IsNameWord w ∧ part = ' ' :: w := by
      intro part hpart
      obtain ⟨_, w, ⟨b, hb, rfl⟩, hw, rfl⟩ := hparts part hpart
      have hmem : b ∈ first ++ parts.flatten :=
        List.mem_append_right _ (List.mem_flatten.mpr ⟨_, hpart, List.mem_cons_self⟩)
      rw [hspaces b hmem hb]
      exact ⟨w, spells_nameChars_iff.mp hw, rfl⟩
    obtain ⟨words, hnames, rfl⟩ := exists_map_eq hwords
    exact ⟨first :: words, by simp,
      List.forall_mem_cons.mpr ⟨spells_nameChars_iff.mp hfirst, hnames⟩, (join_cons_eq ..).symm⟩
  · rintro ⟨words, hne, hwords, rfl⟩
    obtain ⟨first, words, rfl⟩ := List.exists_cons_of_ne_nil hne
    obtain ⟨hfirst, hwords⟩ := List.forall_mem_cons.mp hwords
    refine ⟨first, _, spells_nameChars_iff.mpr hfirst, ⟨words.map (' ' :: ·), ?_, rfl⟩,
      join_cons_eq ..⟩
    intro part hpart
    obtain ⟨w, hw, rfl⟩ := List.mem_map.mp hpart
    exact ⟨[' '], w, ⟨' ', isBlank_space, rfl⟩, spells_nameChars_iff.mpr (hwords w hw), rfl⟩

/-! ### Conditions -/

/-- The condition of a filter, in all its parts. -/
@[ext]
structure Condition where
  opening : String
  words : List (List Char)
  spaceBefore : Bool
  sign : Sign Comparison
  spaceAfter : Bool
  figure : Figure
  isOpening : opening ∈ openings
  words_ne_nil : words ≠ []
  isNameWord : ∀ w ∈ words, IsNameWord w

namespace Condition

/-- A space, or none. -/
def gap (space : Bool) : List Char := if space then [' '] else []

/-- What follows the opening word and its space. -/
def tail (c : Condition) : List Char :=
  (join [' '] c.words ++ gap c.spaceBefore) ++
    (c.sign.comparisonText.toList ++ (gap c.spaceAfter ++ c.figure.chars))

def chars (c : Condition) : List Char := c.opening.toList ++ ' ' :: c.tail

/-- The filter that the condition is for. -/
def request (c : Condition) : Request :=
  .edit (.filterRows (.ofList (Text.titleCase (join [' '] c.words))) c.sign.comparison
    c.figure.number)

/-- A text begins with the condition, and its figure ends there. -/
def Begins (c : Condition) (text : List Char) : Prop :=
  ∃ after, text = c.chars ++ after ∧ goesOn after = false

/-- The condition stands at a place of a text, at the start of a word. -/
def StandsAt (c : Condition) (text : List Char) (start : Nat) : Prop :=
  EndsApart (text.take start) ∧ c.Begins (text.drop start)

/-! ### One condition at a place -/

def isMark (c : Char) : Bool := ['>', '<', '=', '!'].contains c

theorem isMark_eq_false_of_isWordChar {c : Char} (h : isWordChar c = true) : isMark c = false := by
  rw [← Bool.not_eq_true]
  intro hmark
  have hall : ∀ m ∈ ['>', '<', '=', '!'], isWordChar m = false := by decide
  rw [hall c (List.contains_iff_mem.mp hmark)] at h
  cases h

theorem isMark_of_mem_sign (sign : Sign Comparison) :
    sign.comparisonText.toList ≠ [] ∧ ∀ c ∈ sign.comparisonText.toList, isMark c = true := by
  rcases sign with (_ | _ | _ | _ | _ | _) | _ <;> decide

/-- No mark stands in a name or in the space behind it. -/
theorem isMark_of_mem_column {c : Condition} {m : Char}
    (h : m ∈ join [' '] c.words ++ gap c.spaceBefore) : isMark m = false := by
  have hgap : ∀ space, ∀ m ∈ gap space, isMark m = false := by decide
  rcases List.mem_append.mp h with h | h
  · rcases mem_join h with rfl | ⟨w, hw, hm⟩
    · decide
    · obtain ⟨a, rest, rfl, ha, hrest⟩ := c.isNameWord w hw
      rcases List.mem_cons.mp hm with rfl | hm
      · exact isMark_eq_false_of_isWordChar ha
      · rcases hrest m hm with hm | rfl
        · exact isMark_eq_false_of_isWordChar hm
        · decide
  · exact hgap _ m h

/-- What a number may begin with: neither a mark nor a space. -/
def BeginsNumber (text : List Char) : Prop :=
  ∀ m ∈ text.head?, isMark m = false ∧ (m == ' ') = false

theorem beginsNumber_of_isDigit {m : Char} (h : isDigit m = true) (rest : List Char) :
    BeginsNumber (m :: rest) := by
  intro e he
  obtain rfl : m = e := Option.some.inj he
  exact ⟨isMark_eq_false_of_isWordChar (isWordChar_of_isDigit h),
    beq_false_of_ne (ne_of_isDigit h (by decide))⟩

theorem beginsNumber_figure (f : Figure) (after : List Char) : BeginsNumber (f.chars ++ after) := by
  obtain ⟨m, rest, hwhole, hm⟩ := f.exists_cons_whole
  rw [Figure.chars_eq, Figure.body, hwhole]
  cases f.negative with
  | true =>
    intro e he
    obtain rfl : '-' = e := Option.some.inj he
    decide
  | false => exact beginsNumber_of_isDigit hm _

theorem isMark_of_head_spaced {space number : List Char} (hspace : ∀ m ∈ space, (m == ' ') = true)
    (hnumber : BeginsNumber number) : ∀ m ∈ (space ++ number).head?, isMark m = false := by
  cases space with
  | nil => exact fun m hm => (hnumber m hm).1
  | cons b space =>
    intro m hm
    obtain rfl : b = m := Option.some.inj hm
    rw [beq_iff_eq.mp (hspace b (by simp))]
    decide

theorem isMark_of_head_sign {sign : List Char} (hne : sign ≠ [])
    (hmarks : ∀ m ∈ sign, isMark m = true) (rest : List Char) :
    ∀ m ∈ (sign ++ rest).head?, isMark m = true := by
  obtain ⟨m, marks, rfl⟩ := List.exists_cons_of_ne_nil hne
  intro e he
  obtain rfl : m = e := Option.some.inj he
  exact hmarks m (by simp)

theorem gap_inj {a b : Bool} (h : gap a = gap b) : a = b := by
  cases a <;> cases b <;> first | rfl | cases h

theorem comparisonText_inj {a b : Sign Comparison}
    (h : a.comparisonText.toList = b.comparisonText.toList) : a = b := by
  rcases a with (_ | _ | _ | _ | _ | _) | _ <;> rcases b with (_ | _ | _ | _ | _ | _) | _ <;>
    first | rfl | exact absurd h (by decide)

/-- The words of a name, whether a space follows them or not. -/
theorem words_eq (c : Condition) :
    (splitAt ' ' (join [' '] c.words ++ gap c.spaceBefore)).filter (!·.isEmpty) = c.words := by
  have hspace : ∀ w ∈ c.words, ' ' ∉ w := fun w hw => (c.isNameWord w hw).space_not_mem
  have hwords : c.words.filter (!·.isEmpty) = c.words := by
    refine List.filter_eq_self.mpr fun w hw => ?_
    simpa using (c.isNameWord w hw).ne_nil
  cases hs : c.spaceBefore with
  | false => rw [gap, if_neg (by simp), List.append_nil, splitAt_join c.words_ne_nil hspace, hwords]
  | true =>
    have hjoin : join [' '] c.words ++ gap true = join [' '] (c.words ++ [[]]) := by
      rw [join_append c.words_ne_nil (by simp)]
      rfl
    rw [hjoin, splitAt_join (by simp), List.filter_append, hwords]
    · simp
    · rintro w hw
      rcases List.mem_append.mp hw with hw | hw
      · exact hspace w hw
      · simp [List.mem_singleton.mp hw]

/-- **The parts of a condition** are told by the text: by its first space, by the marks of its
comparison, and by the place where the number ends. -/
theorem Begins.cut {c : Condition} {opening column sign space number : List Char}
    (h : c.Begins (opening ++ ' ' :: (column ++ (sign ++ (space ++ number)))))
    (hopening : ∀ m ∈ opening, (m != ' ') = true) (hcolumn : ∀ m ∈ column, isMark m = false)
    (hsign : sign ≠ [] ∧ ∀ m ∈ sign, isMark m = true) (hspace : ∀ m ∈ space, (m == ' ') = true)
    (hnumber : BeginsNumber number) :
    c.opening.toList = opening ∧ join [' '] c.words ++ gap c.spaceBefore = column ∧
      c.sign.comparisonText.toList = sign ∧ gap c.spaceAfter = space ∧
      ∃ after, c.figure.chars ++ after = number ∧ goesOn after = false := by
  obtain ⟨after, hafter, hends⟩ := h
  have hword : ∀ s ∈ openings, ∀ m ∈ s.toList, (m != ' ') = true := by decide
  have hgap : ∀ space, ∀ m ∈ gap space, (m == ' ') = true := by decide
  have hmarks := isMark_of_mem_sign c.sign
  have hfigure := beginsNumber_figure c.figure after
  have heq : c.opening.toList ++ ' ' :: ((join [' '] c.words ++ gap c.spaceBefore) ++
        (c.sign.comparisonText.toList ++ (gap c.spaceAfter ++ (c.figure.chars ++ after)))) =
      opening ++ ' ' :: (column ++ (sign ++ (space ++ number))) := by
    rw [hafter]
    simp [chars, tail]
  obtain ⟨h₁, heq⟩ := append_unique heq (hword _ c.isOpening) hopening (by simp) (by simp)
  obtain ⟨h₂, heq⟩ := append_unique (p := (!isMark ·)) (List.cons.inj heq).2
    (fun m hm => by simp [isMark_of_mem_column hm]) (fun m hm => by simp [hcolumn m hm])
    (fun m hm => by simp [isMark_of_head_sign hmarks.1 hmarks.2 _ m hm])
    fun m hm => by simp [isMark_of_head_sign hsign.1 hsign.2 _ m hm]
  obtain ⟨h₃, heq⟩ := append_unique heq hmarks.2 hsign.2 (isMark_of_head_spaced (hgap _) hfigure)
    (isMark_of_head_spaced hspace hnumber)
  obtain ⟨h₄, heq⟩ := append_unique heq (hgap _) hspace (fun m hm => (hfigure m hm).2)
    fun m hm => (hnumber m hm).2
  exact ⟨h₁, h₂, h₃, h₄, after, heq, hends⟩

/-- **A text begins with one condition at most.** -/
theorem Begins.unique {c d : Condition} (hc : c.Begins text) (hd : d.Begins text) : c = d := by
  have hword : ∀ s ∈ openings, ∀ m ∈ s.toList, (m != ' ') = true := by decide
  have hgap : ∀ space, ∀ m ∈ gap space, (m == ' ') = true := by decide
  obtain ⟨after, rfl, hends⟩ := hd
  have htext : d.chars ++ after = d.opening.toList ++ ' ' ::
      ((join [' '] d.words ++ gap d.spaceBefore) ++ (d.sign.comparisonText.toList ++
        (gap d.spaceAfter ++ (d.figure.chars ++ after)))) := by simp [chars, tail]
  rw [htext] at hc
  obtain ⟨h₁, hcolumn, h₄, h₅, after', hfigure, hends'⟩ := hc.cut (hword _ d.isOpening)
    (fun m hm => isMark_of_mem_column hm) (isMark_of_mem_sign d.sign) (hgap _)
    (beginsNumber_figure d.figure after)
  have h₂ : c.words = d.words := by rw [← words_eq c, hcolumn, words_eq d]
  have h₃ : c.spaceBefore = d.spaceBefore := by
    rw [h₂, List.append_cancel_left_eq] at hcolumn
    exact gap_inj hcolumn
  exact Condition.ext (String.toList_injective h₁) h₂ h₃ (comparisonText_inj h₄) (gap_inj h₅)
    (Figure.unique hfigure hends' hends)

theorem StandsAt.unique {c d : Condition} {start : Nat} (hc : c.StandsAt text start)
    (hd : d.StandsAt text start) : c = d := hc.2.unique hd.2

/-! ### What the phrase finds -/

theorem comparisonText_mem (sign : Sign Comparison) : sign.comparisonText ∈ comparisons := by
  rcases sign with (_ | _ | _ | _ | _ | _) | _ <;> decide

theorem exists_sign {s : String} (h : s ∈ comparisons) :
    ∃ sign : Sign Comparison, s = sign.comparisonText := by
  simp only [comparisons, List.mem_cons, List.not_mem_nil, or_false] at h
  rcases h with rfl | rfl | rfl | rfl | rfl | rfl | rfl
  · exact ⟨.symbol .greaterEqual, rfl⟩
  · exact ⟨.symbol .lessEqual, rfl⟩
  · exact ⟨.symbol .equal, rfl⟩
  · exact ⟨.symbol .notEqual, rfl⟩
  · exact ⟨.symbol .greater, rfl⟩
  · exact ⟨.symbol .less, rfl⟩
  · exact ⟨.single, rfl⟩

theorem spells_gap_iff (hspaces : ∀ b ∈ x, isBlank b = true → b = ' ') :
    (opt blank : Phrase).Spells x ↔ ∃ space, x = gap space := by
  constructor
  · rintro (⟨b, hb, rfl⟩ | rfl)
    · exact ⟨true, by rw [hspaces b (by simp) hb]; rfl⟩
    · exact ⟨false, rfl⟩
  · rintro ⟨_ | _, rfl⟩
    · exact .inr rfl
    · exact .inl ⟨' ', isBlank_space, rfl⟩

/-- Opening words begin with one of two letters. -/
theorem head_opening {s : String} (h : s ∈ openings) (rest : List Char) :
    ∃ m ∈ ['w', 'j'], (s.toList ++ rest).head? = some m := by
  have hall : ∀ s ∈ openings, ∃ m ∈ ['w', 'j'], s.toList.head? = some m := by decide
  obtain ⟨m, hm, hhead⟩ := hall s h
  exact ⟨m, hm, by rw [List.head?_append, hhead]; rfl⟩

theorem isWordChar_of_opening {s : String} (h : s ∈ openings) (rest : List Char) :
    (s.toList ++ rest).head?.any isWordChar = true := by
  have hall : ∀ m ∈ ['w', 'j'], isWordChar m = true := by decide
  obtain ⟨m, hm, hhead⟩ := head_opening h rest
  rw [hhead]
  exact hall m hm

/-- **What the phrase reads is a condition**, and the request is the one the condition is for. -/
theorem exists_of_mem_outcomes {c d : Pieces} (h : d ∈ filterCondition.outcomes c)
    (hspaces : ∀ b ∈ c.rest, isBlank b = true → b = ' ') :
    ∃ cond : Condition, (∀ m ∈ c.last, isWordChar m = false) ∧ cond.Begins c.rest ∧
      ∀ w : Wording, filterTrigger.occursIn w.lower = true →
        build .filterRows w d = some cond.request := by
  obtain ⟨parts⟩ := nonempty_parts h
  have hrest := parts.rest_eq
  -- The white space in the parts is white space of the text.
  rw [hrest] at hspaces
  simp only [List.forall_mem_append] at hspaces
  obtain ⟨-, hgapBlank, hcolumnBlank, hspaceBlank, -, hspaceBlank₂, -⟩ := hspaces
  obtain ⟨opening, hopening, hopeningEq⟩ :=
    spells_texts (by decide) (by decide) parts.spells_opening
  obtain ⟨b, hb, hgap⟩ := parts.spells_gap
  obtain rfl : b = ' ' := hgapBlank b (by simp [hgap]) hb
  obtain ⟨words, hne, hwords, hcolumn⟩ := (spells_phrase_iff hcolumnBlank).mp parts.spells_column
  obtain ⟨spaceBefore, hspace⟩ := (spells_gap_iff hspaceBlank).mp parts.spells_space
  obtain ⟨s, hs, hsign⟩ := spells_texts (by decide) (by decide) parts.spells_sign
  obtain ⟨sign, rfl⟩ := exists_sign hs
  obtain ⟨spaceAfter, hspace₂⟩ := (spells_gap_iff hspaceBlank₂).mp parts.spells_space₂
  obtain ⟨figure, hfigure⟩ := spells_numeral_iff.mp parts.spells_number
  rw [hopeningEq, hgap, hcolumn, hspace, hsign, hspace₂, hfigure] at hrest
  refine ⟨⟨opening, words, spaceBefore, sign, spaceAfter, figure, hopening, hne, hwords⟩, ?_,
    ⟨d.rest, ?_, parts.ends⟩, fun w htrigger => ?_⟩
  · refine (Cursor.atEdge_iff_of_head ?_).mp parts.atEdge
    rw [hrest]
    exact isWordChar_of_opening hopening _
  · simpa [chars, tail] using hrest
  · have hcolumnRead : titled d .column = .ofList (Text.titleCase (join [' '] words)) := by
      rw [← hcolumn, ← parts.read_column]
      rfl
    have hsymbol : symbol d =
        if sign.comparisonText = "=" then "==" else sign.comparisonText := by
      rw [symbol, parts.read_sign, hsign, String.ofList_toList]
    simp only [build, htrigger, if_true, hsymbol, Wish.ofSymbol?_comparison, parts.read_number,
      hfigure, figure.decimal?_eq, hcolumnRead]
    rfl

/-- The parts of a condition that are read without looking around. -/
def spelled : Phrase := all [texts openings, blank, phrase .column, opt blank,
  keep .comparison (texts comparisons), opt blank, keep .number numeral]

theorem spelled_chars (c : Condition) : spelled.Spells c.chars := by
  have hphrase : (phrase .column).Spells (join [' '] c.words) := by
    refine (spells_phrase_iff fun b hb hblank => ?_).mpr
      ⟨c.words, c.words_ne_nil, c.isNameWord, rfl⟩
    rcases mem_join hb with rfl | ⟨w, hw, hb⟩
    · rfl
    · obtain ⟨a, rest, rfl, ha, hrest⟩ := c.isNameWord w hw
      have hword : isWordChar b = true ∨ b = '-' :=
        (List.mem_cons.mp hb).elim (fun h => .inl (h ▸ ha)) (hrest b)
      rcases hword with hword | rfl
      · rw [isWordChar_of_isBlank hblank] at hword
        cases hword
      · exact absurd hblank (by decide)
  have hgap : ∀ space, (opt blank : Phrase).Spells (gap space) := fun space =>
    (spells_gap_iff (by cases space <;> simp [gap])).mpr ⟨space, rfl⟩
  refine ⟨c.opening.toList, ' ' :: c.tail,
    (spells_texts_iff (by decide) (by decide)).mpr ⟨_, c.isOpening, rfl⟩,
    ⟨[' '], c.tail, ⟨' ', isBlank_space, rfl⟩, ?_, rfl⟩, rfl⟩
  rw [tail, List.append_assoc]
  exact ⟨_, _, hphrase, ⟨_, _, hgap _, ⟨_, _,
    (spells_texts_iff (by decide) (by decide)).mpr ⟨_, comparisonText_mem c.sign, rfl⟩,
    ⟨_, _, hgap _, spells_numeral_iff.mpr ⟨c.figure, rfl⟩, rfl⟩, rfl⟩, rfl⟩, rfl⟩

/-- **A condition is read** where it stands. -/
theorem exists_mem_outcomes {c : Pieces} (hlast : ∀ m ∈ c.last, isWordChar m = false)
    {cond : Condition} (h : cond.Begins c.rest) : ∃ d, d ∈ filterCondition.outcomes c := by
  obtain ⟨after, hrest, hends⟩ := h
  obtain ⟨last, rest, kept⟩ := c
  obtain rfl : rest = cond.chars ++ after := hrest
  have hhead : (cond.chars ++ after).head?.any isWordChar = true := by
    rw [chars, List.append_assoc]
    exact isWordChar_of_opening cond.isOpening _
  have hedge : (⟨last, cond.chars ++ after, kept⟩ : Pieces).atEdge = true :=
    (Cursor.atEdge_iff_of_head hhead).mpr hlast
  obtain ⟨kept', hread⟩ := reads_of_spells (by decide) (spelled_chars cond) last after kept
  generalize hd : (⟨cond.chars.getLast?.or last, after, kept'⟩ : Pieces) = d at hread
  have hstop : numeralGoesOn.outcomes d = [] :=
    outcomes_numeralGoesOn_eq_nil_iff.mpr (by rw [← hd]; exact hends)
  have heq : filterCondition = all (edge :: ([texts openings, blank, phrase .column, opt blank,
    keep .comparison (texts comparisons), opt blank, keep .number numeral] ++
      [absent numeralGoesOn])) := rfl
  refine ⟨d, ?_⟩
  rw [heq, outcomes_all_cons]
  refine List.mem_flatMap.mpr ⟨⟨last, cond.chars ++ after, kept⟩, by simp [outcomes, hedge], ?_⟩
  rw [outcomes_all_append]
  exact List.mem_flatMap.mpr ⟨d, hread, by simp [all, outcomes, hstop]⟩

/-- A condition stands where the phrase is read. -/
theorem exists_standsAt_iff {start : Nat} (hspaces : ∀ b ∈ text, isBlank b = true → b = ' ') :
    (∃ c : Condition, c.StandsAt text start) ↔
      ∃ d, d ∈ filterCondition.outcomes (.atPlace text start) := by
  constructor
  · rintro ⟨c, hlast, hbegins⟩
    exact exists_mem_outcomes hlast hbegins
  · rintro ⟨d, hd⟩
    obtain ⟨c, hlast, hbegins, -⟩ :=
      exists_of_mem_outcomes hd fun b hb => hspaces b (List.mem_of_mem_drop hb)
    exact ⟨c, hlast, hbegins⟩

end Condition

/-! ### Words that make a condition a filter -/

def IsTrigger (word : List Char) : Prop :=
  (∃ s ∈ ["sirf", "keep", "only", "retain", "bas"], word = s.toList) ∨
    ∃ more, (∀ c ∈ more, isWordChar c = true) ∧ word = "rakh".toList ++ more

/-- One of the words stands in a text, as a whole. -/
def HasTrigger (text : List Char) : Prop := ∃ word, IsTrigger word ∧ IsWhole word text

/-- A word that makes a condition a filter. -/
def trigger : Phrase :=
  choice (texts ["sirf", "keep", "only", "retain", "bas"])
    (Pattern.text "rakh" ++ many true wordChar)

theorem spells_trigger_iff : trigger.Spells x ↔ IsTrigger x := by
  refine or_congr (spells_texts_iff (by decide) (by decide)) ⟨?_, ?_⟩
  · rintro ⟨a, more, ha, hmore, rfl⟩
    rw [spells_all_char (by decide) ha]
    exact ⟨more, spells_many_one_iff.mp hmore, rfl⟩
  · rintro ⟨more, hmore, rfl⟩
    exact ⟨_, more, spells_all_char_self (by decide), spells_many_one_iff.mpr hmore, rfl⟩

theorem isWordChar_of_mem_trigger {c : Char} {word : List Char} (h : IsTrigger word)
    (hc : c ∈ word) : isWordChar c = true := by
  rcases h with ⟨s, hs, rfl⟩ | ⟨more, hmore, rfl⟩
  · have hall : ∀ s ∈ ["sirf", "keep", "only", "retain", "bas"], ∀ c ∈ s.toList,
        isWordChar c = true := by decide
    exact hall s hs c hc
  · have hrakh : ∀ c ∈ "rakh".toList, isWordChar c = true := by decide
    exact (List.mem_append.mp hc).elim (hrakh c) (hmore c)

theorem filterTrigger_occursIn_iff : filterTrigger.occursIn text = true ↔ HasTrigger text := by
  have h : filterTrigger.occursIn text = true ↔ ∃ word, trigger.Spells word ∧ IsWhole word text :=
    occursIn_between_edges (by decide) (by decide)
      fun word hword c hc => isWordChar_of_mem_trigger (spells_trigger_iff.mp hword) hc
  exact h.trans (exists_congr fun word => and_congr_left fun _ => spells_trigger_iff)

/-! ### The rule -/

theorem recognizeAs_filterRows_eq (w : Wording) : recognizeAs .filterRows w =
    (filterCondition.search w.lower).bind (build .filterRows w) := by
  rw [recognizeAs, show phrases .filterRows = [filterCondition] from rfl, List.findSome?_singleton]

theorem occursIn_of_build {w : Wording} {c : Pieces} {r : Request}
    (h : build .filterRows w c = some r) : filterTrigger.occursIn w.lower = true := by
  cases built_of_build h with
  | filterRows trigger => exact trigger

theorem Condition.StandsAt.le_length {c : Condition} {start : Nat} (h : c.StandsAt text start) :
    start ≤ text.length := by
  by_contra hlt
  obtain ⟨-, after, hafter, -⟩ := h
  rw [List.drop_of_length_le (Nat.le_of_not_le hlt)] at hafter
  simp [chars] at hafter

/-- The filter that is recognised is the one that the leftmost condition is for. -/
theorem recognizeAs_filterRows_eq_some_iff {w : Wording}
    (hspaces : ∀ b ∈ w.lower, isBlank b = true → b = ' ') {r : Request} :
    recognizeAs .filterRows w = some r ↔ HasTrigger w.lower ∧
      ∃ start c, Condition.StandsAt c w.lower start ∧
        (∀ m < start, ∀ c' : Condition, ¬ c'.StandsAt w.lower m) ∧ r = c.request := by
  have hread : ∀ {start : Nat} {d : Pieces}, d ∈ filterCondition.outcomes (.atPlace w.lower start) →
      ∃ c : Condition, c.StandsAt w.lower start ∧
        (HasTrigger w.lower → build .filterRows w d = some c.request) := by
    intro start d hd
    obtain ⟨c, hlast, hbegins, hbuild⟩ :=
      Condition.exists_of_mem_outcomes hd fun b hb => hspaces b (List.mem_of_mem_drop hb)
    exact ⟨c, ⟨hlast, hbegins⟩, fun h => hbuild w (filterTrigger_occursIn_iff.mpr h)⟩
  rw [recognizeAs_filterRows_eq, Option.bind_eq_some_iff]
  constructor
  · rintro ⟨d, hsearch, hbuild⟩
    obtain ⟨start, -, hhead, hbefore⟩ := search_eq_some_iff.mp hsearch
    have htrigger := filterTrigger_occursIn_iff.mp (occursIn_of_build hbuild)
    obtain ⟨c, hc, hrequest⟩ := hread (List.mem_of_head? hhead)
    refine ⟨htrigger, start, c, hc, fun m hm c' hc' => ?_,
      Option.some.inj (hbuild.symm.trans (hrequest htrigger))⟩
    obtain ⟨e, he⟩ := (Condition.exists_standsAt_iff hspaces).mp ⟨c', hc'⟩
    rw [hbefore m hm] at he
    cases he
  · rintro ⟨htrigger, start, c, hc, hfirst, rfl⟩
    obtain ⟨e, he⟩ := (Condition.exists_standsAt_iff hspaces).mp ⟨c, hc⟩
    obtain ⟨d, hd⟩ := Option.isSome_iff_exists.mp (isSome_head?_iff.mpr ⟨e, he⟩)
    obtain ⟨c', hc', hrequest⟩ := hread (List.mem_of_head? hd)
    refine ⟨d, search_eq_some_iff.mpr ⟨start, hc.le_length, hd, fun m hm => ?_⟩, ?_⟩
    · by_contra hne
      obtain ⟨f, hf⟩ := List.exists_mem_of_ne_nil _ hne
      obtain ⟨c', hc'⟩ := (Condition.exists_standsAt_iff hspaces).mpr ⟨f, hf⟩
      exact hfirst m hm c' hc'
    · rw [hc.unique hc', hrequest htrigger]

/-- **What a filter is recognised from.** A filter is recognised in an instruction, as it is read,
exactly if one of the words that ask for one stands in it as a whole and a condition stands in it at
the start of a word. At one place there stands one condition at most, in one division into its
parts; and the filter is the one that the leftmost condition is for. -/
theorem recognizeAs_filterRows_spec (instruction : String) :
    ((recognizeAs .filterRows (.of instruction)).isSome = true ↔
      HasTrigger (Wording.of instruction).lower ∧
        ∃ start c, Condition.StandsAt c (Wording.of instruction).lower start) ∧
    (∀ start, {c : Condition | c.StandsAt (Wording.of instruction).lower start}.Subsingleton) ∧
    ∀ r, recognizeAs .filterRows (.of instruction) = some r ↔
      HasTrigger (Wording.of instruction).lower ∧
        ∃ start c, Condition.StandsAt c (Wording.of instruction).lower start ∧
          (∀ m < start, ∀ c' : Condition, ¬ c'.StandsAt (Wording.of instruction).lower m) ∧
          r = c.request := by
  have hspec := @recognizeAs_filterRows_eq_some_iff (.of instruction) fun b => eq_space_of_isBlank
  refine ⟨⟨fun h => ?_, ?_⟩, fun start c hc c' hc' => hc.unique hc', fun r => hspec⟩
  · obtain ⟨r, hr⟩ := Option.isSome_iff_exists.mp h
    obtain ⟨htrigger, start, c, hc, -⟩ := hspec.mp hr
    exact ⟨htrigger, start, c, hc⟩
  · rintro ⟨htrigger, hstands⟩
    classical
    -- The leftmost of the places where a condition stands.
    obtain ⟨c, hc⟩ := Nat.find_spec hstands
    have hfirst : ∀ m < Nat.find hstands, ∀ c' : Condition, ¬ c'.StandsAt _ m :=
      fun m hm c' hc' => Nat.find_min hstands hm ⟨c', hc'⟩
    rw [hspec.mpr ⟨htrigger, _, c, hc, hfirst, rfl⟩]
    rfl

end Instruction

end SheetCommand
