import SheetCommand.Proofs.Instruction.Figure
import SheetCommand.Proofs.Instruction.Quotes

/-!
# What a filter keeps

What the filter's phrase reads falls into its parts, and three of them are kept (`nonempty_parts`).
The comparison and the number can always be read: the phrase spells a comparison, and a numeral in
the digits of some script (`exists_build_filter`).
-/

namespace SheetCommand.Instruction

open Pattern

/-- **The number of a filter** is a numeral, commas aside. -/
theorem exists_numeral_of_spells {x : List Char} (h : (numeral : Phrase).Spells x) :
    ∃ negative digits fraction, x.filter (· ≠ ',') = Numeral.numeral negative digits fraction ∧
      digits ≠ [] ∧ (∀ c ∈ digits, Text.isDigit c = true) ∧
        ∀ c ∈ fraction, Text.isDigit c = true := by
  obtain ⟨f, rfl⟩ := spells_numeral_iff.mp h
  obtain ⟨hne, hdigits⟩ := f.isDigits_filter_whole
  exact ⟨f.negative, _, f.fraction, f.filter_chars, hne, hdigits, f.isFraction⟩

/-! ### What is read -/

def comparisons : List String := [">=", "<=", "==", "!=", ">", "<", "="]

theorem exists_comparison {s : String} (h : s ∈ comparisons) :
    ∃ op, Comparison.ofSymbol? (if s = "=" then "==" else s) = some op := by
  have hall : (comparisons.all fun s =>
      (Comparison.ofSymbol? (if s = "=" then "==" else s)).isSome) = true := by decide
  exact Option.isSome_iff_exists.mp (List.all_eq_true.mp hall s h)

theorem read_keep (c d : Pieces) (slot : Slot) :
    read (c.keep d slot) slot = Span.chars ⟨c.rest, d.rest⟩ := by
  simp [read, Cursor.piece?, Cursor.keep]

theorem read_keep_of_ne {c d : Pieces} {slot other : Slot} (h : other ≠ slot) :
    read (c.keep d slot) other = read d other := by
  simp [read, Cursor.piece?, Cursor.keep, List.lookup_cons, beq_false_of_ne h]

theorem read_congr {c d : Pieces} (h : c.kept = d.kept) (slot : Slot) :
    read c slot = read d slot := by
  simp only [read, Cursor.piece?, h]

/-! ### What the phrase reads -/

/-- The words that begin a condition. -/
def openings : List String :=
  ["where", "jahan", "jahaan", "jaha", "jisme", "jismein", "jinme", "jinmein"]

theorem numeralGoesOn_eq : numeralGoesOn =
    choice (one .word) (seq (one (.only ['.', ','])) (one .digit)) := rfl

/-- A number may end in front of what does not go on. -/
theorem outcomes_numeralGoesOn_eq_nil_iff {c : Pieces} :
    numeralGoesOn.outcomes c = [] ↔ goesOn c.rest = false := by
  rw [numeralGoesOn_eq]
  obtain ⟨last, rest, kept⟩ := c
  rcases rest with _ | ⟨a, _ | ⟨b, rest⟩⟩
  · simp [outcomes, goesOn]
  · by_cases ha : Text.isWordChar a = true <;> by_cases hmark : a = '.' ∨ a = ',' <;>
      simp_all [outcomes, goesOn, CharClass.accepts, Cursor.advance]
  · by_cases ha : Text.isWordChar a = true <;> by_cases hmark : a = '.' ∨ a = ',' <;>
      by_cases hb : Text.isDigit b = true <;>
        simp_all [outcomes, goesOn, CharClass.accepts, Cursor.advance]
    exact hmark.resolve_left

/-- The words of a filter's condition, one pattern after the other. -/
theorem filterCondition_eq : filterCondition = all [edge, texts openings, blank, phrase .column,
    opt blank, keep .comparison (texts comparisons), opt blank, keep .number numeral,
    absent numeralGoesOn] := rfl

/-- What the filter's phrase reads between two cursors, and what it keeps of it. -/
structure Parts (c d : Pieces) where
  (opening gap column space sign space₂ number : List Char)
  atEdge : c.atEdge = true
  rest_eq : c.rest =
    opening ++ (gap ++ (column ++ (space ++ (sign ++ (space₂ ++ (number ++ d.rest))))))
  spells_opening : (texts openings : Phrase).Spells opening
  spells_gap : (blank : Phrase).Spells gap
  spells_column : (phrase .column).Spells column
  spells_space : (opt blank : Phrase).Spells space
  spells_sign : (texts comparisons : Phrase).Spells sign
  spells_space₂ : (opt blank : Phrase).Spells space₂
  spells_number : (numeral : Phrase).Spells number
  ends : goesOn d.rest = false
  read_column : read d .column = column
  read_sign : read d .comparison = sign
  read_number : read d .number = number

theorem read_of_mem_keep {p : Phrase} {slot : Slot} {c d : Pieces} {x : List Char}
    (h : d ∈ (keep slot p).outcomes c) (hrest : c.rest = x ++ d.rest) : read d slot = x := by
  obtain ⟨e, -, rfl⟩ := List.mem_map.mp h
  rw [read_keep, hrest]
  exact span_chars_append x e.rest

theorem read_of_mem_other {p : Phrase} {slot other : Slot} {c d : Pieces}
    (hp : p.keepsNothing = true) (hne : other ≠ slot) (h : d ∈ (keep slot p).outcomes c) :
    read d other = read c other := by
  obtain ⟨e, he, rfl⟩ := List.mem_map.mp h
  rw [read_keep_of_ne hne, read_congr (kept_eq hp he)]

/-- **What the filter's phrase reads** falls into its parts. -/
theorem nonempty_parts {c d : Pieces} (h : d ∈ filterCondition.outcomes c) :
    Nonempty (Parts c d) := by
  rw [filterCondition_eq] at h
  simp only [outcomes_all_cons, List.mem_flatMap] at h
  obtain ⟨e₀, h₀, e₁, h₁, e₂, h₂, e₃, h₃, e₄, h₄, e₅, h₅, e₆, h₆, e₇, h₇, e₈, h₈, hend⟩ := h
  obtain rfl : d = e₈ := by simpa [all, outcomes] using hend
  obtain ⟨hedge, rfl⟩ : c.atEdge = true ∧ e₀ = c := by simpa [outcomes] using h₀
  obtain ⟨hstop, rfl⟩ : numeralGoesOn.outcomes e₇ = [] ∧ d = e₇ := by simpa [outcomes] using h₈
  obtain ⟨opening, hopening, r₁⟩ := exists_spells _ h₁
  obtain ⟨gap, hgap, r₂⟩ := exists_spells _ h₂
  obtain ⟨column, hcolumn, r₃⟩ := exists_spells _ h₃
  obtain ⟨space, hspace, r₄⟩ := exists_spells _ h₄
  obtain ⟨sign, hsign, r₅⟩ := exists_spells _ h₅
  obtain ⟨space₂, hspace₂, r₆⟩ := exists_spells _ h₆
  obtain ⟨number, hnumber, r₇⟩ := exists_spells _ h₇
  have k₄ := kept_eq (p := opt blank) (by decide) h₄
  have k₆ := kept_eq (p := opt blank) (by decide) h₆
  refine ⟨⟨opening, gap, column, space, sign, space₂, number, hedge, ?_, hopening, hgap, hcolumn,
    hspace, hsign, hspace₂, hnumber, outcomes_numeralGoesOn_eq_nil_iff.mp hstop, ?_, ?_, ?_⟩⟩
  · rw [r₁, r₂, r₃, r₄, r₅, r₆, r₇]
  · rw [read_of_mem_other (by decide) (by decide) h₇, read_congr k₆,
      read_of_mem_other (by decide) (by decide) h₅, read_congr k₄]
    exact read_of_mem_keep h₃ r₃
  · rw [read_of_mem_other (by decide) (by decide) h₇, read_congr k₆]
    exact read_of_mem_keep h₅ r₅
  · exact read_of_mem_keep h₇ r₇

/-- The comparison and the number that the filter's phrase has kept. -/
theorem read_filterCondition {c d : Pieces} (h : d ∈ filterCondition.outcomes c) :
    (∃ s ∈ comparisons, read d .comparison = s.toList) ∧
      (numeral : Phrase).Spells (read d .number) := by
  obtain ⟨parts⟩ := nonempty_parts h
  rw [parts.read_sign, parts.read_number]
  exact ⟨spells_texts (by decide) (by decide) parts.spells_sign, parts.spells_number⟩

/-! ### The request -/

/-- **A filter that is found can be built**, if the instruction has a word for it. -/
theorem exists_build_filter {c d : Pieces} (h : d ∈ filterCondition.outcomes c) {w : Wording}
    (htrigger : filterTrigger.occursIn w.lower = true) : ∃ r, build .filterRows w d = some r := by
  obtain ⟨⟨s, hs, hread⟩, hnumber⟩ := read_filterCondition h
  obtain ⟨op, hop⟩ := exists_comparison hs
  obtain ⟨negative, digits, fraction, hfilter, hne, hdigits, hfraction⟩ :=
    exists_numeral_of_spells hnumber
  have hvalue : Numeral.decimal? (Numeral.numeral negative digits fraction) = _ :=
    Numeral.decimal?_numeral hne hdigits hfraction
  rw [← hfilter] at hvalue
  simp only [build, htrigger, if_true, symbol, hread, String.ofList_toList, hop, hvalue]
  exact ⟨_, rfl⟩

end SheetCommand.Instruction
