import SheetCommand.Proofs.Instruction.Blind
import SheetCommand.Proofs.Instruction.Form
import SheetCommand.Proofs.Instruction.Spelling

/-!
# Quoted literals

The phrases are tried on the whole instruction and know nothing of quotes, so one of them may be
found in a literal. Most cannot: they have to stop before the first quote or go on to the end. Three
can (`insiders`): what names a sheet anew, what names a column anew, each up to a closing verb, and
the condition of a filter. None of the three can read a quote, so each is found in a quoted
instruction only between two quotes.
-/

namespace SheetCommand.Instruction

open Pattern

/-! ### What is found inside quotes -/

/-- A closing verb that is a word of its own. -/
def closing : Phrase := blank ++ texts closingVerbs ++ edge

/-- `Sales sheet ka naam Revenue`. -/
def sheetNamed : List Phrase :=
  [phraseWithout .old columnWords, blank, sheetWord, blank, opt (texts ["ka ", "ke "]), nameWord,
    blank, phraseWithout .new (columnWords ++ verbWords)]

/-- `Price column ka naam Cost`. -/
def columnNamed : List Phrase :=
  [phrase .old, blank, columnWord, blank, opt (texts ["ka ", "ke "]), nameWord, blank,
    phraseWithout .new verbWords]

/-- `sheet me`, at the end of a scope. -/
def located : List Phrase :=
  [edge, sheetWord, edge, opt (blank ++ texts ["me", "mein", "main", "par", "pe", "ke andar"]),
    oneOrMore true (one (.either .blank (.only [',', ':'])))]

/-- `Sales sheet ka naam Revenue rakho`. -/
def sheetNaming : Phrase := all (sheetNamed ++ [closing])

/-- `sheet me Price column ka naam Cost rakho`. -/
def columnNaming : Phrase := all (located ++ (columnNamed ++ [closing]))

/-- `where Quantity > 10`. -/
def filterCondition : Phrase :=
  all [edge,
    texts ["where", "jahan", "jahaan", "jaha", "jisme", "jismein", "jinme", "jinmein"], blank,
    phrase .column, opt blank, keep .comparison (texts [">=", "<=", "==", "!=", ">", "<", "="]),
    opt blank, keep .number numeral, absent numeralGoesOn]

def marks : Phrase := many true (one (.either .blank (.only ['.', '!', '?'])))

theorem ranked_sheetNamed :
    ranked[0]? = some (.renameSheet, all (sheetNamed ++ [choice verbStop empty, ending])) := rfl

theorem ranked_columnNamed :
    ranked[5]? = some (.renameColumn,
      all (scope :: (columnNamed ++ [choice verbStop tail, ending]))) := rfl

theorem ranked_filterCondition : ranked[15]? = some (.filterRows, filterCondition) := rfl

/-- What may be found inside quotes though it begins another kind of request. -/
def insiders : List Phrase := [sheetNaming, columnNaming, filterCondition]

theorem insiders_blind : (insiders.all fun p => p.isBlind '\'') = true := by decide +kernel

/-- A blind phrase leaves a quote at the end of the text unread. -/
theorem rest_ne_nil_of_blind {p : Phrase} (hp : p.isBlind '\'' = true) {last : Option Char}
    {text : List Char} {d : Pieces} (hd : d ∈ p.outcomes ⟨last, text ++ ['\''], []⟩) :
    d.rest ≠ [] := by
  have hback : Marked '\'' none ['\''] := ⟨by decide, by simp, by simp⟩
  have hout := outcomes_surround hback hp ⟨last, text, []⟩
  simp only [Cursor.surround, Option.or_none, List.map_nil] at hout
  rw [hout] at hd
  obtain ⟨e, -, rfl⟩ := List.mem_map.mp hd
  simp

/-- In front of a quote at the end a phrase can end only by its closing verb. -/
theorem exists_closing {ps : List Phrase} {other : Phrase}
    (hblind : (all (ps ++ [other, marks])).isBlind '\'' = true) {last : Option Char}
    {text : List Char} {d : Pieces}
    (hd : d ∈ (all (ps ++ [choice verbStop other, ending])).outcomes
      ⟨last, text ++ ['\''], []⟩) :
    ∃ e, e ∈ (all (ps ++ [closing])).outcomes ⟨last, text ++ ['\''], []⟩ := by
  rw [outcomes_all_append] at hd
  obtain ⟨e, he, hd⟩ := List.mem_flatMap.mp hd
  obtain ⟨f, hf, hd⟩ := List.mem_flatMap.mp hd
  rcases List.mem_append.mp hf with hf | hf
  · obtain ⟨g, hg, -⟩ := List.mem_flatMap.mp hf
    exact ⟨g, by rw [outcomes_all_append]; exact List.mem_flatMap.mpr ⟨e, he, hg⟩⟩
  · obtain ⟨g, hg, hstop⟩ := List.mem_flatMap.mp hd
    have hrest : g.rest = [] := by
      unfold outcomes at hstop
      split at hstop
      · exact List.isEmpty_iff.mp ‹_›
      · cases hstop
    have hmem : g ∈ (all (ps ++ [other, marks])).outcomes ⟨last, text ++ ['\''], []⟩ := by
      rw [outcomes_all_append]
      exact List.mem_flatMap.mpr ⟨e, he, List.mem_flatMap.mpr ⟨f, hf, hg⟩⟩
    exact absurd hrest (rest_ne_nil_of_blind hblind hmem)

/-- A phrase that reads something begins in front of the last character. -/
theorem exists_rest {p : Phrase} (hp : p.eats = true) {read rest text : List Char} {q : Char}
    (htext : text ++ [q] = read ++ rest) {d : Pieces}
    (hd : d ∈ p.outcomes ⟨read.getLast?, rest, []⟩) : ∃ rest', rest = rest' ++ [q] := by
  have hlt := length_lt_of_eats hp hd
  rcases List.append_eq_append_iff.mp htext with ⟨last, -, hq⟩ | ⟨rest', -, hrest⟩
  · cases last with
    | nil => exact ⟨[], hq.symm⟩
    | cons _ last =>
      obtain ⟨-, rfl⟩ := List.append_eq_nil_iff.mp (List.cons.inj hq).2.symm
      exact absurd hlt (Nat.not_lt_zero _)
  · exact ⟨rest', hrest⟩

theorem sheetNaming_of_found {text : List Char}
    (h : (all (sheetNamed ++ [choice verbStop empty, ending])).occursIn (text ++ ['\'']) = true) :
    sheetNaming.occursIn (text ++ ['\'']) = true := by
  obtain ⟨read, rest, htext, d, hd⟩ := occursIn_iff.mp h
  obtain ⟨rest, rfl⟩ := exists_rest (by decide +kernel) htext hd
  exact occursIn_iff.mpr ⟨read, _, htext, exists_closing (by decide +kernel) hd⟩

/-- A scope begins at the start of the text, and ends in `sheet me` or is nothing. -/
theorem scope_cases {read rest : List Char} {e : Pieces}
    (h : e ∈ scope.outcomes ⟨read.getLast?, rest, []⟩) : read = [] ∧
      (e ∈ (all (many false anyChar :: located)).outcomes ⟨none, rest, []⟩ ∨
        e = ⟨none, rest, []⟩) := by
  obtain ⟨c, hc, he⟩ := List.mem_flatMap.mp h
  obtain ⟨hstart, rfl⟩ : read.getLast? = none ∧ c = ⟨read.getLast?, rest, []⟩ := by
    unfold outcomes at hc
    split at hc
    · exact ⟨Option.isNone_iff_eq_none.mp ‹_›, List.mem_singleton.mp hc⟩
    · cases hc
  obtain rfl : read = [] := List.getLast?_eq_none_iff.mp hstart
  exact ⟨rfl, (List.mem_append.mp he).imp_right List.mem_singleton.mp⟩

/-- Behind a scope a column is named anew where `sheet me` begins. -/
theorem columnNaming_of_located {text : List Char} {e d : Pieces}
    (he : e ∈ (all (many false anyChar :: located)).outcomes ⟨none, text ++ ['\''], []⟩)
    (hnamed : d ∈ (all (columnNamed ++ [choice verbStop tail, ending])).outcomes e) :
    columnNaming.occursIn (text ++ ['\'']) = true := by
  rw [outcomes_all_cons] at he
  obtain ⟨g, hg, he⟩ := List.mem_flatMap.mp he
  obtain ⟨skipped, htext, hlast, hkept⟩ := skips_of_mem_many hg
  obtain ⟨last, rest, kept⟩ := g
  obtain rfl : kept = [] := hkept
  obtain rfl : last = skipped.getLast? := by simpa using hlast
  have hd : d ∈ (all (located ++ columnNamed ++ [choice verbStop tail, ending])).outcomes
      ⟨skipped.getLast?, rest, []⟩ := by
    rw [List.append_assoc, outcomes_all_append]
    exact List.mem_flatMap.mpr ⟨e, he, hnamed⟩
  obtain ⟨rest, rfl⟩ := exists_rest (by decide +kernel) htext hd
  have hclosing := exists_closing (by decide +kernel) hd
  rw [List.append_assoc] at hclosing
  exact occursIn_iff.mpr ⟨skipped, _, htext, hclosing⟩

theorem columnNaming_of_found {text : List Char}
    (hfirst : (all (start :: columnNamed)).occursIn (text ++ ['\'']) = false)
    (h : (all (scope :: (columnNamed ++ [choice verbStop tail, ending]))).occursIn
      (text ++ ['\'']) = true) :
    columnNaming.occursIn (text ++ ['\'']) = true := by
  obtain ⟨read, rest, htext, d, hd⟩ := occursIn_iff.mp h
  rw [outcomes_all_cons] at hd
  obtain ⟨e, hscope, hnamed⟩ := List.mem_flatMap.mp hd
  obtain ⟨rfl, he⟩ := scope_cases hscope
  obtain rfl : text ++ ['\''] = rest := htext
  rcases he with he | rfl
  · exact columnNaming_of_located he hnamed
  · rw [outcomes_all_append] at hnamed
    obtain ⟨f, hf, -⟩ := List.mem_flatMap.mp hnamed
    have hoccurs : (all (start :: columnNamed)).occursIn (text ++ ['\'']) = true := by
      refine occursIn_iff.mpr ⟨[], _, rfl, f, ?_⟩
      rw [outcomes_all_cons]
      exact List.mem_flatMap.mpr ⟨_, List.mem_singleton_self _, hf⟩
    rw [hfirst] at hoccurs
    cases hoccurs

theorem isLine_of_not_mem {text : List Char} (h : '\n' ∉ text) :
    ∀ c ∈ text, (CharClass.allBut '\n').accepts c = true := by
  intro c hc
  simp only [CharClass.accepts, bne_iff_ne]
  rintro rfl
  exact h hc

/-- Behind its closing verb a phrase may read everything that is left of a line. -/
theorem exists_ending {ps : List Phrase} {other : Phrase} {last : Option Char} {text : List Char}
    (htext : '\n' ∉ text) {e : Pieces}
    (he : e ∈ (all (ps ++ [closing])).outcomes ⟨last, text, []⟩) :
    ∃ d, d ∈ (all (ps ++ [choice verbStop other, ending])).outcomes ⟨last, text, []⟩ := by
  obtain ⟨x, -, hrest⟩ := exists_spells _ he
  obtain rfl : text = x ++ e.rest := hrest
  have hline := isLine_of_not_mem fun hm => htext (List.mem_append_right x hm)
  have hend : (⟨e.rest.getLast?.or e.last, [], e.kept⟩ : Pieces) ∈
      (many true anyChar).outcomes ⟨e.last, e.rest ++ [], e.kept⟩ :=
    mem_many_of_append hline [] e.last e.kept
  rw [List.append_nil] at hend
  generalize hg : (⟨e.rest.getLast?.or e.last, [], e.kept⟩ : Pieces) = g at hend
  have hnil : g.rest = [] := by rw [← hg]
  have hmarks : g ∈ marks.outcomes g := by
    change g ∈ rounds true _ g.rest g
    rw [hnil]
    exact List.mem_singleton_self g
  rw [outcomes_all_append] at he ⊢
  obtain ⟨f, hf, he⟩ := List.mem_flatMap.mp he
  refine ⟨g, List.mem_flatMap.mpr ⟨f, hf, List.mem_flatMap.mpr ⟨g, ?_, ?_⟩⟩⟩
  · exact List.mem_append_left _ (List.mem_flatMap.mpr ⟨e, he, hend⟩)
  · exact List.mem_flatMap.mpr ⟨g, hmarks, by simp [outcomes, hnil]⟩

theorem found_of_sheetNaming {text : List Char} (hline : '\n' ∉ text)
    (h : sheetNaming.occursIn text = true) :
    (all (sheetNamed ++ [choice verbStop empty, ending])).occursIn text = true := by
  obtain ⟨read, rest, rfl, e, he⟩ := occursIn_iff.mp h
  have hrest : '\n' ∉ rest := fun hm => hline (List.mem_append_right read hm)
  exact occursIn_iff.mpr ⟨read, rest, rfl, exists_ending hrest he⟩

theorem found_of_columnNaming {text : List Char} (hline : '\n' ∉ text)
    (h : columnNaming.occursIn text = true) :
    (all (scope :: (columnNamed ++ [choice verbStop tail, ending]))).occursIn text = true := by
  obtain ⟨read, rest, rfl, e, he⟩ := occursIn_iff.mp h
  have hread := isLine_of_not_mem fun hm => hline (List.mem_append_left rest hm)
  have hrest : '\n' ∉ rest := fun hm => hline (List.mem_append_right read hm)
  rw [columnNaming, ← List.append_assoc] at he
  obtain ⟨d, hd⟩ := @exists_ending _ tail _ _ hrest _ he
  rw [List.append_assoc, outcomes_all_append] at hd
  obtain ⟨f, hf, hd⟩ := List.mem_flatMap.mp hd
  -- The scope reads everything up to the locator.
  have hskip : (⟨read.getLast?.or none, rest, []⟩ : Pieces) ∈
      (many false anyChar).outcomes ⟨none, read ++ rest, []⟩ :=
    mem_many_of_append hread rest none []
  rw [Option.or_none] at hskip
  have hscope : f ∈ scope.outcomes ⟨none, read ++ rest, []⟩ := by
    refine List.mem_flatMap.mpr ⟨_, List.mem_singleton_self _, List.mem_append_left _ ?_⟩
    change f ∈ (all (many false anyChar :: located)).outcomes _
    rw [outcomes_all_cons]
    exact List.mem_flatMap.mpr ⟨_, hskip, hf⟩
  refine occursIn_iff.mpr ⟨[], _, rfl, d, ?_⟩
  rw [outcomes_all_cons]
  exact List.mem_flatMap.mpr ⟨f, hscope, hd⟩

end SheetCommand.Instruction
