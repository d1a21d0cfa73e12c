import SheetCommand.Proofs.Instruction.Range
import SheetCommand.Proofs.Instruction.WholeNames
import SheetCommand.Proofs.Text.Aligned

/-!
# Literals as they were typed

The phrases are read in an instruction in lower case, and a literal is then cut out of the
instruction as it was typed, at the places where it was found. The places agree unless an `İ` stands
in the instruction, and the quotes around a literal are the same in both texts; so a literal stands
between two equal quotes in the text that it is cut out of (`literals_quoted`). With an `İ` anywhere
in the instruction that text is the one in lower case.
-/

namespace SheetCommand

namespace Pattern

variable {σ : Type}

/-- What is read last is read by what is left of a sequence. -/
theorem exists_mem_after {p : Pattern σ} {c d : Cursor σ} (n : Nat) (h : d ∈ p.outcomes c) :
    ∃ e, d ∈ (p.after n).outcomes e ∧ e.rest <:+ c.rest := by
  induction n generalizing p c with
  | zero => exact ⟨c, h, List.suffix_rfl⟩
  | succ n ih =>
    cases p with
    | seq p q =>
      obtain ⟨e, he, hd⟩ := List.mem_flatMap.mp h
      obtain ⟨f, hf, hrest⟩ := ih hd
      exact ⟨f, hf, hrest.trans (rest_suffix he)⟩
    | _ => exact ⟨c, h, List.suffix_rfl⟩

end Pattern

namespace Instruction

open Pattern Text

/-! ### Literals between quotes -/

/-- The marks that a literal stands between. -/
inductive IsQuote : Char → Prop where
  | single : IsQuote '\''
  | double : IsQuote '"'

theorem IsQuote.low {q : Char} (h : IsQuote q) : 0 < q.toNat ∧ q.toNat < 0x41 := by
  cases h <;> decide

/-- Two literals stand in a text one behind the other, each directly between two equal quotes. -/
def StandQuoted (first second text : List Char) : Prop :=
  ∃ q q' before between after, IsQuote q ∧ IsQuote q' ∧
    text = before ++ q :: (first ++ q :: (between ++ q' :: (second ++ q' :: after)))

theorem mem_outcomes_char {q : Char} (hq : q ≠ ' ') {c d : Pieces}
    (h : d ∈ (char q : Phrase).outcomes c) : c.rest = q :: d.rest ∧ d.kept = c.kept := by
  rw [char, if_neg hq] at h
  obtain ⟨e, rest, hrest, he, rfl⟩ := mem_outcomes_one.mp h
  obtain rfl : e = q := by simpa [CharClass.accepts] using he
  exact ⟨hrest, rfl⟩

theorem exists_of_quotedBy {slot : Slot} {q : Char} (hq : q ≠ ' ') {c d : Pieces}
    (h : d ∈ (quotedBy slot q).outcomes c) : ∃ x, c.rest = q :: (x ++ q :: d.rest) ∧
      d.piece? slot = some ⟨x ++ q :: d.rest, q :: d.rest⟩ := by
  obtain ⟨e, he, hclose⟩ := List.mem_flatMap.mp h
  obtain ⟨f, hopen, hkeep⟩ := List.mem_flatMap.mp he
  obtain ⟨g, hg, rfl⟩ := List.mem_map.mp hkeep
  obtain ⟨hfirst, -⟩ := mem_outcomes_char hq hopen
  obtain ⟨hlast, hkept⟩ := mem_outcomes_char hq hclose
  obtain ⟨x, -, hx⟩ := exists_spells _ hg
  have hlast : g.rest = q :: d.rest := hlast
  refine ⟨x, by rw [hfirst, hx, hlast], ?_⟩
  rw [Cursor.piece?, hkept, Cursor.keep, List.lookup_cons_self, hx, hlast]

/-- **A quoted literal** is kept without its quotes. -/
theorem exists_of_quoted {slot : Slot} {c d : Pieces} (h : d ∈ (quoted slot).outcomes c) :
    ∃ q x, IsQuote q ∧ c.rest = q :: (x ++ q :: d.rest) ∧
      d.piece? slot = some ⟨x ++ q :: d.rest, q :: d.rest⟩ := by
  rcases List.mem_append.mp h with h | h
  · exact ⟨'\'', (exists_of_quotedBy (by decide) h).imp fun _ hx => ⟨.single, hx⟩⟩
  · exact ⟨'"', (exists_of_quotedBy (by decide) h).imp fun _ hx => ⟨.double, hx⟩⟩

/-- Each phrase of a conditional value has two literals. -/
theorem exists_two_quoted {p : Phrase} (h : p ∈ setValueWherePhrases) :
    ∃ m n, p.after m = quoted .literal ++ p.after (m + 1) ∧
      (p.after (m + 1)).after n = quoted .conditionLiteral ∧
      (p.after (m + 1)).slots.all (fun s => s.1 != .literal) = true := by
  have hphrases : setValueWherePhrases =
      [setValueWherePhrases.headD .empty, setValueWherePhrases.getLastD .empty] := rfl
  rw [hphrases, List.mem_pair] at h
  rcases h with rfl | rfl
  · exact ⟨8, 9, rfl, rfl, by decide⟩
  · exact ⟨5, 13, rfl, rfl, by decide⟩

/-- What stands in the text in which both literals are found, and where. -/
theorem exists_literals {p : Phrase} (hp : p ∈ setValueWherePhrases) {text : List Char} {d : Pieces}
    (h : p.search text = some d) : ∃ q q' x x' before between after, IsQuote q ∧ IsQuote q' ∧
      text = before ++ q :: (x ++ q :: (between ++ q' :: (x' ++ q' :: after))) ∧
      d.piece? .literal = some ⟨x ++ q :: (between ++ q' :: (x' ++ q' :: after)),
        q :: (between ++ q' :: (x' ++ q' :: after))⟩ ∧
      d.piece? .conditionLiteral = some ⟨x' ++ q' :: after, q' :: after⟩ := by
  obtain ⟨m, n, hfirst, hsecond, hslots⟩ := exists_two_quoted hp
  obtain ⟨c, -, htext, hd⟩ := exists_mem_outcomes_of_search h
  obtain ⟨e, he, hrest⟩ := exists_mem_after m hd
  rw [hfirst] at he
  obtain ⟨f, hf, hlater⟩ := List.mem_flatMap.mp he
  obtain ⟨q, x, hq, hx, hpiece⟩ := exists_of_quoted hf
  obtain ⟨g, hg, hbetween⟩ := exists_mem_after n hlater
  rw [hsecond] at hg
  obtain ⟨q', x', hq', hx', hpiece'⟩ := exists_of_quoted hg
  obtain ⟨before, hbefore⟩ := hrest.trans htext
  obtain ⟨between, hbetween⟩ := hbetween
  rw [hx'] at hbetween
  refine ⟨q, q', x, x', before, between, d.rest, hq, hq', ?_, ?_, hpiece'⟩
  · rw [← hbefore, hx, hbetween]
  · rw [piece?_of_mem_outcomes hslots hlater, hpiece, hbetween]

/-! ### The text that a literal is cut out of -/

/-- The instruction as it was typed, or in lower case if the places in the two do not agree. -/
def source (w : Wording) : List Char := if w.aligned then w.typed else w.lower

/-- **The two forms of an instruction agree** if no `İ` stands in it. -/
theorem aligned_iff (text : String) :
    (Wording.of text).aligned = true ↔ 'İ' ∉ (normalizeInstruction text).toList := by
  have hlength := length_lower (collapse text.toList)
  rw [← List.count_eq_zero, normalizeInstruction, String.toList_ofList, Wording.aligned, beq_iff_eq]
  change (collapse text.toList).length = (lower (collapse text.toList)).length ↔ _
  omega

theorem source_of (text : String) : source (.of text) =
    if 'İ' ∈ (normalizeInstruction text).toList then lower (normalizeInstruction text).toList
    else (normalizeInstruction text).toList := by
  rw [source]
  by_cases h : 'İ' ∈ (normalizeInstruction text).toList
  · rw [if_neg (mt (aligned_iff text).mp (not_not.mpr h)), if_pos h, normalizeInstruction,
      String.toList_ofList]
    rfl
  · rw [if_pos ((aligned_iff text).mpr h), if_neg h, normalizeInstruction, String.toList_ofList]
    rfl

theorem stays_source (text : String) :
    List.Forall₂ Stays (source (.of text)) (Wording.of text).lower := by
  have hlower : (Wording.of text).lower = lower (normalizeInstruction text).toList := by
    rw [normalizeInstruction, String.toList_ofList]
    rfl
  rw [source_of, hlower]
  split
  · exact stays_refl _
  · exact stays_lower ‹_›

theorem charsIn_self {span : Span} {text : List Char} (h : span.fromStart <:+ text) :
    span.charsIn text = span.chars := by
  obtain ⟨front, rfl⟩ := h
  simp [Span.charsIn, Span.chars]

/-- A literal is cut out of that text. -/
theorem literal_eq {w : Wording} {c : Pieces} {slot : Slot} {span : Span}
    (hpiece : c.piece? slot = some span) (hspan : span.fromStart <:+ w.lower) :
    literal w c slot = .ofList (span.charsIn (source w)) := by
  rw [literal, hpiece, source]
  split
  · rfl
  · simp [charsIn_self hspan]

/-- What is quoted in lower case is quoted in a text beside it, and there a piece of the one is cut
out as what is quoted in the other. -/
theorem exists_quoted {q : Char} (hq : IsQuote q) {typed before x after : List Char}
    (h : List.Forall₂ Stays typed (before ++ q :: (x ++ q :: after))) :
    ∃ before' y after', typed = before' ++ q :: (y ++ q :: after') ∧
      List.Forall₂ Stays after' after ∧
      ∀ front, Span.charsIn ⟨x ++ q :: after, q :: after⟩ (front ++ typed) = y := by
  obtain ⟨before', rest, rfl, -, hrest⟩ := exists_mark hq.low h
  obtain ⟨y, after', rfl, hy, hafter⟩ := exists_mark hq.low hrest
  refine ⟨before', y, after', rfl, hafter, fun front => ?_⟩
  have hrest : (q :: after').length = (q :: after).length := congrArg (· + 1) hafter.length_eq
  have hcut := span_charsIn_append hy hrest (front ++ before' ++ [q])
  rwa [List.append_assoc, List.append_assoc] at hcut

/-- The two literals of a conditional value stand in the text that they are cut out of. -/
theorem standQuoted_source {p : Phrase} (hp : p ∈ setValueWherePhrases) {instruction : String}
    {c : Pieces} (hc : p.search (Wording.of instruction).lower = some c) :
    StandQuoted (literal (.of instruction) c .literal).toList
      (literal (.of instruction) c .conditionLiteral).toList (source (.of instruction)) := by
  obtain ⟨q, q', x, x', before, between, after, hq, hq', htext, hfirst, hsecond⟩ :=
    exists_literals hp hc
  have hstays := stays_source instruction
  rw [htext] at hstays
  obtain ⟨before', y, rest, hsource, hrest, hvalue⟩ := exists_quoted hq hstays
  obtain ⟨between', y', after', rfl, -, hcondition⟩ := exists_quoted hq' hrest
  have hvalue := hvalue []
  have hcondition := hcondition (before' ++ q :: (y ++ [q]))
  rw [literal_eq hfirst ⟨before ++ [q], by simp [htext]⟩,
    literal_eq hsecond ⟨before ++ q :: (x ++ q :: (between ++ [q'])), by simp [htext]⟩,
    String.toList_ofList, String.toList_ofList]
  refine ⟨q, q', before', between', after', hq, hq', ?_⟩
  rw [List.append_assoc, List.cons_append, List.append_assoc, List.singleton_append,
    ← hsource] at hcondition
  rw [List.nil_append] at hvalue
  rw [hvalue, hcondition, hsource]

/-- **The literals of a conditional value** stand in the instruction as they were typed, the value
first, each between two equal quotes; if an `İ` stands in the instruction, so they stand in its lower
case. -/
theorem literals_quoted {instruction : String} {sheetNames : List String} {sheet : Option String}
    {target : String} {op : Equality} {condition conditionValue value : String}
    (h : .edit sheet (.setValueWhere target op condition conditionValue value) ∈
      interpret instruction sheetNames) :
    let normalized := (normalizeInstruction instruction).toList
    StandQuoted value.toList conditionValue.toList
      (if 'İ' ∈ normalized then lower normalized else normalized) := by
  intro normalized
  obtain ⟨⟨kind, p⟩, hx, c, r, hc, hbuild, haction⟩ := exists_build_of_mem_interpret h
  have hkind := kind_of_build hbuild (mentionedSheet (Wording.of instruction).lower sheetNames)
  rw [← haction] at hkind
  obtain rfl : ActionKind.setValueWhere = kind := hkind
  obtain ⟨op, -, hr⟩ := Option.bind_eq_some_iff.mp hbuild
  cases hr
  cases haction
  have hquoted := standQuoted_source (mem_phrases_of_mem_ranked hx) hc
  rwa [source_of] at hquoted

theorem literals_quoted_review :
    let instruction := "Status ko 'In Review' set karo jahan Type == \"aB\""
    .edit none (.setValueWhere "Status" .equal "Type" "aB" "In Review") ∈
        interpret instruction [] ∧
      StandQuoted "In Review".toList "aB".toList (normalizeInstruction instruction).toList := by
  intro instruction
  have h : .edit none (.setValueWhere "Status" .equal "Type" "aB" "In Review") ∈
      interpret instruction [] := by decide +kernel
  have hdotted : 'İ' ∉ (normalizeInstruction instruction).toList := by decide +kernel
  have hquoted := literals_quoted h
  dsimp only at hquoted
  rw [if_neg hdotted] at hquoted
  exact ⟨h, hquoted⟩

/-- With an `İ` in the condition the value is in lower case, though it was typed with a capital. -/
theorem not_quoted_beside_dotted :
    let instruction := "set status to 'Done' where type == 'İ'"
    .edit none (.setValueWhere "Status" .equal "Type" "i\u0307" "done") ∈
        interpret instruction [] ∧
      ¬ ∃ q before after, IsQuote q ∧ (normalizeInstruction instruction).toList =
        before ++ q :: ("done".toList ++ q :: after) := by
  intro instruction
  refine ⟨by decide +kernel, ?_⟩
  rintro ⟨q, before, after, -, htext⟩
  have hmem : 'd' ∈ (normalizeInstruction instruction).toList := by simp [htext]
  exact absurd hmem (by decide +kernel)

end Instruction

end SheetCommand
