import SheetCommand.Proofs.Instruction.Bounds
import SheetCommand.Proofs.Instruction.Greedy
import SheetCommand.Proofs.Instruction.Names

/-!
# Names are whole words

Every name in an action is the title of a piece of the instruction, and with one exception this
piece is whole: no word character stands next to it. For most phrases that is told by their bounds.
The condition of an assignment may be followed directly by a word for a column, so its end is told
by the word being read as far as it goes. The exception is the phrase that is tried first. Nothing
stands in front of the old name of the sheet, so where that name would begin with a word for a
column the phrase is found one letter later, inside the word (`mem_names_spec`).
-/

namespace SheetCommand

open Text

variable {text : List Char}

namespace Pattern

variable {σ : Type}

/-- What is left of a sequence behind some of its parts. -/
def after : Nat → Pattern σ → Pattern σ
  | n + 1, seq _ q => q.after n
  | _, p => p

theorem exists_head?_after {p : Pattern σ} {c d : Cursor σ} (n : Nat)
    (h : (p.outcomes c).head? = some d) : ∃ e, ((p.after n).outcomes e).head? = some d := by
  induction n generalizing p c with
  | zero => exact ⟨c, h⟩
  | succ n ih =>
    cases p with
    | seq p q =>
      rw [outcomes, List.head?_flatMap] at h
      obtain ⟨e, -, he⟩ := List.exists_of_findSome?_eq_some h
      exact ih he
    | _ => exact ⟨c, h⟩

end Pattern

namespace Instruction

open Pattern

/-! ### Pieces and bounds -/

/-- A phrase keeps under a name only pieces that are apart at both ends. -/
def keepsWhole (slot : Slot) (p : Phrase) : Bool :=
  (p.bounds false false).all fun b => b.slot != slot || (b.front && b.back)

theorem isWhole_of_keepsWhole {slot : Slot} {p : Phrase} (hp : keepsWhole slot p = true)
    {d : Pieces} (h : p.search text = some d) {span : Span} (hslot : d.piece? slot = some span) :
    IsWhole span.chars text := by
  obtain ⟨b, hb, hholds⟩ := exists_bound_of_search h hslot
  have hwhole := List.all_eq_true.mp hp b hb
  rw [hholds.slot, bne_self_eq_false, Bool.false_or, Bool.and_eq_true] at hwhole
  exact hholds.isWhole hwhole.1 hwhole.2

/-! ### A name that is begun in front -/

/-- A word with word characters in front of it is read together with them. -/
theorem exists_nameChars_of_begun_before {front : List Char} {c c' d : Pieces}
    (hd : d ∈ nameChars.outcomes c) (hc : c'.rest = front ++ c.rest) (hne : front ≠ [])
    (hfront : ∀ m ∈ front, isWordChar m = true) : ∃ e ∈ nameChars.outcomes c', Same d e := by
  obtain ⟨x, hx, hrest⟩ := exists_spells _ hd
  have hlast := last_eq_of_mem_outcomes hd hrest
  obtain ⟨m, more, rfl, hm, hmore⟩ := spells_nameChars_iff.mp hx
  obtain ⟨f, front, rfl⟩ := List.exists_cons_of_ne_nil hne
  obtain ⟨hf, hfront⟩ := List.forall_mem_cons.mp hfront
  have hspells : nameChars.Spells (f :: (front ++ m :: more)) := by
    refine spells_nameChars_iff.mpr ⟨f, _, rfl, hf, ?_⟩
    simp only [List.forall_mem_append, List.forall_mem_cons]
    exact ⟨fun x hx => .inl (hfront x hx), .inl hm, hmore⟩
  obtain ⟨kept, he⟩ := reads_of_spells rfl hspells c'.last d.rest c'.kept
  have htext : f :: (front ++ m :: more) ++ d.rest = c'.rest := by
    rw [hc, hrest]
    simp
  rw [htext] at he
  refine ⟨_, he, ?_, rfl⟩
  rw [hlast, ← List.cons_append, getLast?_append_or, List.getLast?_cons]
  rfl

/-- A word character in front of a phrase belongs to its first word, unless that would be an
excluded one. -/
theorem exists_of_begun_before {slot : Slot} {excluded : List String} {last before : Option Char}
    {front rest : List Char} {d : Pieces}
    (hd : d ∈ (phraseWithout slot excluded).outcomes ⟨last, rest, []⟩) (hne : front ≠ [])
    (hfront : ∀ m ∈ front, isWordChar m = true)
    (hallowed : (texts excluded ++ edge : Phrase).outcomes ⟨before, front ++ rest, []⟩ = []) :
    ∃ e ∈ (phraseWithout slot excluded).outcomes ⟨before, front ++ rest, []⟩, Same d e := by
  obtain ⟨u, hu, rfl⟩ := List.mem_map.mp hd
  obtain ⟨v, hv, hu⟩ := List.mem_flatMap.mp hu
  obtain ⟨c, hc, hv⟩ := List.mem_flatMap.mp hv
  obtain ⟨-, rfl⟩ : _ ∧ c = ⟨last, rest, []⟩ := by simpa [outcomes] using hc
  let b : Pieces := ⟨before, front ++ rest, []⟩
  obtain ⟨v', hv', hsame⟩ : ∃ v' ∈ nameChars.outcomes b, Same v v' :=
    exists_nameChars_of_begun_before hv rfl hne hfront
  obtain ⟨u', hu', hsame⟩ := exists_same hsame hu
  have habsent : b ∈ (absent (texts excluded ++ edge) : Phrase).outcomes b := by
    simp [outcomes, b, hallowed]
  have hword := List.mem_flatMap.mpr ⟨_, habsent, hv'⟩
  exact ⟨_, List.mem_map.mpr ⟨u', List.mem_flatMap.mpr ⟨v', hword, hu'⟩, rfl⟩, hsame⟩

theorem isWordChar_of_mem_columnWord :
    ∀ word ∈ columnWords, ∀ m ∈ word.toList, isWordChar m = true := by decide

theorem spells_columnWord {x : List Char} (hx : columnWord.Spells x) :
    ∃ word ∈ columnWords, x = word.toList :=
  (spells_texts_iff (by decide) (by decide)).mp hx

/-- The text begins with a word for a column. -/
def BeginsWithColumn (text : List Char) : Prop :=
  ∃ word ∈ columnWords, ∃ after, text = word.toList ++ after ∧ BeginsApart after

theorem beginsWithColumn_of_outcomes {c : Pieces}
    (h : (texts columnWords ++ edge : Phrase).outcomes c ≠ []) : BeginsWithColumn c.rest := by
  obtain ⟨d, hd⟩ := List.exists_mem_of_ne_nil _ h
  obtain ⟨e, he, hd⟩ := List.mem_flatMap.mp hd
  obtain ⟨hedge, rfl⟩ := mem_outcomes_edge.mp hd
  obtain ⟨x, hx, hrest⟩ := exists_spells _ he
  obtain ⟨word, hword, rfl⟩ := spells_columnWord hx
  have hne : ∀ word ∈ columnWords, word.toList ≠ [] := by decide
  refine ⟨word, hword, d.rest, hrest, (Cursor.atEdge_iff_of_last ?_).mp hedge⟩
  rw [last_eq_of_mem_outcomes he hrest]
  exact any_getLast?_of_forall (hne word hword) (isWordChar_of_mem_columnWord word hword) _

/-- No word for a column begins with the second letter of one. -/
theorem not_beginsWithColumn_cons {l m : Char} {text : List Char}
    (h : BeginsWithColumn (m :: text)) : ¬ BeginsWithColumn (l :: m :: text) := by
  rintro ⟨other, hother, after', htext', -⟩
  obtain ⟨word, hword, after, htext, -⟩ := h
  have hlong : ∀ word ∈ columnWords, 1 < word.toList.length := by decide
  have hletters : ∀ word ∈ columnWords, ∀ other ∈ columnWords,
      word.toList[0]? ≠ other.toList[1]? := by decide
  have hfirst : word.toList[0]? = some m := by
    have hget := congrArg (·[0]?) htext
    rw [List.getElem?_append_left (Nat.zero_lt_of_lt (hlong word hword))] at hget
    exact hget.symm
  have hsecond : other.toList[1]? = some m := by
    have hget := congrArg (·[1]?) htext'
    rw [List.getElem?_append_left (hlong other hother)] at hget
    exact hget.symm
  exact hletters word hword other hother (hfirst.trans hsecond.symm)

/-- A piece behind the first letter of a whole one that begins with a word for a column. -/
def IsBeheaded (piece text : List Char) : Prop :=
  ∃ m word more, word ∈ columnWords ∧ m :: piece = word.toList ++ more ∧ BeginsApart more ∧
    IsWhole (m :: piece) text

/-- If a phrase is found in the middle of a word and not further in front, then a word for a column
stands in front. -/
theorem beginsWithColumn_of_skipped {rest : Phrase} {before front after : List Char} {d : Pieces}
    (hd : d ∈ (phraseWithout .old columnWords ++ rest : Phrase).outcomes
      ⟨(before ++ front).getLast?, after, []⟩)
    (hskipped : (phraseWithout .old columnWords ++ rest : Phrase).outcomes
      ⟨before.getLast?, front ++ after, []⟩ = [])
    (hne : front ≠ []) (hfront : ∀ m ∈ front, isWordChar m = true) :
    BeginsWithColumn (front ++ after) := by
  refine beginsWithColumn_of_outcomes (c := ⟨before.getLast?, front ++ after, []⟩) fun hnone => ?_
  obtain ⟨e, he, hd⟩ := List.mem_flatMap.mp hd
  obtain ⟨e', he', hsame⟩ := exists_of_begun_before he hne hfront hnone
  obtain ⟨d', hd', -⟩ := exists_same hsame hd
  have hmem : d' ∈ (phraseWithout .old columnWords ++ rest : Phrase).outcomes
      ⟨before.getLast?, front ++ after, []⟩ := List.mem_flatMap.mpr ⟨e', he', hd'⟩
  rw [hskipped] at hmem
  cases hmem

/-- **The first name of a phrase** with nothing in front of it is whole, or it is cut behind the
first letter of a word for a column. -/
theorem isWhole_or_isBeheaded {rest : Phrase} (hback : rest.beginsApart false = true)
    (hslots : rest.slots.all (fun s => s.1 != .old) = true) {d : Pieces}
    (h : (phraseWithout .old columnWords ++ rest : Phrase).search text = some d) {span : Span}
    (hspan : d.piece? .old = some span) :
    IsWhole span.chars text ∨ IsBeheaded span.chars text := by
  obtain ⟨n, hn, hhead, hfirst⟩ := search_eq_some_iff.mp h
  obtain ⟨before, after, rfl, rfl⟩ : ∃ before after, text = before ++ after ∧ before.length = n :=
    ⟨text.take n, text.drop n, by simp, by simpa using hn⟩
  have hd := List.mem_of_mem_head? hhead
  rw [Cursor.atPlace_append] at hd
  obtain ⟨e, he, hrest⟩ := List.mem_flatMap.mp hd
  obtain ⟨u, hu, rfl⟩ := List.mem_map.mp he
  obtain rfl : span = ⟨after, u.rest⟩ := by
    rw [piece?_of_mem_outcomes hslots hrest] at hspan
    exact (Option.some.inj hspan).symm
  obtain ⟨x, -, rfl : after = x ++ u.rest⟩ := exists_spells _ hu
  rw [span_chars_append]
  have hend : BeginsApart u.rest :=
    beginsApart_of_beginsApart (c := Cursor.keep _ u .old) hback hrest nofun
  by_cases hapart : EndsApart before
  · exact .inl ⟨before, u.rest, rfl, hapart, hend⟩
  -- The phrase was not found one letter further in front, so that is where a column word begins.
  obtain ⟨before, m, rfl, hm⟩ := exists_last_of_not_endsApart hapart
  have hskipped := hfirst before.length (by simp)
  rw [List.append_assoc, Cursor.atPlace_append] at hskipped
  have hcolumn := beginsWithColumn_of_skipped hd hskipped (by simp) (by simpa using hm)
  -- Two letters further in front it was not found either, but no column word begins there.
  have hfront : EndsApart before := by
    by_contra hinside
    obtain ⟨before, l, rfl, hl⟩ := exists_last_of_not_endsApart hinside
    have hskipped := hfirst before.length (by simp)
    rw [List.append_assoc, List.append_assoc, Cursor.atPlace_append, ← List.append_assoc [l]]
      at hskipped
    rw [List.append_assoc] at hd
    exact not_beginsWithColumn_cons hcolumn
      (beginsWithColumn_of_skipped hd hskipped (by simp) (by simpa using ⟨hl, hm⟩))
  obtain ⟨word, hword, after, htext, hafter⟩ := hcolumn
  obtain ⟨more, hpiece, hmore⟩ : ∃ more, m :: x = word.toList ++ more ∧ BeginsApart more :=
    exists_behind_word htext (isWordChar_of_mem_columnWord word hword) hend hafter
  exact .inr ⟨m, word, more, hword, hpiece, hmore, before, u.rest, by simp, hfront, hend⟩

/-! ### A name that a word for a column may follow -/

/-- A blank, then a word for a column and a blank; each may be missing. -/
def columnMark (rest : Phrase) : Phrase := opt blank ++ (opt (columnWord ++ blank) ++ rest)

/-- What reads on in the middle of a word reads a word for a column there. -/
theorem exists_columnWord_of_cut {rest : Phrase} (hrest : rest.beginsApart false = true)
    {c d : Pieces} (hmark : d ∈ (columnMark rest).outcomes c) (hcut : ¬ BeginsApart c.rest) :
    ∃ word ∈ columnWords, ∃ b after e, c.rest = word.toList ++ b :: after ∧ isBlank b = true ∧
      e ∈ rest.outcomes ⟨some b, after, []⟩ := by
  obtain ⟨u, hu, hmore⟩ := List.mem_flatMap.mp hmark
  obtain ⟨v, hv, hd⟩ := List.mem_flatMap.mp hmore
  rcases List.mem_append.mp hu with hu | hu
  · have hblank : (blank : Phrase).beginsApart false = true := rfl
    exact absurd (beginsApart_of_beginsApart hblank hu nofun) hcut
  obtain rfl := List.mem_singleton.mp hu
  rcases List.mem_append.mp hv with hv | hv
  · obtain ⟨w, hw, hv⟩ := List.mem_flatMap.mp hv
    obtain ⟨b, after, hafter, hb, rfl⟩ := mem_outcomes_one.mp hv
    obtain ⟨x, hx, htext⟩ := exists_spells _ hw
    obtain ⟨word, hword, rfl⟩ := spells_columnWord hx
    have hsame : Same (w.advance b after) ⟨some b, after, []⟩ := ⟨rfl, rfl⟩
    obtain ⟨e, he, -⟩ := exists_same hsame hd
    exact ⟨word, hword, b, after, e, hafter ▸ htext, hb, he⟩
  · obtain rfl := List.mem_singleton.mp hv
    exact absurd (beginsApart_of_beginsApart hrest hd nofun) hcut

theorem servesWords_columnMark {rest : Phrase} (hrest : rest.beginsApart false = true)
    (c : Pieces) (slot : Slot) :
    ServesWords fun d => (columnMark rest).run (c.keep d slot) some := by
  intro d d' read hsplit hread hafter hcut h
  obtain ⟨r, hr⟩ := isSome_run_iff.mp h
  obtain ⟨word, hword, b, after, e, htext, hb, he⟩ := exists_columnWord_of_cut hrest hr hcut
  have htext : d.rest = word.toList ++ b :: after := htext
  have hchars : ∀ m ∈ word.toList, CharClass.name.accepts m = true :=
    fun m hm => accepts_name_of_isWordChar (isWordChar_of_mem_columnWord word hword m hm)
  obtain ⟨-, hend⟩ := append_unique (hsplit.symm.trans htext) hread hchars hafter
    (by rintro _ ⟨⟩; exact accepts_name_of_isBlank hb)
  have hsame : Same ⟨some b, after, []⟩ ((c.keep d' slot).advance b after) := ⟨rfl, rfl⟩
  obtain ⟨e', he', -⟩ := exists_same hsame he
  have hblank : (c.keep d' slot).advance b after ∈ (opt blank : Phrase).outcomes (c.keep d' slot) :=
    List.mem_append_left _ (mem_outcomes_one.mpr ⟨b, after, hend, hb, rfl⟩)
  have hnone : (c.keep d' slot).advance b after ∈
      (opt (columnWord ++ blank)).outcomes ((c.keep d' slot).advance b after) :=
    List.mem_append_right _ (List.mem_singleton_self _)
  exact isSome_run_iff.mpr
    ⟨e', List.mem_flatMap.mpr ⟨_, hblank, List.mem_flatMap.mpr ⟨_, hnone, he'⟩⟩⟩

/-- **A name that a word for a column may follow** directly ends with a word all the same. -/
theorem beginsApart_fromEnd {rest : Phrase} {slot : Slot} (hrest : rest.beginsApart false = true)
    (hslots : (columnMark rest).slots.all (fun s => s.1 != slot) = true) {c d : Pieces}
    (h : ((phrase slot ++ columnMark rest : Phrase).outcomes c).head? = some d) {span : Span}
    (hspan : d.piece? slot = some span) : BeginsApart span.fromEnd := by
  rw [← run_some_eq_head?] at h
  obtain ⟨e, he, hapart⟩ := exists_apart_of_run_words (servesWords_columnMark hrest c slot) h
  have hd := List.mem_of_mem_head? (run_some_eq_head? (columnMark rest) (c.keep e slot) ▸ he)
  rw [piece?_of_mem_outcomes hslots hd, Cursor.piece?, Cursor.keep, List.lookup_cons_self] at hspan
  cases hspan
  exact hapart

/-! ### All phrases -/

/-- The phrase tried first. -/
def firstPhrase : Phrase := renameSheetPhrases.headD .empty

/-- The phrase tried last. -/
def lastPhrase : Phrase := setValueWherePhrases.getLastD .empty

theorem ranked_eq : ranked = (.renameSheet, firstPhrase) ::
    ((ranked.drop 1).take 18 ++ [(.setValueWhere, lastPhrase)]) := rfl

theorem firstPhrase_eq :
    firstPhrase = phraseWithout .old columnWords ++ firstPhrase.after 1 := rfl

theorem lastPhrase_eq :
    lastPhrase.after 14 = phrase .condition ++ columnMark (lastPhrase.after 17) := rfl

theorem keepsWhole_between : ∀ x ∈ (ranked.drop 1).take 18, ∀ slot ∈ nameSlots x.1,
    keepsWhole slot x.2 = true := by decide +kernel

theorem isWhole_condition {d : Pieces} (h : lastPhrase.search text = some d) {span : Span}
    (hspan : d.piece? .condition = some span) : IsWhole span.chars text := by
  obtain ⟨b, hb, hholds⟩ := exists_bound_of_search h hspan
  have hfront : (lastPhrase.bounds false false).all
      (fun b => b.slot != .condition || b.front) = true := by decide +kernel
  have hfront := List.all_eq_true.mp hfront b hb
  rw [hholds.slot, bne_self_eq_false, Bool.false_or] at hfront
  obtain ⟨read, htext, hread⟩ := hholds.front
  obtain ⟨n, -, hhead, -⟩ := search_eq_some_iff.mp h
  obtain ⟨c, hc⟩ := exists_head?_after 14 hhead
  rw [lastPhrase_eq] at hc
  have hback := beginsApart_fromEnd (by decide) (by decide) hc hspan
  exact ⟨read, span.fromEnd, by rw [htext, ← hholds.split], hread hfront, hback⟩

theorem isWhole_piece {x : ActionKind × Phrase} (hx : x ∈ ranked) {d : Pieces}
    (h : x.2.search text = some d) {slot : Slot} (hslot : slot ∈ nameSlots x.1) {span : Span}
    (hspan : d.piece? slot = some span) :
    IsWhole span.chars text ∨
      (x.1 = .renameSheet ∧ slot = .old) ∧ IsBeheaded span.chars text := by
  rw [ranked_eq, List.mem_cons, List.mem_append, List.mem_singleton] at hx
  rcases hx with rfl | hx | rfl
  · have hslots : slot = .old ∨ slot = .new := by simpa [nameSlots] using hslot
    rcases hslots with rfl | rfl
    · rw [firstPhrase_eq] at h
      exact (isWhole_or_isBeheaded (by decide) (by decide) h hspan).imp_right (⟨⟨rfl, rfl⟩, ·⟩)
    · exact .inl (isWhole_of_keepsWhole (p := firstPhrase) (by decide +kernel) h hspan)
  · exact .inl (isWhole_of_keepsWhole (keepsWhole_between x hx slot hslot) h hspan)
  · have hslots : slot = .target ∨ slot = .condition := by simpa [nameSlots] using hslot
    rcases hslots with rfl | rfl
    · exact .inl (isWhole_of_keepsWhole (p := lastPhrase) (by decide +kernel) h hspan)
    · exact .inl (isWhole_condition h hspan)

/-- **Names are whole words**: every name in an action is the title of a whole piece of the
instruction as it is read; or it is the old name of a sheet, and the piece lies behind the first
letter of a whole one that begins with a word for a column. -/
theorem mem_names_spec {instruction : String} {sheetNames : List String} {a : Action}
    (h : a ∈ interpret instruction sheetNames) {name : String} (hname : name ∈ a.names) :
    ∃ piece, name = .ofList (Text.titleCase piece) ∧
      (IsWhole piece (Wording.of instruction).lower ∨
        (∃ new, a = .renameSheet name new) ∧ IsBeheaded piece (Wording.of instruction).lower) := by
  obtain ⟨⟨kind, p⟩, hx, c, r, hc, hbuild, rfl⟩ := exists_build_of_mem_interpret h
  rw [names_of_build hbuild] at hname
  obtain ⟨slot, hslot, rfl⟩ := List.mem_map.mp hname
  obtain ⟨span, hspan⟩ := exists_piece hx hc hslot
  refine ⟨span.chars, by rw [titled, hspan]; rfl, ?_⟩
  refine (isWhole_piece hx hc hslot hspan).imp_right ?_
  rintro ⟨⟨rfl : kind = _, rfl⟩, hbeheaded⟩
  obtain rfl := Option.some.inj hbuild
  exact ⟨⟨_, rfl⟩, hbeheaded⟩

theorem mem_names_price :
    .edit none (.renameColumn "Price" "Cost") ∈ interpret "Price column ka naam Cost rakho" [] ∧
      ∃ piece, "Price" = .ofList (Text.titleCase piece) ∧
        (IsWhole piece (Wording.of "Price column ka naam Cost rakho").lower ∨
          (∃ new, Action.edit none (.renameColumn "Price" "Cost") = .renameSheet "Price" new) ∧
            IsBeheaded piece (Wording.of "Price column ka naam Cost rakho").lower) := by
  have h : .edit none (.renameColumn "Price" "Cost") ∈
      interpret "Price column ka naam Cost rakho" [] := by decide +kernel
  exact ⟨h, mem_names_spec h (by decide)⟩

/-- `column sheet ka naam x rakho` is read from its second letter on. -/
theorem interpret_beheaded :
    interpret "column sheet ka naam x rakho" [] = [.renameSheet "Olumn" "X"] ∧
      ¬ ∃ piece, "Olumn" = .ofList (Text.titleCase piece) ∧
        IsWhole piece (Wording.of "column sheet ka naam x rakho").lower := by
  refine ⟨by decide +kernel, ?_⟩
  rintro ⟨piece, htitle, before, after, htext, hbefore, hafter⟩
  have hlower : (Wording.of "column sheet ka naam x rakho").lower =
      "column sheet ka naam x rakho".toList := by decide +kernel
  rw [hlower] at htext
  have hnone : ∀ i < 29, ∀ j < 29,
      "Olumn" = .ofList (Text.titleCase (("column sheet ka naam x rakho".toList.drop i).take j)) →
        EndsApart ("column sheet ka naam x rakho".toList.take i) →
          ¬ BeginsApart (("column sheet ka naam x rakho".toList.drop i).drop j) := by
    decide +kernel
  have hlength : 28 = before.length + (piece.length + after.length) := by
    simpa using congrArg List.length htext
  have hcase := hnone before.length (by omega) piece.length (by omega)
  rw [htext, List.drop_left, List.take_left, List.take_left, List.drop_left] at hcase
  exact hcase htitle hbefore hafter

end Instruction

end SheetCommand
