import SheetCommand.Instruction.Interpret
import SheetCommand.Proofs.Sheet.Resolution
import SheetCommand.Proofs.Text.Stable
import SheetCommand.Proofs.Text.Whole

/-!
# Headers named in an instruction

A column is named in an instruction by its header, in any case. The header is read in lower case,
each of its words is given a capital, and the column is looked up by what this is in lower case
again. So the header comes back if the first letter of each of its words comes back from its
capital, and only then (`headerKey_nameOf_iff`). A letter like `ß`, whose capital is `SS`, does not:
a column whose header has a word that begins with one is not found by its own name.
-/

namespace SheetCommand

namespace Text

variable {c d : Char} {text word : List Char} {ws : List (List Char)}

/-! ### Words -/

theorem lower_join (ws : List (List Char)) :
    lower (join [' '] ws) = join [' '] (ws.map lower) := by
  induction ws with
  | nil => rfl
  | cons w ws ih =>
    by_cases hne : ws = []
    · subst hne; rfl
    · rw [join_cons_ne_nil w hne, lower_append_space, ih, List.map_cons,
        join_cons_ne_nil _ (mt List.map_eq_nil_iff.mp hne)]

/-- A word with no white space in it. -/
def IsBare (word : List Char) : Prop := word ≠ [] ∧ ∀ c ∈ word, isBlank c = false

theorem words_of_isBare (h : IsBare word) : words word = [word] := by
  have key : ∀ read : List Char, (∀ c ∈ word, isBlank c = false) →
      wordsFrom read word = wordsFrom (word.reverse ++ read) [] := by
    clear h
    induction word with
    | nil => intro read _; rfl
    | cons c word ih =>
      intro read h
      obtain ⟨hc, hword⟩ := List.forall_mem_cons.mp h
      have hstep : wordsFrom read (c :: word) = wordsFrom (c :: read) word := by
        simp [wordsFrom, hc]
      rw [hstep, ih _ hword, List.reverse_cons, List.append_assoc, List.singleton_append]
  rw [words, key [] h.2, List.append_nil, wordsFrom_nil, List.reverse_reverse, if_neg]
  simpa using h.1

theorem words_join_of_isBare (h : ∀ w ∈ ws, IsBare w) : words (join [' '] ws) = ws := by
  rw [words_join]
  induction ws with
  | nil => rfl
  | cons w ws ih =>
    obtain ⟨hw, hws⟩ := List.forall_mem_cons.mp h
    rw [List.flatMap_cons, words_of_isBare hw, ih hws, List.singleton_append]

theorem mem_of_mem_wordsFrom {read : List Char} (hword : word ∈ wordsFrom read text)
    (hc : c ∈ word) : c ∈ read ∨ c ∈ text := by
  induction text generalizing read with
  | nil =>
    rw [wordsFrom_nil] at hword
    split at hword
    · cases hword
    · rw [List.mem_singleton.mp hword, List.mem_reverse] at hc
      exact .inl hc
  | cons d text ih =>
    have hlater : ∀ {read}, word ∈ wordsFrom read text → c ∈ read ∨ c ∈ d :: text :=
      fun h => (ih h).imp_right (List.mem_cons_of_mem d)
    rw [wordsFrom] at hword
    split at hword
    · split at hword
      · exact .inr ((hlater hword).resolve_left List.not_mem_nil)
      · rcases List.mem_cons.mp hword with rfl | hword
        · exact .inl (List.mem_reverse.mp hc)
        · exact .inr ((hlater hword).resolve_left List.not_mem_nil)
    · rcases hlater hword with hread | htext
      · exact (List.mem_cons.mp hread).elim (fun h => .inr (h ▸ List.mem_cons_self)) .inl
      · exact .inr htext

theorem IsBare.lower (h : IsBare word) : IsBare (lower word) := by
  refine ⟨fun hnil => h.1 (List.eq_nil_of_length_eq_zero ?_), fun c hc => ?_⟩
  · have hlength := length_lower_le word
    rw [hnil] at hlength
    exact Nat.le_zero.mp hlength
  · by_contra hblank
    rw [Bool.not_eq_false] at hblank
    have hmem := mem_of_mem_lower_of (d := c) ⟨?_, ?_⟩
      (fun _ => eq_of_isBlank_of_mem_lowerChar hblank) hc
    · rw [h.2 c hmem] at hblank
      cases hblank
    · rintro rfl; exact absurd hblank (by decide)
    · rintro rfl; exact absurd hblank (by decide)

/-! ### Capitals -/

theorem upperRuns_not_blank : ∀ r ∈ upperRuns, ∀ code ∈ blankCodes,
    code < r.2.2.2 ∨ r.2.2.2 + (r.2.1 - r.1) < code := by
  decide +kernel

theorem upperExpansions_not_blank : ∀ e ∈ upperExpansions, ∀ n ∈ e.2,
    isBlank (Char.ofNat n) = false ∧ Char.ofNat n ≠ 'Σ' := by
  decide +kernel

/-- A capital is a single character, or characters of the table of capitals of several. -/
theorem upperChar_cases (c : Char) :
    (∃ d, upperChar c = [d] ∧ (isBlank c = false → isBlank d = false)) ∨
      ∀ d ∈ upperChar c, isBlank d = false ∧ d ≠ 'Σ' := by
  unfold upperChar
  split
  · rename_i hc
    refine .inl ⟨_, rfl, ?_⟩
    exact of_toNat_lt (P := fun c => isBlank c = false → isBlank c.toUpper = false)
      (by decide +kernel) hc
  · split
    · rename_i n hn
      refine .inl ⟨_, rfl, fun _ => ?_⟩
      obtain ⟨r, hr, hfirst, hlast, -, rfl⟩ := exists_run hn
      by_contra hblank
      rw [Bool.not_eq_false] at hblank
      have hcode := toNat_mem_blankCodes hblank
      rcases toNat_ofNat (r.2.2.2 + (c.toNat - r.1)) with hto | hto <;> rw [hto] at hcode
      · have := upperRuns_not_blank r hr _ hcode
        omega
      · exact absurd hcode (by decide)
    · split
      · rename_i codes hcodes
        obtain ⟨before, after, hsplit, -⟩ := List.lookup_eq_some_iff.mp hcodes
        refine .inr fun d hd => ?_
        obtain ⟨n, hn, rfl⟩ := List.mem_map.mp hd
        exact upperExpansions_not_blank (c.toNat, codes) (by simp [hsplit]) n hn
      · exact .inl ⟨_, rfl, id⟩

theorem IsBare.capitalize (h : IsBare word) : IsBare (capitalize word) := by
  obtain ⟨c, rest, rfl⟩ := List.exists_cons_of_ne_nil h.1
  obtain ⟨hc, hrest⟩ := List.forall_mem_cons.mp h.2
  refine ⟨by simp [Text.capitalize, upperChar_ne_nil], List.forall_mem_append.mpr ⟨?_, hrest⟩⟩
  rcases upperChar_cases c with ⟨d, hd, hblank⟩ | hall
  · simpa [hd] using hblank hc
  · exact fun d hd => (hall d hd).1

/-- The capital of a letter, in lower case, is the letter itself. -/
def isSteady (c : Char) : Bool := (upperChar c).flatMap lowerChar == [c]

/-- A capital at the start of a word is put in lower case without regard to what follows. -/
theorem lower_capitalize_cons (h : IsLower (c :: text)) :
    lower (capitalize (c :: text)) = (upperChar c).flatMap lowerChar ++ text := by
  obtain ⟨-, htext⟩ := List.forall_mem_cons.mp h
  have htext : IsLower text := htext
  rw [capitalize]
  by_cases hsigma : 'Σ' ∈ upperChar c
  · have hcapital : upperChar c = ['Σ'] := by
      rcases upperChar_cases c with ⟨d, hd, -⟩ | hall
      · rw [hd] at hsigma
        rw [hd, List.mem_singleton.mp hsigma]
      · exact absurd rfl (hall _ hsigma).2
    rw [hcapital, List.flatMap_singleton, lowerChar_sigma]
    exact congrArg ('σ' :: ·) (htext.lowerFrom_eq ['Σ'])
  · have hnot : 'Σ' ∉ upperChar c ++ text := by simp [hsigma, htext.not_mem]
    rw [lower, lowerFrom_eq_flatMap hnot, List.flatMap_append, htext.flatMap_eq]

/-- A word comes back from its capital if its first letter does. -/
theorem lower_capitalize_eq_iff (h : IsLower word) (hne : word ≠ []) :
    lower (capitalize word) = word ↔ ∀ c ∈ word.head?, isSteady c = true := by
  obtain ⟨c, rest, rfl⟩ := List.exists_cons_of_ne_nil hne
  rw [lower_capitalize_cons h, ← List.singleton_append, List.append_left_inj]
  simp [isSteady]

/-- Whether all words of a text begin with letters that come back from their capitals. -/
def beginsSteady (text : List Char) : Bool := (words text).all fun word => word.head?.all isSteady

/-- An ASCII letter comes back from its capital. -/
theorem isSteady_of_ascii (hc : c.toNat < 128) (hlow : lowerChar c = [c]) : isSteady c = true :=
  of_toNat_lt (P := fun c => lowerChar c = [c] → isSteady c = true) (by decide +kernel) hc hlow

example : ['ß', 'ŉ', 'ı', 'ſ', 'µ', 'ς', 'ǰ', 'ΐ', 'և', 'ẗ', 'ﬁ'].any isSteady = false := by
  decide +kernel

theorem titleCase_join_of_isBare (h : ∀ w ∈ ws, IsBare w) :
    titleCase (join [' '] ws) = join [' '] (ws.map capitalize) := by
  by_cases hne : ws = []
  · subst hne; rfl
  · refine titleCase_join hne fun w hw => ⟨(h w hw).1, fun hspace => ?_⟩
    have hblank := (h w hw).2 ' ' hspace
    cases hblank

end Text

open Text

namespace CellValue

theorem headerKey_join {ws : List (List Char)} (h : ∀ w ∈ ws, IsBare w) :
    headerKey (join [' '] ws) = join [' '] (ws.map lower) := by
  rw [headerKey, collapse, words_join_of_isBare h, lower_join]

/-- **A header comes back** from its title if its words come back from their capitals. -/
theorem headerKey_titleCase_iff (header : List Char) :
    headerKey (Text.titleCase (headerKey header)) = headerKey header ↔
      beginsSteady (headerKey header) = true := by
  have hwords : headerKey header = join [' '] ((words header).map lower) := lower_join _
  have hlower : ∀ w ∈ (words header).map lower, IsLower w := by
    intro w hw
    obtain ⟨v, -, rfl⟩ := List.mem_map.mp hw
    exact isLower_lower v
  have hbare : ∀ w ∈ (words header).map lower, IsBare w := by
    intro w hw
    obtain ⟨v, hv, rfl⟩ := List.mem_map.mp hw
    exact IsBare.lower (mem_words hv)
  rw [hwords]
  generalize (words header).map lower = ws at hlower hbare
  have hcapital : ∀ w ∈ ws.map capitalize, IsBare w := by
    intro w hw
    obtain ⟨v, hv, rfl⟩ := List.mem_map.mp hw
    exact (hbare v hv).capitalize
  have hback : ∀ w ∈ (ws.map capitalize).map lower, IsBare w := by
    intro w hw
    obtain ⟨v, hv, rfl⟩ := List.mem_map.mp hw
    exact (hcapital v hv).lower
  rw [titleCase_join_of_isBare hbare, headerKey_join hcapital, beginsSteady,
    words_join_of_isBare hbare, List.all_eq_true]
  calc join [' '] ((ws.map capitalize).map lower) = join [' '] ws
      ↔ (ws.map capitalize).map lower = ws :=
        ⟨fun h => by rw [← words_join_of_isBare hback, h, words_join_of_isBare hbare],
          congrArg (join [' '])⟩
    _ ↔ ∀ w ∈ ws, lower (capitalize w) = w := by
        conv_lhs => rw [List.map_map, ← List.map_id ws, List.map_map]
        exact List.map_inj_left
    _ ↔ ∀ w ∈ ws, w.head?.all isSteady = true := by
        refine forall₂_congr fun w hw => ?_
        rw [lower_capitalize_eq_iff (hlower w hw) (hbare w hw).1]
        cases w <;> simp

end CellValue

/-- A text in lower case and in ASCII begins with letters that come back from their capitals. -/
theorem Text.beginsSteady_of_ascii {text : List Char} (hlower : IsLower text)
    (hascii : ∀ c ∈ text, c.toNat < 128) : beginsSteady text = true := by
  refine List.all_eq_true.mpr fun word hword => ?_
  cases word with
  | nil => rfl
  | cons c rest =>
    have hc : c ∈ text := (mem_of_mem_wordsFrom hword List.mem_cons_self).resolve_left nofun
    exact isSteady_of_ascii (hascii c hc) (hlower c hc)

/-! ### Columns -/

/-- The name that an action has for a column that an instruction calls by these words. -/
def nameOf (typed : String) : String :=
  titleCase (.ofList (Text.lower (normalizeInstruction typed).toList))

theorem nameOf_eq (typed : String) :
    (nameOf typed).toList = Text.titleCase (CellValue.headerKey typed.toList) := by
  rw [nameOf, titleCase, normalizeInstruction, String.toList_ofList, String.toList_ofList,
    String.toList_ofList, CellValue.headerKey]

namespace Grid

variable {g : Grid} {column : Nat} {label : List Char}

theorem HasHeader.exists_isFirstHeader (h : g.HasHeader column label) :
    ∃ found, g.IsFirstHeader (CellValue.headerKey label) found := by
  classical
  have hsome : ∃ c, ∃ other, g.HasHeader c other ∧
      CellValue.headerKey other = CellValue.headerKey label := ⟨column, label, h, rfl⟩
  exact ⟨Nat.find hsome, Nat.find_spec hsome, fun c other hother hkey =>
    Nat.find_min' hsome ⟨other, hother, hkey⟩⟩

/-- A name finds a column with the header if it comes back to the header's key. -/
theorem exists_findColumn_iff (hreadable : g.Readable) (h : g.HasHeader column label)
    {name : String} :
    (∃ found other, g.findColumn name = .ok (some found) ∧ g.HasHeader found other ∧
        CellValue.headerKey other = CellValue.headerKey label) ↔
      CellValue.headerKey name.toList = CellValue.headerKey label := by
  constructor
  · rintro ⟨found, other, hfound, hother, hkey⟩
    obtain ⟨-, hfirst⟩ := findColumn_eq_some_iff.mp hfound
    obtain ⟨header, hheader, hname⟩ := hfirst.exists_label
    have hsame := Except.ok.inj (hheader.label_eq.symm.trans hother.label_eq)
    rw [← hname, hsame, hkey]
  · intro hname
    obtain ⟨found, hfirst⟩ := h.exists_isFirstHeader
    obtain ⟨other, hother, hkey⟩ := hfirst.exists_label
    exact ⟨found, other, findColumn_eq_some_iff.mpr ⟨hreadable, hname ▸ hfirst⟩, hother, hkey⟩

end Grid

/-- **A header named in an instruction**, in any case and spacing, comes back to itself if and only
if each of its words, in lower case, begins with a letter that comes back from its capital, as all
letters of ASCII do; and only then a column with that header is found by it. -/
theorem headerKey_nameOf_iff (header : String) :
    let key := CellValue.headerKey header.toList
    (CellValue.headerKey (nameOf header).toList = key ↔ beginsSteady key = true) ∧
      ((∀ c ∈ key, c.toNat < 128) → beginsSteady key = true) ∧
      ∀ (g : Grid) (column : Nat) (label : List Char), g.Readable → g.HasHeader column label →
        CellValue.headerKey label = key →
          ((∃ found other, g.findColumn (nameOf header) = .ok (some found) ∧
              g.HasHeader found other ∧ CellValue.headerKey other = key) ↔
            beginsSteady key = true) := by
  intro key
  have hback : CellValue.headerKey (nameOf header).toList = key ↔ beginsSteady key = true := by
    rw [nameOf_eq]
    exact CellValue.headerKey_titleCase_iff header.toList
  refine ⟨hback, beginsSteady_of_ascii (isLower_lower _),
    fun g column label hreadable h hlabel => ?_⟩
  rw [← hback, ← hlabel]
  exact Grid.exists_findColumn_iff hreadable h

theorem headerKey_nameOf_price :
    let g : Grid := ⟨[((1, 1), .text " Unit  PRICE"), ((2, 1), .int 7)]⟩
    g.Readable ∧ g.HasHeader 1 " Unit  PRICE".toList ∧
      ∃ found other, g.findColumn (nameOf "unit price") = .ok (some found) ∧
        g.HasHeader found other ∧ CellValue.headerKey other = "unit price".toList := by
  intro g
  have hreadable : g.Readable :=
    Grid.exists_headers_iff.mp ⟨[(1, " Unit  PRICE".toList)], by decide +kernel⟩
  have hlabel : g.HasHeader 1 " Unit  PRICE".toList := ⟨by decide, rfl, by decide⟩
  obtain ⟨-, hascii, hfound⟩ := headerKey_nameOf_iff "unit price"
  have hsteady := hascii (by decide)
  exact ⟨hreadable, hlabel, (hfound g 1 _ hreadable hlabel (by decide)).mpr hsteady⟩

/-- The header `ßig` is called `SSig` by the action, and is not found. -/
theorem not_found_by_own_header :
    interpret "delete column ßig" ["Data"] = [.edit none (.deleteColumn (nameOf "ßig"))] ∧
      CellValue.headerKey (nameOf "ßig").toList ≠ CellValue.headerKey "ßig".toList ∧
      (⟨[((1, 1), .text "ßig"), ((2, 1), .int 7)]⟩ : Grid).findColumn (nameOf "ßig") =
        .ok none := by
  decide +kernel

end SheetCommand
