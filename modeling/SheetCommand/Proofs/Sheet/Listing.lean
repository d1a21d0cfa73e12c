import Mathlib.Data.List.DropRight
import Mathlib.Order.Bounds.Basic
import SheetCommand.Proofs.Instruction.HeaderNames
import SheetCommand.Workbook.Basic

/-!
# Sheet — listed headers and found columns

The overview of a workbook lists the labels of a header row up to the last one that is not empty; to
find a column, labels of white space alone are passed over as well. The listing still tells all that
is found. The columns with a header are the places of its labels that are not blank
(`lists_iff_hasHeader`), so a name stands for the first of them that has its key, and the last
column with a header is the last of them (`overview_agrees`).
-/

namespace SheetCommand

namespace Text

variable {text word : List Char}

theorem wordsFrom_ne_nil (h : word ≠ []) (text : List Char) : wordsFrom word text ≠ [] := by
  induction text generalizing word with
  | nil => simpa [wordsFrom_nil] using h
  | cons c text ih =>
    rw [wordsFrom]
    split
    · simp [h]
    · exact ih (List.cons_ne_nil c word)

theorem words_eq_nil_iff : words text = [] ↔ ∀ c ∈ text, isBlank c = true := by
  refine ⟨fun h => ?_, words_of_blank⟩
  induction text with
  | nil => nofun
  | cons c text ih =>
    by_cases hc : isBlank c = true
    · rw [words_blank_cons hc] at h
      exact List.forall_mem_cons.mpr ⟨hc, ih h⟩
    · rw [words, wordsFrom, if_neg hc] at h
      exact absurd h (wordsFrom_ne_nil (List.cons_ne_nil c []) text)

/-- Trimming and splitting into words agree on which texts are blank. -/
theorem trim_eq_nil_iff : trim text = [] ↔ words text = [] := by
  constructor
  · intro h
    rw [← words_trim, h]
    rfl
  · intro h
    rw [trim, trimBy, List.dropWhile_eq_nil_iff.mpr (words_eq_nil_iff.mp h)]
    rfl

end Text

namespace CellValue

variable {header : List Char}

/-- What a cell is called as a header, in lower case and with single spaces. -/
def labelKey (v : CellValue) : Except Failure (List Char) := v.label.map headerKey

theorem headerKey_eq (header : List Char) :
    headerKey header = Text.join [' '] ((Text.words header).map Text.lower) := Text.lower_join _

theorem isBare_lower_words (header : List Char) :
    ∀ word ∈ (Text.words header).map Text.lower, Text.IsBare word := by
  intro word hword
  obtain ⟨typed, htyped, rfl⟩ := List.mem_map.mp hword
  exact Text.IsBare.lower (Text.mem_words htyped)

/-- **A key** is its own key. -/
theorem headerKey_headerKey (header : List Char) :
    headerKey (headerKey header) = headerKey header := by
  rw [headerKey_eq header, headerKey_join (isBare_lower_words header), List.map_map]
  exact congrArg _ (List.map_congr_left fun word _ => Text.lower_lower word)

/-- Only a blank header has an empty key. -/
theorem headerKey_eq_nil_iff : headerKey header = [] ↔ Text.trim header = [] := by
  rw [Text.trim_eq_nil_iff, headerKey_eq]
  refine ⟨fun h => ?_, fun h => by rw [h]; rfl⟩
  have hwords := Text.words_join_of_isBare (isBare_lower_words header)
  rw [h] at hwords
  exact List.map_eq_nil_iff.mp hwords.symm

theorem labelKey_text (key : List Char) : (text (.ofList key)).labelKey = .ok (headerKey key) := by
  rw [labelKey, label, String.toList_ofList]
  rfl

/-- The key of a cell, put into a cell, has itself as its key. -/
theorem labelKey_text_of_labelKey {v : CellValue} {key : List Char} (h : v.labelKey = .ok key) :
    (text (.ofList key)).labelKey = .ok key := by
  obtain ⟨label, -, rfl⟩ := map_eq_ok_iff.mp h
  rw [labelKey_text, headerKey_headerKey]

end CellValue

namespace Grid

variable {g : Grid} {headers : List String} {column last : Nat} {label name : String}
  {labels : List (List Char)} {found : Option Nat}

/-! ### The listing -/

theorem getElem?_labels (h : g.labels = .ok labels) {j : Nat} {label : List Char} :
    labels[j]? = some label ↔ j < g.width ∧ (g.value 1 (j + 1)).label = .ok label := by
  obtain ⟨hlength, hget⟩ := List.forall₂_iff_get.mp (mapM_eq_ok_iff.mp h)
  have hlabel : ∀ (hj : j < g.width) (hj' : j < labels.length),
      (g.value 1 (j + 1)).label = .ok labels[j] := by
    intro hj hj'
    obtain ⟨hjc, hcolumn⟩ := List.getElem?_eq_some_iff.mp (getElem?_columns.mpr ⟨hj, rfl⟩)
    have hread := hget j hjc hj'
    rwa [List.get_eq_getElem, hcolumn] at hread
  rw [length_columns] at hlength
  rw [List.getElem?_eq_some_iff]
  constructor
  · rintro ⟨hj, rfl⟩
    exact ⟨hlength ▸ hj, hlabel (hlength ▸ hj) hj⟩
  · rintro ⟨hj, hread⟩
    have hj' : j < labels.length := hlength ▸ hj
    exact ⟨hj', Except.ok.inj ((hlabel hj hj').symm.trans hread)⟩

/-- The labels that are listed are those up to the last one that is not empty. -/
theorem listedHeaders_eq_ok_iff : g.listedHeaders = .ok headers ↔
    ∃ labels, g.labels = .ok labels ∧ (labels.rdropWhile (·.isEmpty)).map .ofList = headers := by
  rw [listedHeaders, bind_eq_ok_iff]
  exact exists_congr fun labels => and_congr_right fun _ => ⟨Except.ok.inj, congrArg _⟩

theorem listedHeaders_eq_error_iff {f : Failure} :
    g.listedHeaders = .error f ↔ g.labels = .error f := by
  rw [listedHeaders, bind_eq_error_iff]
  refine or_iff_left ?_
  rintro ⟨labels, -, h⟩
  cases h

/-- Dropping items at the end of a list leaves the others in their places. -/
theorem getElem?_rdropWhile {α : Type} {drop : α → Bool} {xs : List α} {j : Nat} {x : α}
    (hx : drop x = false) : (xs.rdropWhile drop)[j]? = some x ↔ xs[j]? = some x := by
  conv_rhs => rw [← List.rdropWhile_append_rtakeWhile (p := drop) (l := xs), List.getElem?_append]
  split
  · rfl
  · rename_i hj
    rw [List.getElem?_eq_none (Nat.le_of_not_lt hj)]
    refine ⟨nofun, fun h => ?_⟩
    have hdropped := List.mem_rtakeWhile_imp (List.mem_of_getElem? h)
    rw [hx] at hdropped
    cases hdropped

/-- The listing has a label for the column, and it is not blank. -/
structure Lists (headers : List String) (column : Nat) (label : String) : Prop where
  one_le : 1 ≤ column
  getElem?_eq : headers[column - 1]? = some label
  ne_blank : Text.trim label.toList ≠ []

/-- **The labels that are listed and not blank** are the headers of their columns. -/
theorem lists_iff_hasHeader (h : g.listedHeaders = .ok headers) :
    Lists headers column label ↔ g.HasHeader column label.toList := by
  obtain ⟨labels, hlabels, rfl⟩ := listedHeaders_eq_ok_iff.mp h
  have hfull : ∀ {chars : List Char}, Text.trim chars ≠ [] → chars.isEmpty = false := by
    intro chars hne
    cases chars with
    | nil => exact absurd rfl hne
    | cons => rfl
  constructor
  · rintro ⟨hone, hget, hne⟩
    rw [List.getElem?_map, Option.map_eq_some_iff] at hget
    obtain ⟨chars, hchars, rfl⟩ := hget
    rw [String.toList_ofList] at hne ⊢
    obtain ⟨-, hlabel⟩ := (getElem?_labels hlabels).mp ((getElem?_rdropWhile (hfull hne)).mp hchars)
    rw [Nat.sub_add_cancel hone] at hlabel
    exact ⟨hone, hlabel, hne⟩
  · intro hheader
    obtain ⟨hone, hwidth⟩ := mem_columns.mp hheader.mem_columns
    have hget : labels[column - 1]? = some label.toList := by
      rw [getElem?_labels hlabels, Nat.sub_add_cancel hone]
      exact ⟨by omega, hheader.label_eq⟩
    refine ⟨hone, ?_, hheader.ne_blank⟩
    rw [List.getElem?_map, (getElem?_rdropWhile (hfull hheader.ne_blank)).mpr hget, Option.map_some,
      String.ofList_toList]

/-- The columns whose listed label is not blank. -/
def shownColumns (headers : List String) : Set Nat := {column | ∃ label, Lists headers column label}

/-- The columns whose listed label is not blank and has the key of the name. -/
def namedColumns (headers : List String) (name : String) : Set Nat :=
  {column | ∃ label, Lists headers column label ∧
    CellValue.headerKey label.toList = CellValue.headerKey name.toList}

/-- What is found in a grid is what its listed headers say. -/
structure Follows (g : Grid) (headers : List String) : Prop where
  findColumn : ∀ name, ∃ found, g.findColumn name = .ok found ∧
    (∀ column, found = some column ↔ IsLeast (namedColumns headers name) column) ∧
    (found = none ↔ namedColumns headers name = ∅) ∧
    (Text.trim name.toList = [] → found = none)
  lastHeaderColumn : ∃ last, g.lastHeaderColumn = .ok last ∧
    IsGreatest (insert 0 (shownColumns headers)) last

theorem mem_shownColumns_iff (h : g.listedHeaders = .ok headers) :
    column ∈ shownColumns headers ↔ ∃ label, g.HasHeader column label := by
  constructor
  · rintro ⟨label, hlisted⟩
    exact ⟨label.toList, (lists_iff_hasHeader h).mp hlisted⟩
  · rintro ⟨label, hheader⟩
    refine ⟨.ofList label, (lists_iff_hasHeader h).mpr ?_⟩
    rwa [String.toList_ofList]

theorem mem_namedColumns_iff (h : g.listedHeaders = .ok headers) :
    column ∈ namedColumns headers name ↔ ∃ label, g.HasHeader column label ∧
      CellValue.headerKey label = CellValue.headerKey name.toList := by
  constructor
  · rintro ⟨label, hlisted, hkey⟩
    exact ⟨label.toList, (lists_iff_hasHeader h).mp hlisted, hkey⟩
  · rintro ⟨label, hheader, hkey⟩
    refine ⟨.ofList label, (lists_iff_hasHeader h).mpr ?_, ?_⟩ <;> rwa [String.toList_ofList]

theorem isLeast_namedColumns_iff (h : g.listedHeaders = .ok headers) :
    IsLeast (namedColumns headers name) column ↔
      g.IsFirstHeader (CellValue.headerKey name.toList) column := by
  constructor
  · rintro ⟨hmem, hlower⟩
    exact ⟨(mem_namedColumns_iff h).mp hmem, fun c label hheader hkey =>
      hlower ((mem_namedColumns_iff h).mpr ⟨label, hheader, hkey⟩)⟩
  · rintro ⟨hlabel, hle⟩
    refine ⟨(mem_namedColumns_iff h).mpr hlabel, fun c hc => ?_⟩
    obtain ⟨label, hheader, hkey⟩ := (mem_namedColumns_iff h).mp hc
    exact hle c label hheader hkey

/-- Labels that are not blank do not have the key of a blank name. -/
theorem namedColumns_of_blank (h : Text.trim name.toList = []) : namedColumns headers name = ∅ := by
  refine Set.eq_empty_of_forall_notMem fun column => ?_
  rintro ⟨label, hlisted, hkey⟩
  rw [CellValue.headerKey_eq_nil_iff.mpr h] at hkey
  exact hlisted.ne_blank (CellValue.headerKey_eq_nil_iff.mp hkey)

/-! ### Finding -/

theorem exists_headers_of_listedHeaders (h : g.listedHeaders = .ok headers) :
    ∃ found, g.headers = .ok found := by
  obtain ⟨labels, hlabels, -⟩ := listedHeaders_eq_ok_iff.mp h
  exact ⟨_, by rw [Grid.headers, hlabels]; rfl⟩

theorem findColumn_of_listedHeaders (h : g.listedHeaders = .ok headers) (name : String) :
    ∃ found, g.findColumn name = .ok found ∧
      (∀ column, found = some column ↔ IsLeast (namedColumns headers name) column) ∧
      (found = none ↔ namedColumns headers name = ∅) := by
  obtain ⟨pairs, hpairs⟩ := exists_headers_of_listedHeaders h
  have hreadable := exists_headers_iff.mp ⟨pairs, hpairs⟩
  obtain ⟨found, hfound⟩ : ∃ found, g.findColumn name = .ok found :=
    ⟨_, by rw [findColumn, columnOf, hpairs]; rfl⟩
  have hsome : ∀ column, found = some column ↔ IsLeast (namedColumns headers name) column := by
    intro column
    calc found = some column ↔ g.findColumn name = .ok (some column) := by
          rw [hfound]
          exact ⟨congrArg _, Except.ok.inj⟩
      _ ↔ g.IsFirstHeader (CellValue.headerKey name.toList) column :=
          findColumn_eq_some_iff.trans (and_iff_right hreadable)
      _ ↔ IsLeast (namedColumns headers name) column := (isLeast_namedColumns_iff h).symm
  refine ⟨found, hfound, hsome, fun hnone => ?_, fun hempty => ?_⟩
  · refine Set.eq_empty_of_forall_notMem fun column hmem => ?_
    obtain ⟨label, hheader, hkey⟩ := (mem_namedColumns_iff h).mp hmem
    obtain ⟨first, hfirst⟩ := hheader.exists_isFirstHeader
    rw [hkey, ← isLeast_namedColumns_iff h, ← hsome, hnone] at hfirst
    cases hfirst
  · cases found with
    | none => rfl
    | some column =>
      have hmem := ((hsome column).mp rfl).1
      rw [hempty] at hmem
      cases hmem

theorem lastHeaderColumn_of_listedHeaders (h : g.listedHeaders = .ok headers) :
    ∃ last, g.lastHeaderColumn = .ok last ∧ IsGreatest (insert 0 (shownColumns headers)) last := by
  obtain ⟨pairs, hpairs⟩ := exists_headers_of_listedHeaders h
  obtain ⟨-, hsorted, hmem⟩ := headers_eq_ok_iff.mp hpairs
  have hshown : ∀ column, column ∈ shownColumns headers ↔ ∃ label, (column, label) ∈ pairs := by
    intro column
    rw [mem_shownColumns_iff h]
    exact exists_congr fun label => (hmem (column, label)).symm
  refine ⟨_, by rw [lastHeaderColumn, hpairs]; rfl, ?_⟩
  rcases List.eq_nil_or_concat pairs with rfl | ⟨before, ⟨last, label⟩, rfl⟩
  · refine ⟨Set.mem_insert 0 _, ?_⟩
    rintro column (rfl | hcolumn)
    · rfl
    · obtain ⟨label, hlabel⟩ := (hshown column).mp hcolumn
      cases hlabel
  · rw [List.concat_eq_append] at hsorted hshown ⊢
    rw [List.getLast?_concat]
    refine ⟨.inr ((hshown last).mpr ⟨label, by simp⟩), ?_⟩
    rintro column (rfl | hcolumn)
    · exact Nat.zero_le last
    · obtain ⟨other, hother⟩ := (hshown column).mp hcolumn
      rcases List.mem_append.mp hother with hbefore | hlast
      · exact Nat.le_of_lt ((List.pairwise_append.mp hsorted).2.2 _ hbefore _ List.mem_cons_self)
      · exact (Prod.mk.inj (List.mem_singleton.mp hlast)).1.le

theorem follows_of_listedHeaders (h : g.listedHeaders = .ok headers) : g.Follows headers where
  findColumn name := by
    obtain ⟨found, hfound, hsome, hnone⟩ := findColumn_of_listedHeaders h name
    exact ⟨found, hfound, hsome, hnone, fun hblank => hnone.mpr (namedColumns_of_blank hblank)⟩
  lastHeaderColumn := lastHeaderColumn_of_listedHeaders h

/-- If a label cannot be listed, no column can be found. -/
theorem lookups_of_listedHeaders_eq_error {f : Failure} (h : g.listedHeaders = .error f) :
    (∀ name, g.findColumn name = .error f) ∧ g.lastHeaderColumn = .error f := by
  have hheaders : g.headers = .error f := by
    rw [Grid.headers, listedHeaders_eq_error_iff.mp h]
    rfl
  constructor
  · intro name
    rw [findColumn, columnOf, hheaders]
    rfl
  · rw [lastHeaderColumn, hheaders]
    rfl

end Grid

/-! ### Overviews -/

namespace Workbook

variable {w : Workbook} {summaries : List SheetSummary}

/-- The summary of a sheet has its title and lists its headers. -/
structure Describes (sheet : Sheet) (summary : SheetSummary) : Prop where
  name_eq : summary.name = sheet.title
  listedHeaders_eq : sheet.grid.listedHeaders = .ok summary.headers

theorem describes_of_overview (h : w.overview.2 = .ok summaries) :
    List.Forall₂ Describes w.sheets summaries := by
  have hall : List.Forall₂ (fun entry => Describes entry.1)
      w.overview.1.sheets.zipIdx summaries := by
    refine (mapM_eq_ok_iff.mp h).imp fun entry summary hsummary => ?_
    obtain ⟨headers, hheaders, hsummary⟩ := bind_eq_ok_iff.mp hsummary
    obtain rfl := Except.ok.inj hsummary
    exact ⟨rfl, hheaders⟩
  have htouched : List.Forall₂ Describes w.overview.1.sheets summaries := by
    rw [← List.zipIdx_map_fst 0 w.overview.1.sheets]
    exact List.forall₂_map_left_iff.mpr hall
  refine (List.forall₂_map_left_iff.mp htouched).imp fun sheet summary hdescribes => ?_
  exact ⟨hdescribes.name_eq,
    Grid.listedHeaders_touchHeaders sheet.grid ▸ hdescribes.listedHeaders_eq⟩

theorem exists_of_overview_eq_error {f : Failure} (h : w.overview.2 = .error f) :
    ∃ sheet ∈ w.sheets, sheet.grid.listedHeaders = .error f := by
  obtain ⟨⟨touched, index⟩, hmem, hf⟩ := exists_of_mapM_eq_error h
  obtain hf | ⟨headers, -, hf⟩ := bind_eq_error_iff.mp hf
  · obtain ⟨sheet, hsheet, rfl⟩ := List.mem_map.mp (List.fst_mem_of_mem_zipIdx hmem)
    exact ⟨sheet, hsheet, Grid.listedHeaders_touchHeaders sheet.grid ▸ hf⟩
  · cases hf

/-- **The overview and the lookup of columns agree.** If an overview is given, then in each sheet,
be it before or after its headers are listed, a name finds the first column whose listed label is
not blank and has the name's key, and nothing if there is none; the last column with a header is the
last one whose listed label is not blank. If no overview is given, columns cannot be looked up in
one of the sheets. A key is its own key. -/
theorem overview_agrees (w : Workbook) :
    (∀ summaries, w.overview.2 = .ok summaries →
      List.Forall₂ (fun sheet summary => summary.name = sheet.title ∧
        sheet.grid.Follows summary.headers ∧ sheet.grid.touchHeaders.Follows summary.headers)
        w.sheets summaries) ∧
    (∀ f, w.overview.2 = .error f → ∃ sheet ∈ w.sheets,
      (∀ name, sheet.grid.findColumn name = .error f) ∧ sheet.grid.lastHeaderColumn = .error f) ∧
    ∀ (v : CellValue) (key : List Char), v.labelKey = .ok key →
      (CellValue.text (.ofList key)).labelKey = .ok key := by
  refine ⟨fun summaries h => ?_, fun f h => ?_, fun v key => CellValue.labelKey_text_of_labelKey⟩
  · refine (describes_of_overview h).imp fun sheet summary hdescribes => ?_
    have htouched := (Grid.listedHeaders_touchHeaders sheet.grid).trans hdescribes.listedHeaders_eq
    exact ⟨hdescribes.name_eq, Grid.follows_of_listedHeaders hdescribes.listedHeaders_eq,
      Grid.follows_of_listedHeaders htouched⟩
  · obtain ⟨sheet, hsheet, hf⟩ := exists_of_overview_eq_error h
    exact ⟨sheet, hsheet, Grid.lookups_of_listedHeaders_eq_error hf⟩

theorem overview_agrees_spaced :
    let g : Grid := ⟨[((1, 1), .text "  "), ((1, 2), .text " Unit  PRICE"),
      ((1, 4), .text "unit price"), ((1, 5), .text ""), ((2, 1), .int 7)]⟩
    let headers := ["  ", " Unit  PRICE", "", "unit price"]
    (⟨[⟨"Data", g⟩]⟩ : Workbook).overview.2 = .ok [⟨"Data", 0, 2, 5, headers⟩] ∧
      g.Follows headers ∧
      (CellValue.text " Unit  PRICE").labelKey = .ok "unit price".toList ∧
      (CellValue.text (.ofList "unit price".toList)).labelKey = .ok "unit price".toList := by
  intro g headers
  obtain ⟨hlisted, -, hkey⟩ := overview_agrees ⟨[⟨"Data", g⟩]⟩
  have hoverview : (⟨[⟨"Data", g⟩]⟩ : Workbook).overview.2 =
      .ok [⟨"Data", 0, 2, 5, headers⟩] := by decide +kernel
  have hprice : (CellValue.text " Unit  PRICE").labelKey = .ok "unit price".toList := by decide +kernel
  obtain ⟨⟨-, hfollows, -⟩, -⟩ := List.forall₂_cons.mp (hlisted _ hoverview)
  exact ⟨hoverview, hfollows, hprice, hkey _ _ hprice⟩

end Workbook

end SheetCommand
