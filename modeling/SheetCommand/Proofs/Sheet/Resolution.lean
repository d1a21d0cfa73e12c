import Mathlib.Order.Nat
import SheetCommand.Proofs.Sheet.Provenance

/-!
# Sheet — which column has a header

The headers of a grid are the labels of row 1 that are more than white space. They are told by the
values of that row alone: how far the grid reaches, and which of its cells exist, makes no
difference.

* `headers_eq_ok_iff`: the headers, from left to right, are the columns with a header.
* `findColumn_eq_some_iff`: a name stands for the first column whose header has its key, if all
  labels can be read.
-/

namespace SheetCommand.Grid

variable {g : Grid} {column : Nat} {key label : List Char} {headers : List (Nat × List Char)}

/-- The column has a header with the label. -/
structure HasHeader (g : Grid) (column : Nat) (label : List Char) : Prop where
  one_le : 1 ≤ column
  label_eq : (g.value 1 column).label = .ok label
  ne_blank : Text.trim label ≠ []

/-- Every header cell has a label. -/
def Readable (g : Grid) : Prop := ∀ c, 1 ≤ c → ∃ label, (g.value 1 c).label = .ok label

/-- The first column whose header has the key. -/
structure IsFirstHeader (g : Grid) (key : List Char) (column : Nat) : Prop where
  exists_label : ∃ label, g.HasHeader column label ∧ CellValue.headerKey label = key
  le_of_hasHeader : ∀ c label, g.HasHeader c label → CellValue.headerKey label = key → column ≤ c

theorem HasHeader.mem_columns (h : g.HasHeader column label) : column ∈ g.columns := by
  refine Grid.mem_columns.mpr ⟨h.one_le, Nat.le_of_not_lt fun hlt => h.ne_blank ?_⟩
  have hlabel := h.label_eq
  rw [value_of_width_lt hlt] at hlabel
  rw [← Except.ok.inj hlabel]
  rfl

theorem IsFirstHeader.unique {c : Nat} (h : g.IsFirstHeader key column)
    (h' : g.IsFirstHeader key c) : column = c := by
  obtain ⟨label, hlabel, hkey⟩ := h.exists_label
  obtain ⟨label', hlabel', hkey'⟩ := h'.exists_label
  exact Nat.le_antisymm (h.le_of_hasHeader _ _ hlabel' hkey') (h'.le_of_hasHeader _ _ hlabel hkey)

/-! ### The list of headers -/

theorem exists_mem_zip {α β : Type} {related : α → β → Prop} {xs : List α} {ys : List β}
    (h : List.Forall₂ related xs ys) {x : α} (hx : x ∈ xs) :
    ∃ y, (x, y) ∈ xs.zip ys ∧ related x y := by
  induction h with
  | nil => cases hx
  | @cons x' y xs ys hxy _ ih =>
    rcases List.mem_cons.mp hx with rfl | hx
    · exact ⟨y, List.mem_cons_self, hxy⟩
    · obtain ⟨y', hmem, hrelated⟩ := ih hx
      exact ⟨y', List.mem_cons_of_mem _ hmem, hrelated⟩

/-- The headers are the labels of the columns that are not blank, from left to right. -/
theorem mem_headers {headers : List (Nat × List Char)} (h : g.headers = .ok headers) :
    headers.Pairwise (fun p q => p.1 < q.1) ∧
      (∀ p ∈ headers, p.1 ∈ g.columns ∧ (g.value 1 p.1).label = .ok p.2 ∧ Text.trim p.2 ≠ []) ∧
      ∀ c ∈ g.columns, ∃ label, (g.value 1 c).label = .ok label ∧
        (Text.trim label ≠ [] → (c, label) ∈ headers) := by
  obtain ⟨labels, hlabels, hkept⟩ := bind_eq_ok_iff.mp h
  obtain rfl := Except.ok.inj hkept
  have hall := mapM_eq_ok_iff.mp hlabels
  refine ⟨.filter _ (List.pairwise_map.mp ?_), fun p hp => ?_, fun c hc => ?_⟩
  · rw [List.map_fst_zip hall.length_eq.le]
    exact List.pairwise_lt_range'
  · obtain ⟨hzip, htrim⟩ := List.mem_filter.mp hp
    exact ⟨(List.of_mem_zip hzip).1, (List.forall₂_iff_zip.mp hall).2 hzip, by simpa using htrim⟩
  · obtain ⟨label, hzip, hlabel⟩ := exists_mem_zip hall hc
    exact ⟨label, hlabel, fun htrim => List.mem_filter.mpr ⟨hzip, by simpa using htrim⟩⟩

/-- Headers can be listed if every label can be read. -/
theorem exists_headers_iff : (∃ headers, g.headers = .ok headers) ↔ g.Readable := by
  constructor
  · rintro ⟨headers, h⟩ c hone
    by_cases hc : c ∈ g.columns
    · obtain ⟨label, hlabel, -⟩ := (mem_headers h).2.2 c hc
      exact ⟨label, hlabel⟩
    · rw [Grid.mem_columns] at hc
      rw [value_of_width_lt (by omega)]
      exact ⟨[], rfl⟩
  · intro h
    cases hlabels : g.labels with
    | ok labels => exact ⟨_, by rw [Grid.headers, hlabels]; rfl⟩
    | error f =>
      obtain ⟨c, hc, hf⟩ := exists_of_mapM_eq_error hlabels
      obtain ⟨label, hlabel⟩ := h c (Grid.mem_columns.mp hc).1
      rw [hlabel] at hf
      cases hf

theorem mem_headers_iff (h : g.headers = .ok headers) {p : Nat × List Char} :
    p ∈ headers ↔ g.HasHeader p.1 p.2 := by
  obtain ⟨-, hsound, hcomplete⟩ := mem_headers h
  constructor
  · intro hp
    obtain ⟨hc, hlabel, htrim⟩ := hsound p hp
    exact ⟨(Grid.mem_columns.mp hc).1, hlabel, htrim⟩
  · intro hp
    obtain ⟨label, hlabel, hkept⟩ := hcomplete p.1 hp.mem_columns
    obtain rfl := Except.ok.inj (hp.label_eq.symm.trans hlabel)
    exact hkept hp.ne_blank

theorem nodup_of_ascending (h : headers.Pairwise fun p q => p.1 < q.1) : headers.Nodup := by
  refine h.imp ?_
  rintro p q hlt rfl
  exact Nat.lt_irrefl _ hlt

/-- **The headers of a grid** are the columns that have one, from left to right. -/
theorem headers_eq_ok_iff : g.headers = .ok headers ↔ g.Readable ∧
    headers.Pairwise (fun p q => p.1 < q.1) ∧ ∀ p, p ∈ headers ↔ g.HasHeader p.1 p.2 := by
  constructor
  · exact fun h => ⟨exists_headers_iff.mp ⟨headers, h⟩, (mem_headers h).1, fun p =>
      mem_headers_iff h⟩
  · rintro ⟨hreadable, hsorted, hmem⟩
    obtain ⟨found, hfound⟩ := exists_headers_iff.mpr hreadable
    have hascending := (mem_headers hfound).1
    have hperm : found.Perm headers :=
      (List.perm_ext_iff_of_nodup (nodup_of_ascending hascending)
        (nodup_of_ascending hsorted)).mpr fun p => (mem_headers_iff hfound).trans (hmem p).symm
    rw [hfound, hperm.eq_of_pairwise (fun p q _ _ hpq hqp => absurd hqp (Nat.lt_asymm hpq))
      hascending hsorted]

/-! ### The column of a name -/

variable {name : String}

/-- The column of a name is the place of a header with its key, and no header before it has that
key. -/
theorem exists_of_findColumn (h : g.findColumn name = .ok (some column)) :
    ∃ before label after, g.headers = .ok (before ++ (column, label) :: after) ∧
      CellValue.headerKey label = CellValue.headerKey name.toList ∧
      ∀ p ∈ before, CellValue.headerKey p.2 ≠ CellValue.headerKey name.toList := by
  obtain ⟨headers, hheaders, hfound⟩ := bind_eq_ok_iff.mp h
  obtain ⟨⟨c, label⟩, hfirst, rfl⟩ := Option.map_eq_some_iff.mp (Except.ok.inj hfound)
  obtain ⟨hkey, before, after, rfl, hbefore⟩ := List.find?_eq_some_iff_append.mp hfirst
  exact ⟨before, label, after, hheaders, of_decide_eq_true hkey, fun p hp hsame => by
    simpa [hsame] using hbefore p hp⟩

theorem isFirstHeader_of_findColumn (h : g.findColumn name = .ok (some column)) :
    g.IsFirstHeader (CellValue.headerKey name.toList) column := by
  obtain ⟨before, label, after, hheaders, hkey, hbefore⟩ := exists_of_findColumn h
  obtain ⟨-, hsorted, hmem⟩ := headers_eq_ok_iff.mp hheaders
  refine ⟨⟨label, (hmem (column, label)).mp (by simp), hkey⟩, fun c other hother hkey' => ?_⟩
  rcases List.mem_append.mp ((hmem (c, other)).mpr hother) with hc | hc
  · exact absurd hkey' (hbefore _ hc)
  · rcases List.mem_cons.mp hc with e | hc
    · exact (Prod.mk.inj e).1.ge
    · have hafter := (List.pairwise_append.mp hsorted).2.1
      exact Nat.le_of_lt ((List.pairwise_cons.mp hafter).1 _ hc)

/-- **The column of a name** is the first one whose header has its key. -/
theorem findColumn_eq_some_iff : g.findColumn name = .ok (some column) ↔
    g.Readable ∧ g.IsFirstHeader (CellValue.headerKey name.toList) column := by
  constructor
  · intro h
    obtain ⟨headers, hheaders, -⟩ := bind_eq_ok_iff.mp h
    exact ⟨exists_headers_iff.mp ⟨headers, hheaders⟩, isFirstHeader_of_findColumn h⟩
  · rintro ⟨hreadable, hfirst⟩
    obtain ⟨headers, hheaders⟩ := exists_headers_iff.mpr hreadable
    obtain ⟨label, hlabel, hkey⟩ := hfirst.exists_label
    have hfound : g.findColumn name = .ok ((headers.find? fun p =>
        CellValue.headerKey p.2 = CellValue.headerKey name.toList).map (·.1)) := by
      rw [findColumn, columnOf, hheaders]
      rfl
    cases hcase : g.findColumn name with
    | error f =>
      rw [hfound] at hcase
      cases hcase
    | ok found =>
      cases found with
      | some c => rw [(isFirstHeader_of_findColumn hcase).unique hfirst]
      | none =>
        have hnone := Option.map_eq_none_iff.mp (Except.ok.inj (hfound.symm.trans hcase))
        have hother := List.find?_eq_none.mp hnone _
          ((mem_headers_iff hheaders (p := (column, label))).mpr hlabel)
        exact absurd (decide_eq_true hkey) hother

/-- Grids with the same header row have the same columns for all names. -/
theorem findColumn_congr {g' : Grid} (h : ∀ c, 1 ≤ c → g'.value 1 c = g.value 1 c)
    (hfound : g.findColumn name = .ok (some column)) :
    g'.findColumn name = .ok (some column) := by
  have hheader : ∀ c label, g'.HasHeader c label ↔ g.HasHeader c label := by
    intro c label
    constructor
    · rintro ⟨hone, hlabel, hne⟩
      exact ⟨hone, h c hone ▸ hlabel, hne⟩
    · rintro ⟨hone, hlabel, hne⟩
      exact ⟨hone, (h c hone).symm ▸ hlabel, hne⟩
  obtain ⟨hreadable, ⟨label, hlabel, hkey⟩, hleast⟩ := findColumn_eq_some_iff.mp hfound
  refine findColumn_eq_some_iff.mpr ⟨fun c hone => ?_, ⟨label, (hheader ..).mpr hlabel, hkey⟩,
    fun c other hother => hleast c other ((hheader ..).mp hother)⟩
  rw [h c hone]
  exact hreadable c hone

end SheetCommand.Grid
