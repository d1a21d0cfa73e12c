import SheetCommand.Sheet.Header

/-!
# Sheet — extents

A grid is observed through what its positions hold and through its height and width. Creating cells
within the extents changes none of these (`value_touchAll`, `extent_touchAll`), so a scan of the
headers is not seen. It leaves a mark all the same: the header cells exist afterwards, and a second
scan finds nothing to create (`touchHeaders_touchHeaders`).

* `extent_le_iff`: height and width are the least bounds of the rows and columns with a cell.
* `cells_touchAll`: touching appends blank cells and does nothing else.
-/

namespace SheetCommand.Grid

/-! ### Positions -/

theorem mem_span {first last n : Nat} : n ∈ span first last ↔ first ≤ n ∧ n ≤ last := by
  rw [span, List.mem_range'_1]
  omega

theorem nodup_span (first last : Nat) : (span first last).Nodup := List.nodup_range'

theorem mem_rectangle {rows columns : List Nat} {p : Nat × Nat} :
    p ∈ rectangle rows columns ↔ p.1 ∈ rows ∧ p.2 ∈ columns := by
  obtain ⟨r, c⟩ := p
  simp [rectangle]

/-- A cell exists at a position if some entry is for it. -/
theorem isSome_get?_iff {g : Grid} {r c : Nat} :
    (g.get? r c).isSome = true ↔ ∃ v, ((r, c), v) ∈ g.cells := by
  rw [get?, List.lookup_isSome_iff]
  constructor
  · rintro ⟨⟨p, v⟩, hm, he⟩
    obtain rfl : (r, c) = p := eq_of_beq he
    exact ⟨v, hm⟩
  · rintro ⟨v, hm⟩
    exact ⟨_, hm, beq_self_eq_true _⟩

/-! ### Extents -/

/-- The last line with a cell, where `line` takes the row or the column of a position. -/
def extent (g : Grid) (line : Nat × Nat → Nat) : Nat :=
  g.cells.foldl (fun n cell => max n (line cell.1)) 1

section
variable {g : Grid} {line : Nat × Nat → Nat}

private theorem foldl_max_le_iff (cells : List ((Nat × Nat) × CellValue)) (start bound : Nat) :
    cells.foldl (fun n cell => max n (line cell.1)) start ≤ bound ↔
      start ≤ bound ∧ ∀ cell ∈ cells, line cell.1 ≤ bound := by
  induction cells generalizing start with
  | nil => simp
  | cons cell rest ih =>
    rw [List.foldl_cons, ih, Nat.max_le, List.forall_mem_cons, and_assoc]

/-- An extent is the least bound, from 1 on, of the lines with a cell. -/
theorem extent_le_iff {n : Nat} :
    g.extent line ≤ n ↔ 1 ≤ n ∧ ∀ r c, (g.get? r c).isSome = true → line (r, c) ≤ n := by
  rw [extent, foldl_max_le_iff]
  refine and_congr_right fun _ => ⟨fun h r c hs => ?_, fun h cell hm => ?_⟩
  · obtain ⟨v, hm⟩ := isSome_get?_iff.mp hs
    exact h _ hm
  · exact h _ _ (isSome_get?_iff.mpr ⟨cell.2, hm⟩)

theorem one_le_extent (g : Grid) (line : Nat × Nat → Nat) : 1 ≤ g.extent line :=
  (extent_le_iff.mp (Nat.le_refl _)).1

theorem le_extent (line : Nat × Nat → Nat) {r c : Nat} (h : (g.get? r c).isSome = true) :
    line (r, c) ≤ g.extent line :=
  (extent_le_iff.mp (Nat.le_refl _)).2 r c h

end

theorem one_le_height (g : Grid) : 1 ≤ g.height := one_le_extent ..

theorem one_le_width (g : Grid) : 1 ≤ g.width := one_le_extent ..

theorem le_height {g : Grid} {r c : Nat} (h : (g.get? r c).isSome = true) : r ≤ g.height :=
  le_extent Prod.fst h

theorem le_width {g : Grid} {r c : Nat} (h : (g.get? r c).isSome = true) : c ≤ g.width :=
  le_extent Prod.snd h

/-! ### Putting one cell -/

theorem value_put (g : Grid) (row column r c : Nat) (v : CellValue) :
    (g.put row column v).value r c = if (r, c) = (row, column) then v else g.value r c := by
  rw [value, get?_put]
  split <;> rfl

theorem isSome_get?_put (g : Grid) (row column r c : Nat) (v : CellValue) :
    ((g.put row column v).get? r c).isSome = true ↔
      (r, c) = (row, column) ∨ (g.get? r c).isSome = true := by
  rw [get?_put]
  split <;> simp [*]

theorem extent_put (g : Grid) (line : Nat × Nat → Nat) (row column : Nat) (v : CellValue) :
    (g.put row column v).extent line = max (g.extent line) (line (row, column)) := by
  apply Nat.le_antisymm
  · refine extent_le_iff.mpr
      ⟨Nat.le_trans (g.one_le_extent line) (Nat.le_max_left ..), fun r c h => ?_⟩
    rcases (isSome_get?_put ..).mp h with e | h
    · rw [e]; exact Nat.le_max_right ..
    · exact Nat.le_trans (le_extent line h) (Nat.le_max_left ..)
  · refine Nat.max_le.mpr ⟨extent_le_iff.mpr ⟨one_le_extent .., fun r c h => ?_⟩, ?_⟩
    · exact le_extent line ((isSome_get?_put ..).mpr (.inr h))
    · exact le_extent line ((isSome_get?_put ..).mpr (.inl rfl))

theorem height_put (g : Grid) (row column : Nat) (v : CellValue) :
    (g.put row column v).height = max g.height row := extent_put ..

theorem width_put (g : Grid) (row column : Nat) (v : CellValue) :
    (g.put row column v).width = max g.width column := extent_put ..

theorem height_put_of_le {g : Grid} {row c : Nat} {v : CellValue} (h : row ≤ g.height) :
    (g.put row c v).height = g.height :=
  (height_put g row c v).trans (Nat.max_eq_left h)

/-! ### Touching -/

theorem touch_of_isSome {g : Grid} {row column : Nat} (h : (g.get? row column).isSome = true) :
    g.touch row column = g := by
  rw [touch, if_pos h]

theorem isSome_get?_touch (g : Grid) (row column r c : Nat) :
    ((g.touch row column).get? r c).isSome = true ↔
      (r, c) = (row, column) ∨ (g.get? r c).isSome = true := by
  unfold touch
  split
  · rename_i h
    refine ⟨.inr, fun hs => hs.elim (fun e => ?_) id⟩
    cases e; exact h
  · exact isSome_get?_put ..

/-- Touching a cell changes an extent as putting it does. -/
theorem extent_touch (g : Grid) (line : Nat × Nat → Nat) (row column : Nat) :
    (g.touch row column).extent line = max (g.extent line) (line (row, column)) := by
  unfold touch
  split
  · rename_i h
    exact (Nat.max_eq_left (le_extent line h)).symm
  · exact extent_put ..

theorem height_touch_of_le {g : Grid} {row c : Nat} (h : row ≤ g.height) : (g.touch row c).height = g.height :=
  (extent_touch g Prod.fst row c).trans (Nat.max_eq_left h)

theorem touchAll_nil (g : Grid) : g.touchAll [] = g := rfl

theorem touchAll_cons (g : Grid) (p : Nat × Nat) (rest : List (Nat × Nat)) :
    g.touchAll (p :: rest) = (g.touch p.1 p.2).touchAll rest := rfl

theorem isSome_get?_touchAll (g : Grid) (positions : List (Nat × Nat)) (r c : Nat) :
    ((g.touchAll positions).get? r c).isSome = true ↔
      (r, c) ∈ positions ∨ (g.get? r c).isSome = true := by
  induction positions generalizing g with
  | nil => simp [touchAll_nil]
  | cons p rest ih =>
    obtain ⟨row, column⟩ := p
    rw [touchAll_cons, ih, isSome_get?_touch, List.mem_cons, ← or_assoc,
      or_comm (a := (r, c) ∈ rest)]

theorem extent_touchAll {g : Grid} {line : Nat × Nat → Nat} {positions : List (Nat × Nat)}
    (h : ∀ p ∈ positions, line p ≤ g.extent line) :
    (g.touchAll positions).extent line = g.extent line := by
  induction positions generalizing g with
  | nil => rfl
  | cons p rest ih =>
    obtain ⟨hp, hrest⟩ := List.forall_mem_cons.mp h
    have e : (g.touch p.1 p.2).extent line = g.extent line :=
      (extent_touch ..).trans (Nat.max_eq_left hp)
    rw [touchAll_cons, ih (by rwa [e]), e]

/-- Cells that all exist are touched in vain. -/
theorem touchAll_eq_self {g : Grid} {positions : List (Nat × Nat)}
    (h : ∀ p ∈ positions, (g.get? p.1 p.2).isSome = true) : g.touchAll positions = g := by
  induction positions with
  | nil => rfl
  | cons p rest ih =>
    obtain ⟨hp, hrest⟩ := List.forall_mem_cons.mp h
    rw [touchAll_cons, touch_of_isSome hp, ih hrest]

private theorem putIn_of_lookup_eq_none {p : Nat × Nat} {v : CellValue}
    {cells : List ((Nat × Nat) × CellValue)} (h : cells.lookup p = none) :
    putIn p v cells = cells ++ [(p, v)] := by
  induction cells with
  | nil => rfl
  | cons cell rest ih =>
    obtain ⟨q, w⟩ := cell
    obtain ⟨hq, hrest⟩ := List.forall_mem_cons.mp (List.lookup_eq_none_iff.mp h)
    have hne : q ≠ p := fun e => bne_iff_ne.mp hq e.symm
    rw [putIn, if_neg hne, ih (List.lookup_eq_none_iff.mpr hrest), List.cons_append]

/-- Touching appends cells that hold nothing. -/
theorem cells_touchAll (g : Grid) (positions : List (Nat × Nat)) :
    ∃ created, (g.touchAll positions).cells = g.cells ++ created ∧
      ∀ cell ∈ created, cell.2 = .blank := by
  induction positions generalizing g with
  | nil => exact ⟨[], (List.append_nil _).symm, by simp⟩
  | cons p rest ih =>
    obtain ⟨created, hcells, hblank⟩ := ih (g.touch p.1 p.2)
    rw [touchAll_cons, hcells, touch]
    split
    · exact ⟨created, rfl, hblank⟩
    · rename_i h
      have h' : g.cells.lookup (p.1, p.2) = none := Option.not_isSome_iff_eq_none.mp h
      refine ⟨((p.1, p.2), .blank) :: created, ?_, List.forall_mem_cons.mpr ⟨rfl, hblank⟩⟩
      rw [put, putIn_of_lookup_eq_none h', List.append_assoc, List.singleton_append]

/-! ### Scanning the headers -/

theorem mem_columns {g : Grid} {c : Nat} : c ∈ g.columns ↔ 1 ≤ c ∧ c ≤ g.width := mem_span

theorem mem_dataRows {g : Grid} {r : Nat} : r ∈ g.dataRows ↔ 2 ≤ r ∧ r ≤ g.height := mem_span

theorem length_columns (g : Grid) : g.columns.length = g.width := by
  rw [columns, span, List.length_range', Nat.add_sub_cancel]

theorem length_dataRows (g : Grid) : g.dataRows.length = g.height - 1 := by
  rw [dataRows, span, List.length_range']
  rfl

theorem getElem?_columns {g : Grid} {j c : Nat} :
    g.columns[j]? = some c ↔ j < g.width ∧ c = j + 1 := by
  by_cases h : j < g.width
  · rw [columns, span, Nat.add_sub_cancel, List.getElem?_range' h, Option.some.injEq]
    omega
  · rw [List.getElem?_eq_none (by rw [length_columns]; omega)]
    simp [h]

theorem nodup_dataRows (g : Grid) : g.dataRows.Nodup := nodup_span ..

private theorem mem_headerCells {g : Grid} {p : Nat × Nat} (h : p ∈ rectangle [1] g.columns) :
    p.1 = 1 ∧ 1 ≤ p.2 ∧ p.2 ≤ g.width := by
  obtain ⟨hr, hc⟩ := mem_rectangle.mp h
  exact ⟨List.mem_singleton.mp hr, mem_columns.mp hc⟩

theorem value_touchHeaders (g : Grid) (r c : Nat) : g.touchHeaders.value r c = g.value r c :=
  value_touchAll ..

theorem height_touchHeaders (g : Grid) : g.touchHeaders.height = g.height :=
  extent_touchAll fun _ h => Nat.le_trans (Nat.le_of_eq (mem_headerCells h).1) g.one_le_height

theorem width_touchHeaders (g : Grid) : g.touchHeaders.width = g.width :=
  extent_touchAll fun _ h => (mem_headerCells h).2.2

theorem columns_touchHeaders (g : Grid) : g.touchHeaders.columns = g.columns := by
  rw [columns, columns, width_touchHeaders]

/-- A scan of the headers leaves nothing for the next one to create. -/
theorem touchHeaders_touchHeaders (g : Grid) : g.touchHeaders.touchHeaders = g.touchHeaders := by
  rw [touchHeaders, columns_touchHeaders]
  exact touchAll_eq_self fun p h => (isSome_get?_touchAll ..).mpr (.inl h)

theorem labels_touchHeaders (g : Grid) : g.touchHeaders.labels = g.labels := by
  simp only [labels, columns_touchHeaders, value_touchHeaders]

theorem headers_touchHeaders (g : Grid) : g.touchHeaders.headers = g.headers := by
  simp only [headers, labels_touchHeaders, columns_touchHeaders]

theorem columnOf_touchHeaders (g : Grid) (key : List Char) :
    g.touchHeaders.columnOf key = g.columnOf key := by
  simp only [columnOf, headers_touchHeaders]

theorem findColumn_touchHeaders (g : Grid) (header : String) :
    g.touchHeaders.findColumn header = g.findColumn header :=
  columnOf_touchHeaders ..

theorem lastHeaderColumn_touchHeaders (g : Grid) :
    g.touchHeaders.lastHeaderColumn = g.lastHeaderColumn := by
  simp only [lastHeaderColumn, headers_touchHeaders]

theorem listedHeaders_touchHeaders (g : Grid) : g.touchHeaders.listedHeaders = g.listedHeaders := by
  simp only [listedHeaders, labels_touchHeaders]

end SheetCommand.Grid
