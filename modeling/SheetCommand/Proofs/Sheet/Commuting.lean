import SheetCommand.Proofs.Sheet.Sorting

/-!
# Sheet — row edits in either order

A filter and a sort pick rows of a grid. What a second one picks of the rows that a first one has
left are rows of the grid before both (`Shows.trans`), so two of them can be compared by the rows
that they pick in the end.

* `filters_commute`: two filters keep the rows that pass both, whichever comes first.
* `filter_sort_commute`: where each cell of the column that is sorted by has a rank, a filter and a
  sort leave the same rows in the same order, whichever comes first.
-/

namespace SheetCommand.Grid

variable {g left again : Grid} {rows order : List Nat} {row column r : Nat} {name : String}

/-! ### Rows of rows -/

/-- Which of the rows that are shown stands at a data row. -/
def rowAt (rows : List Nat) (r : Nat) : Nat := rows[r - 2]?.getD 0

theorem Shows.getElem?_rowAt (h : Shows g rows left) (hr : r ∈ left.dataRows) :
    rows[r - 2]? = some (rowAt rows r) := by
  obtain ⟨k, row, rfl, hk⟩ := exists_place h.height hr
  rw [rowAt, Nat.add_sub_cancel, hk, Option.getD_some]

theorem Shows.value_eq (h : Shows g rows left) (hr : r ∈ left.dataRows) (hc : column ∈ g.columns) :
    left.value r column = g.value (rowAt rows r) column := by
  have hvalue := h.values _ _ (h.getElem?_rowAt hr) column hc
  rwa [Nat.sub_add_cancel (mem_dataRows.mp hr).1] at hvalue

theorem Shows.map_rowAt (h : Shows g rows left) : left.dataRows.map (rowAt rows) = rows := by
  refine List.ext_getElem? fun k => ?_
  rw [List.getElem?_map]
  rcases Nat.lt_or_ge k rows.length with hlt | hge
  · have hplace : left.dataRows[k]? = some (k + 2) := by
      rw [dataRows, span, List.getElem?_range' (by rw [h.height]; omega), Nat.one_mul,
        Nat.add_comm]
    rw [hplace, Option.map_some, rowAt, Nat.add_sub_cancel, List.getElem?_eq_getElem hlt]
    rfl
  · rw [List.getElem?_eq_none hge, List.getElem?_eq_none (h.length_dataRows ▸ hge)]
    rfl

theorem Shows.rowAt_lt (h : Shows g rows left) (hrows : rows.Pairwise (· < ·)) {s : Nat}
    (hr : r ∈ left.dataRows) (hs : s ∈ left.dataRows) (hlt : r < s) :
    rowAt rows r < rowAt rows s := by
  obtain ⟨hi, hri⟩ := List.getElem?_eq_some_iff.mp (h.getElem?_rowAt hr)
  obtain ⟨hj, hsj⟩ := List.getElem?_eq_some_iff.mp (h.getElem?_rowAt hs)
  rw [← hri, ← hsj]
  have htwo := (mem_dataRows.mp hr).1
  exact List.pairwise_iff_getElem.mp hrows _ _ hi hj (by omega)

/-- What is shown of a grid that shows another one is shown of that one. -/
theorem Shows.trans (h : Shows g rows left) (h' : Shows left order again)
    (hinside : ∀ r ∈ order, r ∈ left.dataRows) : Shows g (order.map (rowAt rows)) again where
  width := h'.width.trans h.width
  height := by rw [h'.height, List.length_map]
  headers c := (h'.headers c).trans (h.headers c)
  values k row hk c hc := by
    obtain ⟨r, hr, rfl⟩ := Option.map_eq_some_iff.mp (List.getElem?_map .. ▸ hk)
    have hc' : c ∈ left.columns := h.columns ▸ hc
    rw [h'.values k r hr c hc', h.value_eq (hinside r (List.mem_of_getElem? hr)) hc]

theorem shows_dataRows (g : Grid) : Shows g g.dataRows g :=
  (selected_of_sameValues (fun _ _ => rfl) rfl rfl).shows

/-! ### Edits of what is shown -/

section
variable (h : Shows g rows left) (hrows : ∀ row ∈ rows, row ∈ g.dataRows)
  (hcolumn : g.findColumn name = .ok (some column))
include h hrows hcolumn

theorem Shows.isInRange (hrange : ∀ row ∈ g.dataRows, (g.value row column).IsInRange) :
    ∀ r ∈ left.dataRows, (left.value r column).IsInRange := by
  intro r hr
  obtain ⟨row, hrow, hvalue⟩ := h.exists_row hr
  rw [hvalue column (of_findColumn hcolumn).1]
  exact hrange row (hrows row hrow)

/-- A filter keeps the rows that pass of those that are shown. -/
theorem Shows.exists_filterRows (hrange : ∀ row ∈ g.dataRows, (g.value row column).IsInRange)
    (title : String) (op : Comparison) (value : Binary64) :
    ∃ again record, (Edit.filterRows name op value).apply title left = ⟨again, .ok record⟩ ∧
      Shows g (rows.filter fun row => (g.value row column).satisfies op (.real value) = .ok true)
        again := by
  have hthere := (of_findColumn hcolumn).1
  obtain ⟨again, hagain, happly⟩ := Grid.exists_filterRows ((h.findColumn name).trans hcolumn)
    (h.isInRange hrows hcolumn hrange) title op value
  have hkept : (left.rowsWhere column op value).map (rowAt rows) =
      rows.filter fun row => (g.value row column).satisfies op (.real value) = .ok true := by
    conv_rhs => rw [← h.map_rowAt, List.filter_map]
    refine congrArg _ (List.filter_congr fun r hr => ?_)
    rw [h.value_eq hr hthere]
    rfl
  refine ⟨again, _, happly, ?_⟩
  rw [← hkept]
  exact h.trans hagain.shows fun r hr => (List.mem_filter.mp hr).1

/-- A sort arranges the rows that are shown, by rank and then as they stand in the grid. -/
theorem Shows.exists_sortBy (hincreasing : rows.Pairwise (· < ·)) {rank : Nat → Rank}
    (hrank : ∀ row ∈ g.dataRows, (g.value row column).rank? = some (rank row)) (title : String)
    (direction : Direction) :
    ∃ again record order, (Edit.sortBy name direction).apply title left = ⟨again, .ok record⟩ ∧
      Shows g order again ∧ order.Perm rows ∧ order.Pairwise (direction.Sorts rank) := by
  have hthere := (of_findColumn hcolumn).1
  have hranked : ∀ r ∈ left.dataRows,
      (left.value r column).rank? = some (rank (rowAt rows r)) := by
    intro r hr
    rw [h.value_eq hr hthere]
    exact hrank _ (hrows _ (List.mem_of_getElem? (h.getElem?_rowAt hr)))
  obtain ⟨again, happly, hagain, -⟩ := apply_sortBy ((h.findColumn name).trans hcolumn)
    (fun r hr => CellValue.isInRange_of_rank? (hranked r hr)) title direction
  have hperm := sortedRows_perm left column direction
  refine ⟨again, _, _, happly, h.trans hagain fun r hr => hperm.mem_iff.mp hr, ?_, ?_⟩
  · have hmap := hperm.map (rowAt rows)
    rwa [h.map_rowAt] at hmap
  · rw [List.pairwise_map]
    refine (pairwise_sortedRows hranked direction).imp_of_mem fun hr hs hsorts => ?_
    refine hsorts.imp_right fun ⟨hsame, hlt⟩ => ⟨hsame, ?_⟩
    exact h.rowAt_lt hincreasing (hperm.mem_iff.mp hr) (hperm.mem_iff.mp hs) hlt

end

/-! ### Two edits -/

/-- Two edits, one after the other, lead from one grid to another and do not fail. -/
def Leads (title : String) (e f : Edit) (g left : Grid) : Prop :=
  ∃ between record record', e.apply title g = ⟨between, .ok record⟩ ∧
    f.apply title between = ⟨left, .ok record'⟩

/-- Two edits can be made in either order, and the same rows are left. -/
def Commute (title : String) (g : Grid) (e f : Edit) : Prop :=
  ∃ left right, Leads title e f g left ∧ Leads title f e g right ∧ left.rows = right.rows

variable {first second : String} {c d : Nat}

theorem pairwise_dataRows (g : Grid) : g.dataRows.Pairwise (· < ·) := List.pairwise_lt_range'

/-- Two filters keep the rows that pass both. -/
theorem filters_commute (hc : g.findColumn first = .ok (some c))
    (hd : g.findColumn second = .ok (some d))
    (hrange : ∀ row ∈ g.dataRows, (g.value row c).IsInRange)
    (hrange' : ∀ row ∈ g.dataRows, (g.value row d).IsInRange) (title : String)
    (op op' : Comparison) (value value' : Binary64) :
    Commute title g (.filterRows first op value) (.filterRows second op' value') := by
  have hkept : ∀ {p : Nat → Bool}, ∀ row ∈ g.dataRows.filter p, row ∈ g.dataRows :=
    fun row hrow => (List.mem_filter.mp hrow).1
  obtain ⟨l, _, hl, hshows⟩ :=
    (shows_dataRows g).exists_filterRows (fun _ => id) hc hrange title op value
  obtain ⟨left, _, hleft, hshowsLeft⟩ := hshows.exists_filterRows hkept hd hrange' title op' value'
  obtain ⟨r, _, hr, hshows'⟩ :=
    (shows_dataRows g).exists_filterRows (fun _ => id) hd hrange' title op' value'
  obtain ⟨right, _, hright, hshowsRight⟩ := hshows'.exists_filterRows hkept hc hrange title op value
  refine ⟨left, right, ⟨l, _, _, hl, hleft⟩, ⟨r, _, _, hr, hright⟩, ?_⟩
  rw [hshowsLeft.rows_eq, hshowsRight.rows_eq, List.filter_comm]

/-- A filter and a sort leave the rows that pass, by rank and then as they stood. -/
theorem filter_sort_commute (hc : g.findColumn first = .ok (some c))
    (hd : g.findColumn second = .ok (some d))
    (hrange : ∀ row ∈ g.dataRows, (g.value row c).IsInRange) {rank : Nat → Rank}
    (hrank : ∀ row ∈ g.dataRows, (g.value row d).rank? = some (rank row)) (title : String)
    (op : Comparison) (value : Binary64) (direction : Direction) :
    Commute title g (.filterRows first op value) (.sortBy second direction) := by
  obtain ⟨l, _, hl, hshows⟩ :=
    (shows_dataRows g).exists_filterRows (fun _ => id) hc hrange title op value
  obtain ⟨left, _, order, hleft, hshowsLeft, hperm, hsorts⟩ :=
    hshows.exists_sortBy (fun row hrow => (List.mem_filter.mp hrow).1) hd
      ((pairwise_dataRows g).filter _) hrank title direction
  obtain ⟨r, _, order', hr, hshows', hperm', hsorts'⟩ :=
    (shows_dataRows g).exists_sortBy (fun _ => id) hd (pairwise_dataRows g) hrank title direction
  obtain ⟨right, _, hright, hshowsRight⟩ :=
    hshows'.exists_filterRows (fun row => hperm'.mem_iff.mp) hc hrange title op value
  refine ⟨left, right, ⟨l, _, _, hl, hleft⟩, ⟨r, _, _, hr, hright⟩, ?_⟩
  have hsame := Direction.eq_of_sorts (hperm.trans (hperm'.filter _).symm) (hsorts'.filter _) hsorts
  rw [hshowsLeft.rows_eq, hshowsRight.rows_eq, hsame]

end SheetCommand.Grid
