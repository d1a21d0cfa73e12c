import SheetCommand.Proofs.Sheet.Provenance
import SheetCommand.Workbook.Basic

/-!
# Sheet — the rows that a filter keeps

A filter looks at the cells of one column and erases the rows that fail, from the bottom up. The
height of a grid is that of the last row with a cell, so a row that is erased could take more than
one line with it. It does not: the filter has looked at every row, so every row has a cell in that
column (`Solid`), and goes on having one while rows are erased.

* `Selected`: a grid has, below the headers of another one, the given rows of it in the given order;
  `Shows` says so of the part within the width, which is what can be read of a grid.
* `Selected.eraseRow`, `selected_eraseRows`: what erasing one row does, and what erasing all rows
  that fail does.
* `filterRows_keeps`: the rows that pass are kept, and a second filter finds nothing to drop.
-/

namespace SheetCommand

namespace CellValue

/-- An integer in the cell is in the range of real numbers. -/
def IsInRange : CellValue → Prop
  | .int n => (Binary64.ofInt n).isFinite = true
  | _ => True

instance : DecidablePred IsInRange
  | .int n => inferInstanceAs (Decidable ((Binary64.ofInt n).isFinite = true))
  | .blank | .bool _ | .real _ | .text _ | .moment _ => isTrue trivial

/-- A value in range is compared, and passes or does not. -/
theorem satisfies_of_isInRange {v : CellValue} (h : v.IsInRange) (op : Comparison)
    (target : Number) :
    v.satisfies op target = .ok (decide (v.satisfies op target = .ok true)) := by
  obtain ⟨number, hnumber⟩ : ∃ number, v.number? = .ok number := by
    cases v with
    | int n => exact ⟨some (.int n), if_pos h⟩
    | blank | bool | real | text | moment => exact ⟨_, rfl⟩
  obtain ⟨passes, hpasses⟩ : ∃ passes, v.satisfies op target = .ok passes := by
    rw [satisfies, hnumber]
    cases number <;> exact ⟨_, rfl⟩
  rw [hpasses]
  cases passes <;> rfl

end CellValue

namespace Grid

variable {g g' left : Grid} {row column : Nat} {rows before after : List Nat}

/-! ### Columns without a gap -/

/-- Every row of the grid has a cell in the column. -/
def Solid (g : Grid) (column : Nat) : Prop :=
  ∀ r, 1 ≤ r → r ≤ g.height → (g.get? r column).isSome = true

/-- What is erased from a grid with such a column is one line and no more. -/
theorem height_eraseRow (h : g.Solid column) (hrow : 2 ≤ row) (hle : row ≤ g.height) :
    (g.eraseRow row).height = g.height - 1 := by
  apply Nat.le_antisymm
  · refine extent_le_iff.mpr ⟨by omega, fun r c hs => ?_⟩
    have hr : unshift row r ≤ g.height := by
      rcases isSome_get?_eraseRow.mp hs with ⟨-, hr, -⟩ | hs
      · exact hr
      · exact le_height hs
    unfold unshift at hr
    dsimp only
    split at hr <;> omega
  · -- the row that becomes the last one has a cell in the column
    have hlow := le_unshift row (g.height - 1)
    have hhigh : unshift row (g.height - 1) ≤ g.height := by
      unfold unshift
      split <;> omega
    exact le_height (isSome_get?_eraseRow.mpr (.inr (h _ (by omega) hhigh)))

theorem Solid.eraseRow (h : g.Solid column) (hrow : 2 ≤ row) : (g.eraseRow row).Solid column := by
  intro r hone hle
  exact isSome_get?_eraseRow.mpr (.inr (h _ (Nat.le_trans hone (le_unshift ..))
    (unshift_le_height hle hrow)))

theorem le_of_mem_column {p : Nat × Nat} (hcolumn : column ∈ g.columns)
    (hp : p ∈ g.dataRows.map (·, column)) : p.1 ≤ g.height ∧ p.2 ≤ g.width := by
  obtain ⟨r, hr, rfl⟩ := List.mem_map.mp hp
  exact ⟨(mem_dataRows.mp hr).2, (mem_columns.mp hcolumn).2⟩

/-- A column with a header whose other cells are created has no gap. -/
theorem solid_touchAll (h : g.Headed) (hcolumn : column ∈ g.columns) :
    (g.touchAll (g.dataRows.map (·, column))).Solid column := by
  have hheight : (g.touchAll (g.dataRows.map (·, column))).height = g.height :=
    extent_touchAll fun _ hp => (le_of_mem_column hcolumn hp).1
  intro r hone hle
  rw [hheight] at hle
  refine (isSome_get?_touchAll ..).mpr ?_
  rcases Nat.eq_or_lt_of_le hone with rfl | htwo
  · exact .inr (h column hcolumn)
  · exact .inl (List.mem_map_of_mem (mem_dataRows.mpr ⟨htwo, hle⟩))

/-! ### Selected rows -/

/-- The place of a data row among as many rows as there are. -/
theorem exists_place {r : Nat} (h : left.height = rows.length + 1) (hr : r ∈ left.dataRows) :
    ∃ k row, r = k + 2 ∧ rows[k]? = some row := by
  obtain ⟨hlow, hhigh⟩ := mem_dataRows.mp hr
  obtain ⟨k, rfl⟩ := Nat.exists_eq_add_of_le' hlow
  have hlt : k < rows.length := by
    rw [h] at hhigh
    omega
  exact ⟨k, rows[k], rfl, List.getElem?_eq_getElem hlt⟩

/-- A grid is as wide as another one, has its headers, and has below them, within the width, the
given rows of it in the given order. -/
structure Shows (g : Grid) (rows : List Nat) (left : Grid) : Prop where
  width : left.width = g.width
  height : left.height = rows.length + 1
  headers : ∀ c, left.value 1 c = g.value 1 c
  values : ∀ k row, rows[k]? = some row → ∀ c ∈ g.columns, left.value (k + 2) c = g.value row c

section
variable (h : Shows g rows left)
include h

theorem Shows.columns : left.columns = g.columns := by
  rw [Grid.columns, Grid.columns, h.width]

theorem Shows.of_sameValues {g₀ : Grid} (hsame : g₀.SameValues g) (hwidth : g.width = g₀.width) :
    Shows g₀ rows left where
  width := h.width.trans hwidth
  height := h.height
  headers c := (h.headers c).trans (hsame 1 c)
  values k row hk c hc :=
    (h.values k row hk c (by rwa [Grid.columns, hwidth])).trans (hsame row c)

/-- The rows of the grid that is left, the header row first. -/
theorem Shows.rows_eq : left.rows = g.readRows (1 :: rows) := by
  refine List.ext_getElem? fun k => ?_
  rw [Grid.rows, readRows, List.getElem?_map, List.getElem?_map, h.columns, span,
    Nat.add_sub_cancel, h.height]
  rcases Nat.lt_or_ge k (rows.length + 1) with hlt | hge
  · rw [List.getElem?_range' hlt, Option.map_some, Nat.one_mul]
    cases k with
    | zero => simp only [h.headers, List.getElem?_cons_zero, Option.map_some, Nat.add_zero]
    | succ k =>
      have hk := List.getElem?_eq_getElem (Nat.lt_of_succ_lt_succ hlt)
      rw [List.getElem?_cons_succ, hk, Option.map_some, show 1 + (k + 1) = k + 2 by omega]
      exact congrArg some (List.map_congr_left (h.values k _ hk))
  · rw [List.getElem?_eq_none (by rwa [List.length_range']),
      List.getElem?_eq_none (by rwa [List.length_cons])]
    rfl

theorem Shows.length_dataRows : left.dataRows.length = rows.length := by
  rw [Grid.length_dataRows, h.height, Nat.add_sub_cancel]

/-- Every data row of the grid that is left is one of the rows that are shown. -/
theorem Shows.exists_row {r : Nat} (hr : r ∈ left.dataRows) :
    ∃ row ∈ rows, ∀ c ∈ g.columns, left.value r c = g.value row c := by
  obtain ⟨k, row, rfl, hk⟩ := exists_place h.height hr
  exact ⟨row, List.mem_of_getElem? hk, h.values k row hk⟩

theorem Shows.findColumn (name : String) : left.findColumn name = g.findColumn name := by
  simp only [Grid.findColumn, columnOf, Grid.headers, labels, h.columns, h.headers]

end

/-- A grid is as wide as another one, has its headers, and has below them the given rows of it,
whole and in the given order. -/
structure Selected (g : Grid) (rows : List Nat) (left : Grid) : Prop where
  width : left.width = g.width
  height : left.height = rows.length + 1
  headers : ∀ c, left.value 1 c = g.value 1 c
  values : ∀ k row, rows[k]? = some row → ∀ c, left.value (k + 2) c = g.value row c

theorem Selected.shows (h : Selected g rows left) : Shows g rows left :=
  ⟨h.width, h.height, h.headers, fun k row hk c _ => h.values k row hk c⟩

theorem selected_of_sameValues (h : g.SameValues left) (hheight : left.height = g.height)
    (hwidth : left.width = g.width) : Selected g g.dataRows left := by
  refine ⟨hwidth, ?_, h 1, fun k row hk c => ?_⟩
  · have hone := one_le_height g
    rw [length_dataRows, hheight]
    omega
  · obtain ⟨hlt, hrow⟩ := List.getElem?_eq_some_iff.mp hk
    rw [← hrow, h, Nat.add_comm]
    simp only [dataRows, span, List.getElem_range', Nat.one_mul]

/-- Looking at a column leaves all rows. -/
theorem selected_touchAll (hcolumn : column ∈ g.columns) :
    Selected g g.dataRows (g.touchAll (g.dataRows.map (·, column))) :=
  selected_of_sameValues (value_touchAll g _)
    (extent_touchAll fun _ hp => (le_of_mem_column hcolumn hp).1)
    (extent_touchAll fun _ hp => (le_of_mem_column hcolumn hp).2)

theorem Selected.of_sameValues (h : g.SameValues g') (hwidth : g'.width = g.width)
    (hs : Selected g' rows left) : Selected g rows left where
  width := hs.width.trans hwidth
  height := hs.height
  headers c := (hs.headers c).trans (h 1 c)
  values k row hk c := (hs.values k row hk c).trans (h row c)

theorem Selected.rows_eq (h : Selected g rows left) : left.rows = g.readRows (1 :: rows) :=
  h.shows.rows_eq

theorem Selected.length_dataRows (h : Selected g rows left) :
    left.dataRows.length = rows.length :=
  h.shows.length_dataRows

theorem Selected.findColumn (h : Selected g rows left) (name : String) :
    left.findColumn name = g.findColumn name :=
  h.shows.findColumn name

/-- Every data row of the grid that is left is one of the rows that were selected. -/
theorem Selected.exists_row {r : Nat} (h : Selected g rows left) (hr : r ∈ left.dataRows) :
    ∃ row ∈ rows, ∀ c, left.value r c = g.value row c := by
  obtain ⟨k, row, rfl, hk⟩ := exists_place h.height hr
  exact ⟨row, List.mem_of_getElem? hk, h.values k row hk⟩

/-! ### Erasing the rows that fail -/

theorem Selected.eraseRow (h : Selected g (before ++ row :: after) left) (hheaded : left.Headed)
    (hsolid : left.Solid column) :
    Selected g (before ++ after) (left.eraseRow (before.length + 2)) := by
  have htwo : 2 ≤ before.length + 2 := Nat.le_add_left ..
  have hheight := h.height
  rw [List.length_append, List.length_cons] at hheight
  refine ⟨?_, ?_, fun c => ?_, fun k r hk c => ?_⟩
  · rw [width_eraseRow htwo hheaded, h.width]
  · rw [height_eraseRow hsolid htwo (by omega), hheight, List.length_append]
    omega
  · rw [value_eraseRow, unshift_of_lt htwo, h.headers]
  · rw [value_eraseRow]
    rcases Nat.lt_or_ge k before.length with hlt | hge
    · rw [unshift_of_lt (Nat.add_lt_add_right hlt 2)]
      refine h.values k r ?_ c
      rwa [List.getElem?_append_left hlt] at hk ⊢
    · rw [unshift_of_le (Nat.add_le_add_right hge 2)]
      refine h.values (k + 1) r ?_ c
      rw [List.getElem?_append_right hge] at hk
      rw [List.getElem?_append_right (Nat.le_succ_of_le hge), Nat.succ_sub hge,
        List.getElem?_cons_succ, hk]

/-- Erases rows from the bottom up. -/
def eraseRows (g : Grid) (rows : List Nat) : Grid := rows.foldr (fun row g => g.eraseRow row) g

/-- Erasing the failing ones of `n` rows leaves those that pass. The rows before them stay where
they are, so each row is erased where it was at the start. -/
theorem selected_eraseRows (passes : Nat → Bool) (before : List Nat) {n : Nat}
    (hheaded : left.Headed) (hsolid : left.Solid column)
    (h : Selected g (before ++ List.range' (before.length + 2) n) left) :
    Selected g (before ++ (List.range' (before.length + 2) n).filter passes)
        (left.eraseRows ((List.range' (before.length + 2) n).filter (!passes ·))) ∧
      (left.eraseRows ((List.range' (before.length + 2) n).filter (!passes ·))).Headed ∧
      (left.eraseRows ((List.range' (before.length + 2) n).filter (!passes ·))).Solid column := by
  induction n generalizing before with
  | zero => exact ⟨h, hheaded, hsolid⟩
  | succ n ih =>
    rw [List.range'_succ] at h ⊢
    have hnext : before.length + 2 + 1 = (before ++ [before.length + 2]).length + 2 := by
      rw [List.length_append, List.length_singleton]
    rw [List.append_cons, hnext] at h
    obtain ⟨hkept, hheaded, hsolid⟩ := ih _ h
    rw [← hnext] at hkept hheaded hsolid
    rw [List.append_assoc, List.singleton_append] at hkept
    have htwo : 2 ≤ before.length + 2 := Nat.le_add_left ..
    cases hpasses : passes (before.length + 2) with
    | true =>
      rw [List.filter_cons_of_pos hpasses, List.filter_cons_of_neg (by rw [hpasses]; decide)]
      exact ⟨hkept, hheaded, hsolid⟩
    | false =>
      rw [List.filter_cons_of_neg (Bool.eq_false_iff.mp hpasses),
        List.filter_cons_of_pos (by rw [hpasses]; rfl)]
      exact ⟨hkept.eraseRow hheaded hsolid, hheaded.eraseRow htwo, hsolid.eraseRow htwo⟩

/-! ### Filtering -/

/-- The data rows whose cell in a column compares so with a number. -/
def rowsWhere (g : Grid) (column : Nat) (op : Comparison) (value : Binary64) : List Nat :=
  g.dataRows.filter fun row => (g.value row column).satisfies op (.real value) = .ok true

/-- A look at a column that is nowhere refused finds the rows that fail. -/
theorem rowsFailing_eq {test : CellValue → Except Failure Bool} {passes : Nat → Bool}
    (h : ∀ row ∈ rows, test (g.value row column) = .ok (passes row)) :
    rowsFailing column test rows g =
      ⟨g.touchAll (rows.map (·, column)), .ok (rows.filter (!passes ·))⟩ := by
  induction rows generalizing g with
  | nil => rfl
  | cons row rest ih =>
    obtain ⟨hrow, hrest⟩ := List.forall_mem_cons.mp h
    have hrest' : ∀ r ∈ rest, test ((g.touch row column).value r column) = .ok (passes r) := by
      intro r hr
      rw [value_touch]
      exact hrest r hr
    rw [rowsFailing, value_touch, hrow, ih hrest', List.map_cons, touchAll_cons]
    cases hpasses : passes row with
    | true => rw [List.filter_cons_of_neg (by rw [hpasses]; decide)]; rfl
    | false => rw [List.filter_cons_of_pos (by rw [hpasses]; rfl)]; rfl

/-- What a filter records of some rows, of which some are kept. -/
def filterRecord (title name : String) (op : Comparison) (value : Binary64) (g : Grid)
    (kept : List Nat) : ChangeRecord :=
  ⟨.filterRows, title ++ "!" ++ name, .applied (.rowsFiltered g.dataRows.length
    (g.dataRows.length - kept.length) g.width op value)⟩

variable {name : String}

theorem exists_filterBy (hheaded : g.Headed) (hcolumn : column ∈ g.columns)
    (hrange : ∀ row ∈ g.dataRows, (g.value row column).IsInRange) (title name : String)
    (op : Comparison) (value : Binary64) :
    let kept := g.rowsWhere column op value
    ∃ left, Selected g kept left ∧ Edit.filterBy title name op value g column =
      ⟨left, .ok (filterRecord title name op value g kept)⟩ := by
  intro kept
  let passes row := decide ((g.value row column).satisfies op (.real value) = .ok true)
  have htests : ∀ row ∈ g.dataRows,
      (g.value row column).satisfies op (.real value) = .ok (passes row) := fun row hrow =>
    CellValue.satisfies_of_isInRange (hrange row hrow) op (.real value)
  obtain ⟨hkept, -, -⟩ := selected_eraseRows passes []
    (hheaded.touchAll fun _ hp => (le_of_mem_column hcolumn hp).2)
    (solid_touchAll hheaded hcolumn) (selected_touchAll hcolumn)
  refine ⟨_, hkept, ?_⟩
  have hdropped : (g.dataRows.filter (!passes ·)).length = g.dataRows.length - kept.length := by
    have hparts := List.length_eq_length_filter_add (l := g.dataRows) passes
    show _ = _ - (g.dataRows.filter passes).length
    omega
  have hwidth : (eraseRows (g.touchAll (g.dataRows.map (·, column)))
      (g.dataRows.filter (!passes ·))).width = g.width := hkept.width
  rw [Edit.filterBy]
  dsimp only
  rw [rowsFailing_eq htests]
  simp only [Attempt.andThen, filterRecord, ← hdropped, ← hwidth]
  rfl

theorem rowsWhere_touchHeaders (column : Nat) (op : Comparison) (value : Binary64) :
    g.touchHeaders.rowsWhere column op value = g.rowsWhere column op value := by
  simp only [rowsWhere, dataRows, height_touchHeaders, value_touchHeaders]

theorem exists_filterRows (hcolumn : g.findColumn name = .ok (some column))
    (hrange : ∀ row ∈ g.dataRows, (g.value row column).IsInRange) (title : String)
    (op : Comparison) (value : Binary64) :
    let kept := g.rowsWhere column op value
    ∃ left, Selected g kept left ∧ (Edit.filterRows name op value).apply title g =
      ⟨left, .ok (filterRecord title name op value g kept)⟩ := by
  have hscanned : g.touchHeaders.dataRows = g.dataRows := by
    rw [dataRows, dataRows, height_touchHeaders]
  have hthere : column ∈ g.touchHeaders.columns :=
    columns_touchHeaders g ▸ (of_findColumn hcolumn).1
  have hrange' : ∀ row ∈ g.touchHeaders.dataRows,
      (g.touchHeaders.value row column).IsInRange := by
    intro row hrow
    rw [value_touchHeaders]
    exact hrange row (hscanned ▸ hrow)
  obtain ⟨left, hselected, hfilter⟩ :=
    exists_filterBy (headed_touchHeaders g) hthere hrange' title name op value
  rw [rowsWhere_touchHeaders] at hselected hfilter
  refine ⟨left, hselected.of_sameValues (value_touchHeaders g) (width_touchHeaders g), ?_⟩
  simp only [Edit.apply, locate_touchHeaders, Edit.operands, locate_of_findColumn hcolumn,
    Edit.applyAt, hfilter, filterRecord, hscanned, width_touchHeaders]

/-- Of rows that have all passed, all pass again. -/
theorem Selected.rowsWhere_eq {op : Comparison} {value : Binary64}
    (h : Selected g (g.rowsWhere column op value) left) :
    left.rowsWhere column op value = left.dataRows := by
  refine List.filter_eq_self.mpr fun r hr => ?_
  obtain ⟨row, hrow, hvalue⟩ := h.exists_row hr
  rw [hvalue]
  exact (List.mem_filter.mp hrow).2

/-- **A filter keeps the rows that pass.** Let a header have a column, and let no integer in it be
out of range. Then the sheet that is left has the header row and below it, whole and in their order,
the data rows whose cell in that column compares so with the number; it is as wide as before and as
high as the rows that are left; the record counts the rows, those kept and those dropped, with their
cells; and the same filter finds nothing to drop in what is left. -/
theorem filterRows_keeps (hcolumn : g.findColumn name = .ok (some column))
    (hrange : ∀ row ∈ g.dataRows, (g.value row column).IsInRange) (title : String)
    (op : Comparison) (value : Binary64) :
    let kept := g.dataRows.filter fun row =>
      (g.value row column).satisfies op (.real value) = .ok true
    let dropped := g.dataRows.length - kept.length
    let effect := Effect.rowsFiltered g.dataRows.length dropped g.width op value
    ∃ left again,
      (Edit.filterRows name op value).apply title g =
        ⟨left, .ok ⟨.filterRows, title ++ "!" ++ name, .applied effect⟩⟩ ∧
      left.rows = g.readRows (1 :: kept) ∧ left.width = g.width ∧ left.height = 1 + kept.length ∧
      effect.before.field? "rows" = some (.ofNat g.dataRows.length) ∧
      effect.after.field? "rows" = some (.ofNat kept.length) ∧
      effect.impact = [("rows", dropped), ("cells", dropped * g.width)] ∧
      (Edit.filterRows name op value).apply title left =
        ⟨again, .ok ⟨.filterRows, title ++ "!" ++ name,
          .applied (.rowsFiltered kept.length 0 g.width op value)⟩⟩ ∧
      again.rows = left.rows := by
  intro kept dropped effect
  obtain ⟨left, hleft, happly⟩ := exists_filterRows hcolumn hrange title op value
  have hrangeLeft : ∀ r ∈ left.dataRows, (left.value r column).IsInRange := by
    intro r hr
    obtain ⟨row, hrow, hvalue⟩ := hleft.exists_row hr
    rw [hvalue]
    exact hrange row (List.mem_filter.mp hrow).1
  obtain ⟨again, hagain, happly'⟩ :=
    exists_filterRows ((hleft.findColumn name).trans hcolumn) hrangeLeft title op value
  rw [hleft.rowsWhere_eq] at hagain happly'
  have hafter : g.dataRows.length - dropped = kept.length :=
    Nat.sub_sub_self (List.length_filter_le ..)
  refine ⟨left, again, happly, hleft.rows_eq, hleft.width, hleft.height.trans (Nat.add_comm ..),
    rfl, ?_, rfl, ?_, ?_⟩
  · show some (Document.ofNat (g.dataRows.length - dropped)) = _
    rw [hafter]
  · rw [happly', filterRecord, Nat.sub_self, hleft.width, hleft.length_dataRows]
    rfl
  · have hall : Selected left left.dataRows left := selected_of_sameValues (fun _ _ => rfl) rfl rfl
    rw [hagain.rows_eq, hall.rows_eq]

/-- Parcels with their weights. Some cells are missing, one weight is a text that is a number and
one is none. -/
def parcels : Grid :=
  ⟨[((1, 1), .text "To"), ((1, 3), .text "Weight"), ((2, 1), .text "Ann"), ((2, 3), .int 3),
    ((3, 1), .text "Ben"), ((4, 2), .text "fragile"), ((4, 3), .text "1,200"),
    ((5, 1), .text "Dee"), ((5, 3), .real (.ofInt 12)), ((6, 1), .text "Eve"),
    ((6, 3), .text "heavy")]⟩

theorem filterRows_keeps_parcels :
    parcels.findColumn " weight" = .ok (some 3) ∧
      (∀ row ∈ parcels.dataRows, (parcels.value row 3).IsInRange) ∧
      ∃ left, (Edit.filterRows " weight" .greater (.ofInt 5)).apply "Post" parcels =
          ⟨left, .ok ⟨.filterRows, "Post! weight",
            .applied (.rowsFiltered 5 3 3 .greater (.ofInt 5))⟩⟩ ∧
        left.rows = [[.text "To", .blank, .text "Weight"],
          [.blank, .text "fragile", .text "1,200"], [.text "Dee", .blank, .real (.ofInt 12)]] ∧
        left.height = 3 := by
  have hcolumn : parcels.findColumn " weight" = .ok (some 3) := by decide +kernel
  have hrange : ∀ row ∈ parcels.dataRows, (parcels.value row 3).IsInRange := by decide +kernel
  obtain ⟨left, again, happly, hrows, -, hheight, -⟩ :=
    filterRows_keeps hcolumn hrange "Post" .greater (.ofInt 5)
  refine ⟨hcolumn, hrange, left, happly.trans ?_, hrows.trans ?_, hheight.trans ?_⟩
  · rfl
  · decide +kernel
  · decide +kernel

end Grid

end SheetCommand
