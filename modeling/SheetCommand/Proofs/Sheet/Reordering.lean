import Mathlib.Data.List.Perm.Basic
import SheetCommand.Proofs.Sheet.Attempt
import SheetCommand.Proofs.Sheet.Erasing
import SheetCommand.Proofs.Sheet.RowLoops

/-!
# Sheet — rows that move as wholes

Filtering and sorting leave the headers as they are and move rows: every row below the headers is one
that was there before, and no two of them are the same one (`Reordered`).
-/

namespace SheetCommand.Grid

/-- The rows of a grid are rows of another one, each at most once. -/
structure Reordered (g g' : Grid) : Prop where
  width : g'.width = g.width
  headers : ∀ c, g'.value 1 c = g.value 1 c
  rows : ∃ row : Nat → Nat, (∀ r ∈ g'.dataRows, row r ∈ g.dataRows) ∧
    (∀ r ∈ g'.dataRows, ∀ r' ∈ g'.dataRows, row r = row r' → r = r') ∧
    ∀ r ∈ g'.dataRows, ∀ c ∈ g.columns, g'.value r c = g.value (row r) c

variable {g g' g'' : Grid} {row column : Nat}

theorem Reordered.of_sameValues (h : g.SameValues g') (hheight : g'.height = g.height)
    (hwidth : g'.width = g.width) : Reordered g g' := by
  refine ⟨hwidth, h 1, id, fun r hr => ?_, fun _ _ _ _ => id, fun r _ c _ => h r c⟩
  rwa [dataRows, ← hheight]

theorem Reordered.refl (g : Grid) : Reordered g g :=
  .of_sameValues (fun _ _ => rfl) rfl rfl

theorem Reordered.trans (h : Reordered g g') (h' : Reordered g' g'') : Reordered g g'' := by
  obtain ⟨row, hmem, hinj, hvalue⟩ := h.rows
  obtain ⟨row', hmem', hinj', hvalue'⟩ := h'.rows
  have hcolumns : g'.columns = g.columns := by rw [columns, columns, h.width]
  refine ⟨h'.width.trans h.width, fun c => (h'.headers c).trans (h.headers c), row ∘ row', ?_, ?_,
    ?_⟩
  · intro r hr
    exact hmem _ (hmem' r hr)
  · intro r hr r' hr' hrow
    exact hinj' r hr r' hr' (hinj _ (hmem' r hr) _ (hmem' r' hr') hrow)
  · intro r hr c hc
    rw [hvalue' r hr c (hcolumns ▸ hc), hvalue _ (hmem' r hr) c hc]
    rfl

/-! ### Filtering -/

/-- All cells of the header row exist, as they do after a scan. -/
def Headed (g : Grid) : Prop := ∀ c ∈ g.columns, (g.get? 1 c).isSome = true

theorem headed_touchHeaders (g : Grid) : g.touchHeaders.Headed := by
  intro c hc
  rw [columns_touchHeaders] at hc
  exact (isSome_get?_touchAll ..).mpr (.inl (mem_rectangle.mpr ⟨List.mem_singleton_self 1, hc⟩))

theorem Headed.touchAll {positions : List (Nat × Nat)} (h : g.Headed)
    (hwidth : ∀ p ∈ positions, p.2 ≤ g.width) : (g.touchAll positions).Headed := by
  intro c hc
  rw [mem_columns, show (g.touchAll positions).width = g.width from extent_touchAll hwidth,
    ← mem_columns] at hc
  exact (isSome_get?_touchAll ..).mpr (.inr (h c hc))

theorem reordered_touchAll {positions : List (Nat × Nat)}
    (h : ∀ p ∈ positions, p.1 ≤ g.height ∧ p.2 ≤ g.width) :
    Reordered g (g.touchAll positions) :=
  .of_sameValues (value_touchAll g positions) (extent_touchAll fun p hp => (h p hp).1)
    (extent_touchAll fun p hp => (h p hp).2)

theorem Headed.eraseRow (h : g.Headed) (hrow : 2 ≤ row) : (g.eraseRow row).Headed := by
  intro c hc
  rw [mem_columns, width_eraseRow hrow h, ← mem_columns] at hc
  have hfirst : unshift row 1 = 1 := unshift_of_lt hrow
  exact isSome_get?_eraseRow.mpr (.inr (hfirst.symm ▸ h c hc))

/-- A row that is erased takes nothing with it but itself. -/
theorem reordered_eraseRow (h : g.Headed) (hrow : 2 ≤ row) : Reordered g (g.eraseRow row) := by
  refine ⟨width_eraseRow hrow h, fun c => ?_, unshift row, fun r hr => ?_, fun _ _ _ _ =>
    unshift_inj, fun r _ c _ => value_eraseRow ..⟩
  · rw [value_eraseRow, unshift_of_lt hrow]
  · obtain ⟨hlow, hhigh⟩ := mem_dataRows.mp hr
    exact mem_dataRows.mpr ⟨Nat.le_trans hlow (le_unshift ..), unshift_le_height hhigh hrow⟩

theorem reordered_eraseRows {erased : List Nat} (h : g.Headed) (hrows : ∀ r ∈ erased, 2 ≤ r) :
    Reordered g (erased.foldr (fun row g => g.eraseRow row) g) ∧
      (erased.foldr (fun row g => g.eraseRow row) g).Headed := by
  induction erased with
  | nil => exact ⟨.refl g, h⟩
  | cons row erased ih =>
    obtain ⟨hrow, hrest⟩ := List.forall_mem_cons.mp hrows
    obtain ⟨hreordered, hheaded⟩ := ih hrest
    exact ⟨hreordered.trans (reordered_eraseRow hheaded hrow), hheaded.eraseRow hrow⟩

/-- A look at one column creates cells in it, and finds rows among those it is given. -/
theorem exists_rowsFailing (column : Nat) (test : CellValue → Except Failure Bool)
    (rows : List Nat) (g : Grid) :
    (∃ positions, (rowsFailing column test rows g).grid = g.touchAll positions ∧
      ∀ p ∈ positions, p.1 ∈ rows ∧ p.2 = column) ∧
    ∀ failing, (rowsFailing column test rows g).result = .ok failing →
      ∀ r ∈ failing, r ∈ rows := by
  induction rows generalizing g with
  | nil =>
    refine ⟨⟨[], rfl, fun _ hp => by cases hp⟩, fun failing h r hr => ?_⟩
    cases h
    exact hr
  | cons row rows ih =>
    obtain ⟨⟨positions, hgrid, hwithin⟩, hfailing⟩ := ih (g.touch row column)
    rw [rowsFailing]
    cases test ((g.touch row column).value row column) with
    | error e =>
      refine ⟨⟨[(row, column)], rfl, fun p hp => ?_⟩, fun failing h => by cases h⟩
      rw [List.mem_singleton.mp hp]
      exact ⟨List.mem_cons_self .., rfl⟩
    | ok passes =>
      refine ⟨⟨(row, column) :: positions, hgrid, fun p hp => ?_⟩, fun failing h r hr => ?_⟩
      · rcases List.mem_cons.mp hp with rfl | hp
        · exact ⟨List.mem_cons_self .., rfl⟩
        · exact ⟨List.mem_cons_of_mem _ (hwithin p hp).1, (hwithin p hp).2⟩
      · obtain ⟨found, hfound, rfl⟩ := map_eq_ok_iff.mp h
        split at hr
        · exact List.mem_cons_of_mem _ (hfailing found hfound r hr)
        · rcases List.mem_cons.mp hr with rfl | hr
          · exact List.mem_cons_self ..
          · exact List.mem_cons_of_mem _ (hfailing found hfound r hr)

theorem reordered_filterBy (h : g.Headed) (hcolumn : column ∈ g.columns) (title name : String)
    (op : Comparison) (value : Binary64) :
    Reordered g (Edit.filterBy title name op value g column).grid := by
  obtain ⟨⟨positions, hgrid, hwithin⟩, hfailing⟩ :=
    exists_rowsFailing column (·.satisfies op (.real value)) g.dataRows g
  have hinside : ∀ p ∈ positions, p.1 ≤ g.height ∧ p.2 ≤ g.width := by
    intro p hp
    obtain ⟨hrow, hcol⟩ := hwithin p hp
    exact ⟨(mem_dataRows.mp hrow).2, hcol ▸ (mem_columns.mp hcolumn).2⟩
  have hlooked := hgrid ▸ reordered_touchAll hinside
  rw [Edit.filterBy, Attempt.andThen]
  dsimp only
  cases hresult : (rowsFailing column (·.satisfies op (.real value)) g.dataRows g).result with
  | error e => exact hlooked
  | ok failing =>
    have hheaded := h.touchAll fun p hp => (hinside p hp).2
    rw [← hgrid] at hheaded
    exact hlooked.trans (reordered_eraseRows hheaded fun r hr =>
      (mem_dataRows.mp (hfailing failing hresult r hr)).1).1

/-! ### Sorting -/

/-- Putting values within the extents changes no extent. -/
theorem extent_writeRow {line : Nat × Nat → Nat} {values : List CellValue}
    (h : ∀ c, column ≤ c → c < column + values.length → line (row, c) ≤ g.extent line) :
    (writeRow row column values g).extent line = g.extent line := by
  induction values generalizing g column with
  | nil => rfl
  | cons v values ih =>
    have hfirst : (g.put row column v).extent line = g.extent line := by
      rw [extent_put]
      exact Nat.max_eq_left (h column (Nat.le_refl _) (by simp))
    rw [writeRow, ih, hfirst]
    intro c hle hlt
    rw [hfirst]
    exact h c (Nat.le_of_succ_le hle) (by rw [List.length_cons]; omega)

theorem extent_writeRows {line : Nat × Nat → Nat} {rows : List (List CellValue)} {n : Nat}
    (hlength : ∀ values ∈ rows, values.length = n)
    (h : ∀ r c, row ≤ r → r < row + rows.length → 1 ≤ c → c ≤ n → line (r, c) ≤ g.extent line) :
    (writeRows row rows g).extent line = g.extent line := by
  induction rows generalizing g row with
  | nil => rfl
  | cons values rows ih =>
    obtain ⟨hvalues, hrest⟩ := List.forall_mem_cons.mp hlength
    have hfirst : (writeRow row 1 values g).extent line = g.extent line := by
      refine extent_writeRow fun c hone hlt => ?_
      exact h row c (Nat.le_refl _) (by simp) hone (by omega)
    rw [writeRows, ih hrest, hfirst]
    intro r c hle hlt hone hn
    rw [hfirst]
    exact h r c (Nat.le_of_succ_le hle) (by rw [List.length_cons]; omega) hone hn

theorem value_writeRow (values : List CellValue) (g : Grid) (r c : Nat) :
    (writeRow row column values g).value r c =
      if r = row ∧ column ≤ c ∧ c < column + values.length then values[c - column]?.getD .blank
      else g.value r c := by
  induction values generalizing g column with
  | nil =>
    rw [if_neg fun ⟨_, hle, hlt⟩ => Nat.not_lt_of_le hle hlt]
    rfl
  | cons v values ih =>
    rw [writeRow, ih, value_put, List.length_cons]
    by_cases hr : r = row
    · rcases Nat.lt_trichotomy c column with hlt | rfl | hgt
      · rw [if_neg (by omega), if_neg (by simp; omega), if_neg (by omega)]
      · rw [if_neg (by omega), if_pos (by rw [hr]), if_pos (by omega), Nat.sub_self]
        rfl
      · have hnext : c - column = c - (column + 1) + 1 := by omega
        have hne : (r, c) ≠ (row, column) := fun e => by
          rw [(Prod.mk.inj e).2] at hgt
          exact Nat.lt_irrefl _ hgt
        rw [if_neg hne, hnext, List.getElem?_cons_succ]
        by_cases hend : c < column + 1 + values.length
        · rw [if_pos ⟨hr, hgt, hend⟩, if_pos (by omega)]
        · rw [if_neg (by omega), if_neg (by omega)]
    · rw [if_neg fun h => hr h.1, if_neg fun e => hr (Prod.mk.inj e).1, if_neg fun h => hr h.1]

theorem value_writeRows {n : Nat} (rows : List (List CellValue)) (g : Grid) (r c : Nat)
    (hlength : ∀ values ∈ rows, values.length = n) : (writeRows row rows g).value r c =
      if row ≤ r ∧ r < row + rows.length ∧ 1 ≤ c ∧ c ≤ n then
        (rows[r - row]?.getD [])[c - 1]?.getD .blank
      else g.value r c := by
  induction rows generalizing g row with
  | nil =>
    rw [if_neg fun ⟨hle, hlt, _⟩ => Nat.not_lt_of_le hle hlt]
    rfl
  | cons values rows ih =>
    obtain ⟨hvalues, hrest⟩ := List.forall_mem_cons.mp hlength
    rw [writeRows, ih _ hrest, value_writeRow, hvalues, List.length_cons]
    rcases Nat.lt_trichotomy r row with hlt | rfl | hgt
    · rw [if_neg (by omega), if_neg (by omega), if_neg (by omega)]
    · rw [if_neg (by omega), Nat.sub_self]
      by_cases hc : 1 ≤ c ∧ c ≤ n
      · rw [if_pos (by omega), if_pos (by omega)]
        rfl
      · rw [if_neg (by omega), if_neg (by omega)]
    · have hnext : r - row = r - (row + 1) + 1 := by omega
      rw [hnext, List.getElem?_cons_succ, if_neg (c := r = row ∧ _) (by omega)]
      by_cases hend : r < row + 1 + rows.length ∧ 1 ≤ c ∧ c ≤ n
      · rw [if_pos ⟨hgt, hend⟩, if_pos (by omega)]
      · rw [if_neg (by omega), if_neg (by omega)]

theorem map_snd_of_keyed {rows : List (List CellValue)} {keys : List (SortKey × List CellValue)}
    (h : keyed column rows = .ok keys) : keys.map (·.2) = rows := by
  rw [keyed] at h
  split at h
  · obtain rfl := Except.ok.inj h
    rw [List.map_map]
    exact List.map_id _
  · rename_i hlength
    have hall := mapM_eq_ok_iff.mp h
    clear h hlength
    induction hall with
    | nil => rfl
    | cons hkey _ ih =>
      obtain ⟨key, -, hkey⟩ := bind_eq_ok_iff.mp hkey
      obtain rfl := Except.ok.inj hkey
      rw [List.map_cons, ih]

/-- Rows of a grid, one below the other. -/
def readRows (g : Grid) (order : List Nat) : List (List CellValue) :=
  order.map fun row => g.columns.map fun c => g.value row c

theorem length_of_mem_readRows {order : List Nat} {values : List CellValue}
    (h : values ∈ g.readRows order) : values.length = g.width := by
  obtain ⟨row, -, rfl⟩ := List.mem_map.mp h
  rw [List.length_map, length_columns]

/-- Writing rows over the data rows changes no extent. -/
theorem extent_rewritten {order : List Nat} (h : order.length = g.dataRows.length) :
    (writeRows 2 (g.readRows order) g).height = g.height ∧
      (writeRows 2 (g.readRows order) g).width = g.width := by
  have hlength : (g.readRows order).length = g.height - 1 := by
    rw [readRows, List.length_map, h, length_dataRows]
  constructor
  · refine extent_writeRows (fun _ => length_of_mem_readRows) fun r c hle hlt _ _ => ?_
    show r ≤ g.height
    omega
  · exact extent_writeRows (fun _ => length_of_mem_readRows) fun _ _ _ _ _ hc => hc

theorem value_rewritten {order : List Nat} {k c : Nat} (hrow : order[k]? = some row)
    (hc : c ∈ g.columns) :
    (writeRows 2 (g.readRows order) g).value (k + 2) c = g.value row c := by
  obtain ⟨hone, hle⟩ := mem_columns.mp hc
  obtain ⟨hlt, -⟩ := List.getElem?_eq_some_iff.mp hrow
  have hcolumn : g.columns[c - 1]? = some c := getElem?_columns.mpr (by omega)
  have hinside : 2 ≤ k + 2 ∧ k + 2 < 2 + (g.readRows order).length ∧ 1 ≤ c ∧ c ≤ g.width := by
    rw [readRows, List.length_map]
    omega
  rw [value_writeRows _ _ _ _ fun _ => length_of_mem_readRows, if_pos hinside, readRows,
    Nat.add_sub_cancel, List.getElem?_map, hrow, Option.map_some, Option.getD_some,
    List.getElem?_map, hcolumn]
  rfl

/-- Rows written back in another order are still whole. -/
theorem reordered_writeRows {order : List Nat} (h : order.Perm g.dataRows) :
    Reordered g (writeRows 2 (g.readRows order) g) := by
  obtain ⟨hheight, hwidth⟩ := extent_rewritten h.length_eq
  have hplace : ∀ r ∈ (writeRows 2 (g.readRows order) g).dataRows, ∃ k row, r = k + 2 ∧
      order[k]? = some row ∧ order[r - 2]?.getD 0 = row := by
    intro r hr
    obtain ⟨hlow, hhigh⟩ := mem_dataRows.mp hr
    have hlt : r - 2 < order.length := by
      rw [h.length_eq, length_dataRows, ← hheight]
      omega
    refine ⟨r - 2, order[r - 2], (Nat.sub_add_cancel hlow).symm, List.getElem?_eq_getElem hlt, ?_⟩
    rw [List.getElem?_eq_getElem hlt, Option.getD_some]
  refine ⟨hwidth, fun c => ?_, fun r => order[r - 2]?.getD 0, ?_, ?_, ?_⟩
  · rw [value_writeRows _ _ _ _ fun _ => length_of_mem_readRows, if_neg (by omega)]
  · intro r hr
    obtain ⟨k, row, -, hrow, hget⟩ := hplace r hr
    dsimp only
    rw [hget]
    exact h.mem_iff.mp (List.mem_of_getElem? hrow)
  · intro r hr r' hr' hsame
    obtain ⟨k, row, rfl, hrow, hget⟩ := hplace r hr
    obtain ⟨k', row', rfl, hrow', hget'⟩ := hplace r' hr'
    obtain rfl : row = row' := hget.symm.trans (hsame.trans hget')
    obtain ⟨hlt, -⟩ := List.getElem?_eq_some_iff.mp hrow
    rw [(List.getElem?_inj hlt (h.nodup_iff.mpr g.nodup_dataRows)).mp (hrow.trans hrow'.symm)]
  · intro r hr c hc
    obtain ⟨k, row, rfl, hrow, hget⟩ := hplace r hr
    rw [value_rewritten hrow hc, ← hget]

theorem reordered_sortRows (title name : String) (direction : Direction) :
    Reordered g (Edit.sortRows title name direction g column).grid := by
  have hfilled : Reordered g (g.touchAll (rectangle g.dataRows g.columns)) := by
    refine reordered_touchAll fun p hp => ?_
    obtain ⟨hr, hc⟩ := mem_rectangle.mp hp
    exact ⟨(mem_dataRows.mp hr).2, (mem_columns.mp hc).2⟩
  rw [Edit.sortRows]
  generalize g.touchAll (rectangle g.dataRows g.columns) = filled at hfilled ⊢
  dsimp only
  cases hkeys : keyed column (filled.dataRows.map fun row =>
      filled.columns.map fun c => filled.value row c) with
  | error e => exact hfilled
  | ok keys =>
    have hperm := (Arrange.arrange_perm (precedes direction) keys).map (·.2)
    rw [map_snd_of_keyed hkeys] at hperm
    obtain ⟨order, hmap, horder⟩ := (congrFun₂ (List.eq_map_comp_perm _) _ _).mpr hperm
    dsimp only
    rw [hmap]
    exact hfilled.trans (reordered_writeRows horder)

end SheetCommand.Grid
