import SheetCommand.Proofs.Sheet.Reordering

/-!
# Sheet — where rows and columns come from

An edit that only arranges renames a column, deletes one, filters rows or sorts them. Over a run of
such edits a grid stays a selection of the grid it started from (`RowsKept`): some of its columns in
their order, some of its rows in any order, and at each crossing what was at the crossing before.
`Trail` follows a run and keeps the columns that are left and those that were renamed, by the places
they had at the start.

* `RowsKept.trans_reordered`, `RowsKept.put_header`, `RowsKept.eraseColumn`: what one edit may do.
* `Trail.kept_step`, `Trail.kept_run`: the selection after one edit and after a run.
-/

namespace SheetCommand

/-- Whether an edit moves or removes what is there and writes no data. -/
def Edit.isArranging : Edit → Bool
  | renameColumn .. | deleteColumn .. | filterRows .. | sortBy .. => true
  | addColumnSum .. | setValueWhere .. => false

namespace Grid

/-- A grid is made of some columns of another one, in their order, and of some rows below the
headers, each at most once. The headers are those of their columns unless renamed. Without any column
left, the one column that every grid has is empty. -/
structure RowsKept (g g' : Grid) (columns renamed : List Nat) : Prop where
  ascending : columns.Pairwise (· < ·)
  among : ∀ c ∈ columns, c ∈ g.columns
  width : g'.width = max 1 columns.length
  rows : ∃ row : Nat → Nat, (∀ r ∈ g'.dataRows, row r ∈ g.dataRows) ∧
    (∀ r ∈ g'.dataRows, ∀ r' ∈ g'.dataRows, row r = row r' → r = r') ∧
    ∀ r ∈ g'.dataRows, ∀ j c, columns[j]? = some c → g'.value r (j + 1) = g.value (row r) c
  headers : ∀ j c, columns[j]? = some c → c ∉ renamed → g'.value 1 (j + 1) = g.value 1 c
  bare : columns = [] → ∀ r ∈ 1 :: g'.dataRows, g'.value r 1 = .blank

variable {g g' g'' : Grid} {columns renamed renamed' : List Nat} {column : Nat}

/-! ### Columns with a header -/

theorem value_of_width_lt {r c : Nat} (h : g.width < c) : g.value r c = .blank := by
  have hnone : g.get? r c = none := by
    refine Option.not_isSome_iff_eq_none.mp fun hs => ?_
    exact Nat.not_lt_of_le (le_width hs) h
  rw [value, hnone, Option.getD_none]

/-- A column that is found is one of the grid and has a header. -/
theorem of_findColumn {name : String} (h : g.findColumn name = .ok (some column)) :
    column ∈ g.columns ∧ g.value 1 column ≠ .blank := by
  obtain ⟨headers, hheaders, h⟩ := bind_eq_ok_iff.mp h
  obtain ⟨labels, hlabels, hkept⟩ := bind_eq_ok_iff.mp hheaders
  obtain rfl := Except.ok.inj hkept
  obtain ⟨⟨c, label⟩, hfound, rfl⟩ := Option.map_eq_some_iff.mp (Except.ok.inj h)
  obtain ⟨hzip, htrim⟩ := List.mem_filter.mp (List.mem_of_find?_eq_some hfound)
  refine ⟨(List.of_mem_zip hzip).1, fun hblank => ?_⟩
  have hlabel : (g.value 1 c).label = .ok label :=
    (List.forall₂_iff_zip.mp (mapM_eq_ok_iff.mp hlabels)).2 hzip
  dsimp only at hblank
  rw [hblank] at hlabel
  obtain rfl := Except.ok.inj hlabel
  cases htrim

theorem locate_of_findColumn {name : String} (h : g.findColumn name = .ok (some column)) :
    g.locate [name] = .ok (.ok [column]) := by
  rw [locate, List.mapM_cons, List.mapM_nil, h]
  rfl

theorem locate_of_findColumn_two {first second : String} {a b : Nat}
    (hfirst : g.findColumn first = .ok (some a))
    (hsecond : g.findColumn second = .ok (some b)) :
    g.locate [first, second] = .ok (.ok [a, b]) := by
  rw [locate, List.mapM_cons, List.mapM_cons, List.mapM_nil, hfirst, hsecond]
  rfl

/-- An edit of one column goes on at that column, or has scanned the headers and done nothing. -/
theorem apply_one {e : Edit} {name : String} (he : e.operands = [name]) (title : String)
    (g : Grid) :
    (∃ c, g.findColumn name = .ok (some c) ∧
        e.apply title g = e.applyAt title g.touchHeaders [c]) ∨
      (∀ c, g.findColumn name ≠ .ok (some c)) ∧ (e.apply title g).grid = g.touchHeaders := by
  have t := Edit.tried_apply e title g
  generalize e.apply title g = attempt at t ⊢
  cases t with
  | unreadable h | missing h =>
    refine .inr ⟨fun c hc => ?_, rfl⟩
    rw [he, locate_of_findColumn hc] at h
    cases h
  | found h =>
    obtain ⟨c, rfl, hc⟩ := locate_eq_ok_one (he ▸ h)
    exact .inl ⟨c, hc, rfl⟩

/-! ### What one edit may do -/

theorem RowsKept.refl (g : Grid) : RowsKept g g g.columns [] := by
  refine ⟨List.pairwise_lt_range', fun _ => id, ?_, ⟨id, fun _ => id, fun _ _ _ _ => id, ?_⟩, ?_,
    ?_⟩
  · rw [length_columns, Nat.max_eq_right (one_le_width g)]
  · intro r _ j c hc
    rw [(getElem?_columns.mp hc).2]
    rfl
  · intro j c hc _
    rw [(getElem?_columns.mp hc).2]
  · intro hnone
    have hwide := one_le_width g
    rw [← length_columns, hnone] at hwide
    exact absurd hwide (Nat.not_succ_le_zero 0)

theorem RowsKept.mono (h : RowsKept g g' columns renamed) (hsub : renamed ⊆ renamed') :
    RowsKept g g' columns renamed' :=
  { h with headers := fun j c hc hr => h.headers j c hc fun hm => hr (hsub hm) }

theorem RowsKept.mem_columns {j c : Nat} (h : RowsKept g g' columns renamed)
    (hc : columns[j]? = some c) : j + 1 ∈ g'.columns := by
  obtain ⟨hlt, -⟩ := List.getElem?_eq_some_iff.mp hc
  rw [Grid.mem_columns, h.width]
  exact ⟨Nat.succ_pos j, Nat.le_trans hlt (Nat.le_max_right ..)⟩

/-- A header stands above a column that is left. -/
theorem RowsKept.lt_length (h : RowsKept g g' columns renamed) (hcolumn : column ∈ g'.columns)
    (hheader : g'.value 1 column ≠ .blank) : column - 1 < columns.length := by
  obtain ⟨hone, hle⟩ := Grid.mem_columns.mp hcolumn
  rw [h.width] at hle
  cases columns with
  | nil =>
    obtain rfl : column = 1 := Nat.le_antisymm hle hone
    exact absurd (h.bare rfl 1 (List.mem_cons_self ..)) hheader
  | cons c rest =>
    rw [List.length_cons] at hle ⊢
    omega

theorem RowsKept.trans_reordered (h : RowsKept g g' columns renamed) (h' : Reordered g' g'') :
    RowsKept g g'' columns renamed := by
  obtain ⟨row, hmem, hinj, hvalue⟩ := h.rows
  obtain ⟨row', hmem', hinj', hvalue'⟩ := h'.rows
  refine ⟨h.ascending, h.among, h'.width.trans h.width, ⟨row ∘ row', ?_, ?_, ?_⟩, ?_, ?_⟩
  · intro r hr
    exact hmem _ (hmem' r hr)
  · intro r hr s hs hrow
    exact hinj' r hr s hs (hinj _ (hmem' r hr) _ (hmem' s hs) hrow)
  · intro r hr j c hc
    rw [hvalue' r hr _ (h.mem_columns hc), hvalue _ (hmem' r hr) j c hc]
    rfl
  · intro j c hc hr
    rw [h'.headers, h.headers j c hc hr]
  · intro hnone r hr
    rcases List.mem_cons.mp hr with rfl | hr
    · rw [h'.headers, h.bare hnone 1 (List.mem_cons_self ..)]
    · have hfirst : 1 ∈ g'.columns := Grid.mem_columns.mpr ⟨Nat.le_refl 1, one_le_width g'⟩
      rw [hvalue' r hr 1 hfirst, h.bare hnone _ (List.mem_cons_of_mem _ (hmem' r hr))]

/-- A header that is overwritten belongs to a column that is renamed. -/
theorem RowsKept.put_header (h : RowsKept g g' columns renamed) (hcolumn : column ∈ g'.columns)
    (hheader : g'.value 1 column ≠ .blank) (v : CellValue) :
    RowsKept g (g'.put 1 column v) columns (columns[column - 1]?.toList ++ renamed) := by
  obtain ⟨hone, hle⟩ := Grid.mem_columns.mp hcolumn
  have hwidth : (g'.put 1 column v).width = g'.width := by
    rw [width_put, Nat.max_eq_left hle]
  have hrows : (g'.put 1 column v).dataRows = g'.dataRows := by
    rw [dataRows, height_put, Nat.max_eq_left (one_le_height g'), dataRows]
  have hvalue : ∀ r ∈ g'.dataRows, ∀ c, (g'.put 1 column v).value r c = g'.value r c := by
    intro r hr c
    rw [value_put, if_neg fun e => ?_]
    rw [(Prod.mk.inj e).1] at hr
    exact absurd (mem_dataRows.mp hr).1 (by decide)
  obtain ⟨row, hmem, hinj, hat⟩ := h.rows
  refine ⟨h.ascending, h.among, hwidth.trans h.width, ⟨row, ?_, ?_, ?_⟩, ?_, ?_⟩
  · rwa [hrows]
  · rwa [hrows]
  · intro r hr j c hc
    rw [hrows] at hr
    rw [hvalue r hr, hat r hr j c hc]
  · intro j c hc hr
    rw [List.mem_append, not_or] at hr
    rw [value_put, if_neg fun e => hr.1 ?_, h.headers j c hc hr.2]
    rw [← (Prod.mk.inj e).2, Nat.add_sub_cancel, hc]
    exact List.mem_singleton_self c
  · rintro rfl
    exact absurd (h.lt_length hcolumn hheader) (Nat.not_lt_zero _)

/-- Where a column of those that are left is once one of them is gone. -/
theorem exists_getElem?_of_eraseIdx {j c : Nat} (hone : 1 ≤ column)
    (hc : (columns.eraseIdx (column - 1))[j]? = some c) :
    ∃ k, columns[k]? = some c ∧ unshift column (j + 1) = k + 1 := by
  rw [List.getElem?_eraseIdx] at hc
  split at hc
  · exact ⟨j, hc, unshift_of_lt (by omega)⟩
  · exact ⟨j + 1, hc, unshift_of_le (by omega)⟩

theorem RowsKept.eraseColumn (h : RowsKept g g' columns renamed) (hcolumn : column ∈ g'.columns)
    (hheader : g'.value 1 column ≠ .blank) (hheaded : g'.Headed) :
    RowsKept g (g'.eraseColumn column) (columns.eraseIdx (column - 1)) renamed := by
  have hlt := h.lt_length hcolumn hheader
  have hwide : g'.width = columns.length := by
    rw [h.width, Nat.max_eq_right (Nat.lt_of_le_of_lt (Nat.zero_le _) hlt)]
  obtain ⟨hone, hle⟩ := Grid.mem_columns.mp hcolumn
  have hrows : ∀ r ∈ (g'.eraseColumn column).dataRows, r ∈ g'.dataRows := by
    intro r hr
    obtain ⟨hlow, hhigh⟩ := mem_dataRows.mp hr
    exact mem_dataRows.mpr ⟨hlow, Nat.le_trans hhigh (height_eraseColumn_le ..)⟩
  obtain ⟨row, hmem, hinj, hat⟩ := h.rows
  refine ⟨h.ascending.sublist (List.eraseIdx_sublist ..), fun c hc => h.among c
    (List.mem_of_mem_eraseIdx hc), ?_, ⟨row, ?_, ?_, ?_⟩, ?_, ?_⟩
  · rw [width_eraseColumn hcolumn hheaded, List.length_eraseIdx_of_lt hlt, hwide]
  · intro r hr
    exact hmem r (hrows r hr)
  · intro r hr s hs hrow
    exact hinj r (hrows r hr) s (hrows s hs) hrow
  · intro r hr j c hc
    obtain ⟨k, hk, hplace⟩ := exists_getElem?_of_eraseIdx hone hc
    rw [value_eraseColumn, hplace, hat r (hrows r hr) k c hk]
  · intro j c hc hr
    obtain ⟨k, hk, hplace⟩ := exists_getElem?_of_eraseIdx hone hc
    rw [value_eraseColumn, hplace, h.headers k c hk hr]
  · intro hnone r _
    -- the column was the only one, so what moves into its place is beyond the width
    have hlast : columns.length - 1 = 0 := by
      rw [← List.length_eraseIdx_of_lt hlt, hnone, List.length_nil]
    rw [value_eraseColumn, unshift_of_le (by omega)]
    exact value_of_width_lt (by omega)

end Grid

/-! ### A run of edits -/

/-- What the columns of a grid become by an edit: the one that is deleted leaves the others. -/
def Edit.survivors (g : Grid) (columns : List Nat) : Edit → List Nat
  | deleteColumn name =>
    match g.findColumn name with
    | .ok (some c) => columns.eraseIdx (c - 1)
    | _ => columns
  | _ => columns

/-- The column that an edit renames. -/
def Edit.relabelled (g : Grid) (columns : List Nat) : Edit → List Nat
  | renameColumn old _ =>
    match g.findColumn old with
    | .ok (some c) => columns[c - 1]?.toList
    | _ => []
  | _ => []

/-- A grid after some edits, the columns of the first grid that it still has, and those of them, or
of the ones deleted since, that were renamed. -/
structure Trail where
  grid : Grid
  columns : List Nat
  renamed : List Nat
  deriving DecidableEq

namespace Trail
open Grid

def start (g : Grid) : Trail := ⟨g, g.columns, []⟩

def step (title : String) (t : Trail) (e : Edit) : Trail :=
  ⟨(e.apply title t.grid).grid, e.survivors t.grid t.columns,
    e.relabelled t.grid t.columns ++ t.renamed⟩

def run (title : String) (edits : List Edit) (g : Grid) : Trail :=
  edits.foldl (step title) (start g)

variable {g : Grid} {t : Trail} {e : Edit}

/-- An edit that does not find its column leaves the columns as they were. -/
theorem step_of_not_found {name : String} (he : e.operands = [name])
    (hnone : ∀ c, t.grid.findColumn name ≠ .ok (some c)) (title : String) :
    t.step title e = { t with grid := (e.apply title t.grid).grid } := by
  cases e with
  | renameColumn | deleteColumn =>
    obtain rfl := List.singleton_inj.mp he
    simp only [step, Edit.survivors, Edit.relabelled, List.nil_append]
  | addColumnSum | filterRows | sortBy | setValueWhere => rfl

/-- The grid is made of rows and columns that the first one had. -/
def Kept (g : Grid) (t : Trail) : Prop := RowsKept g t.grid t.columns t.renamed

/-- What an edit does at its column keeps the rows. -/
theorem kept_found {name : String} {c : Nat}
    (h : RowsKept g t.grid.touchHeaders t.columns t.renamed) (harranging : e.isArranging = true)
    (he : e.operands = [name]) (hc : t.grid.findColumn name = .ok (some c)) (title : String) :
    RowsKept g (e.applyAt title t.grid.touchHeaders [c]).grid (t.step title e).columns
      (t.step title e).renamed := by
  have hheaded := headed_touchHeaders t.grid
  obtain ⟨hcolumn, hheader⟩ := of_findColumn ((findColumn_touchHeaders ..).trans hc)
  generalize t.grid.touchHeaders = scanned at h hheaded hcolumn hheader ⊢
  cases e with
  | addColumnSum | setValueWhere => cases harranging
  | renameColumn old new =>
    obtain rfl := List.singleton_inj.mp he
    simp only [step, Edit.survivors, Edit.relabelled, hc, Edit.applyAt, Edit.renameAt]
    split
    · exact h.mono (List.subset_append_right ..)
    · exact h.put_header hcolumn hheader _
  | deleteColumn deleted =>
    obtain rfl := List.singleton_inj.mp he
    simp only [step, Edit.survivors, hc]
    exact h.eraseColumn hcolumn hheader hheaded
  | filterRows name op value =>
    show RowsKept g (Edit.filterBy title name op value scanned c).grid t.columns t.renamed
    exact h.trans_reordered (reordered_filterBy hheaded hcolumn title name op value)
  | sortBy name direction =>
    show RowsKept g (Edit.sortRows title name direction scanned c).grid t.columns t.renamed
    exact h.trans_reordered (reordered_sortRows title name direction)

theorem kept_step (h : t.Kept g) (he : e.isArranging = true) (title : String) :
    (t.step title e).Kept g := by
  have hscanned : RowsKept g t.grid.touchHeaders t.columns t.renamed :=
    h.trans_reordered (.of_sameValues (value_touchHeaders _) (height_touchHeaders _)
      (width_touchHeaders _))
  obtain ⟨name, hname⟩ : ∃ name, e.operands = [name] := by
    cases e with
    | addColumnSum | setValueWhere => cases he
    | renameColumn | deleteColumn | filterRows | sortBy => exact ⟨_, rfl⟩
  rcases apply_one hname title t.grid with ⟨c, hc, happly⟩ | ⟨hnone, hgrid⟩
  · show RowsKept g (e.apply title t.grid).grid _ _
    rw [happly]
    exact kept_found hscanned he hname hc title
  · rw [step_of_not_found hname hnone]
    show RowsKept g (e.apply title t.grid).grid _ _
    rwa [hgrid]

theorem kept_run {edits : List Edit} (title : String) (g : Grid)
    (harranging : ∀ e ∈ edits, e.isArranging = true) : (run title edits g).Kept g := by
  have hrun : ∀ t : Trail, t.Kept g → (edits.foldl (step title) t).Kept g := by
    induction edits with
    | nil => exact fun _ => id
    | cons e rest ih =>
      obtain ⟨he, hrest⟩ := List.forall_mem_cons.mp harranging
      exact fun t ht => ih hrest _ (kept_step ht he title)
  exact hrun (start g) (.refl g)

end Trail

end SheetCommand
