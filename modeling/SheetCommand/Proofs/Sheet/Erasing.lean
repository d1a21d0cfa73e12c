import SheetCommand.Proofs.Sheet.Extent

/-!
# Sheet — erasing a line

A line that is erased takes its cells with it and the lines after it move up by one, so a position
holds what the position it came from held (`value_eraseRow`, `value_eraseColumn`). The extents never
grow, and a grid whose header cells all exist keeps its width when a row below them is erased.
-/

namespace SheetCommand.Grid

/-! ### Where a line came from -/

/-- The line that is at a place once another one has been erased. -/
def unshift (erased line : Nat) : Nat := if line < erased then line else line + 1

theorem shift_eq_some_iff {erased line l : Nat} :
    shift erased line = some l ↔ line = unshift erased l := by
  unfold shift unshift
  by_cases hline : line = erased
  · rw [if_pos hline]
    constructor
    · intro h
      cases h
    · split <;> omega
  · rw [if_neg hline, Option.some.injEq]
    split <;> split <;> omega

theorem unshift_of_lt {erased line : Nat} (h : line < erased) : unshift erased line = line :=
  if_pos h

theorem unshift_of_le {erased line : Nat} (h : erased ≤ line) : unshift erased line = line + 1 :=
  if_neg (Nat.not_lt_of_le h)

theorem le_unshift (erased line : Nat) : line ≤ unshift erased line := by
  unfold unshift
  split <;> omega

theorem unshift_inj {erased a b : Nat} (h : unshift erased a = unshift erased b) : a = b := by
  unfold unshift at h
  split at h <;> split at h <;> omega

theorem unshift_ne (erased line : Nat) : unshift erased line ≠ erased := by
  unfold unshift
  split <;> omega

theorem unshift_lt_iff {erased line : Nat} : unshift erased line < erased ↔ line < erased := by
  unfold unshift
  split <;> omega

theorem lt_unshift_iff {erased line : Nat} : erased < unshift erased line ↔ erased ≤ line := by
  unfold unshift
  split <;> omega

theorem one_le_unshift_iff {erased line : Nat} (h : 1 ≤ erased) :
    1 ≤ unshift erased line ↔ 1 ≤ line := by
  unfold unshift
  split <;> omega

/-- What is found at a position once a line is erased. The position is of a line and of what crosses
it, a row and a column or the other way round. -/
theorem lookup_erased {line cross : Nat × Nat → Nat} {position : Nat → Nat → Nat × Nat}
    (hline : ∀ l k, line (position l k) = l) (hcross : ∀ l k, cross (position l k) = k)
    (hposition : ∀ p, position (line p) (cross p) = p) (erased : Nat)
    (cells : List ((Nat × Nat) × CellValue)) (l k : Nat) :
    (cells.filterMap fun cell =>
        (shift erased (line cell.1)).map fun l => (position l (cross cell.1), cell.2)).lookup
      (position l k) = cells.lookup (position (unshift erased l) k) := by
  have heq : ∀ l k p, position l k = p ↔ l = line p ∧ k = cross p := by
    intro l k p
    constructor
    · rintro rfl
      exact ⟨(hline l k).symm, (hcross l k).symm⟩
    · rintro ⟨rfl, rfl⟩
      exact hposition p
  induction cells with
  | nil => rfl
  | cons cell rest ih =>
    obtain ⟨p, v⟩ := cell
    rw [List.filterMap_cons, List.lookup_cons]
    cases hp : shift erased (line p) with
    | none =>
      -- an erased cell is not found under any position
      have hne : (position (unshift erased l) k == p) = false := by
        refine beq_eq_false_iff_ne.mpr fun e => ?_
        rw [shift_eq_some_iff.mpr ((heq ..).mp e).1.symm] at hp
        cases hp
      rw [hne]
      exact ih
    | some m =>
      rw [Option.map_some]
      dsimp only
      rw [List.lookup_cons, ih]
      have hmoved : position l k = position m (cross p) ↔ position (unshift erased l) k = p := by
        rw [heq, heq, hline, hcross, shift_eq_some_iff.mp hp]
        exact and_congr_left fun _ => ⟨fun e => e ▸ rfl, unshift_inj⟩
      by_cases hq : position l k = position m (cross p)
      · rw [hmoved.mp hq, hq, beq_self_eq_true, beq_self_eq_true]
      · rw [beq_eq_false_iff_ne.mpr hq, beq_eq_false_iff_ne.mpr (mt hmoved.mpr hq)]

variable {g : Grid} {row column : Nat}

/-! ### Erasing a row -/

theorem get?_eraseRow (g : Grid) (row r c : Nat) : (g.eraseRow row).get? r c =
    (g.touchAll (rectangle (span (row + 1) g.height) g.columns)).get? (unshift row r) c :=
  @lookup_erased Prod.fst Prod.snd Prod.mk (fun _ _ => rfl) (fun _ _ => rfl) (fun _ => rfl) ..

theorem value_eraseRow (g : Grid) (row r c : Nat) :
    (g.eraseRow row).value r c = g.value (unshift row r) c := by
  rw [value, get?_eraseRow]
  exact value_touchAll ..

/-- The cells that exist once a row is erased: those that did, and those created to be moved. -/
theorem isSome_get?_eraseRow {r c : Nat} : ((g.eraseRow row).get? r c).isSome = true ↔
    (row < unshift row r ∧ unshift row r ≤ g.height ∧ c ∈ g.columns) ∨
      (g.get? (unshift row r) c).isSome = true := by
  rw [get?_eraseRow, isSome_get?_touchAll, mem_rectangle, mem_span, Nat.succ_le_iff, and_assoc]

/-- The rows that are left came from rows of the grid. -/
theorem unshift_le_height {r : Nat} (hr : r ≤ (g.eraseRow row).height) (hrow : 2 ≤ row) :
    unshift row r ≤ g.height := by
  have hrows : ∀ r c, ((g.eraseRow row).get? r c).isSome = true → unshift row r ≤ g.height := by
    intro r c h
    rcases isSome_get?_eraseRow.mp h with ⟨-, hle, -⟩ | h
    · exact hle
    · exact le_height h
  refine Nat.le_of_not_lt fun hgt => ?_
  -- otherwise the rows with a cell end before `r`
  have hbound : (g.eraseRow row).height ≤ max 1 (r - 1) := by
    refine extent_le_iff.mpr ⟨Nat.le_max_left .., fun r' c h => ?_⟩
    have hle := hrows r' c h
    dsimp only
    unfold unshift at hgt hle
    split at hgt <;> split at hle <;> omega
  have hone := one_le_height g
  unfold unshift at hgt
  split at hgt <;> omega

theorem width_eraseRow (hrow : 2 ≤ row) (hheaders : ∀ c ∈ g.columns, (g.get? 1 c).isSome = true) :
    (g.eraseRow row).width = g.width := by
  refine Nat.le_antisymm (extent_le_iff.mpr ⟨one_le_width g, fun r c h => ?_⟩) ?_
  · rcases isSome_get?_eraseRow.mp h with ⟨-, -, hc⟩ | h
    · exact (mem_columns.mp hc).2
    · exact le_width h
  · have hlast := hheaders g.width (mem_columns.mpr ⟨one_le_width g, Nat.le_refl _⟩)
    have hfirst : unshift row 1 = 1 := unshift_of_lt hrow
    exact le_width (isSome_get?_eraseRow.mpr (.inr (hfirst.symm ▸ hlast)))

/-! ### Erasing a column -/

theorem get?_eraseColumn (g : Grid) (column r c : Nat) : (g.eraseColumn column).get? r c =
    (g.touchAll (rectangle (span 1 g.height) (span (column + 1) g.width))).get? r
      (unshift column c) :=
  @lookup_erased Prod.snd Prod.fst (fun l k => (k, l)) (fun _ _ => rfl) (fun _ _ => rfl)
    (fun _ => rfl) ..

theorem value_eraseColumn (g : Grid) (column r c : Nat) :
    (g.eraseColumn column).value r c = g.value r (unshift column c) := by
  rw [value, get?_eraseColumn]
  exact value_touchAll ..

theorem isSome_get?_eraseColumn {r c : Nat} : ((g.eraseColumn column).get? r c).isSome = true ↔
    ((1 ≤ r ∧ r ≤ g.height) ∧ column < unshift column c ∧ unshift column c ≤ g.width) ∨
      (g.get? r (unshift column c)).isSome = true := by
  rw [get?_eraseColumn, isSome_get?_touchAll, mem_rectangle, mem_span, mem_span]
  exact Iff.rfl

theorem height_eraseColumn_le (g : Grid) (column : Nat) :
    (g.eraseColumn column).height ≤ g.height := by
  refine extent_le_iff.mpr ⟨one_le_height g, fun r c h => ?_⟩
  rcases isSome_get?_eraseColumn.mp h with ⟨⟨-, hr⟩, -⟩ | h
  · exact hr
  · exact le_height h

/-- A column that is erased narrows a grid whose header cells all exist, unless it is the only
one. -/
theorem width_eraseColumn (hcolumn : column ∈ g.columns)
    (hheaders : ∀ c ∈ g.columns, (g.get? 1 c).isSome = true) :
    (g.eraseColumn column).width = max 1 (g.width - 1) := by
  obtain ⟨hone, hle⟩ := mem_columns.mp hcolumn
  refine Nat.le_antisymm (extent_le_iff.mpr ⟨Nat.le_max_left .., fun r c h => ?_⟩) ?_
  · have hc : unshift column c ≤ g.width := by
      rcases isSome_get?_eraseColumn.mp h with ⟨-, -, hc⟩ | h
      · exact hc
      · exact le_width h
    unfold unshift at hc
    dsimp only
    split at hc <;> omega
  · refine Nat.max_le.mpr ⟨one_le_width _, ?_⟩
    by_cases hnarrow : g.width = 1
    · rw [hnarrow]
      exact Nat.zero_le _
    · have hc : unshift column (g.width - 1) ∈ g.columns := by
        refine mem_columns.mpr ?_
        have hwide := one_le_width g
        unfold unshift
        split <;> omega
      exact le_width (isSome_get?_eraseColumn.mpr (.inr (hheaders _ hc)))

end SheetCommand.Grid
