import SheetCommand.Proofs.Computation
import SheetCommand.Proofs.Sheet.Extent
import SheetCommand.Sheet.Edit

/-!
# Sheet — loops over rows

Three edits go through the rows below the headers and read cells, which creates them, while two of
them write one column as they go. Each row is read before it is written and written at most once, so
what is entered in a row is told by the grid before the loop (`sumEntry`, `whereEntry`).

* `sameValues_rowsFailing`: a loop that only reads changes no value.
* `passed_writeSums`, `passed_writeWhere`: a loop that writes ends after the last row, or at the
  first row that fails with the entries of the rows before it (`Passed`).
-/

namespace SheetCommand.Grid

/-- Two grids that hold the same at every position. -/
def SameValues (g g' : Grid) : Prop := ∀ r c, g'.value r c = g.value r c

theorem sameValues_touch (g : Grid) (row column : Nat) : g.SameValues (g.touch row column) :=
  fun _ _ => value_touch ..

theorem SameValues.trans {g g' g'' : Grid} (h : g.SameValues g') (h' : g'.SameValues g'') :
    g.SameValues g'' :=
  fun r c => (h' r c).trans (h r c)

theorem sameValues_rowsFailing (column : Nat) (test : CellValue → Except Failure Bool)
    (rows : List Nat) (g : Grid) : g.SameValues (rowsFailing column test rows g).grid := by
  induction rows generalizing g with
  | nil => exact fun _ _ => rfl
  | cons row rest ih =>
    have here := sameValues_touch g row column
    unfold rowsFailing
    dsimp only
    split
    · exact here
    · exact here.trans (ih _)

/-! ### Entries in one column -/

/-- The sum of two cells of a row. -/
def sumAt (g : Grid) (first second row : Nat) : Except Failure Number := do
  (← (g.value row first).addend).add (← (g.value row second).addend)

/-- What is entered in a row as the sum of two of its cells. -/
def sumEntry (g : Grid) (first second row : Nat) : Except Failure (Option CellValue) :=
  (g.sumAt first second row).map fun n => some (.ofNumber n)

/-- What is entered in a row where the text of a cell passes. -/
def whereEntry (g : Grid) (condition : Nat) (passes : List Char → Bool)
    (value : Except Failure CellValue) (row : Nat) : Except Failure (Option CellValue) := do
  if passes (← (g.value row condition).shown) then value.map some else return none

/-- The rows `done` have got their entries in the column `target`, and nothing else has changed. -/
structure Filled (target : Nat) (entry : Nat → Except Failure (Option CellValue)) (done : List Nat)
    (g left : Grid) : Prop where
  entered : ∀ r ∈ done, entry r = .ok none ∨ ∃ v, entry r = .ok (some v) ∧ left.value r target = v
  frame : ∀ r c, (r ∈ done → c = target → entry r = .ok none) → left.value r c = g.value r c

/-- How a loop over rows ends: after all of them, or at the first that fails. -/
inductive Passed (target : Nat) (entry : Nat → Except Failure (Option CellValue)) (rows : List Nat)
    (g left : Grid) : Except Failure Unit → Prop where
  | all (h : Filled target entry rows g left) : Passed target entry rows g left (.ok ())
  | upTo {done rest : List Nat} {row : Nat} {f : Failure} (hrows : rows = done ++ row :: rest)
      (hf : entry row = .error f) (h : Filled target entry done g left) :
      Passed target entry rows g left (.error f)

section
variable {target row : Nat} {entry : Nat → Except Failure (Option CellValue)} {rows done : List Nat}
  {g next left : Grid} {result : Except Failure Unit} {v : CellValue}

theorem Filled.nil (h : g.SameValues left) : Filled target entry [] g left :=
  ⟨fun _ hr => absurd hr List.not_mem_nil, fun r c _ => h r c⟩

theorem Filled.cons_none (he : entry row = .ok none)
    (hnext : g.SameValues next) (h : Filled target entry done next left) :
    Filled target entry (row :: done) g left where
  entered := List.forall_mem_cons.mpr ⟨.inl he, h.entered⟩
  frame r c hrc := (h.frame r c fun hr => hrc (List.mem_cons_of_mem _ hr)).trans (hnext r c)

theorem Filled.cons_some (he : entry row = .ok (some v)) (hrow : row ∉ done)
    (hnext : ∀ r c, next.value r c = if (r, c) = (row, target) then v else g.value r c)
    (h : Filled target entry done next left) : Filled target entry (row :: done) g left where
  entered := by
    refine List.forall_mem_cons.mpr ⟨.inr ⟨v, he, ?_⟩, h.entered⟩
    rw [h.frame row target fun hr => absurd hr hrow, hnext, if_pos rfl]
  frame r c hrc := by
    rw [h.frame r c fun hr => hrc (List.mem_cons_of_mem _ hr), hnext, if_neg]
    rintro ⟨⟩
    have := hrc List.mem_cons_self rfl
    rw [he] at this
    cases this

theorem Filled.exists_entry {r : Nat} (h : Filled target entry done g left) (hr : r ∈ done) :
    ∃ v, entry r = .ok v := by
  rcases h.entered r hr with hnone | ⟨v, hsome, -⟩
  · exact ⟨none, hnone⟩
  · exact ⟨some v, hsome⟩

theorem Filled.value_eq {r : Nat} (h : Filled target entry done g left) (hr : r ∈ done)
    (he : entry r = .ok (some v)) : left.value r target = v := by
  rcases h.entered r hr with hnone | ⟨v', hsome, hv⟩
  · rw [he] at hnone
    cases hnone
  · rw [he] at hsome
    cases hsome
    exact hv

theorem Passed.stop {f : Failure} (he : entry row = .error f) (h : g.SameValues left) :
    Passed target entry (row :: rows) g left (.error f) :=
  .upTo (List.nil_append _).symm he (.nil h)

theorem Passed.cons_none (he : entry row = .ok none)
    (hnext : g.SameValues next) (h : Passed target entry rows next left result) :
    Passed target entry (row :: rows) g left result := by
  cases h with
  | all h => exact .all (h.cons_none he hnext)
  | upTo hrows hf h => exact .upTo (congrArg (row :: ·) hrows) hf (h.cons_none he hnext)

theorem Passed.cons_some (he : entry row = .ok (some v)) (hrow : row ∉ rows)
    (hnext : ∀ r c, next.value r c = if (r, c) = (row, target) then v else g.value r c)
    (h : Passed target entry rows next left result) :
    Passed target entry (row :: rows) g left result := by
  cases h with
  | all h => exact .all (h.cons_some he hrow hnext)
  | upTo hrows hf h =>
    rw [hrows, List.mem_append, not_or] at hrow
    exact .upTo (congrArg (row :: ·) hrows) hf (h.cons_some he hrow.1 hnext)

end

/-! ### One row -/

theorem value_put_of_sameValues {g g' : Grid} (h : g.SameValues g') (row column : Nat)
    (v : CellValue) (r c : Nat) :
    (g'.put row column v).value r c = if (r, c) = (row, column) then v else g.value r c := by
  rw [value_put, h]

/-- The rows still to come are as they were before the loop. -/
theorem agree_of_put {g₀ g next : Grid} {row target : Nat} {rows : List Nat} {v : CellValue}
    (h : ∀ r ∈ row :: rows, ∀ c, g.value r c = g₀.value r c) (hrow : row ∉ rows)
    (hnext : ∀ r c, next.value r c = if (r, c) = (row, target) then v else g.value r c) :
    ∀ r ∈ rows, ∀ c, next.value r c = g₀.value r c := by
  intro r hr c
  rw [hnext, if_neg, h r (List.mem_cons_of_mem _ hr)]
  rintro ⟨⟩
  exact hrow hr

section
variable (target : Nat) (rest : List Nat) {g : Grid} {first second condition row : Nat}
  {f : Failure} {passes : List Char → Bool} {value : Except Failure CellValue}

theorem writeSums_of_error (h : g.sumAt first second row = .error f) :
    ∃ g', g.SameValues g' ∧ writeSums first second target (row :: rest) g = ⟨g', .error f⟩ := by
  unfold writeSums
  simp only [value_touch]
  unfold sumAt at h
  cases ha : (g.value row first).addend with
  | error e =>
    rw [ha] at h
    obtain rfl : e = f := Except.error.inj h
    exact ⟨_, sameValues_touch g row first, rfl⟩
  | ok a =>
    rw [ha] at h
    replace h : (do a.add (← (g.value row second).addend)) = .error f := h
    simp only [h]
    exact ⟨_, (sameValues_touch g row first).trans (sameValues_touch _ row second), rfl⟩

theorem writeSums_of_ok {n : Number} (h : g.sumAt first second row = .ok n) :
    ∃ g', g.SameValues g' ∧ writeSums first second target (row :: rest) g =
      writeSums first second target rest (g'.put row target (.ofNumber n)) := by
  rw [sumAt, bind_eq_ok_iff] at h
  obtain ⟨a, ha, h⟩ := h
  replace h : (do a.add (← (g.value row second).addend)) = .ok n := h
  refine ⟨_, (sameValues_touch g row first).trans (sameValues_touch _ row second), ?_⟩
  rw [writeSums]
  simp only [value_touch, ha, h]

theorem writeWhere_of_error (h : g.whereEntry condition passes value row = .error f) :
    ∃ g', g.SameValues g' ∧
      writeWhere target condition passes value (row :: rest) g = ⟨g', .error f⟩ := by
  unfold writeWhere
  simp only [value_touch]
  unfold whereEntry at h
  cases hs : (g.value row condition).shown with
  | error e =>
    rw [hs] at h
    obtain rfl : e = f := Except.error.inj h
    exact ⟨_, sameValues_touch g row condition, rfl⟩
  | ok shown =>
    rw [hs] at h
    replace h : (if passes shown then value.map some else return none) = .error f := h
    split at h
    · rename_i hp
      obtain rfl := map_eq_error_iff.mp h
      simp only [hp, if_true]
      exact ⟨_, (sameValues_touch g row condition).trans (sameValues_touch _ row target), rfl⟩
    · cases h

theorem writeWhere_of_none (h : g.whereEntry condition passes value row = .ok none) :
    ∃ g', g.SameValues g' ∧ writeWhere target condition passes value (row :: rest) g =
      writeWhere target condition passes value rest g' := by
  rw [whereEntry, bind_eq_ok_iff] at h
  obtain ⟨shown, hs, h⟩ := h
  refine ⟨_, sameValues_touch g row condition, ?_⟩
  rw [writeWhere]
  simp only [value_touch, hs]
  split at h
  · obtain ⟨v, -, e⟩ := map_eq_ok_iff.mp h
    cases e
  · rename_i hp
    rw [if_neg hp]

theorem writeWhere_of_some {v : CellValue}
    (h : g.whereEntry condition passes value row = .ok (some v)) :
    ∃ g', g.SameValues g' ∧ writeWhere target condition passes value (row :: rest) g =
      (writeWhere target condition passes value rest (g'.put row target v)).map (row :: ·) := by
  rw [whereEntry, bind_eq_ok_iff] at h
  obtain ⟨shown, hs, h⟩ := h
  split at h
  · rename_i hp
    obtain ⟨v', hv, e⟩ := map_eq_ok_iff.mp h
    cases e
    refine ⟨_, (sameValues_touch g row condition).trans (sameValues_touch _ row target), ?_⟩
    rw [writeWhere]
    simp only [value_touch, hs, hp, if_true, hv]
  · cases h

end

/-! ### The loops that write -/

theorem passed_writeSums (g₀ : Grid) {g : Grid} (first second target : Nat) {rows : List Nat}
    (hn : rows.Nodup) (h : ∀ r ∈ rows, ∀ c, g.value r c = g₀.value r c) :
    Passed target (g₀.sumEntry first second) rows g (writeSums first second target rows g).grid
      (writeSums first second target rows g).result := by
  induction rows generalizing g with
  | nil => exact .all (.nil fun _ _ => rfl)
  | cons row rest ih =>
    obtain ⟨hrow, hrest⟩ := List.nodup_cons.mp hn
    have here : g.sumAt first second row = g₀.sumAt first second row := by
      simp only [sumAt, h row List.mem_cons_self]
    cases hs : g₀.sumAt first second row with
    | error f =>
      obtain ⟨g', hsame, e⟩ := writeSums_of_error target rest (here.trans hs)
      rw [e]
      exact .stop (by rw [sumEntry, hs]; rfl) hsame
    | ok n =>
      obtain ⟨g', hsame, e⟩ := writeSums_of_ok target rest (here.trans hs)
      rw [e]
      have hnext := value_put_of_sameValues hsame row target (.ofNumber n)
      exact .cons_some (by rw [sumEntry, hs]; rfl) hrow hnext (ih hrest (agree_of_put h hrow hnext))

theorem passed_writeWhere (g₀ : Grid) {g : Grid} (target condition : Nat)
    (passes : List Char → Bool) (value : Except Failure CellValue) {rows : List Nat} (hn : rows.Nodup)
    (h : ∀ r ∈ rows, ∀ c, g.value r c = g₀.value r c) :
    Passed target (g₀.whereEntry condition passes value) rows g
      (writeWhere target condition passes value rows g).grid
      ((writeWhere target condition passes value rows g).result.map fun _ => ()) := by
  induction rows generalizing g with
  | nil => exact .all (.nil fun _ _ => rfl)
  | cons row rest ih =>
    obtain ⟨hrow, hrest⟩ := List.nodup_cons.mp hn
    have here : g.whereEntry condition passes value row =
        g₀.whereEntry condition passes value row := by
      simp only [whereEntry, h row List.mem_cons_self]
    cases he : g₀.whereEntry condition passes value row with
    | error f =>
      obtain ⟨g', hsame, e⟩ := writeWhere_of_error target rest (here.trans he)
      rw [e]
      exact .stop he hsame
    | ok entry =>
      cases entry with
      | none =>
        obtain ⟨g', hsame, e⟩ := writeWhere_of_none target rest (here.trans he)
        rw [e]
        exact .cons_none he hsame
          (ih hrest fun r hr c => (hsame r c).trans (h r (List.mem_cons_of_mem _ hr) c))
      | some v =>
        obtain ⟨g', hsame, e⟩ := writeWhere_of_some target rest (here.trans he)
        have hnext := value_put_of_sameValues hsame row target v
        have tail := ih hrest (agree_of_put h hrow hnext)
        rw [e, Attempt.map]
        generalize writeWhere target condition passes value rest (g'.put row target v) = attempt
          at tail ⊢
        obtain ⟨left, f | more⟩ := attempt
        · exact .cons_some he hrow hnext tail
        · exact .cons_some he hrow hnext tail

end SheetCommand.Grid
