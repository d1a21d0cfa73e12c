import SheetCommand.Proofs.Computation
import SheetCommand.Proofs.Sheet.Extent
import SheetCommand.Sheet.Edit

/-!
# Sheet — attempts

An edit scans the headers and looks up its operands. It then fails, is skipped because some operand
has no column, or goes on at the columns that it has found (`Edit.Tried`).

* `locate_eq_ok`: the columns that an edit goes on with are those of its operands, one for each.
* `apply_touchHeaders`: an earlier scan of the headers makes no difference to an edit.
* `grid_apply_of_isSkipped`: a skipped edit has scanned the headers and done nothing else.
-/

namespace SheetCommand

/-! ### The columns of the operands -/

namespace Grid

theorem locate_touchHeaders (g : Grid) (names : List String) :
    g.touchHeaders.locate names = g.locate names := by
  simp only [locate, findColumn_touchHeaders]

theorem locate_eq_ok {g : Grid} {names : List String} {columns : List Nat}
    (h : g.locate names = .ok (.ok columns)) :
    List.Forall₂ (fun name column => g.findColumn name = .ok (some column)) names columns := by
  rw [locate, bind_eq_ok_iff] at h
  obtain ⟨found, hfound, h⟩ := h
  replace hfound := mapM_eq_ok_iff.mp hfound
  replace h := Except.ok.inj h
  split at h
  case isFalse => cases h
  case isTrue hnone =>
    obtain rfl : found.filterMap (·.2) = columns := Except.ok.inj h
    clear h
    induction hfound with
    | nil => exact .nil
    | @cons name p names found hp _ ih =>
      obtain ⟨column, hcolumn, e⟩ := bind_eq_ok_iff.mp hp
      obtain rfl : (name, column) = p := Except.ok.inj e
      -- an operand without a column would be among the missing ones
      cases column with
      | none => simp at hnone
      | some c => exact .cons hcolumn (ih (by simpa using hnone))

theorem locate_eq_ok_one {g : Grid} {name : String} {columns : List Nat}
    (h : g.locate [name] = .ok (.ok columns)) :
    ∃ c, columns = [c] ∧ g.findColumn name = .ok (some c) := by
  cases locate_eq_ok h with
  | cons hc hrest => cases hrest; exact ⟨_, rfl, hc⟩

theorem locate_eq_ok_two {g : Grid} {first second : String} {columns : List Nat}
    (h : g.locate [first, second] = .ok (.ok columns)) :
    ∃ a b, columns = [a, b] ∧ g.findColumn first = .ok (some a) ∧
      g.findColumn second = .ok (some b) := by
  cases locate_eq_ok h with
  | cons ha hrest =>
    cases hrest with
    | cons hb hnil => cases hnil; exact ⟨_, _, rfl, ha, hb⟩

end Grid

namespace Edit
open Grid

/-! ### Trying an edit -/

/-- How an edit is tried, and what comes of it. -/
inductive Tried (e : Edit) (title : String) (g : Grid) : Attempt ChangeRecord → Prop where
  | unreadable {f : Failure} (h : g.locate e.operands = .error f) :
      Tried e title g ⟨g.touchHeaders, .error f⟩
  | missing {names : List String} (h : g.locate e.operands = .ok (.error names)) :
      Tried e title g ⟨g.touchHeaders, .ok (missing title e.kind names)⟩
  | found {columns : List Nat} (h : g.locate e.operands = .ok (.ok columns)) :
      Tried e title g (e.applyAt title g.touchHeaders columns)

theorem tried_apply (e : Edit) (title : String) (g : Grid) : Tried e title g (e.apply title g) := by
  simp only [apply, locate_touchHeaders]
  cases h : g.locate e.operands with
  | error f => exact .unreadable h
  | ok found =>
    cases found with
    | error names => exact .missing h
    | ok columns => exact .found h

theorem apply_touchHeaders (e : Edit) (title : String) (g : Grid) :
    e.apply title g.touchHeaders = e.apply title g := by
  simp only [apply, touchHeaders_touchHeaders]

/-! ### Skipped edits -/

/-- An attempt that is never skipped. -/
def Applies (attempt : Attempt ChangeRecord) : Prop :=
  ∀ r, attempt.result = .ok r → r.isSkipped = false

theorem applies_error (g : Grid) (f : Failure) : Applies ⟨g, .error f⟩ := by
  rintro r h
  cases h

theorem applies_ok {g : Grid} {r : ChangeRecord} (h : r.isSkipped = false) :
    Applies ⟨g, .ok r⟩ := by
  rintro r' e
  cases e
  exact h

theorem applies_map {α : Type} {attempt : Attempt α} {record : α → ChangeRecord}
    (h : ∀ x, (record x).isSkipped = false) : Applies (attempt.map record) := by
  rintro r e
  obtain ⟨x, -, rfl⟩ := map_eq_ok_iff.mp e
  exact h x

theorem applies_andThen {α : Type} {attempt : Attempt α}
    {next : Grid → α → Attempt ChangeRecord} (h : ∀ g x, Applies (next g x)) :
    Applies (attempt.andThen next) := by
  unfold Attempt.andThen
  split
  · exact h _ _
  · exact applies_error _ _

/-- Once its columns are found, an edit is skipped only if they are not as many as it needs, and
then it does nothing. -/
theorem applyAt_cases (e : Edit) (title : String) (g : Grid) (columns : List Nat) :
    Applies (e.applyAt title g columns) ∨ (e.applyAt title g columns).grid = g := by
  unfold applyAt
  split
  · left; unfold renameAt; split
    · exact applies_error _ _
    · exact applies_ok rfl
  · left; unfold addSums; split
    · exact applies_error _ _
    · dsimp only; split
      · exact applies_error _ _
      · exact applies_map fun _ => rfl
  · exact .inl (applies_ok rfl)
  · exact .inl (applies_andThen fun _ _ => applies_ok rfl)
  · left; unfold sortRows; dsimp only; split
    · exact applies_error _ _
    · exact applies_ok rfl
  · exact .inl (applies_map fun _ => rfl)
  · exact .inr rfl

theorem grid_apply_of_isSkipped {e : Edit} {title : String} {g : Grid} {r : ChangeRecord}
    (h : (e.apply title g).result = .ok r) (hr : r.isSkipped = true) :
    (e.apply title g).grid = g.touchHeaders := by
  have t := tried_apply e title g
  generalize e.apply title g = attempt at t h ⊢
  cases t with
  | unreadable _ | missing _ => rfl
  | found hc =>
    rcases applyAt_cases e title g.touchHeaders _ with happ | hgrid
    · rw [happ r h] at hr; cases hr
    · exact hgrid

end Edit

end SheetCommand
