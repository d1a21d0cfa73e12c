import SheetCommand.Workbook.Apply

/-!
# Workbook — the frame of an action

An action is dealt with in one of three ways (`Dealt`): there is no sheet to act on, the sheet that
its reference means is protected, or it is carried out at the place of that sheet. Only the last way
changes the workbook, and only at that place (`getElem?_applyAt_of_ne`), where a rename changes the
title alone and an edit the grid alone.

`applyEach` is a run that goes on after a failure, with what the failed action has left behind.
-/

namespace SheetCommand.Workbook

/-! ### Changing one place -/

theorem getElem?_titles {w : Workbook} {i : Nat} {sheet : Sheet} (hs : w.sheets[i]? = some sheet) :
    w.titles[i]? = some sheet.title := by
  rw [titles, List.getElem?_map, hs, Option.map_some]

theorem getElem?_setGrid (w : Workbook) (i j : Nat) (grid : Grid) :
    (w.setGrid i grid).sheets[j]? =
      (w.sheets[j]?).map fun sheet => if i = j then { sheet with grid } else sheet :=
  List.getElem?_modify ..

theorem getElem?_setTitle (w : Workbook) (i j : Nat) (title : String) :
    (w.setTitle i title).sheets[j]? =
      (w.sheets[j]?).map fun sheet => if i = j then { sheet with title } else sheet :=
  List.getElem?_modify ..

theorem getElem?_setGrid_of_ne (w : Workbook) {i j : Nat} (grid : Grid) (h : j ≠ i) :
    (w.setGrid i grid).sheets[j]? = w.sheets[j]? := by
  rw [getElem?_setGrid]
  simp [Ne.symm h]

theorem getElem?_setTitle_of_ne (w : Workbook) {i j : Nat} (title : String) (h : j ≠ i) :
    (w.setTitle i title).sheets[j]? = w.sheets[j]? := by
  rw [getElem?_setTitle]
  simp [Ne.symm h]

/-! ### Resolving a reference -/

theorem resolve_eq_none_iff {w : Workbook} {title : Option String} :
    w.resolve title = none ↔ w.sheets = [] := by
  unfold resolve
  split
  · rename_i i h
    obtain ⟨name, -, hi⟩ := Option.bind_eq_some_iff.mp h
    constructor
    · intro e
      cases e
    · intro e
      rw [indexOf?, e] at hi
      cases hi
  · split <;> simp_all

/-- A reference that means a place means one of the workbook. -/
theorem exists_of_resolve {w : Workbook} {title : Option String} {i : Nat}
    (h : w.resolve title = some i) : ∃ sheet, w.sheets[i]? = some sheet := by
  unfold resolve at h
  split at h
  · rename_i j hj
    obtain ⟨name, -, hi⟩ := Option.bind_eq_some_iff.mp hj
    obtain rfl : j = i := Option.some.inj h
    obtain ⟨hlt, -, -⟩ := List.findIdx?_eq_some_iff_getElem.mp hi
    exact ⟨_, List.getElem?_eq_getElem hlt⟩
  · split at h
    · cases h
    · rename_i hne
      obtain rfl : 0 = i := Option.some.inj h
      have hlt : 0 < w.sheets.length := List.length_pos_iff.mpr (by simpa using hne)
      exact ⟨_, List.getElem?_eq_getElem hlt⟩

/-! ### Dealing with an action -/

/-- The record of an action that finds a workbook without sheets. -/
def sheetless (a : Action) : ChangeRecord :=
  ⟨a.kind, a.sheet?.getD "", .skipped .sheetNotFound "Workbook has no sheets"⟩

/-- The record of an action on a protected sheet. -/
def refused (a : Action) (title : String) : ChangeRecord :=
  ⟨a.kind, title, .skipped .protectedSheet ("Sheet '" ++ title ++ "' is protected")⟩

/-- How an action is dealt with, and what comes of it. -/
inductive Dealt (protectedTitles : List String) (w : Workbook) (a : Action) :
    Workbook × Except Failure ChangeRecord → Prop where
  | sheetless (h : w.sheets = []) : Dealt protectedTitles w a (w, .ok (sheetless a))
  | refused {i : Nat} {sheet : Sheet} (hi : w.resolve a.sheet? = some i)
      (hs : w.sheets[i]? = some sheet) (hp : sheet.title ∈ protectedTitles) :
      Dealt protectedTitles w a (w, .ok (refused a sheet.title))
  | carriedOut {i : Nat} {sheet : Sheet} (hi : w.resolve a.sheet? = some i)
      (hs : w.sheets[i]? = some sheet) (hp : sheet.title ∉ protectedTitles) :
      Dealt protectedTitles w a (w.applyAt i sheet a)

theorem dealt_apply (protectedTitles : List String) (w : Workbook) (a : Action) :
    Dealt protectedTitles w a (w.apply protectedTitles a) := by
  unfold apply
  cases hi : w.resolve a.sheet? with
  | none => exact .sheetless (resolve_eq_none_iff.mp hi)
  | some i =>
    obtain ⟨sheet, hs⟩ := exists_of_resolve hi
    simp only [hs]
    split
    · rename_i hp
      exact .refused hi hs (List.contains_iff_mem.mp hp)
    · rename_i hp
      exact .carriedOut hi hs fun hm => hp (List.contains_iff_mem.mpr hm)

/-- An action on a protected sheet is refused. -/
theorem apply_of_mem {protectedTitles : List String} {w : Workbook} {a : Action} {i : Nat}
    {sheet : Sheet} (hi : w.resolve a.sheet? = some i) (hs : w.sheets[i]? = some sheet)
    (hp : sheet.title ∈ protectedTitles) :
    w.apply protectedTitles a = (w, .ok (refused a sheet.title)) := by
  simp [apply, hi, hs, hp, refused]

/-- An action on a sheet that is not protected is carried out. -/
theorem apply_of_not_mem {protectedTitles : List String} {w : Workbook} {a : Action} {i : Nat}
    {sheet : Sheet} (hi : w.resolve a.sheet? = some i) (hs : w.sheets[i]? = some sheet)
    (hp : sheet.title ∉ protectedTitles) : w.apply protectedTitles a = w.applyAt i sheet a := by
  simp [apply, hi, hs, hp]

/-- A rename fails and changes nothing, or sets the title that was assigned. -/
theorem renameSheet_cases (w : Workbook) (i : Nat) (sheet : Sheet) (wanted : String) :
    (∃ f, w.renameSheet i sheet wanted = (w, .error f)) ∨
      ∃ title, w.renameSheet i sheet wanted = (w.setTitle i title,
        .ok ⟨.renameSheet, sheet.title, .applied (.sheetRenamed sheet.title wanted title)⟩) := by
  unfold renameSheet
  split
  · exact .inl ⟨_, rfl⟩
  · exact .inr ⟨_, rfl⟩

/-- An action that is carried out changes nothing at any other place. -/
theorem getElem?_applyAt_of_ne (w : Workbook) {i j : Nat} (sheet : Sheet) (a : Action)
    (h : j ≠ i) : (w.applyAt i sheet a).1.sheets[j]? = w.sheets[j]? := by
  cases a with
  | renameSheet old new =>
    show (w.renameSheet i sheet new).1.sheets[j]? = w.sheets[j]?
    rcases renameSheet_cases w i sheet new with ⟨f, e⟩ | ⟨title, e⟩
    · rw [e]
    · rw [e]; exact getElem?_setTitle_of_ne w title h
  | edit name e => exact getElem?_setGrid_of_ne w _ h

/-! ### Runs that go on -/

/-- Applies every action in turn, whether or not one before it has failed. -/
def applyEach (protectedTitles : List String) (actions : List Action) (w : Workbook) : Workbook :=
  actions.foldl (fun w a => (w.apply protectedTitles a).1) w

theorem applyEach_cons (protectedTitles : List String) (a : Action) (rest : List Action)
    (w : Workbook) :
    w.applyEach protectedTitles (a :: rest) =
      (w.apply protectedTitles a).1.applyEach protectedTitles rest := rfl

end SheetCommand.Workbook
