import SheetCommand.Proofs.Computation
import SheetCommand.Proofs.Workbook.Frame
import SheetCommand.Workbook.Stored

/-!
# Workbook — separation

An action acts at one place: the one that its reference means. An edit changes the grid there and a
rename the title there; nothing changes at any other place, and no place is added or lost. What an
edit does to its sheet, and what it answers, is told by that sheet alone (`Sheet.attempt`), and
which sheet it is by the titles, which no edit changes. So two edits of different sheets commute.

Titles are never empty: a workbook that was opened has none (`titled_opened`), and an action gives
none (`titled_apply`). A reference by an empty title would mean the first sheet.
-/

namespace SheetCommand

/-- What an edit does to a sheet: nothing if the title of the sheet is protected. -/
def Sheet.attempt (protectedTitles : List String) (sheet : Sheet) (e : Edit) :
    Attempt ChangeRecord :=
  if sheet.title ∈ protectedTitles then
    ⟨sheet.grid, .ok (Workbook.refused (.edit none e) sheet.title)⟩
  else e.apply sheet.title sheet.grid

theorem Title.ne_empty_of_assign {titles : List String} {current : Option String}
    {wanted title : String} (h : assign titles current wanted = .ok title) : title ≠ "" := by
  have hne : ∀ number : String, wanted.isEmpty = false → wanted ++ number ≠ "" := by
    intro number hw he
    rw [String.append_eq_empty_iff] at he
    rw [he.1] at hw
    cases hw
  have hself : wanted.isEmpty = false → wanted ≠ "" := by
    rintro hw rfl
    cases hw
  unfold assign at h
  split at h
  · cases h
  rename_i hw
  replace hw : wanted.isEmpty = false := by simpa using hw
  split at h
  · cases h
  split at h
  · cases h; exact hself hw
  unfold fresh at h
  split at h
  · dsimp only at h
    split at h
    · cases h; exact hself hw
    split at h
    · cases h
    split at h
    · cases h
    · cases h; exact hne _ hw
  · cases h; exact hself hw

namespace Workbook

variable {protectedTitles : List String} {w : Workbook} {i j : Nat} {sheet other : Sheet}

/-! ### Places -/

theorem setGrid_self (h : w.sheets[i]? = some sheet) : w.setGrid i sheet.grid = w := by
  have hs : w.sheets.modify i (fun s => { s with grid := sheet.grid }) = w.sheets := by
    apply List.ext_getElem?
    intro k
    rw [List.getElem?_modify]
    by_cases hk : i = k
    · subst hk; simp [h]
    · simp [hk]
  rw [setGrid, hs]

theorem setGrid_comm (w : Workbook) (h : i ≠ j) (g g' : Grid) :
    (w.setGrid i g).setGrid j g' = (w.setGrid j g').setGrid i g := by
  simp only [setGrid, mk.injEq]
  apply List.ext_getElem?
  intro k
  simp only [List.getElem?_modify]
  by_cases hi : i = k
  · have hj : j ≠ k := fun hj => h (hi.trans hj.symm)
    simp [hi, hj]
  · simp [hi]

theorem resolve_setGrid (w : Workbook) (i : Nat) (g : Grid) (title : Option String) :
    (w.setGrid i g).resolve title = w.resolve title := by
  have hindex : ∀ (v : Workbook) name, v.indexOf? name = v.titles.findIdx? (· = name) := by
    intro v name
    rw [indexOf?, titles, List.findIdx?_map]
    rfl
  have hempty : ∀ v : Workbook, v.sheets.isEmpty = v.titles.isEmpty := by
    intro v
    rw [titles, List.isEmpty_map]
  simp only [resolve, funext (hindex _), hempty, titles_setGrid]

/-- Every sheet has a title. -/
def Titled (w : Workbook) : Prop := "" ∉ w.titles

/-- A title of the workbook means a place with that title. -/
theorem exists_resolve_of_mem {title : String} (hne : title ≠ "") (h : title ∈ w.titles) :
    ∃ i sheet, w.resolve (some title) = some i ∧ w.sheets[i]? = some sheet ∧
      sheet.title = title := by
  obtain ⟨s, hs, rfl⟩ := List.mem_map.mp h
  cases hi : w.indexOf? s.title with
  | none =>
    have := List.findIdx?_eq_none_iff.mp hi s hs
    simp at this
  | some i =>
    obtain ⟨hlt, htitle, -⟩ := List.findIdx?_eq_some_iff_getElem.mp hi
    have hf : (some s.title).filter (!·.isEmpty) = some s.title := by
      rw [Option.filter_some, if_pos]
      simpa using hne
    refine ⟨i, w.sheets[i], ?_, List.getElem?_eq_getElem hlt, of_decide_eq_true htitle⟩
    rw [resolve, hf, Option.bind_some, hi]

/-- A title that no sheet has means the first place. -/
theorem resolve_of_not_mem {title : String} (hne : w.sheets ≠ []) (h : title ∉ w.titles) :
    w.resolve (some title) = some 0 := by
  have hindex : w.indexOf? title = none := by
    refine List.findIdx?_eq_none_iff.mpr fun s hs => decide_eq_false fun htitle => h ?_
    exact htitle ▸ List.mem_map_of_mem hs
  have hbind : ((some title).filter (!·.isEmpty)).bind w.indexOf? = none := by
    rw [Option.filter_some]
    split
    · exact hindex
    · rfl
  rw [resolve, hbind]
  simpa using hne

/-- If titles are distinct, a title means its place. -/
theorem resolve_of_getElem? (hdistinct : w.titles.Nodup) {title : String} (hne : title ≠ "")
    (h : w.titles[i]? = some title) : w.resolve (some title) = some i := by
  obtain ⟨j, s, hj, hs, rfl⟩ := exists_resolve_of_mem hne (List.mem_of_getElem? h)
  have hplace := getElem?_titles hs
  obtain ⟨hlt, -⟩ := List.getElem?_eq_some_iff.mp h
  rw [hj, (List.getElem?_inj hlt hdistinct).mp (h.trans hplace.symm)]

/-! ### The frame of an action -/

/-- An action changes nothing at a place that its reference does not mean. -/
theorem getElem?_apply_of_resolve_ne (a : Action) (h : w.resolve a.sheet? ≠ some j) :
    (w.apply protectedTitles a).1.sheets[j]? = w.sheets[j]? := by
  have d := dealt_apply protectedTitles w a
  generalize w.apply protectedTitles a = outcome at d ⊢
  cases d with
  | sheetless _ | refused _ _ _ => rfl
  | @carriedOut i sheet hi _ _ =>
    exact getElem?_applyAt_of_ne w sheet a fun e => h (hi.trans (congrArg some e.symm))

/-- What an edit leaves and answers is told by the sheet that it is for. -/
theorem apply_edit {name : Option String} (hi : w.resolve name = some i)
    (hs : w.sheets[i]? = some sheet) (e : Edit) :
    w.apply protectedTitles (.edit name e) =
      (w.setGrid i (sheet.attempt protectedTitles e).grid,
        (sheet.attempt protectedTitles e).result) := by
  unfold Sheet.attempt
  by_cases hp : sheet.title ∈ protectedTitles
  · rw [apply_of_mem (a := .edit name e) hi hs hp, if_pos hp]
    simp only [setGrid_self hs]
    rfl
  · rw [if_neg hp, apply_of_not_mem (a := .edit name e) hi hs hp]
    rfl

/-- An edit changes no title, and a rename no grid. -/
theorem apply_keeps (protectedTitles : List String) (w : Workbook) (a : Action) :
    match a with
    | .edit _ _ => (w.apply protectedTitles a).1.titles = w.titles
    | .renameSheet _ _ =>
      (w.apply protectedTitles a).1.sheets.map Sheet.grid = w.sheets.map Sheet.grid := by
  have d := dealt_apply protectedTitles w a
  generalize w.apply protectedTitles a = outcome at d ⊢
  cases d with
  | sheetless _ | refused _ _ _ => cases a <;> rfl
  | @carriedOut i sheet _ _ _ =>
    cases a with
    | edit name e => exact titles_setGrid ..
    | renameSheet old new =>
      show (w.renameSheet i sheet new).1.sheets.map Sheet.grid = _
      rcases renameSheet_cases w i sheet new with ⟨f, e⟩ | ⟨title, e⟩
      · rw [e]
      · rw [e]
        apply List.ext_getElem?
        intro k
        simp only [List.getElem?_map, getElem?_setTitle, Option.map_map]
        congr 1
        funext s
        by_cases hk : i = k <;> simp [hk]

theorem length_apply (protectedTitles : List String) (w : Workbook) (a : Action) :
    (w.apply protectedTitles a).1.sheets.length = w.sheets.length := by
  have h := apply_keeps protectedTitles w a
  cases a with
  | edit name e => simpa [titles] using congrArg List.length h
  | renameSheet old new => simpa using congrArg List.length h

/-- An edit that is for another sheet does not change what an edit leaves and answers. -/
theorem apply_edit_setGrid {name : Option String} (hi : w.resolve name = some i)
    (hs : w.sheets[i]? = some sheet) (h : i ≠ j) (g : Grid) (e : Edit) :
    (w.setGrid j g).apply protectedTitles (.edit name e) =
      ((w.setGrid j g).setGrid i (sheet.attempt protectedTitles e).grid,
        (w.apply protectedTitles (.edit name e)).2) := by
  rw [apply_edit hi hs,
    apply_edit ((resolve_setGrid ..).trans hi) ((getElem?_setGrid_of_ne w g h).trans hs)]

/-- **Separation.** An action changes no other sheet than the one its reference means, adds and
loses none, changes no title if it is an edit and no grid if it is a rename. Two edits of two titles
of the workbook leave the same in either order, and each answers the same. -/
theorem actions_separate (protectedTitles : List String) (w : Workbook) :
    (∀ a : Action,
      let left := (w.apply protectedTitles a).1
      (∀ j, w.resolve a.sheet? ≠ some j → left.sheets[j]? = w.sheets[j]?) ∧
      left.sheets.length = w.sheets.length ∧
      match a with
      | .edit _ _ => left.titles = w.titles
      | .renameSheet _ _ => left.sheets.map Sheet.grid = w.sheets.map Sheet.grid) ∧
    ∀ (s t : String) (e f : Edit), w.Titled → s ∈ w.titles → t ∈ w.titles → s ≠ t →
      let first := w.apply protectedTitles (.edit (some s) e)
      let second := w.apply protectedTitles (.edit (some t) f)
      first.1.apply protectedTitles (.edit (some t) f) =
          ((second.1.apply protectedTitles (.edit (some s) e)).1, second.2) ∧
        (second.1.apply protectedTitles (.edit (some s) e)).2 = first.2 := by
  constructor
  · intro a
    exact ⟨fun j hj => getElem?_apply_of_resolve_ne a hj, length_apply protectedTitles w a,
      apply_keeps protectedTitles w a⟩
  · intro s t e f hw hs ht hne
    obtain ⟨i, sheet, hi, his, rfl⟩ := exists_resolve_of_mem (fun e => hw (e ▸ hs)) hs
    obtain ⟨j, other, hj, hjs, rfl⟩ := exists_resolve_of_mem (fun e => hw (e ▸ ht)) ht
    have hij : i ≠ j := by
      rintro rfl
      rw [his] at hjs
      cases hjs
      exact hne rfl
    have hfirst : w.apply protectedTitles (.edit (some sheet.title) e) = _ := apply_edit hi his e
    have hsecond : w.apply protectedTitles (.edit (some other.title) f) = _ := apply_edit hj hjs f
    dsimp only
    rw [hfirst, hsecond, apply_edit_setGrid hj hjs hij.symm, apply_edit_setGrid hi his hij,
      hfirst, hsecond]
    exact ⟨congrArg (·, _) (setGrid_comm w hij _ _), rfl⟩

/-- Two sheets with a header and a number each. -/
def pair : Workbook :=
  ⟨[⟨"Sales", ⟨[((1, 1), .text "Price"), ((2, 1), .int 3)]⟩⟩,
    ⟨"Stock", ⟨[((1, 1), .text "Item"), ((2, 1), .int 7)]⟩⟩]⟩

theorem actions_separate_pair :
    pair.Titled ∧ "Stock" ∈ pair.titles ∧ "Sales" ∈ pair.titles ∧ "Stock" ≠ "Sales" ∧
      let delete := pair.apply [] (.edit (some "Stock") (.deleteColumn "Item"))
      let rename := pair.apply [] (.edit (some "Sales") (.renameColumn "Price" "Cost"))
      delete.1.apply [] (.edit (some "Sales") (.renameColumn "Price" "Cost")) =
          ((rename.1.apply [] (.edit (some "Stock") (.deleteColumn "Item"))).1, rename.2) ∧
        (rename.1.apply [] (.edit (some "Stock") (.deleteColumn "Item"))).2 = delete.2 := by
  have ht : pair.Titled := by unfold Titled; decide
  exact ⟨ht, by decide, by decide, by decide,
    (actions_separate [] pair).2 _ _ _ _ ht (by decide) (by decide) (by decide)⟩

/-! ### Titles -/

theorem titled_addSheet {w w' : Workbook} {title : String} {grid : Grid} (hw : w.Titled)
    (h : w.addSheet title grid = .ok w') : w'.Titled := by
  obtain ⟨title', ht, e⟩ := bind_eq_ok_iff.mp h
  obtain rfl := Except.ok.inj e
  intro hm
  rw [titles, List.map_append, List.mem_append] at hm
  rcases hm with hm | hm
  · exact hw hm
  · exact Title.ne_empty_of_assign ht (List.mem_singleton.mp hm).symm

/-- A workbook that was opened has no empty title. -/
theorem titled_opened {w opened : Workbook} (h : w.opened = .ok opened) : opened.Titled := by
  have hsheets : ∀ (sheets : List Sheet) (start left : Workbook), start.Titled →
      sheets.foldlM (fun w sheet => w.addSheet sheet.title sheet.grid) start = .ok left →
        left.Titled := by
    intro sheets
    induction sheets with
    | nil =>
      intro start left hstart e
      obtain rfl := Except.ok.inj e
      exact hstart
    | cons sheet rest ih =>
      intro start left hstart e
      rw [List.foldlM_cons] at e
      obtain ⟨next, hnext, hleft⟩ := bind_eq_ok_iff.mp e
      exact ih next left (titled_addSheet hstart hnext) hleft
  exact hsheets w.sheets empty opened (by simp [Titled, titles, empty]) h

/-- No action leaves an empty title. -/
theorem titled_apply (hw : w.Titled) (a : Action) : (w.apply protectedTitles a).1.Titled := by
  cases a with
  | edit name e =>
    rw [Titled, apply_keeps protectedTitles w (.edit name e)]
    exact hw
  | renameSheet old new =>
    have d := dealt_apply protectedTitles w (.renameSheet old new)
    generalize w.apply protectedTitles (.renameSheet old new) = outcome at d ⊢
    cases d with
    | sheetless _ | refused _ _ _ => exact hw
    | @carriedOut i sheet _ _ _ =>
      show ((w.renameSheet i sheet new).1).Titled
      unfold renameSheet
      split
      · exact hw
      · rename_i title ht
        intro hm
        obtain ⟨k, hk⟩ := List.mem_iff_getElem?.mp hm
        rw [titles, List.getElem?_map, getElem?_setTitle] at hk
        by_cases h : i = k
        · obtain ⟨s, -, e⟩ := Option.map_eq_some_iff.mp (Option.map_map .. ▸ hk)
          simp only [h, Function.comp, if_true] at e
          exact Title.ne_empty_of_assign ht e
        · simp only [h, if_false, Option.map_id'] at hk
          exact hw (List.mem_iff_getElem?.mpr ⟨k, by rw [titles, List.getElem?_map]; exact hk⟩)

end Workbook

end SheetCommand
