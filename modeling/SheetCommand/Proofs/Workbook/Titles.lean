import Mathlib.Data.List.Nodup
import SheetCommand.Proofs.Instruction.Names
import SheetCommand.Proofs.Workbook.FreshTitle
import SheetCommand.Proofs.Workbook.Frame

/-!
# Workbook — titles stay distinct

A title can be changed by a rename alone, and the title that it sets is the wanted one, the one the
sheet has, or a wanted one with a number. No action that comes from an instruction wants a title with
a comma in it, so the title that is set is not one of another sheet (`set_titles`), and a workbook
whose titles are distinct keeps them so over every run of instructions (`titles_stay_distinct`).
-/

namespace SheetCommand

open Instruction

namespace Workbook

variable {protectedTitles : List String} {w : Workbook}

/-! ### Following instructions -/

/-- The workbook after an instruction has been interpreted against its titles and carried out; a
failure leaves what it has done so far. -/
def instruct (protectedTitles : List String) (w : Workbook) (instruction : String) : Workbook :=
  (w.applyAll protectedTitles (interpret instruction w.titles)).1

/-- The workbook after several instructions, each interpreted against the titles it finds. -/
def instructAll (protectedTitles : List String) (w : Workbook) (instructions : List String) :
    Workbook :=
  instructions.foldl (instruct protectedTitles) w

theorem interpret_cases (instruction : String) (sheetNames : List String) :
    interpret instruction sheetNames = [] ∨ ∃ a, interpret instruction sheetNames = [a] := by
  unfold interpret
  cases hr : recognize (Wording.of instruction) with
  | none => exact .inl (by simp [hr])
  | some r => exact .inr ⟨_, by simp [hr]; rfl⟩

theorem applyAll_singleton (a : Action) :
    (w.applyAll protectedTitles [a]).1 = (w.apply protectedTitles a).1 := by
  simp only [applyAll]
  rcases w.apply protectedTitles a with ⟨left, f | record⟩ <;> rfl

/-- The action of an instruction is all that is done. -/
theorem instruct_eq {instruction : String} {a : Action} (h : a ∈ interpret instruction w.titles) :
    w.instruct protectedTitles instruction = (w.apply protectedTitles a).1 := by
  rcases interpret_cases instruction w.titles with hnil | ⟨b, hone⟩
  · rw [hnil] at h; cases h
  · rw [hone] at h
    rw [instruct, hone, applyAll_singleton, List.mem_singleton.mp h]

/-! ### Setting a title -/

theorem titles_setTitle (w : Workbook) (i : Nat) (title : String) :
    (w.setTitle i title).titles = w.titles.set i title := by
  apply List.ext_getElem?
  intro j
  rw [titles, List.getElem?_map, getElem?_setTitle, List.getElem?_set, titles, List.getElem?_map]
  by_cases hj : i = j
  · subst hj
    by_cases hlt : i < w.sheets.length
    · simp [hlt]
    · simp [hlt]
  · cases w.sheets[j]? <;> simp [hj]

/-- What a sheet at a place may be given as its title: its own, or one that no sheet has. -/
theorem set_titles {i : Nat} {sheet : Sheet} (hs : w.sheets[i]? = some sheet) (h : w.titles.Nodup)
    {wanted title : String} (hfree : Title.CommaFree wanted.toList)
    (ha : Title.assign w.titles (some sheet.title) wanted = .ok title) :
    (w.titles.set i title).Nodup ∧ ∀ j, j ≠ i → w.titles[j]? ≠ some title := by
  have hi := getElem?_titles hs
  obtain ⟨hlt, hget⟩ := List.getElem?_eq_some_iff.mp hi
  rcases Title.assign_not_mem hfree ha with hown | hnew
  · obtain rfl := Option.some.inj hown
    constructor
    · rwa [← hget, List.set_getElem_self]
    · intro j hj hsame
      exact hj ((List.getElem?_inj hlt h).mp (hi.trans hsame.symm)).symm
  · exact ⟨List.Nodup.set h hnew, fun j _ hsame => hnew (List.mem_of_getElem? hsame)⟩

/-! ### Steps and runs -/

/-- A rename that is carried out sets the title that its record tells, and no other sheet has it. -/
theorem titles_of_renamed {a : Action} (hcommas : ∀ name ∈ a.names, Title.CommaFree name.toList)
    (h : w.titles.Nodup) (hkind : a.kind = .renameSheet) {record : ChangeRecord}
    (hr : (w.apply protectedTitles a).2 = .ok record) (hdone : record.isSkipped = false) :
    ∃ i title, w.resolve a.sheet? = some i ∧
      (w.apply protectedTitles a).1.titles = w.titles.set i title ∧
      record.toDocument.field? "after" = some (.text title) ∧
      (w.titles.set i title).Nodup ∧ ∀ j, j ≠ i → w.titles[j]? ≠ some title := by
  cases a with
  | edit _ e => cases e <;> cases hkind
  | renameSheet old wanted =>
    have d := dealt_apply protectedTitles w (.renameSheet old wanted)
    generalize w.apply protectedTitles (.renameSheet old wanted) = outcome at d hr ⊢
    cases d with
    | sheetless _ => cases hr; cases hdone
    | refused _ _ _ => cases hr; cases hdone
    | @carriedOut i sheet hi hs hp =>
      simp only [applyAt, renameSheet] at hr ⊢
      cases ha : Title.assign w.titles (some sheet.title) wanted with
      | error f => rw [ha] at hr; cases hr
      | ok title =>
        rw [ha] at hr
        cases hr
        exact ⟨i, title, hi, titles_setTitle w i title, rfl,
          set_titles hs h (hcommas wanted (by simp [Action.names])) ha⟩

/-- One action with names free of commas keeps the titles distinct, whether or not it fails. -/
theorem nodup_titles_apply {a : Action} (hcommas : ∀ name ∈ a.names, Title.CommaFree name.toList)
    (h : w.titles.Nodup) : (w.apply protectedTitles a).1.titles.Nodup := by
  have d := dealt_apply protectedTitles w a
  generalize w.apply protectedTitles a = outcome at d ⊢
  cases d with
  | sheetless _ | refused _ _ _ => exact h
  | @carriedOut i sheet hi hs hp =>
    cases a with
    | edit _ e => exact (titles_setGrid w i _).symm ▸ h
    | renameSheet old wanted =>
      simp only [applyAt, renameSheet]
      cases ha : Title.assign w.titles (some sheet.title) wanted with
      | error f => exact h
      | ok title =>
        rw [titles_setTitle]
        exact (set_titles hs h (hcommas wanted (by simp [Action.names])) ha).1

/-- The names that an instruction gives are free of commas. -/
theorem commaFree_of_mem_names {instruction : String} {sheetNames : List String} {a : Action}
    (ha : a ∈ interpret instruction sheetNames) :
    ∀ name ∈ a.names, Title.CommaFree name.toList := fun _ hname =>
  Title.commaFree_of_isName (isTitle_of_mem_names ha hname).isName

theorem nodup_titles_instruct (h : w.titles.Nodup) (instruction : String) :
    (w.instruct protectedTitles instruction).titles.Nodup := by
  rcases interpret_cases instruction w.titles with hnil | ⟨a, hone⟩
  · rw [instruct, hnil]; exact h
  · have ha : a ∈ interpret instruction w.titles := by rw [hone]; exact List.mem_singleton_self a
    rw [instruct_eq ha]
    exact nodup_titles_apply (commaFree_of_mem_names ha) h

theorem nodup_titles_instructAll (h : w.titles.Nodup) (instructions : List String) :
    (w.instructAll protectedTitles instructions).titles.Nodup := by
  induction instructions generalizing w with
  | nil => exact h
  | cons instruction rest ih => exact ih (nodup_titles_instruct h instruction)

/-- **Titles stay distinct.** Let the titles of a workbook be distinct, and instructions be followed
one after the other. After every number of them the titles are distinct; and if the next one renames
a sheet, then the record tells the title that the sheet gets, and no other sheet has that title. -/
theorem titles_stay_distinct (protectedTitles : List String) (w : Workbook) (h : w.titles.Nodup)
    (instructions : List String) (n : Nat) :
    let reached := w.instructAll protectedTitles (instructions.take n)
    reached.titles.Nodup ∧
    ∀ instruction, instructions[n]? = some instruction →
      ∀ a ∈ interpret instruction reached.titles, a.kind = .renameSheet →
        ∀ record, (reached.apply protectedTitles a).2 = .ok record → record.isSkipped = false →
          ∃ i title, reached.resolve a.sheet? = some i ∧
            (reached.instruct protectedTitles instruction).titles = reached.titles.set i title ∧
            record.toDocument.field? "after" = some (.text title) ∧
            ∀ j, j ≠ i → reached.titles[j]? ≠ some title := by
  have here : (w.instructAll protectedTitles (instructions.take n)).titles.Nodup :=
    nodup_titles_instructAll h _
  refine ⟨here, fun instruction _ a ha hkind record hr hdone => ?_⟩
  obtain ⟨i, title, hi, hset, hafter, -, hother⟩ :=
    titles_of_renamed (commaFree_of_mem_names ha) here hkind hr hdone
  exact ⟨i, title, hi, by rw [instruct_eq ha, hset], hafter, hother⟩

/-- Titles with commas, with numbers and in several cases. -/
def drawers : Workbook :=
  ⟨["Sales,Revenue7", "revenue", "REVENUE2", "Draft"].map fun title => ⟨title, .empty⟩⟩

/-- The last sheet is to have the title of the second one, by way of another title. -/
def drawerInstructions : List String := ["Draft sheet ka naam Old rakho", "rename sheet Old to revenue"]

theorem titles_stay_distinct_drawers :
    drawers.titles.Nodup ∧
      let reached := drawers.instructAll [] (drawerInstructions.take 1)
      reached.titles.Nodup ∧
      ∃ i title, reached.resolve (some "Old") = some i ∧
        (reached.instruct [] "rename sheet Old to revenue").titles = reached.titles.set i title ∧
        ∀ j, j ≠ i → reached.titles[j]? ≠ some title := by
  have hdistinct : drawers.titles.Nodup := by decide
  have run := titles_stay_distinct [] drawers hdistinct drawerInstructions 1
  refine ⟨hdistinct, run.1, ?_⟩
  obtain ⟨i, title, hi, hset, -, hother⟩ := run.2 "rename sheet Old to revenue" rfl
    (.renameSheet "Old" "Revenue") (by decide +kernel) rfl
    ⟨.renameSheet, "Old", .applied (.sheetRenamed "Old" "Revenue" "Revenue8")⟩
    (by decide +kernel) rfl
  exact ⟨i, title, hi, hset, hother⟩

end Workbook

end SheetCommand
