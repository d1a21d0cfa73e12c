import SheetCommand.Proofs.Instruction.Locator
import SheetCommand.Proofs.Instruction.Templates
import SheetCommand.Proofs.Workbook.FreshTitle

/-!
# Renaming — the sheet that gets a new title

`rename sheet Sales to Revenue` is read in lower case, and the action has both names with capitals.
The sheet that it renames is the one with exactly that title, and the first sheet if there is none
(`named_sheet_renamed`). So a sheet whose title is not written that way is renamed only if it is the
first one, and otherwise another sheet is renamed in its place (`not_the_sheet_renamed`).
-/

namespace SheetCommand.Instruction

/-- `rename sheet Sales to Revenue`. -/
def retitling (title new : SpacedName) : String :=
  "rename sheet " ++ title.text ++ " to " ++ new.text

def retitlingForm : Form := template [] [] .english .renameSheet

section

variable (title new : SpacedName)

theorem collapse_retitling : Text.collapse (retitling title new).toList =
    retitlingForm.sketch.fill (typedBy title new) := by
  have hjoin : (retitling title new).toList = Text.join [' ']
      ["rename sheet".toList, title.text.toList, "to".toList, new.text.toList] := by
    simp [retitling, Text.join, String.toList_append]
  rw [hjoin, Text.collapse_join]
  · simp [retitlingForm, template, name, Form.sketch, Sketch.fill_append, Sketch.fill_ofChars,
      Sketch.fill, typedBy, SpacedName.typed, Text.join, Text.collapse, Text.words, Text.wordsFrom,
      Text.isBlank, Text.isPlainBlank]
  · have hwords : Text.words "rename sheet".toList ≠ [] ∧ Text.words "to".toList ≠ [] := by decide
    simpa using ⟨hwords.1, title.worded, hwords.2, new.worded⟩

theorem recognize_retitling : recognize (Wording.of (retitling title new)) =
    some (.renameSheet title.titled new.titled) := by
  refine recognize_of_names (f := retitlingForm) (outline_missed .english .renameSheet)
    (found_names .english (.inl rfl)) rfl (by decide) ?_ (collapse_retitling title new)
    fun w c hc => ?_
  · simp [retitlingForm, template, name, Form.sketch, Sketch.fits_append, Sketch.fits_ofChars,
      Sketch.Fits, readBy, SpacedName.fills]
  · simp [build, hc.titled_eq, retitlingForm, template, name, Form.piece?, Sketch.fill, readBy,
      SpacedName.titled]

end

/-! ### The title that is assigned -/

/-- A titled name that no sheet has, in whatever case, is assigned as it is. -/
theorem assign_titled {titles : List String} {new : SpacedName}
    (hnew : ∀ taken ∈ titles, Text.lower taken.toList ≠ new.lower) (current : Option String) :
    Title.assign titles current new.titled = .ok new.titled := by
  have hmarks : ∀ c ∈ new.titled.toList, c ∉ Title.marks := by
    intro c hc hmark
    have hall : Title.marks.all (fun m =>
        m.toLower != ' ' && !Hole.name.isLetter m.toLower) = true := by decide
    have hc' := List.all_eq_true.mp hall c hmark
    rcases new.eq_space_or_isLetter hc with h | h <;> simp [h] at hc'
  have hfree : ¬ Title.Taken titles new.titled := by
    rintro ⟨taken, htaken, hsame⟩
    rw [Title.sameCase, new.lower_titled] at hsame
    exact hnew taken htaken (eq_of_beq hsame)
  rw [Title.assign_of_valid new.titled_ne_empty hmarks]
  split
  · rfl
  · exact Title.fresh_eq_wanted_iff.mpr fun htaken => absurd htaken hfree

/-! ### The sheet that is renamed -/

section

variable {w : Workbook} {title new : SpacedName}

/-- The sheet that a titled name means: the one with that title, else the first. -/
theorem exists_meant_sheet (title : SpacedName) (hne : w.sheets ≠ []) :
    ∃ k sheet, w.resolve (some title.titled) = some k ∧ w.sheets[k]? = some sheet ∧
      (sheet.title = title.titled ∨ k = 0 ∧ title.titled ∉ w.titles) := by
  by_cases hmem : title.titled ∈ w.titles
  · obtain ⟨k, sheet, hk, hs, htitle⟩ :=
      Workbook.exists_resolve_of_mem title.titled_ne_empty hmem
    exact ⟨k, sheet, hk, hs, .inl htitle⟩
  · have hsome : 0 < w.sheets.length := List.length_pos_iff.mpr hne
    exact ⟨0, w.sheets[0], Workbook.resolve_of_not_mem hne hmem, List.getElem?_eq_getElem hsome,
      .inr ⟨rfl, hmem⟩⟩

/-- The sheet that a title means gets a new title that no sheet has. -/
theorem apply_rename {protectedTitles : List String} {k : Nat} {sheet : Sheet}
    (hk : w.resolve (some title.titled) = some k) (hs : w.sheets[k]? = some sheet)
    (hp : sheet.title ∉ protectedTitles)
    (hnew : ∀ taken ∈ w.titles, Text.lower taken.toList ≠ new.lower) :
    w.apply protectedTitles (.renameSheet title.titled new.titled) =
      (⟨w.sheets.set k { sheet with title := new.titled }⟩,
        .ok ⟨.renameSheet, sheet.title,
          .applied (.sheetRenamed sheet.title new.titled new.titled)⟩) := by
  have hset : w.setTitle k new.titled = ⟨w.sheets.set k { sheet with title := new.titled }⟩ := by
    rw [Workbook.setTitle, List.modify_eq_set_getElem?, hs]
    rfl
  rw [Workbook.apply_of_not_mem (a := .renameSheet title.titled new.titled) hk hs hp, ← hset]
  show w.renameSheet k sheet new.titled = _
  rw [Workbook.renameSheet, assign_titled hnew]

end

/-- **The sheet that is renamed** by an instruction is the one titled as the instruction names it,
every word with a capital and otherwise in lower case, or the first sheet if there is none. If its
title is not protected and the new one not taken, it gets the new title, and nothing else changes.
It is the sheet named if the title of that sheet is written so, or if that sheet is the first one
and no other has the title that is looked for. -/
theorem named_sheet_renamed (w : Workbook) (hdistinct : w.titles.Nodup) (i : Nat)
    (title new : SpacedName) (hi : w.titles[i]? = some title.text)
    (hnew : ∀ taken ∈ w.titles, Text.lower taken.toList ≠ new.lower) :
    let action := Action.renameSheet title.titled new.titled
    interpret (retitling title new) w.titles = [action] ∧
      ∃ k sheet, w.sheets[k]? = some sheet ∧
        (sheet.title = title.titled ∨ k = 0 ∧ title.titled ∉ w.titles) ∧
        (k = i ↔ title.text = title.titled ∨ i = 0 ∧ title.titled ∉ w.titles) ∧
        ∀ protectedTitles, w.apply protectedTitles action =
          if sheet.title ∈ protectedTitles then (w, .ok (Workbook.refused action sheet.title))
          else (⟨w.sheets.set k { sheet with title := new.titled }⟩,
            .ok ⟨.renameSheet, sheet.title,
              .applied (.sheetRenamed sheet.title new.titled new.titled)⟩) := by
  intro action
  refine ⟨by simp [interpret, recognize_retitling, Request.onSheet, action], ?_⟩
  obtain ⟨hlt, -⟩ := List.getElem?_eq_some_iff.mp hi
  have hne : w.sheets ≠ [] := by
    intro hnil
    rw [Workbook.titles, hnil] at hlt
    exact Nat.not_lt_zero _ hlt
  obtain ⟨k, sheet, hk, hs, hmeant⟩ := exists_meant_sheet title hne
  have hplace := Workbook.getElem?_titles hs
  refine ⟨k, sheet, hs, hmeant, ⟨?_, ?_⟩, fun protectedTitles => ?_⟩
  · rintro rfl
    have htitle : title.text = sheet.title := Option.some.inj (hi.symm.trans hplace)
    rw [htitle]
    exact hmeant
  · rintro (htitle | ⟨rfl, hmissing⟩)
    · rw [htitle] at hi
      rcases hmeant with hsheet | ⟨-, hmissing⟩
      · rw [hsheet, ← hi] at hplace
        exact ((List.getElem?_inj hlt hdistinct).mp hplace.symm).symm
      · exact absurd (List.mem_of_getElem? hi) hmissing
    · rcases hmeant with hsheet | ⟨rfl, -⟩
      · exact absurd (hsheet ▸ List.mem_of_getElem? hplace) hmissing
      · rfl
  · split
    · rename_i hp
      exact Workbook.apply_of_mem (a := action) hk hs hp
    · rename_i hp
      exact apply_rename hk hs hp hnew

def revenue : SpacedName := ⟨"revenue", by decide, by decide⟩

theorem named_sheet_renamed_stock :
    Workbook.pair.titles.Nodup ∧ Workbook.pair.titles[1]? = some stock.text ∧
      (∀ taken ∈ Workbook.pair.titles, Text.lower taken.toList ≠ revenue.lower) ∧
      interpret (retitling stock revenue) Workbook.pair.titles =
        [.renameSheet "Stock" "Revenue"] ∧
      (Workbook.pair.apply [] (.renameSheet "Stock" "Revenue")).1.titles =
        ["Sales", "Revenue"] := by
  have hdistinct : Workbook.pair.titles.Nodup := by decide
  have hnew : ∀ taken ∈ Workbook.pair.titles, Text.lower taken.toList ≠ revenue.lower := by decide
  obtain ⟨haction, k, sheet, hs, -, hk, happly⟩ :=
    named_sheet_renamed Workbook.pair hdistinct 1 stock revenue rfl hnew
  obtain rfl := hk.mpr (.inl rfl)
  obtain rfl := Option.some.inj hs
  refine ⟨hdistinct, rfl, hnew, haction, ?_⟩
  rw [show Action.renameSheet "Stock" "Revenue" = .renameSheet stock.titled revenue.titled from rfl,
    happly, if_neg List.not_mem_nil]
  rfl

def shoutedSales : SpacedName := ⟨"SALES", by decide, by decide⟩

/-- A sheet whose title is in capitals is not the one that is renamed. -/
theorem not_the_sheet_renamed : ¬ ∀ (w : Workbook) (i : Nat) (title new : SpacedName),
    w.titles.Nodup → w.titles[i]? = some title.text →
      (∀ taken ∈ w.titles, Text.lower taken.toList ≠ new.lower) →
      ∀ action ∈ interpret (retitling title new) w.titles,
        (w.apply [] action).1.titles = w.titles.set i new.titled := by
  intro h
  have htitles := h ⟨[⟨"Stock", .empty⟩, ⟨"SALES", .empty⟩]⟩ 1 shoutedSales revenue (by decide) rfl
    (by decide) (.renameSheet "Sales" "Revenue") (by decide +kernel)
  exact absurd htitles (by decide)

end SheetCommand.Instruction
