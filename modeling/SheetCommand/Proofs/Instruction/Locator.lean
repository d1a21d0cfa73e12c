import SheetCommand.Proofs.Instruction.SpacedName
import SheetCommand.Proofs.Workbook.Separation

/-!
# Locators — the sheet an instruction is for

`Sales sheet me Price column hatao` names a sheet, but the name is not read off its place: the edit
is for the first sheet of the workbook whose title, in lower case, occurs somewhere in the
instruction as it is read (`named_sheet_edited`). So a title that comes before the one named takes
its place if it is a part of it, or of the name of the column; and as white space is collapsed in
the instruction but not in the titles, a title with a double space in it is not found at all.
-/

namespace SheetCommand

namespace Text

theorem occursIn_of_prefix {part text : List Char} (h : part <+: text) :
    occursIn part text = true := by
  cases text with
  | nil => simpa [occursIn] using h
  | cons c rest => rw [occursIn, List.isPrefixOf_iff_prefix.mpr h, Bool.true_or]

end Text

namespace Instruction

/-! ### Deleting a column of a sheet -/

/-- `Sales sheet me Price column hatao`. -/
def deletion (title column : SpacedName) : String :=
  title.text ++ " sheet me " ++ column.text ++ " column hatao"

def deletionForm : Form :=
  [.passed [.hole .name 0], .text " sheet me ", .kept .name [.hole .name 1], .text " column hatao"]

theorem deletionForm_missed :
    ((ranked.take 14).all fun x => x.2.misses deletionForm.sketch) = true := by decide +kernel

theorem deletionForm_found : deletionForm.isFoundAt 14 = true := by decide +kernel

/-- A deletion as it is read. -/
def deletionRead (title column : SpacedName) : List Char :=
  title.lower ++ " sheet me ".toList ++ column.lower ++ " column hatao".toList

section

variable (title column : SpacedName)

theorem collapse_deletion : Text.collapse (deletion title column).toList =
    deletionForm.sketch.fill (typedBy title column) := by
  have hjoin : (deletion title column).toList = Text.join [' ']
      [title.text.toList, "sheet me".toList, column.text.toList, "column hatao".toList] := by
    simp [deletion, Text.join, String.toList_append]
  rw [hjoin, Text.collapse_join]
  · simp [deletionForm, Form.sketch, Sketch.fill_append, Sketch.fill_ofChars, Sketch.fill, typedBy,
      SpacedName.typed, Text.join, Text.collapse, Text.words, Text.wordsFrom, Text.isBlank,
      Text.isPlainBlank]
  · have hwords : Text.words "sheet me".toList ≠ [] ∧ Text.words "column hatao".toList ≠ [] := by
      decide
    simpa using ⟨title.worded, hwords.1, column.worded, hwords.2⟩

theorem fill_deletion : deletionForm.sketch.fill (readBy title column) =
    deletionRead title column := by
  simp [deletionForm, Form.sketch, Sketch.fill_append, Sketch.fill_ofChars, Sketch.fill, readBy,
    deletionRead]

theorem lower_deletion :
    (Wording.of (deletion title column)).lower = deletionRead title column := by
  rw [wording_of_names (by decide) (collapse_deletion title column), fill_deletion]

theorem recognize_deletion : recognize (Wording.of (deletion title column)) =
    some (.edit (.deleteColumn column.titled)) := by
  refine recognize_of_names deletionForm_missed deletionForm_found rfl (by decide) ?_
    (collapse_deletion title column) fun w c hc => ?_
  · simp [deletionForm, Form.sketch, Sketch.fits_append, Sketch.fits_ofChars, Sketch.Fits, readBy,
      SpacedName.fills]
  · simp [build, hc.titled_eq, deletionForm, Form.piece?, Sketch.fill, readBy, SpacedName.titled]

end

/-! ### The sheet that is mentioned -/

/-- A title with single spaces is mentioned where it is named. -/
theorem mentions_of_singleSpaced {title : SpacedName} (h : title.IsSingleSpaced)
    (column : SpacedName) : mentions (deletionRead title column) title.text = true := by
  have hlower : Text.lower title.text.toList = title.lower := by
    rw [← title.lower_typed, SpacedName.typed, h]
  have hprefix : title.lower <+: deletionRead title column := by
    simp [deletionRead, List.append_assoc]
  simp [mentions, title.ne_empty, hlower, Text.occursIn_of_prefix hprefix]

/-- Among distinct titles, one is the first mentioned if it is mentioned and none before it is. -/
theorem mentionedSheet_eq_some_iff {lower : List Char} {titles : List String} {title : String}
    {i : Nat} (hdistinct : titles.Nodup) (hi : titles[i]? = some title) :
    mentionedSheet lower titles = some title ↔
      mentions lower title = true ∧ ∀ earlier ∈ titles.take i, mentions lower earlier = false := by
  obtain ⟨hlt, rfl⟩ := List.getElem?_eq_some_iff.mp hi
  rw [mentionedSheet, List.find?_eq_some_iff_getElem]
  refine and_congr_right fun _ => ⟨?_, fun hbefore => ⟨i, hlt, rfl, fun j hj => ?_⟩⟩
  · rintro ⟨j, hj, hget, hbefore⟩ earlier hmem
    obtain rfl : i = j := ((List.getElem_inj hdistinct).mp hget).symm
    obtain ⟨k, hk, rfl⟩ := List.mem_take_iff_getElem.mp hmem
    simpa using hbefore k (Nat.lt_of_lt_of_le hk (Nat.min_le_left ..))
  · have hmem : titles[j] ∈ titles.take i :=
      List.mem_take_iff_getElem.mpr ⟨j, Nat.lt_min.mpr ⟨hj, by omega⟩, rfl⟩
    simpa using hbefore _ hmem

/-- **The sheet that is named** is the one that is edited if and only if its title occurs in the
instruction as it is read and none before it in the workbook does; then no other sheet changes. A
title with single spaces occurs. -/
theorem named_sheet_edited (w : Workbook) (hdistinct : w.titles.Nodup) (i : Nat)
    (title column : SpacedName) (hi : w.titles[i]? = some title.text) :
    let read := deletionRead title column
    let actions := interpret (deletion title column) w.titles
    actions = [.edit (mentionedSheet read w.titles) (.deleteColumn column.titled)] ∧
      (actions = [.edit (some title.text) (.deleteColumn column.titled)] ↔
        mentions read title.text = true ∧
          ∀ earlier ∈ w.titles.take i, mentions read earlier = false) ∧
      (title.IsSingleSpaced → mentions read title.text = true) ∧
      ∀ protectedTitles, ∀ a ∈ actions, a.sheet? = some title.text → ∀ j, j ≠ i →
        (w.apply protectedTitles a).1.sheets[j]? = w.sheets[j]? := by
  intro read actions
  have hactions : actions =
      [.edit (mentionedSheet read w.titles) (.deleteColumn column.titled)] := by
    simp [actions, interpret, recognize_deletion, lower_deletion, read, Request.onSheet]
  refine ⟨hactions, ?_, fun h => mentions_of_singleSpaced h column,
    fun protectedTitles a _ ha j hj => ?_⟩
  · rw [hactions, ← mentionedSheet_eq_some_iff hdistinct hi]
    simp
  · refine Workbook.getElem?_apply_of_resolve_ne a fun hresolve => hj ?_
    rw [ha, Workbook.resolve_of_getElem? hdistinct title.ne_empty hi] at hresolve
    exact (Option.some.inj hresolve).symm

def stock : SpacedName := ⟨"Stock", by decide, by decide⟩

def unitPrice : SpacedName := ⟨" Unit  price ", by decide, by decide⟩

theorem named_sheet_edited_stock :
    Workbook.pair.titles.Nodup ∧ Workbook.pair.titles[1]? = some stock.text ∧
      interpret (deletion stock unitPrice) Workbook.pair.titles =
        [.edit (some "Stock") (.deleteColumn "Unit Price")] ∧
      ∀ j, j ≠ 1 →
        (Workbook.pair.apply [] (.edit (some "Stock") (.deleteColumn "Unit Price"))).1.sheets[j]? =
          Workbook.pair.sheets[j]? := by
  have hdistinct : Workbook.pair.titles.Nodup := by decide
  obtain ⟨-, hiff, hmentioned, hframe⟩ :=
    named_sheet_edited Workbook.pair hdistinct 1 stock unitPrice rfl
  have hearlier : ∀ earlier ∈ Workbook.pair.titles.take 1,
      mentions (deletionRead stock unitPrice) earlier = false := by decide
  have hactions := hiff.mpr ⟨hmentioned rfl, hearlier⟩
  have hmem := hactions.symm ▸ List.mem_singleton_self _
  exact ⟨hdistinct, rfl, hactions, hframe [] _ hmem rfl⟩

/-- A title that is part of the one named is taken for it, and a title with two spaces between its
words is not mentioned where it is named. -/
theorem not_the_named_sheet :
    interpret "Sales sheet me price column hatao" ["Sale", "Sales"] =
        [.edit (some "Sale") (.deleteColumn "Price")] ∧
      interpret "North  Sales sheet me price column hatao" ["Stock", "North  Sales"] =
        [.edit none (.deleteColumn "Price")] := by
  decide +kernel

end Instruction

end SheetCommand
