import SheetCommand.Proofs.Workbook.Frame

/-!
# Workbook — protection

A protected sheet stays as it is, whatever is done to the workbook. Actions reach a sheet through a
reference that falls back to the first sheet, and other sheets change their titles along the way, so
the invariant is about the place: once a protected title stands at a place, no action acts there,
and every action that means the place is refused.

* `getElem?_apply_of_mem`: one action leaves a protected sheet alone.
* `getElem?_applyEach_of_mem`: so does every run, whether or not some of its actions fail midway.
-/

namespace SheetCommand.Workbook

variable {protectedTitles : List String} {w : Workbook} {i : Nat} {sheet : Sheet}

/-- One action leaves a protected sheet as it is: it is carried out at another place, if at all. -/
theorem getElem?_apply_of_mem (hs : w.sheets[i]? = some sheet) (hp : sheet.title ∈ protectedTitles)
    (a : Action) : (w.apply protectedTitles a).1.sheets[i]? = some sheet := by
  have d := dealt_apply protectedTitles w a
  generalize w.apply protectedTitles a = outcome at d ⊢
  cases d with
  | sheetless _ | refused _ _ _ => exact hs
  | @carriedOut j target hj ht hq =>
    have hne : i ≠ j := by
      rintro rfl
      obtain rfl : sheet = target := Option.some.inj (hs.symm.trans ht)
      exact hq hp
    rw [getElem?_applyAt_of_ne w target a hne, hs]

theorem getElem?_applyEach_of_mem (hs : w.sheets[i]? = some sheet)
    (hp : sheet.title ∈ protectedTitles) (actions : List Action) :
    (w.applyEach protectedTitles actions).sheets[i]? = some sheet := by
  induction actions generalizing w with
  | nil => exact hs
  | cons a rest ih =>
    rw [applyEach_cons]
    exact ih (getElem?_apply_of_mem hs hp a)

/-- **Protection.** Let a sheet have a protected title at the start of a run. After every number of
steps it is at its place with its title and its cells, and an action that means it next is answered
with the record of a skipped action that warns about a protected sheet. -/
theorem protected_sheet_unchanged (protectedTitles : List String) (w : Workbook)
    (actions : List Action) (i : Nat) (sheet : Sheet) (hs : w.sheets[i]? = some sheet)
    (hp : sheet.title ∈ protectedTitles) (n : Nat) :
    let reached := w.applyEach protectedTitles (actions.take n)
    (∃ left, reached.sheets[i]? = some left ∧ left.title = sheet.title ∧
      ∀ r c, left.grid.value r c = sheet.grid.value r c) ∧
    ∀ a, actions[n]? = some a → reached.resolve a.sheet? = some i →
      ∃ record, (reached.apply protectedTitles a).2 = .ok record ∧ record.isSkipped = true ∧
        ∃ warning ∈ record.warnings, warning.code = .protectedSheet := by
  have here := getElem?_applyEach_of_mem hs hp (actions.take n)
  refine ⟨⟨sheet, here, rfl, fun _ _ => rfl⟩, fun a _ hi => ?_⟩
  rw [apply_of_mem hi here hp]
  exact ⟨_, rfl, rfl, _, List.mem_singleton_self _, rfl⟩

/-- A summary beside a sheet of data. -/
def summary : Sheet := ⟨"Summary", ⟨[((1, 1), .text "Total"), ((2, 1), .int 7)]⟩⟩

def ledger : Workbook := ⟨[⟨"Data", ⟨[((1, 1), .text "Item"), ((2, 1), .int 7)]⟩⟩, summary]⟩

/-- The sheet of data asks for the title of the summary, then for one that no sheet can have; then a
column of the summary is to be deleted. -/
def ledgerActions : List Action :=
  [.renameSheet "Data" "Summary", .renameSheet "Summary1" "a/b",
    .edit (some "Summary") (.deleteColumn "Total")]

theorem protected_sheet_unchanged_ledger :
    ledger.sheets[1]? = some summary ∧ summary.title ∈ ["Summary"] ∧
      let reached := ledger.applyEach ["Summary"] (ledgerActions.take 2)
      (∃ left, reached.sheets[1]? = some left ∧ left.title = "Summary" ∧
        ∀ r c, left.grid.value r c = summary.grid.value r c) ∧
      ∃ record, (reached.apply ["Summary"] (.edit (some "Summary") (.deleteColumn "Total"))).2 =
        .ok record ∧ record.isSkipped = true ∧
          ∃ warning ∈ record.warnings, warning.code = .protectedSheet := by
  have run := protected_sheet_unchanged ["Summary"] ledger ledgerActions 1 summary rfl (by decide) 2
  exact ⟨rfl, by decide, run.1, run.2 _ rfl (by decide +kernel)⟩

end SheetCommand.Workbook
