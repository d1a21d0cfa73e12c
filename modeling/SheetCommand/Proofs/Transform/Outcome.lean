import SheetCommand.Proofs.Computation
import SheetCommand.Transform.Workbook

/-!
# Transform — the outcome

A transformation that succeeds has opened its payload, interpreted the instruction against the
titles, applied every action and saved what came of it (`onPayload_eq_ok`). Reporting events makes
no difference to the workbook, so `applyReporting` goes where its actions go one by one
(`applyReporting_cons_eq_ok`).
-/

namespace SheetCommand.Transform

theorem applyReporting_cons_eq_ok {protectedTitles : List String} {a : Action} {rest : List Action}
    {w : Workbook} {changes : List ChangeRecord}
    (h : (applyReporting protectedTitles (a :: rest) w).2.result = .ok changes) :
    ∃ record more, changes = record :: more ∧ (w.apply protectedTitles a).2 = .ok record ∧
      (applyReporting protectedTitles rest (w.apply protectedTitles a).1).2.result = .ok more ∧
      (applyReporting protectedTitles (a :: rest) w).1 =
        (applyReporting protectedTitles rest (w.apply protectedTitles a).1).1 := by
  rw [applyReporting] at h ⊢
  generalize w.apply protectedTitles a = outcome at h ⊢
  rcases outcome with ⟨left, f | record⟩
  · cases h
  · obtain ⟨more, hmore, rfl⟩ := map_eq_ok_iff.mp h
    exact ⟨record, more, rfl, rfl, hmore, rfl⟩

/-- What a transformation that succeeds has done. -/
theorem onPayload_eq_ok {protectedTitles : List String} {payload : Option Payload}
    {instruction : Except Failure String} {t : Transformed}
    (h : (onPayload protectedTitles payload instruction).result = .ok t) :
    payload = some t.before ∧ instruction = .ok t.instruction ∧
      ∃ loaded, t.before.load = .ok loaded ∧ t.actions = interpret t.instruction loaded.titles ∧
        (applyReporting protectedTitles t.actions loaded).2.result = .ok t.changes ∧
        Payload.save (applyReporting protectedTitles t.actions loaded).1 = .ok t.after := by
  unfold onPayload at h
  split at h
  · cases h
  · rename_i before hbefore
    split at h
    · cases h
    · rename_i text loaded hload
      simp only [bind_eq_ok_iff] at hload
      obtain ⟨_, htext, _, hloaded, e⟩ := hload
      cases e
      simp only [onWorkbook] at h
      split at h
      · cases h
      · rename_i changes hchanges
        split at h
        · cases h
        · rename_i after hafter
          cases h
          exact ⟨(Option.filter_eq_some_iff.mp hbefore).1, htext, loaded, hloaded, rfl, hchanges,
            hafter⟩

end SheetCommand.Transform
