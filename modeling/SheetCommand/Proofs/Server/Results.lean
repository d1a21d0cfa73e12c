import SheetCommand.Proofs.Computation
import SheetCommand.Proofs.Document.Writable
import SheetCommand.Server.Line

/-!
# Server — the depth of results

The results of requests are records, actions and summaries in lists, so none is nested deeper than
five lists and objects (`depth_le_of_run`). A response that cannot be written is so because of the
id of its request or because of an integer, never because its result is nested too deep.
-/

namespace SheetCommand

open Document

/-! ### Parts of results -/

theorem depth_text (s : String) : (text s).depth = 0 := rfl

theorem depth_bool (b : Bool) : (bool b).depth = 0 := rfl

theorem depth_null : null.depth = 0 := rfl

theorem depth_ofNat (n : Nat) : (Document.ofNat n).depth = 0 := rfl

theorem depth_ofOption_text (s : Option String) : (Document.ofOption .text s).depth = 0 := by
  cases s <;> rfl

theorem depth_texts_le (items : List String) : (Document.texts items).depth ≤ 1 :=
  depth_list_map_le items fun _ _ => Nat.le_refl 0

theorem depth_counts_le (counts : List (String × Nat)) :
    (object (counts.map fun count => (count.1, Document.ofNat count.2))).depth ≤ 1 :=
  depth_object_le (List.forall_mem_map.mpr fun _ _ => Nat.le_refl 0)

theorem CellValue.depth_toDocument (v : CellValue) : v.toDocument.depth = 0 := by
  cases v <;> rfl

theorem Action.depth_toDocument_le (a : Action) : a.toDocument.depth ≤ 1 := by
  apply depth_object_le
  cases a with
  | renameSheet old new => simp [fields, depth]
  | edit sheet e => cases e <;> simp [fields, Edit.fields, depth, depth_ofOption_text]

theorem SheetSummary.depth_toDocument_le (summary : SheetSummary) :
    summary.toDocument.depth ≤ 2 := by
  apply depth_object_le
  simp [depth_text, depth_ofNat, depth_texts_le]

theorem Warning.depth_toDocument_le (warning : Warning) : warning.toDocument.depth ≤ 1 := by
  apply depth_object_le
  simp [depth_text]

theorem depth_actions_le (actions : List Action) :
    (list (actions.map (·.toDocument))).depth ≤ 2 :=
  depth_list_map_le actions fun a _ => a.depth_toDocument_le

theorem depth_warnings_le (warnings : List Warning) :
    (list (warnings.map (·.toDocument))).depth ≤ 2 :=
  depth_list_map_le warnings fun warning _ => warning.depth_toDocument_le

theorem Effect.depth_before_le (effect : Effect) : effect.before.depth ≤ 1 := by
  cases effect <;>
    simp [before, depth, fieldsDepth, Document.ofNat, CellValue.depth_toDocument]

theorem Effect.depth_after_le (effect : Effect) : effect.after.depth ≤ 2 := by
  cases effect with
  | columnAdded name index first second rows =>
    apply depth_object_le
    simp [depth_text, depth_ofNat, depth_texts_le]
  | valuesSet value condition op conditionValue rows =>
    have hrows := depth_list_map_le rows fun n _ => Nat.le_of_eq (depth_ofNat n)
    apply depth_object_le
    simpa [depth_text] using hrows
  | _ => simp [after, depth, fieldsDepth, Document.ofNat]

theorem ChangeRecord.depth_toDocument_le (r : ChangeRecord) : r.toDocument.depth ≤ 3 := by
  have hwarnings := depth_warnings_le r.warnings
  apply depth_object_le
  cases h : r.outcome with
  | applied effect =>
    have hbefore := effect.depth_before_le
    have hafter := effect.depth_after_le
    have himpact := depth_counts_le effect.impact
    simp only [List.forall_mem_cons, List.not_mem_nil, IsEmpty.forall_iff, implies_true,
      and_true, depth_text, depth_ofOption_text]
    omega
  | skipped code reason =>
    have himpact := depth_counts_le []
    simp only [List.forall_mem_cons, List.not_mem_nil, IsEmpty.forall_iff, implies_true,
      and_true, depth_text, depth_null, depth_ofOption_text]
    omega

theorem FileTransformed.depth_toDocument_le (t : FileTransformed) : t.toDocument.depth ≤ 3 := by
  have hactions := depth_actions_le t.transformed.actions
  apply depth_object_le
  simp only [List.forall_mem_cons, List.not_mem_nil, IsEmpty.forall_iff, implies_true,
    and_true, depth_text, depth_bool, depth_ofNat, depth_ofOption_text]
  split <;> simp only [depth_text, depth_null] <;> omega

/-! ### Results -/

namespace Server

theorem depth_payloadResult_le (t : Transformed) : (payloadResult t).depth ≤ 5 := by
  have hactions := depth_actions_le t.actions
  have hchanges : (list (t.changes.map (·.toDocument))).depth ≤ 4 :=
    depth_list_map_le _ fun r _ => r.depth_toDocument_le
  have hwarnings := depth_warnings_le t.warnings
  apply depth_object_le
  simp only [Transformed.fields, List.cons_append, List.nil_append, List.forall_mem_cons,
    List.not_mem_nil, IsEmpty.forall_iff, implies_true, and_true, depth_text]
  omega

variable {around : Surroundings} {settings : Settings} {s : Store} {args result : Document}

theorem depth_le_of_interpretRequest (h : interpretRequest s args = .ok result) :
    result.depth ≤ 2 := by
  simp only [interpretRequest, bind_eq_ok_iff] at h
  obtain ⟨text, -, listed, -, path, -, h⟩ := h
  split at h
  · obtain ⟨w, -, h⟩ := bind_eq_ok_iff.mp h
    cases h
    exact depth_actions_le _
  · obtain ⟨actions, -, h⟩ := bind_eq_ok_iff.mp h
    cases h
    exact depth_actions_le _

theorem depth_le_of_listSheetsRequest (h : listSheetsRequest s args = .ok result) :
    result.depth ≤ 3 := by
  simp only [listSheetsRequest, bind_eq_ok_iff] at h
  obtain ⟨path, -, h⟩ := h
  split at h
  · obtain ⟨w, -, h⟩ := bind_eq_ok_iff.mp h
    obtain ⟨summaries, -, h⟩ := bind_eq_ok_iff.mp h
    cases h
    exact depth_list_map_le summaries fun summary _ => summary.depth_toDocument_le
  · cases h

theorem depth_le_of_transformRequest
    (h : (transformRequest around settings s args).result = .ok result) : result.depth ≤ 5 := by
  unfold transformRequest at h
  split at h
  · split at h
    · cases h
    · obtain ⟨t, -, rfl⟩ := map_eq_ok_iff.mp h
      exact depth_payloadResult_le t
  · split at h
    · cases h
    · cases h
    · obtain ⟨t, -, rfl⟩ := map_eq_ok_iff.mp h
      exact Nat.le_trans t.depth_toDocument_le (by decide)

/-- No result is nested deeper than five lists and objects. -/
theorem depth_le_of_run {operation : Operation}
    (h : (operation.run around settings s args).result = .ok result) : result.depth ≤ 5 := by
  cases operation with
  | interpret => exact Nat.le_trans (depth_le_of_interpretRequest h) (by decide)
  | listSheets => exact Nat.le_trans (depth_le_of_listSheetsRequest h) (by decide)
  | transform => exact depth_le_of_transformRequest h

end Server

end SheetCommand
