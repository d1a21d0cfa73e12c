import SheetCommand.Proofs.Transform.Outcome
import SheetCommand.Proofs.Workbook.Scan

/-!
# Workbook — silence

A session takes steps on a workbook: actions, readings of its sheets and reloads. A reading and a
skipped action are silent; all they do is to scan headers, which creates cells. No later step can
tell, as workbooks with the same canonical form stay so and answer alike.

* `scanned_step_of_isSilent`: a silent step keeps the canonical form.
* `step_congr`: any other step answers alike on workbooks with the same canonical form.
* `run_heard`: a session without its silent steps, with what it answers and what it leaves.
-/

namespace SheetCommand.Workbook

/-! ### Sessions -/

/-- What can be asked about a sheet. -/
inductive Question where
  | headers | lastHeader | column (header : String)

inductive Found where
  | headers (found : List (Nat × List Char))
  | lastHeader (column : Nat)
  | column (column : Option Nat)

def Question.ask (g : Grid) : Question → Except Failure Found
  | headers => g.headers.map .headers
  | lastHeader => g.lastHeaderColumn.map .lastHeader
  | column header => (g.findColumn header).map .column

inductive Step where
  | act (a : Action)
  | overview
  | read (sheet : Option String) (question : Question)
  | reload

inductive Answer where
  | record (r : Except Failure ChangeRecord)
  | overview (r : Except Failure (List SheetSummary))
  | found (r : Except Failure Found)
  | reloaded (r : Except Failure Unit)

/-- Readings and skipped actions; an action that fails is none. -/
def Answer.isSilent : Answer → Bool
  | record (.ok r) => r.isSkipped
  | record (.error _) => false
  | overview _ | found _ => true
  | reloaded _ => false

/-- The workbook after it is saved and opened again. -/
def reload (w : Workbook) : Except Failure Workbook := do (← Payload.save w).load

def step (protectedTitles : List String) (w : Workbook) : Step → Workbook × Answer
  | .act a => ((w.apply protectedTitles a).1, .record (w.apply protectedTitles a).2)
  | .overview => (w.overview.1, .overview w.overview.2)
  | .read sheet question =>
    ((w.readSheet sheet question.ask).1, .found (w.readSheet sheet question.ask).2)
  | .reload =>
    match w.reload with
    | .ok opened => (opened, .reloaded (.ok ()))
    | .error f => (w, .reloaded (.error f))

/-- Takes every step in turn, whether or not one before it has failed, and logs the answers. -/
def run (protectedTitles : List String) : List Step → Workbook → Workbook × List (Step × Answer)
  | [], w => (w, [])
  | s :: rest, w =>
    let (next, answer) := step protectedTitles w s
    let (left, log) := run protectedTitles rest next
    (left, (s, answer) :: log)

/-- The part of a log that is not silent. -/
def heard (log : List (Step × Answer)) : List (Step × Answer) := log.filter fun p => !p.2.isSilent

/-! ### Silent steps -/

variable {protectedTitles : List String} {w w' : Workbook}

theorem scanned_readSheet {α : Type} (w : Workbook) (sheet : Option String)
    (read : Grid → Except Failure α) : (w.readSheet sheet read).1.scanned = w.scanned := by
  unfold readSheet resolved?
  cases hi : w.resolve sheet with
  | none => rfl
  | some i =>
    obtain ⟨target, hs⟩ := exists_of_resolve hi
    rw [Option.bind_some, hs]
    exact scanned_setGrid_touchHeaders hs

/-- A silent step keeps the canonical form. -/
theorem scanned_step_of_isSilent {s : Step} (h : (step protectedTitles w s).2.isSilent = true) :
    (step protectedTitles w s).1.scanned = w.scanned := by
  cases s with
  | act a =>
    cases hr : (w.apply protectedTitles a).2 with
    | error f =>
      simp only [step, hr, Answer.isSilent] at h
      cases h
    | ok r =>
      simp only [step, hr, Answer.isSilent] at h
      exact scanned_apply_of_isSkipped hr h
  | overview => exact scanned_scanned w
  | read sheet question => exact scanned_readSheet w sheet _
  | reload =>
    simp only [step] at h
    split at h <;> cases h

/-! ### Other steps -/

theorem reload_scanned (w : Workbook) : w.scanned.reload = w.reload := by
  rw [reload, reload, Payload.save_scanned]

theorem apply_congr (protectedTitles : List String) (h : w.scanned = w'.scanned) (a : Action) :
    (w.apply protectedTitles a).2 = (w'.apply protectedTitles a).2 ∧
      (w.apply protectedTitles a).1.scanned = (w'.apply protectedTitles a).1.scanned := by
  have left := apply_scanned protectedTitles w a
  have right := apply_scanned protectedTitles w' a
  rw [h] at left
  exact ⟨left.1.symm.trans right.1, left.2.symm.trans right.2⟩

theorem reload_congr (h : w.scanned = w'.scanned) : w.reload = w'.reload := by
  rw [← reload_scanned w, h, reload_scanned w']

/-- A step that is not silent answers alike, and leaves the same canonical form. -/
theorem step_congr (h : w.scanned = w'.scanned) {s : Step}
    (hs : (step protectedTitles w s).2.isSilent = false) :
    (step protectedTitles w s).2 = (step protectedTitles w' s).2 ∧
      (step protectedTitles w s).1.scanned = (step protectedTitles w' s).1.scanned := by
  cases s with
  | act a =>
    obtain ⟨hanswer, hleft⟩ := apply_congr protectedTitles h a
    exact ⟨congrArg Answer.record hanswer, hleft⟩
  | overview | read _ _ => cases hs
  | reload =>
    simp only [step, reload_congr h]
    cases w'.reload with
    | ok opened => exact ⟨rfl, rfl⟩
    | error f => exact ⟨rfl, h⟩

/-! ### Sessions without their silent steps -/

theorem run_cons (protectedTitles : List String) (s : Step) (rest : List Step) (w : Workbook) :
    run protectedTitles (s :: rest) w =
      ((run protectedTitles rest (step protectedTitles w s).1).1,
        (s, (step protectedTitles w s).2) ::
          (run protectedTitles rest (step protectedTitles w s).1).2) := rfl

theorem heard_cons_of_isSilent {s : Step} {answer : Answer} (h : answer.isSilent = true)
    (log : List (Step × Answer)) : heard ((s, answer) :: log) = heard log :=
  List.filter_cons_of_neg (by simp [h])

theorem heard_cons {s : Step} {answer : Answer} (h : answer.isSilent = false)
    (log : List (Step × Answer)) : heard ((s, answer) :: log) = (s, answer) :: heard log :=
  List.filter_cons_of_pos (by simp [h])

/-- What a session answers and leaves is told by the steps that are not silent. -/
theorem run_heard (protectedTitles : List String) (steps : List Step)
    (h : w.scanned = w'.scanned) :
    let log := (run protectedTitles steps w).2
    (run protectedTitles ((heard log).map Prod.fst) w').2 = heard log ∧
      (run protectedTitles ((heard log).map Prod.fst) w').1.scanned =
        (run protectedTitles steps w).1.scanned := by
  induction steps generalizing w w' with
  | nil => exact ⟨rfl, h.symm⟩
  | cons s rest ih =>
    simp only [run_cons]
    cases hs : (step protectedTitles w s).2.isSilent with
    | true =>
      rw [heard_cons_of_isSilent hs]
      exact ih ((scanned_step_of_isSilent hs).trans h)
    | false =>
      obtain ⟨hanswer, hnext⟩ := step_congr h hs
      obtain ⟨hlog, hleft⟩ := ih hnext
      rw [heard_cons hs, List.map_cons, run_cons, ← hanswer, hlog]
      exact ⟨rfl, hleft⟩

/-! ### Transformations that modify nothing -/

theorem scanned_applyReporting {actions : List Action} {changes : List ChangeRecord}
    (h : (Transform.applyReporting protectedTitles actions w).2.result = .ok changes)
    (hskipped : ∀ r ∈ changes, r.isSkipped = true) :
    (Transform.applyReporting protectedTitles actions w).1.scanned = w.scanned := by
  induction actions generalizing w changes with
  | nil => rfl
  | cons a rest ih =>
    obtain ⟨record, more, rfl, hrecord, hmore, hleft⟩ := Transform.applyReporting_cons_eq_ok h
    obtain ⟨hr, hrest⟩ := List.forall_mem_cons.mp hskipped
    rw [hleft, ih hmore hrest, scanned_apply_of_isSkipped hrecord hr]

theorem isSkipped_of_not_modified {t : Transformed} (h : t.modified = false) :
    ∀ r ∈ t.changes, r.isSkipped = true := by
  intro r hr
  simpa using List.any_eq_false.mp h r hr

/-- **Silence.** A session without its readings and without the actions that were skipped answers
every step that is left as before, and ends with the same titles, extents and values. What a
transformation that modifies nothing answers with is the workbook that it has opened, saved. -/
theorem silent_steps_unobservable (protectedTitles : List String) :
    (∀ (w : Workbook) (steps : List Step),
      let log := (run protectedTitles steps w).2
      let kept := (heard log).map Prod.fst
      (run protectedTitles kept w).2 = heard log ∧
        (run protectedTitles kept w).1.view = (run protectedTitles steps w).1.view) ∧
    ∀ (payload : Option Payload) (instruction : Except Failure String) (t : Transformed),
      (Transform.onPayload protectedTitles payload instruction).result = .ok t →
      t.modified = false →
      ∃ loaded, payload = some t.before ∧ t.before.load = .ok loaded ∧
        Payload.save loaded = .ok t.after ∧
        (Transform.applyReporting protectedTitles t.actions loaded).1.view = loaded.view := by
  constructor
  · intro w steps
    obtain ⟨hlog, hleft⟩ := run_heard protectedTitles steps (rfl : w.scanned = w.scanned)
    exact ⟨hlog, view_eq_of_scanned_eq hleft⟩
  · intro payload instruction t h hm
    obtain ⟨hp, -, loaded, hl, -, hc, hs⟩ := Transform.onPayload_eq_ok h
    have hscan := scanned_applyReporting hc (isSkipped_of_not_modified hm)
    refine ⟨loaded, hp, hl, ?_, view_eq_of_scanned_eq hscan⟩
    rw [← hs, ← Payload.save_scanned, ← hscan, Payload.save_scanned]

/-- A sheet whose first header is in its third column. -/
def shelf : Workbook := ⟨[⟨"Data", ⟨[((1, 3), .text "Item"), ((2, 1), .int 7)]⟩⟩]⟩

/-- What comes of the instruction to delete a column that the shelf does not have. -/
def shelfKept : Transformed :=
  ⟨"delete column Price", [.edit none (.deleteColumn "Price")],
    [Edit.missing "Data" .deleteColumn ["Price"]], .workbook shelf, .workbook shelf⟩

theorem silent_steps_unobservable_shelf :
    (Transform.onPayload [] (some (.workbook shelf)) (.ok "delete column Price")).result =
        .ok shelfKept ∧ shelfKept.modified = false ∧
      ∃ loaded, shelfKept.before.load = .ok loaded ∧ Payload.save loaded = .ok shelfKept.after ∧
        (Transform.applyReporting [] shelfKept.actions loaded).1.view = loaded.view := by
  have h : (Transform.onPayload [] (some (.workbook shelf)) (.ok "delete column Price")).result =
      .ok shelfKept := rfl
  obtain ⟨loaded, -, hl, hs, hv⟩ := (silent_steps_unobservable []).2 _ _ _ h (by decide)
  exact ⟨h, by decide, loaded, hl, hs, hv⟩

end SheetCommand.Workbook
