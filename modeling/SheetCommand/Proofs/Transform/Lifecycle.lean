import SheetCommand.Proofs.CommandLine.Interpretation
import SheetCommand.Proofs.Document.RoundTrip
import SheetCommand.Transform.Workbook

/-!
# Transform — what the events tell

A transformation reports nothing before its workbook is open. From then on it reports its start, the
actions it has read out of the instruction, and each change when it is done; that it has come to its
end it reports last, and only if it answers with an outcome (`lifecycle_onPayload`). So the events
alone tell how far a transformation has come. Each is written in a line of its own, under the id of
the request (`emit_event`).
-/

namespace SheetCommand

open Document

/-! ### Lines -/

namespace Event

/-- The size that an event tells, if any, is one that can be written. -/
def Fits : Event → Prop
  | finished _ _ size => size < 2 ^ 64
  | _ => True

theorem intsFit_data {event : Event} (h : event.Fits) : event.data.intsFit = true := by
  cases event with
  | started fingerprint sheets => simp [data, intsFit, fieldsIntsFit, intsFit_texts]
  | interpreted instruction actions =>
    have hactions := intsFit_actionsDocument actions
    rw [Server.actionsDocument, intsFit] at hactions
    simp [data, intsFit, fieldsIntsFit, hactions]
  | applied | skipped => rfl
  | finished recognized modified size =>
    have hsize : isWideInt size = false := by
      simp only [isWideInt, Bool.or_eq_false_iff, decide_eq_false_iff_not]
      have := show size < 2 ^ 64 from h
      omega
    simp [data, intsFit, fieldsIntsFit, Document.ofNat, hsize]

theorem depth_data_le (event : Event) : event.data.depth ≤ 3 := by
  cases event with
  | started fingerprint sheets =>
    have hsheets := depth_texts_le sheets
    apply depth_object_le
    simp only [List.forall_mem_cons, List.not_mem_nil, IsEmpty.forall_iff, implies_true, and_true,
      depth_text]
    omega
  | interpreted instruction actions =>
    apply depth_object_le
    simpa [depth_text] using depth_actions_le actions
  | applied | skipped =>
    apply depth_object_le
    simp [depth_text]
  | finished =>
    apply depth_object_le
    simp [depth_bool, depth_ofNat]

end Event

namespace Emitter

variable {emitter : Emitter} {event : Event}

theorem line_eq (emitter : Emitter) (event : Event) :
    emitter.line event.name event.data = .object [("event", .text event.name),
      ("request_id", .text emitter.requestId), ("data", event.data)] := by
  cases event <;> rfl

theorem isWritable_line (h : event.Fits) :
    (emitter.line event.name event.data).isWritable = true := by
  rw [isWritable_iff, line_eq]
  constructor
  · simp [intsFit, fieldsIntsFit, event.intsFit_data h]
  · have hdepth := event.depth_data_le
    have hline : (Document.object [("event", .text event.name),
        ("request_id", .text emitter.requestId), ("data", event.data)]).depth ≤ 4 := by
      apply depth_object_le
      simpa [depth_text] using hdepth
    exact Nat.le_trans hline (by decide)

/-- **An event is written in a line** that tells its name and the id of the request. -/
theorem emit_event (henabled : emitter.enabled = true) (h : event.Fits) :
    emitter.emit event.name (some event.data) =
        .ok [(emitter.line event.name event.data).compact] ∧
      read? (emitter.line event.name event.data).compact = some (.object
        [("event", .text event.name), ("request_id", .text emitter.requestId),
          ("data", event.data.reread)]) := by
  constructor
  · rw [emit, if_pos henabled, if_pos (isWritable_line h)]
  · rw [read?_compact (isWritable_line h), line_eq]
    rfl

end Emitter

/-! ### Changes -/

namespace Transform

variable {protectedTitles : List String} {payload : Option Payload}
  {instruction : Except Failure String} {source : Payload} {text : String} {w left : Workbook}

/-- What is reported of actions: the changes of all of them, or of those that are done before one of
them fails. -/
inductive Reports (protectedTitles : List String) :
    List Action → Workbook → Workbook × Reported (List ChangeRecord) → Prop where
  | all {actions : List Action} {w left : Workbook} {changes : List ChangeRecord}
      (done : w.applyAll protectedTitles actions = (left, .ok changes)) :
      Reports protectedTitles actions w (left, ⟨changes.map changeEvent, .ok changes⟩)
  | part {first rest : List Action} {a : Action} {w left last : Workbook}
      {changes : List ChangeRecord} {f : Failure}
      (done : w.applyAll protectedTitles first = (left, .ok changes))
      (fails : left.apply protectedTitles a = (last, .error f)) :
      Reports protectedTitles (first ++ a :: rest) w (last, ⟨changes.map changeEvent, .error f⟩)

theorem applyAll_cons {a : Action} {rest : List Action} {next : Workbook} {record : ChangeRecord}
    {changes : List ChangeRecord} (ha : w.apply protectedTitles a = (next, .ok record))
    (hrest : next.applyAll protectedTitles rest = (left, .ok changes)) :
    w.applyAll protectedTitles (a :: rest) = (left, .ok (record :: changes)) := by
  rw [Workbook.applyAll, ha]
  dsimp only
  rw [hrest]
  rfl

/-- **Each change is reported** when it is done. -/
theorem reports_applyReporting (protectedTitles : List String) (actions : List Action)
    (w : Workbook) :
    Reports protectedTitles actions w (applyReporting protectedTitles actions w) := by
  have hnone : ∀ w : Workbook, w.applyAll protectedTitles [] = (w, .ok []) := fun _ => rfl
  induction actions generalizing w with
  | nil => exact .all (hnone w)
  | cons a rest ih =>
    rw [applyReporting]
    cases happly : w.apply protectedTitles a with
    | mk next result =>
      cases result with
      | error f => exact .part (hnone w) happly
      | ok record =>
        have hreports := ih next
        dsimp only
        generalize applyReporting protectedTitles rest next = reported at hreports ⊢
        cases hreports with
        | all done => exact .all (applyAll_cons happly done)
        | part done fails => exact .part (applyAll_cons happly done) fails

/-! ### Transformations -/

/-- What a transformation has opened, and the instruction that it follows. -/
structure Opens (payload : Option Payload) (instruction : Except Failure String) (source : Payload)
    (text : String) (w : Workbook) : Prop where
  payload_eq : payload = some source
  not_empty : source.isEmpty = false
  instruction_eq : instruction = .ok text
  load_eq : source.load = .ok w

/-- The events from the opening of a workbook to its last change. -/
def opening (source : Payload) (text : String) (w : Workbook) (changes : List ChangeRecord) :
    List Event :=
  .started source.fingerprint w.titles :: .interpreted text (interpret text w.titles) ::
    changes.map changeEvent

/-- How a transformation ends, and the events up to there. -/
inductive Lifecycle (protectedTitles : List String) (payload : Option Payload)
    (instruction : Except Failure String) : Reported Transformed → Prop where
  | unopened {f : Failure} (unopened : ∀ source text w, ¬ Opens payload instruction source text w) :
      Lifecycle protectedTitles payload instruction ⟨[], .error f⟩
  | stopped {source : Payload} {text : String} {w left last : Workbook} {first rest : List Action}
      {a : Action} {changes : List ChangeRecord} {f : Failure}
      (opens : Opens payload instruction source text w)
      (actions : interpret text w.titles = first ++ a :: rest)
      (done : w.applyAll protectedTitles first = (left, .ok changes))
      (fails : left.apply protectedTitles a = (last, .error f)) :
      Lifecycle protectedTitles payload instruction ⟨opening source text w changes, .error f⟩
  | unsaved {source : Payload} {text : String} {w left : Workbook} {changes : List ChangeRecord}
      {f : Failure} (opens : Opens payload instruction source text w)
      (done : w.applyAll protectedTitles (interpret text w.titles) = (left, .ok changes))
      (fails : Payload.save left = .error f) :
      Lifecycle protectedTitles payload instruction ⟨opening source text w changes, .error f⟩
  | ended {t : Transformed} {w left : Workbook}
      (opens : Opens payload instruction t.before t.instruction w)
      (actions : t.actions = interpret t.instruction w.titles)
      (done : w.applyAll protectedTitles t.actions = (left, .ok t.changes))
      (saved : Payload.save left = .ok t.after) :
      Lifecycle protectedTitles payload instruction
        ⟨opening t.before t.instruction w t.changes ++
          [.finished t.recognized t.modified t.after.bytes.length], .ok t⟩

theorem lifecycle_onWorkbook (opens : Opens payload instruction source text w) :
    Lifecycle protectedTitles payload instruction
      (onWorkbook protectedTitles source text w) := by
  have hreports := reports_applyReporting protectedTitles (interpret text w.titles) w
  rw [onWorkbook]
  generalize hactions : interpret text w.titles = actions at hreports ⊢
  generalize applyReporting protectedTitles actions w = reported at hreports ⊢
  cases hreports with
  | @all _ _ left changes done =>
    subst hactions
    dsimp only
    split
    · rename_i f hsave
      exact .unsaved opens done hsave
    · rename_i after hsave
      let t : Transformed := ⟨text, interpret text w.titles, changes, source, after⟩
      exact .ended (t := t) opens rfl done hsave
  | part done fails =>
    dsimp only
    rw [← hactions]
    exact .stopped opens hactions done fails

theorem lifecycle_onPayload (protectedTitles : List String) (payload : Option Payload)
    (instruction : Except Failure String) :
    Lifecycle protectedTitles payload instruction
      (onPayload protectedTitles payload instruction) := by
  rw [onPayload]
  split
  · rename_i hnone
    refine .unopened fun source text w opens => ?_
    rw [opens.payload_eq, Option.filter_some, opens.not_empty] at hnone
    cases hnone
  · rename_i source hsource
    obtain ⟨hpayload, hfull⟩ := Option.filter_eq_some_iff.mp hsource
    split
    · rename_i f hf
      refine .unopened fun other text w opens => ?_
      obtain rfl := Option.some.inj (hpayload.symm.trans opens.payload_eq)
      rw [opens.instruction_eq, opens.load_eq] at hf
      cases hf
    · rename_i text w hload
      simp only [bind_eq_ok_iff] at hload
      obtain ⟨_, htext, _, hloaded, e⟩ := hload
      cases e
      exact lifecycle_onWorkbook ⟨hpayload, by simpa using hfull, htext, hloaded⟩

/-! ### Names -/

/-- The name of the event that reports a change. -/
def changeName (r : ChangeRecord) : String :=
  if r.isSkipped then "action.skipped" else "action.applied"

theorem name_changeEvent (r : ChangeRecord) : (changeEvent r).name = changeName r := by
  obtain ⟨kind, target, outcome⟩ := r
  cases outcome <;> rfl

theorem names_opening (source : Payload) (text : String) (w : Workbook)
    (changes : List ChangeRecord) : (opening source text w changes).map Event.name =
      "transform.start" :: "transform.interpreted" :: changes.map changeName := by
  have hnames : Event.name ∘ changeEvent = changeName := funext name_changeEvent
  rw [opening, List.map_cons, List.map_cons, List.map_map, hnames]
  rfl

variable {run : Reported Transformed}

theorem Lifecycle.names_of_ok {t : Transformed}
    (h : Lifecycle protectedTitles payload instruction run) (ht : run.result = .ok t) :
    run.events.map Event.name = "transform.start" :: "transform.interpreted" ::
      (t.changes.map changeName ++ ["transform.done"]) := by
  cases h with
  | unopened | stopped | unsaved => cases ht
  | ended opens actions done saved =>
    cases ht
    rw [List.map_append, names_opening]
    rfl

theorem Lifecycle.names_of_error {f : Failure}
    (h : Lifecycle protectedTitles payload instruction run) (hf : run.result = .error f) :
    run.events = [] ∨ ∃ changes : List ChangeRecord, run.events.map Event.name =
      "transform.start" :: "transform.interpreted" :: changes.map changeName := by
  cases h with
  | unopened => exact .inl rfl
  | stopped | unsaved => exact .inr ⟨_, names_opening ..⟩
  | ended => cases hf

/-- **The events tell the truth.** None is reported if the workbook is not opened. Otherwise the
start and the actions are, then each change under a name that tells its status, and the end if and
only if the transformation answers; if an action or the saving fails, the changes up to there are
all that is reported. Every event is a line with its name, the id of the request and the data. -/
theorem events_tell (protectedTitles : List String) (payload : Option Payload)
    (instruction : Except Failure String) (emitter : Emitter) (henabled : emitter.enabled = true) :
    let run := onPayload protectedTitles payload instruction
    Lifecycle protectedTitles payload instruction run ∧
      (∀ t, run.result = .ok t → run.events.map Event.name =
        "transform.start" :: "transform.interpreted" ::
          (t.changes.map changeName ++ ["transform.done"])) ∧
      (∀ f, run.result = .error f → run.events = [] ∨
        ∃ changes : List ChangeRecord, run.events.map Event.name =
          "transform.start" :: "transform.interpreted" :: changes.map changeName) ∧
      List.Forall₂ (fun line event =>
        line = (object [("event", .text event.name), ("request_id", .text emitter.requestId),
          ("data", event.data)]).compact ∧
        (event.Fits → emitter.emit event.name (some event.data) = .ok [line] ∧
          read? line = some (object [("event", .text event.name),
            ("request_id", .text emitter.requestId), ("data", event.data.reread)])))
        (emitter.lines run.events) run.events := by
  intro run
  have hlifecycle := lifecycle_onPayload protectedTitles payload instruction
  refine ⟨hlifecycle, fun t => hlifecycle.names_of_ok, fun f => hlifecycle.names_of_error, ?_⟩
  rw [Emitter.lines, if_pos henabled, List.forall₂_map_left_iff, List.forall₂_same]
  intro event _
  exact ⟨congrArg compact (emitter.line_eq event), Emitter.emit_event henabled⟩

theorem events_tell_protected :
    let w : Workbook := ⟨[⟨"Sales", ⟨[((1, 1), .text "Price"), ((2, 1), .int 3)]⟩⟩]⟩
    let run := onPayload ["Sales"] (some (.workbook w)) (.ok "delete column price")
    (⟨true, "r1"⟩ : Emitter).enabled = true ∧ ∃ t, run.result = .ok t ∧
      run.events.map Event.name =
        ["transform.start", "transform.interpreted", "action.skipped", "transform.done"] := by
  intro w run
  obtain ⟨-, hnames, -⟩ :=
    events_tell ["Sales"] (some (.workbook w)) (.ok "delete column price") ⟨true, "r1"⟩ rfl
  have hchanges : run.result.map (·.changes.map changeName) = .ok ["action.skipped"] := by
    decide +kernel
  obtain ⟨t, ht, hskipped⟩ := map_eq_ok_iff.mp hchanges
  refine ⟨rfl, t, ht, ?_⟩
  rw [hnames t ht, hskipped]
  rfl

end Transform

end SheetCommand
