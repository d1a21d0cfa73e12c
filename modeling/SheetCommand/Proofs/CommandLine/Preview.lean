import SheetCommand.Proofs.Server.Requests
import SheetCommand.Proofs.Transform.Trial

/-!
# Command line — previews

What an instruction asks for is reported in four places: by the command `interpret`, by a request of
that name to the server, and by a transformation, whether a command or a request asks for it. They
come to it in different ways. The command reads the instruction as it was typed, the others read it
without the white space around it; the titles are those of a workbook opened for the purpose or of
the one that is read under the lock. All report the same list (`preview_agrees`), and so does a trial
run, together with the changes and the warnings of the run itself.
-/

namespace SheetCommand.CommandLine

open Transform Server

/-! ### Envelopes of transformations -/

/-- What a command line asks of a transformation. -/
def fileRequest (settings : Settings) (file instruction : String) (out : Option String)
    (dryRun : Bool) (backup : Option Bool) : FileRequest :=
  ⟨.ofText file, requireInstruction (some instruction), .ok ((Settings.given out).map .ofText),
    dryRun, backup.getD settings.backup, settings.protectedSheets⟩

theorem eq_of_mem_reply {s : Store} {events : List String} {e e' : Envelope}
    (h : .envelope e ∈ (Outcome.reply s events e').printed) (hok : e.ok = true) : e = e' := by
  rw [Outcome.reply] at h
  split at h
  · exact Printed.envelope.inj (List.mem_singleton.mp h)
  · obtain rfl := Printed.envelope.inj (List.mem_singleton.mp h)
    cases hok

/-- An envelope of success is that of a run over files which succeeded. -/
theorem exists_of_mem_runTransform {ctx : Context} {s : Store} {file instruction : String}
    {out : Option String} {dryRun : Bool} {backup : Option Bool} {config : Option String}
    {events : Bool} {e : Envelope}
    (h : .envelope e ∈
      (runTransform ctx s file instruction out dryRun backup config events).printed)
    (hok : e.ok = true) :
    ∃ settings t, Settings.discover s config ctx.configFile none = .ok settings ∧
      (onFile ctx.around s (fileRequest settings file instruction out dryRun backup)).result =
        .ok t ∧
      e = .success "transform" t.toDocument ⟨some file, out⟩ t.transformed.changes
        t.transformed.warnings := by
  simp only [runTransform, withSettings] at h
  split at h
  · rename_i settings hsettings
    rw [← fileRequest] at h
    split at h
    · obtain rfl := eq_of_mem_reply h hok
      cases hok
    · rename_i t ht
      exact ⟨settings, t, hsettings, ht, eq_of_mem_reply h hok⟩
  · split at h
    · obtain rfl := eq_of_mem_reply h hok
      cases hok
    · obtain rfl := Printed.envelope.inj (List.mem_singleton.mp h)
      cases hok

/-! ### Requests -/

section

variable {around : Surroundings} {settings : Settings} {s : Store} {request args : Document}
  {instruction file : String}

theorem path?_of_given (h : args.given? "file" = some (.text file)) :
    path? args "file" = .ok (some (.ofText file)) := by
  rw [path?, h]

/-- A request to transform a file that succeeds is a run over files which succeeded. -/
theorem exists_of_transform {d : Document} (h : Asks request args "transform" instruction)
    (hfile : args.given? "file" = some (.text file)) (hdata : args.field? "data" = none)
    (hd : outcome around settings s request = .ok d) :
    ∃ r t, r.source = .ofText file ∧ r.instruction = requireInstruction (some instruction) ∧
      (onFile around s r).result = .ok t ∧ d = t.toDocument := by
  rw [h.outcome_eq .transform rfl, mapError_eq_ok_iff, Operation.run,
    transformRequest, hdata] at hd
  dsimp only at hd
  rw [path?_of_given hfile] at hd
  obtain ⟨t, ht, rfl⟩ := map_eq_ok_iff.mp hd
  exact ⟨_, t, rfl, h.instruction_eq, ht, rfl⟩

end

/-! ### Agreement -/

/-- All that reports the actions for an instruction on a file reports the same. -/
structure Reports (s : Store) (instruction file : String) (actions : List Action) : Prop where
  interpret_command : ∀ sheets, ∃ e : Envelope,
    runInterpret s instruction (some file) sheets = ⟨s, [.envelope e], [], 0⟩ ∧ e.ok = true ∧
      e.result.field? "actions" = some (actionsDocument actions)
  interpret_request : ∀ around settings request args listed,
    Asks request args "interpret" instruction → args.given? "file" = some (.text file) →
      listedNames args = .ok listed →
        outcome around settings s request = .ok (actionsDocument actions)
  transform_command : ∀ ctx out dryRun backup config events e,
    .envelope e ∈ (runTransform ctx s file instruction out dryRun backup config events).printed →
      e.ok = true → e.result.field? "actions" = some (actionsDocument actions)
  transform_request : ∀ around settings request args d,
    Asks request args "transform" instruction → args.given? "file" = some (.text file) →
      args.field? "data" = none → outcome around settings s request = .ok d →
        d.field? "actions" = some (actionsDocument actions)

/-- The path of a workbook says something. -/
theorem given_of_openWorkbook {s : Store} {file : String} {w : Workbook} (hbase : ".." ∉ s.base)
    (h : s.openWorkbook (.ofText file) = .ok w) : Settings.given (some file) = some file := by
  by_cases hempty : file = ""
  · -- an empty path leads to the folder that paths start from
    obtain ⟨stored, hstored, -⟩ := Store.exists_stored_of_openWorkbook hbase h
    have hlocate : (FilePath.ofText file).locate s.base = s.base := by
      rw [hempty]
      rfl
    rw [hlocate, Store.folder_above_base List.prefix_rfl] at hstored
    cases hstored
  · simp [Settings.given, Option.filter, hempty]

/-- What a transformation that succeeds reports as its actions. -/
theorem actions_of_onFile {around : Surroundings} {s : Store} {r : FileRequest} {w : Workbook}
    {instruction text : String} {t : FileTransformed} (hbase : ".." ∉ s.base)
    (htext : requireInstruction (some instruction) = .ok text)
    (hinstruction : r.instruction = requireInstruction (some instruction))
    (hopen : s.openWorkbook r.source = .ok w) (h : (onFile around s r).result = .ok t) :
    t.toDocument.field? "actions" = some (actionsDocument (interpret instruction w.titles)) := by
  obtain ⟨text', htext', hactions⟩ := actions_of_openWorkbook hbase hopen h
  rw [hinstruction, htext] at htext'
  obtain rfl := Except.ok.inj htext'
  rw [← interpret_of_requireInstruction htext, ← hactions]
  rfl

theorem reports_interpret {s : Store} {instruction text file : String} {w : Workbook}
    (hbase : ".." ∉ s.base) (htext : requireInstruction (some instruction) = .ok text)
    (hopen : s.openWorkbook (.ofText file) = .ok w) :
    Reports s instruction file (interpret instruction w.titles) where
  interpret_command sheets := by
    have hlists := lists_of_given (given_of_openWorkbook hbase hopen) sheets hopen
    exact ⟨_, runInterpret_eq htext hlists, rfl, actions_interpretation ..⟩
  interpret_request _ _ _ _ listed h hfile hlisted :=
    h.outcome_interpret ⟨listed, hlisted, .inl ⟨_, w, path?_of_given hfile, hopen, rfl⟩⟩ htext
  transform_command _ _ _ _ _ _ e h hok := by
    obtain ⟨settings, t, -, ht, rfl⟩ := exists_of_mem_runTransform h hok
    exact actions_of_onFile hbase htext rfl hopen ht
  transform_request _ _ _ _ d h hfile hdata hd := by
    obtain ⟨r, t, hsource, hinstruction, ht, rfl⟩ := exists_of_transform h hfile hdata hd
    exact actions_of_onFile hbase htext hinstruction (hsource ▸ hopen) ht

/-- The envelopes of a trial run and of the run itself tell of the same changes and warnings. -/
theorem trial_tells_the_same {ctx : Context} {s : Store} {file instruction : String}
    {out : Option String} {backup : Option Bool} {config : Option String} {events : Bool}
    {trial real : Envelope}
    (htrial : .envelope trial ∈
      (runTransform ctx s file instruction out true backup config events).printed)
    (hreal : .envelope real ∈
      (runTransform ctx s file instruction out false backup config events).printed)
    (hok : trial.ok = true) (hok' : real.ok = true) :
    trial.changes = real.changes ∧ trial.warnings = real.warnings := by
  obtain ⟨settings, t, hsettings, ht, rfl⟩ := exists_of_mem_runTransform htrial hok
  obtain ⟨settings', done, hsettings', hdone, rfl⟩ := exists_of_mem_runTransform hreal hok'
  obtain rfl := Except.ok.inj (hsettings.symm.trans hsettings')
  obtain ⟨t', ht', hsame⟩ := (trialOf_onFile ctx.around s
    (fileRequest settings file instruction out true backup)).foreseen done hdone
  obtain rfl := Except.ok.inj (ht.symm.trans ht')
  exact ⟨congrArg Transformed.changes hsame, congrArg Transformed.warnings hsame⟩

/-- **Previews agree with what is done.** The white space around an instruction, and the kind of
white space in it, make no difference. On a file that holds a workbook, all that reports the actions
for an instruction reports the same. A trial run reports the changes and the warnings of the run
itself, which can still fail only in its writing. -/
theorem preview_agrees (instruction : String) :
    (∀ names,
      interpret (.ofList (Text.trim instruction.toList)) names = interpret instruction names ∧
      interpret (normalizeInstruction instruction) names = interpret instruction names) ∧
    (∀ (s : Store) (text file : String) (w : Workbook), ".." ∉ s.base →
      requireInstruction (some instruction) = .ok text →
      s.openWorkbook (.ofText file) = .ok w →
      Reports s instruction file (interpret instruction w.titles)) ∧
    (∀ (ctx : Context) (s : Store) (file : String) (out : Option String) (backup : Option Bool)
      (config : Option String) (events : Bool) (trial real : Envelope),
      .envelope trial ∈
        (runTransform ctx s file instruction out true backup config events).printed →
      .envelope real ∈
        (runTransform ctx s file instruction out false backup config events).printed →
      trial.ok = true → real.ok = true →
      trial.changes = real.changes ∧ trial.warnings = real.warnings) ∧
    ∀ (around : Surroundings) (s : Store) (r : FileRequest),
      TrialOf around r (onFile around s (asTrial r true)) (onFile around s (asTrial r false)) :=
  ⟨fun names => ⟨interpret_trim instruction names, interpret_normalize instruction names⟩,
    fun _ _ _ _ hbase htext hopen => reports_interpret hbase htext hopen,
    fun _ _ _ _ _ _ _ _ _ htrial hreal hok hok' => trial_tells_the_same htrial hreal hok hok',
    trialOf_onFile⟩

def isSuccess : Printed → Bool
  | .envelope e => e.ok
  | _ => false

theorem exists_of_any_isSuccess {printed : List Printed} (h : printed.any isSuccess = true) :
    ∃ e, .envelope e ∈ printed ∧ e.ok = true := by
  obtain ⟨p, hp, hok⟩ := List.any_eq_true.mp h
  cases p with
  | envelope e => exact ⟨e, hp, hok⟩
  | _ => cases hok

/-- To delete the one column of a workbook, with white space of several kinds. -/
def spaced : String := "\tDelete\u00a0 column\u2003Item\n"

theorem preview_agrees_spaced :
    let ctx : Context := ⟨⟨"20240101_120000", [], "1"⟩, none, ""⟩
    let opened : Workbook :=
      ⟨[⟨"Stock", ⟨[((1, 1), .text "Item"), ((2, 1), .int 7)]⟩⟩]⟩
    ".." ∉ stockFolder.base ∧
      requireInstruction (some spaced) = .ok "Delete\u00a0 column\u2003Item" ∧
      stockFolder.openWorkbook (.ofText "stock.xlsx") = .ok opened ∧
      Reports stockFolder spaced "stock.xlsx" (interpret spaced opened.titles) ∧
      ∃ trial real, .envelope trial ∈
          (runTransform ctx stockFolder "stock.xlsx" spaced none true none none false).printed ∧
        .envelope real ∈
          (runTransform ctx stockFolder "stock.xlsx" spaced none false none none false).printed ∧
        trial.ok = true ∧ real.ok = true ∧
        trial.changes = real.changes ∧ trial.warnings = real.warnings := by
  intro ctx opened
  have htext : requireInstruction (some spaced) = .ok "Delete\u00a0 column\u2003Item" := by
    decide +kernel
  have hopen : stockFolder.openWorkbook (.ofText "stock.xlsx") = .ok opened := by decide +kernel
  have hbase : ".." ∉ stockFolder.base := by decide
  have hforeseen : (runTransform ctx stockFolder "stock.xlsx" spaced none true none none
      false).printed.any isSuccess = true := by decide +kernel
  obtain ⟨trial, htrial, hok⟩ := exists_of_any_isSuccess hforeseen
  have hdone : (runTransform ctx stockFolder "stock.xlsx" spaced none false none none
      false).printed.any isSuccess = true := by decide +kernel
  obtain ⟨real, hreal, hok'⟩ := exists_of_any_isSuccess hdone
  exact ⟨hbase, htext, hopen, (preview_agrees spaced).2.1 _ _ _ _ hbase htext hopen,
    trial, real, htrial, hreal, hok, hok',
    (preview_agrees spaced).2.2.1 ctx stockFolder _ _ _ _ _ _ _ htrial hreal hok hok'⟩

end SheetCommand.CommandLine
