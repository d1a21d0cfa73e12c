import SheetCommand.Proofs.CommandLine.Interpretation
import SheetCommand.Proofs.Settings.Loading

/-!
# Command line — one envelope for each run

A run of a command, the server aside, prints one envelope and ends with the exit code of that
envelope (`run_prints_one_envelope`). Commands answer the failures that they expect. Any other
failure ends the run with an internal error, whose exit code is fixed; this is the exit code of the
envelope because every failure that comes so far is internal: the expected ones are caught where
they arise (`code_of_discover_eq_error`, `code_of_openWorkbook_eq_error`,
`code_of_overview_eq_error`).
-/

namespace SheetCommand

open Document

/-! ### Failures of files -/

namespace Store

variable {s : Store} {p : FilePath} {f : Failure}

theorem present_eq_error (h : s.present p = .error f) : f = .file .nameTooLong p.text := by
  unfold present at h
  split at h
  · cases h
  · split at h
    · cases h
    · exact (Except.error.inj h).symm
    · cases h

theorem read_eq_error (h : s.read p = .error f) :
    f = .malformed ∨ ∃ problem, f = .file problem p.text := by
  unfold read at h
  split at h
  · exact .inl (Except.error.inj h).symm
  · split at h
    · exact .inr ⟨_, (Except.error.inj h).symm⟩
    · exact .inr ⟨_, (Except.error.inj h).symm⟩
    · cases h

/-- What keeps a file from being opened is internal, unless the file is missing. -/
theorem code_file (problem : FileProblem) (path : String) :
    (Failure.file problem path).kind = .notFound ∨
      (Failure.file problem path).code = .internal := by
  cases problem with
  | absent => exact .inl rfl
  | denied | isFolder | notFolder | busy | nameTooLong | noSpace => exact .inr rfl

/-- A workbook that cannot be opened is missing or corrupt, or the failure is internal. -/
theorem code_of_openWorkbook_eq_error (h : s.openWorkbook p = .error f) :
    (f.kind = .notFound ∨ f.kind = .workbookCorrupt) ∨ f.code = .internal := by
  obtain hresolve | ⟨l, -, h⟩ := bind_eq_error_iff.mp h
  · unfold resolve at hresolve
    split at hresolve
    · cases hresolve
    · obtain rfl := Except.error.inj hresolve
      exact .inr rfl
  obtain hpresent | ⟨here, -, h⟩ := bind_eq_error_iff.mp h
  · obtain rfl := present_eq_error hpresent
    exact .inr rfl
  cases here with
  | false =>
    obtain rfl := Except.error.inj h
    exact .inl (.inl rfl)
  | true =>
    obtain hread | ⟨content, -, h⟩ := bind_eq_error_iff.mp h
    · obtain rfl | ⟨problem, rfl⟩ := read_eq_error hread
      · exact .inr rfl
      · exact (code_file ..).imp_left .inl
    · cases content with
      | raw bytes =>
        obtain rfl := Except.error.inj h
        exact .inl (.inr rfl)
      | workbook w =>
        rw [Payload.openFrom] at h
        cases hopened : w.opened with
        | ok _ => rw [hopened] at h; cases h
        | error _ =>
          rw [hopened] at h
          obtain rfl := Except.error.inj h
          exact .inl (.inr rfl)

end Store

/-! ### Failures of configurations -/

namespace Settings

variable {s : Store} {f : Failure}

theorem code_of_load_eq_error {path : String} (h : load s path = .error f) :
    f.kind = .config ∨ f.code = .internal := by
  cases hread : s.read (.ofText path) with
  | error e =>
    have htext : s.readText (.ofText path) = .error e := by rw [Store.readText, hread]; rfl
    rw [load, htext] at h
    obtain rfl | ⟨problem, rfl⟩ := Store.read_eq_error hread
    · obtain rfl := Except.error.inj h
      exact .inr rfl
    · obtain rfl := Except.error.inj h
      exact .inl rfl
  | ok content =>
    rw [load_eq hread] at h
    split at h
    · obtain rfl := Except.error.inj h
      exact .inr rfl
    · split at h
      · obtain rfl := Except.error.inj h
        exact .inl rfl
      · obtain rfl := Except.error.inj h
        exact .inr rfl
      · obtain hconfig | ⟨rfl, -⟩ := ofValue_eq_error h
        · exact .inl hconfig
        · exact .inr rfl

theorem code_of_discover_eq_error {named environment folder : Option String}
    (h : discover s named environment folder = .error f) :
    f.kind = .config ∨ f.code = .internal := by
  unfold discover at h
  split at h
  · obtain hpresent | ⟨here, -, h⟩ := bind_eq_error_iff.mp h
    · obtain rfl := Store.present_eq_error hpresent
      exact .inr rfl
    · split at h
      · exact code_of_load_eq_error h
      · obtain rfl := Except.error.inj h
        exact .inl rfl
  · split at h
    · exact code_of_load_eq_error h
    · obtain hpresent | ⟨here, -, h⟩ := bind_eq_error_iff.mp h
      · obtain rfl := Store.present_eq_error hpresent
        exact .inr rfl
      · split at h
        · exact code_of_load_eq_error h
        · cases h

end Settings

/-! ### Failures of overviews -/

theorem CellValue.label_eq_error {v : CellValue} {f : Failure} (h : v.label = .error f) :
    f = .integerTooLong := by
  cases v with
  | int n =>
    rw [label, intText] at h
    split at h
    · exact (Except.error.inj h).symm
    · cases h
  | blank | bool | real | text | moment => cases h

theorem Workbook.code_of_overview_eq_error {w : Workbook} {f : Failure}
    (h : w.overview.2 = .error f) : f.code = .internal := by
  obtain ⟨⟨sheet, index⟩, -, h⟩ := exists_of_mapM_eq_error h
  obtain hlisted | ⟨_, -, h⟩ := bind_eq_error_iff.mp h
  · obtain hlabels | ⟨_, -, h⟩ := bind_eq_error_iff.mp hlisted
    · obtain ⟨column, -, hlabel⟩ := exists_of_mapM_eq_error hlabels
      obtain rfl := CellValue.label_eq_error hlabel
      rfl
    · cases h
  · cases h

/-! ### Envelopes -/

theorem Target.depth_toDocument_le (target : Target) : target.toDocument.depth ≤ 1 := by
  apply depth_object_le
  simp [depth_ofOption_text]

namespace Envelope

/-- An envelope says that all went well exactly if it lists no error. -/
def IsConsistent (e : Envelope) : Prop := e.ok = true ↔ e.errors = []

theorem isConsistent_success (command : String) (result : Document) (target : Target)
    (changes : List ChangeRecord) (warnings : List Warning) :
    (success command result target changes warnings).IsConsistent :=
  iff_of_true rfl rfl

theorem isConsistent_failure (command : String) (f : Failure) (target : Target) :
    (failure command f target).IsConsistent :=
  iff_of_false Bool.false_ne_true nofun

theorem exitCode_eq_zero_iff (e : Envelope) : e.exitCode = 0 ↔ e.ok = true := by
  have hclass : ∀ c : ErrorClass, c.exitCode ≠ 0 := by
    intro c
    cases c <;> decide
  unfold exitCode
  split
  · rename_i hok
    exact iff_of_true rfl hok
  · rename_i hok
    refine iff_of_false ?_ hok
    split
    · exact hclass _
    · exact hclass _

/-- A failure is reported in texts, so the report of it can always be written. -/
theorem isWritable_failure (command : String) (f : Failure) (target : Target) :
    (failure command f target).toDocument.isWritable = true := by
  have hdetails : (reportOf f.kind f.message).details.intsFit = true ∧
      (reportOf f.kind f.message).details.depth ≤ 1 := by
    unfold reportOf
    dsimp only
    split <;> simp [intsFit, fieldsIntsFit, depth, fieldsDepth]
  rw [isWritable_iff]
  constructor
  · simp [failure, error, toDocument, Target.toDocument, ErrorReport.toDocument, intsFit,
      fieldsIntsFit, itemsIntsFit, intsFit_ofOption_text, hdetails.1]
    rfl
  · have hreport : (reportOf f.kind f.message).toDocument.depth ≤ 2 := by
      apply depth_object_le
      simp [depth_text, hdetails.2]
    have htarget := target.depth_toDocument_le
    have henvelope : (failure command f target).toDocument.depth ≤ 4 := by
      apply depth_object_le
      simp only [failure, error, List.forall_mem_cons, List.not_mem_nil, IsEmpty.forall_iff,
        implies_true, and_true, List.map_cons, List.map_nil, depth, itemsDepth, fieldsDepth,
        depth_ofNat]
      omega
    exact Nat.le_trans henvelope (by decide)

theorem exitCode_failure {f : Failure} (h : f.code = .internal) (command : String)
    (target : Target) : (failure command f target).exitCode = ErrorClass.internal.exitCode := by
  have hcode : f.kind.code = .internal := h
  simp only [failure, error, exitCode, reportOf, hcode]
  decide

end Envelope

namespace CommandLine

/-! ### Ends of runs -/

/-- A run has printed one envelope, which can be written and is consistent, and it has the exit
code of that envelope. -/
def Outcome.Answers (o : Outcome) : Prop :=
  ∃ e : Envelope, o.printed = [.envelope e] ∧ e.toDocument.isWritable = true ∧ e.IsConsistent ∧
    o.exitCode = e.exitCode

variable {ctx : Context} {s : Store} {events : List String}

theorem answers_crash {f : Failure} (h : f.code = .internal) (s : Store) (events : List String) :
    (Outcome.crash s events [] f).Answers :=
  ⟨_, rfl, Envelope.isWritable_failure .., Envelope.isConsistent_failure ..,
    (Envelope.exitCode_failure h ..).symm⟩

/-- An envelope that cannot be written is an internal failure. -/
theorem answers_reply {e : Envelope} (h : e.IsConsistent) (s : Store) (events : List String) :
    (Outcome.reply s events e).Answers := by
  rw [Outcome.reply, Envelope.print]
  by_cases hwritable : e.toDocument.isWritable = true
  · rw [if_pos hwritable]
    exact ⟨e, rfl, hwritable, h, rfl⟩
  · rw [if_neg hwritable]
    exact answers_crash rfl s events

theorem answers_success (command : String) (result : Document) (target : Target)
    (changes : List ChangeRecord) (warnings : List Warning) :
    (Outcome.reply s events (.success command result target changes warnings)).Answers :=
  answers_reply (Envelope.isConsistent_success ..) s events

theorem answers_failure (command : String) (f : Failure) (target : Target) :
    (Outcome.reply s events (.failure command f target)).Answers :=
  answers_reply (Envelope.isConsistent_failure ..) s events

/-! ### Commands -/

theorem answers_withSettings {command : String} {config : Option String}
    {go : Settings → Outcome} (h : ∀ settings, (go settings).Answers) :
    (withSettings ctx s command config go).Answers := by
  unfold withSettings
  split
  · exact h _
  · rename_i f hf
    split
    · exact answers_failure ..
    · rename_i hkind
      exact answers_crash ((Settings.code_of_discover_eq_error hf).resolve_left hkind) s []

theorem answers_withWorkbook {command file : String} {go : Workbook → Outcome}
    (h : ∀ w, (go w).Answers) : (withWorkbook s command file go).Answers := by
  unfold withWorkbook
  split
  · exact h _
  · rename_i f hf
    split
    · exact answers_failure ..
    · rename_i hkind
      exact answers_crash ((Store.code_of_openWorkbook_eq_error hf).resolve_left hkind) s []

theorem answers_runListSheets (s : Store) (file : String) : (runListSheets s file).Answers := by
  refine answers_withWorkbook fun w => ?_
  split
  · rename_i f hf
    exact answers_crash (Workbook.code_of_overview_eq_error hf) s []
  · exact answers_success ..

theorem answers_runInterpret (s : Store) (instruction : String) (file sheets : Option String) :
    (runInterpret s instruction file sheets).Answers := by
  unfold runInterpret
  dsimp only
  split
  · exact answers_failure ..
  · split
    · exact answers_withWorkbook fun w => answers_success ..
    · exact answers_success ..
    · exact answers_success ..

theorem answers_runTransform (ctx : Context) (s : Store) (file instruction : String)
    (out : Option String) (dryRun : Bool) (backup : Option Bool) (config : Option String)
    (events : Bool) :
    (runTransform ctx s file instruction out dryRun backup config events).Answers := by
  refine answers_withSettings fun settings => ?_
  dsimp only
  split
  · exact answers_failure ..
  · exact answers_success ..

theorem Command.answers_run (ctx : Context) (s : Store) {c : Command}
    (h : ∀ config, c ≠ .serve config) : (c.run ctx s).Answers := by
  cases c with
  | version => exact answers_success ..
  | listSheets file => exact answers_runListSheets s file
  | interpret instruction file sheets => exact answers_runInterpret s instruction file sheets
  | transform file instruction out dryRun backup config events =>
    exact answers_runTransform ctx s file instruction out dryRun backup config events
  | serve config => exact absurd rfl (h config)

/-- **One envelope for each run.** Whatever files there are and whatever they hold, a run of a
command other than the server prints exactly one envelope, which can be written, and ends with its
exit code. The exit code is zero exactly if the envelope says that all went well, and it says so
exactly if it lists no error. -/
theorem run_prints_one_envelope (ctx : Context) (s : Store) {arguments : List String} {c : Command}
    (h : Invocation.ofArguments arguments = .command c) (hserve : ∀ config, c ≠ .serve config) :
    ∃ (e : Envelope) (text : String), (run ctx s arguments).printed = [.envelope e] ∧
      e.print = .ok text ∧ (run ctx s arguments).exitCode = e.exitCode ∧
      ((run ctx s arguments).exitCode = 0 ↔ e.ok = true) ∧ (e.ok = true ↔ e.errors = []) := by
  obtain ⟨e, hprinted, hwritable, hconsistent, hcode⟩ := c.answers_run ctx s hserve
  rw [run, h]
  refine ⟨e, e.toDocument.indented, hprinted, if_pos hwritable, hcode, ?_, hconsistent⟩
  rw [hcode]
  exact e.exitCode_eq_zero_iff

/-- A folder whose configuration is no text. -/
def unreadableConfiguration : Store :=
  .ofEntries ["work"] [(["work", Settings.fileName], .file (.raw [0xFF, 0xFE, 0x00]))]

def arranging : List String :=
  ["transform", "--file", "stock.xlsx", "-i", "sort by Qty", "--no-backup"]

theorem run_prints_one_envelope_unreadable :
    let ctx : Context := ⟨⟨"20240101_120000", [], "1"⟩, none, ""⟩
    Invocation.ofArguments arranging =
        .command (.transform "stock.xlsx" "sort by Qty" none false (some false) none false) ∧
      ∃ (e : Envelope) (text : String),
        (run ctx unreadableConfiguration arranging).printed = [.envelope e] ∧
        e.print = .ok text ∧ e.ok = false ∧
        (run ctx unreadableConfiguration arranging).exitCode = e.exitCode ∧ e.exitCode = 90 := by
  intro ctx
  have harguments : Invocation.ofArguments arranging =
      .command (.transform "stock.xlsx" "sort by Qty" none false (some false) none false) := by
    decide +kernel
  have hexit : (run ctx unreadableConfiguration arranging).exitCode = 90 := by decide +kernel
  obtain ⟨e, text, hprinted, hprint, hcode, hzero, -⟩ :=
    run_prints_one_envelope ctx unreadableConfiguration harguments nofun
  refine ⟨harguments, e, text, hprinted, hprint, ?_, hcode, hcode.symm.trans hexit⟩
  refine Bool.eq_false_iff.mpr fun hok => ?_
  rw [hzero.mpr hok] at hexit
  cases hexit

end CommandLine

end SheetCommand
