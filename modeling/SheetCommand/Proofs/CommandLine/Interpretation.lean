import SheetCommand.CommandLine.Run
import SheetCommand.Proofs.Server.Results
import SheetCommand.Proofs.Text.Tidy

/-!
# Command line — the actions for an instruction

An instruction is read with its white space collapsed, so the white space around it and the kind of
white space inside make no difference to what it asks for (`interpret_trim`, `interpret_normalize`).
What it asks for can always be written: a run of `interpret` on an instruction that can be used and
on sheets that can be listed prints its actions, and nothing can fail on the way (`runInterpret_eq`).
-/

namespace SheetCommand

open Document

/-! ### White space -/

/-- An instruction is read by its words. -/
theorem interpret_congr {a b : String} (h : Text.collapse a.toList = Text.collapse b.toList)
    (names : List String) : interpret a names = interpret b names := by
  rw [interpret, interpret, Wording.of, Wording.of, h]

theorem interpret_trim (instruction : String) (names : List String) :
    interpret (.ofList (Text.trim instruction.toList)) names = interpret instruction names :=
  interpret_congr (by rw [String.toList_ofList, Text.collapse_trim]) names

theorem interpret_normalize (instruction : String) (names : List String) :
    interpret (normalizeInstruction instruction) names = interpret instruction names :=
  interpret_congr (by rw [normalizeInstruction, String.toList_ofList, Text.collapse_collapse]) names

theorem eq_trim_of_requireInstruction {instruction text : String}
    (h : requireInstruction (some instruction) = .ok text) :
    text = .ofList (Text.trim instruction.toList) := by
  simp only [requireInstruction, Option.getD_some] at h
  split at h
  · cases h
  · split at h
    · cases h
    · exact (Except.ok.inj h).symm

/-- Words that are few enough can be used. -/
theorem exists_requireInstruction {instruction : String}
    (hwords : Text.words instruction.toList ≠ [])
    (hlength : instruction.toList.length ≤ Failure.instructionLimit) :
    ∃ text, requireInstruction (some instruction) = .ok text := by
  have hne : Text.trim instruction.toList ≠ [] := by
    intro hempty
    rw [← Text.words_trim, hempty] at hwords
    exact hwords rfl
  have hfits := Nat.le_trans (Text.length_trim_le instruction.toList) hlength
  rw [requireInstruction, Option.getD_some, if_neg (by simpa using hne),
    if_neg (Nat.not_lt.mpr hfits)]
  exact ⟨_, rfl⟩

/-- What can be used of an instruction asks for the same. -/
theorem interpret_of_requireInstruction {instruction text : String}
    (h : requireInstruction (some instruction) = .ok text) (names : List String) :
    interpret text names = interpret instruction names := by
  rw [eq_trim_of_requireInstruction h, interpret_trim]

/-! ### Integers in actions -/

theorem itemsIntsFit_iff {items : List Document} :
    itemsIntsFit items = true ↔ ∀ item ∈ items, item.intsFit = true := by
  induction items with
  | nil => simp [itemsIntsFit]
  | cons item items ih => rw [itemsIntsFit, Bool.and_eq_true, ih, List.forall_mem_cons]

theorem intsFit_texts (items : List String) : (Document.texts items).intsFit = true := by
  rw [Document.texts, intsFit, itemsIntsFit_iff, List.forall_mem_map]
  exact fun _ _ => rfl

theorem intsFit_ofOption_text (s : Option String) : (Document.ofOption .text s).intsFit = true := by
  cases s <;> rfl

/-- An action holds no integer. -/
theorem Action.intsFit_toDocument (a : Action) : a.toDocument.intsFit = true := by
  cases a with
  | renameSheet old new => rfl
  | edit sheet e =>
    have hsheet := intsFit_ofOption_text sheet
    cases e <;>
      simp [toDocument, fields, Edit.fields, intsFit, fieldsIntsFit, hsheet]

theorem intsFit_actionsDocument (actions : List Action) :
    (Server.actionsDocument actions).intsFit = true := by
  rw [Server.actionsDocument, intsFit, itemsIntsFit_iff, List.forall_mem_map]
  exact fun a _ => a.intsFit_toDocument

namespace CommandLine

/-! ### The envelope -/

/-- The envelope of the actions for an instruction. -/
def interpretation (instruction : String) (names : List String) (file : Option String) : Envelope :=
  .success "interpret" (interpretResult instruction names (interpret instruction names))
    ⟨file, none⟩ [] []

theorem isWritable_interpretation (instruction : String) (names : List String)
    (file : Option String) : (interpretation instruction names file).toDocument.isWritable = true := by
  rw [isWritable_iff]
  constructor
  · simp [interpretation, Envelope.success, Envelope.toDocument, Target.toDocument, interpretResult,
      intsFit, fieldsIntsFit, itemsIntsFit, intsFit_texts, intsFit_ofOption_text,
      intsFit_actionsDocument]
    rfl
  · -- the actions lie deepest: their fields in a list, in the result, in the envelope
    have hactions := depth_actions_le (interpret instruction names)
    have hnames := depth_texts_le names
    have hresult : (interpretResult instruction names (interpret instruction names)).depth ≤ 3 := by
      apply depth_object_le
      simp only [Server.actionsDocument, List.forall_mem_cons, List.not_mem_nil, IsEmpty.forall_iff,
        implies_true, and_true, depth_text, depth_bool]
      omega
    have htarget : (Target.toDocument ⟨file, none⟩).depth ≤ 1 := by
      apply depth_object_le
      simp [depth_ofOption_text]
    have henvelope : (interpretation instruction names file).toDocument.depth ≤ 4 := by
      apply depth_object_le
      simp only [interpretation, Envelope.success, List.forall_mem_cons, List.not_mem_nil,
        IsEmpty.forall_iff, implies_true, and_true, List.map_nil, depth, itemsDepth, fieldsDepth,
        depth_ofNat]
      omega
    exact Nat.le_trans henvelope (by decide)

theorem print_interpretation (instruction : String) (names : List String) (file : Option String) :
    (interpretation instruction names file).print =
      .ok (interpretation instruction names file).toDocument.indented := by
  rw [Envelope.print, if_pos (isWritable_interpretation ..)]

theorem actions_interpretation (instruction : String) (names : List String)
    (file : Option String) : (interpretation instruction names file).result.field? "actions" =
      some (Server.actionsDocument (interpret instruction names)) := rfl

/-! ### Runs -/

/-- The sheets that a run lists: those of a file if one is given, else the names given. -/
def Lists (s : Store) (file sheets : Option String) (names : List String) : Prop :=
  match Settings.given file, sheets with
  | some path, _ => ∃ w, s.openWorkbook (.ofText path) = .ok w ∧ names = w.titles
  | none, some listed => names = namesIn listed
  | none, none => names = []

theorem lists_of_given {s : Store} {file : Option String} {path : String} {w : Workbook}
    (h : Settings.given file = some path) (sheets : Option String)
    (hopen : s.openWorkbook (.ofText path) = .ok w) : Lists s file sheets w.titles := by
  unfold Lists
  rw [h]
  exact ⟨w, hopen, rfl⟩

/-- **A run of `interpret`** prints the actions for its instruction. -/
theorem runInterpret_eq {s : Store} {instruction text : String} {file sheets : Option String}
    {names : List String} (h : requireInstruction (some instruction) = .ok text)
    (hnames : Lists s file sheets names) : runInterpret s instruction file sheets =
      ⟨s, [.envelope (interpretation instruction names file)], [], 0⟩ := by
  have hreply : Outcome.reply s [] (interpretation instruction names file) =
      ⟨s, [.envelope (interpretation instruction names file)], [], 0⟩ := by
    rw [Outcome.reply, print_interpretation]
    rfl
  simp only [runInterpret, h]
  unfold Lists at hnames
  generalize Settings.given file = path at hnames ⊢
  match path, sheets with
  | some path, _ =>
    obtain ⟨w, hopen, rfl⟩ := hnames
    simp only [withWorkbook, hopen]
    exact hreply
  | none, some listed =>
    obtain rfl := hnames
    exact hreply
  | none, none =>
    obtain rfl := hnames
    exact hreply

end CommandLine

end SheetCommand
