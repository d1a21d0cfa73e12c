import SheetCommand.Proofs.Action.RoundTrip
import SheetCommand.Proofs.Instruction.Range
import SheetCommand.Proofs.Server.Requests
import SheetCommand.Proofs.Transform.FileEffects

/-!
# Command line — actions that are read again

The actions that are printed for an instruction, or that the server responds with, can be read from
that text and validated. They come back as they were, exactly if every number in them is finite
(`actions_validate_back`). A number beyond the range of numbers is an infinity, which is written as
`null`; a filter by it is refused, and with it the whole list.
-/

namespace SheetCommand.CommandLine

open Document Server Instruction Transform

/-- What a field of a document is, by the names of the fields that lead there. -/
def at? (d : Document) (path : List String) : Option Document := path.foldlM (·.field? ·) d

/-- The actions at a place of a text, or what is wrong with them. -/
def actionsIn (text : String) (path : List String) : Option (Except (List Fault) (List Action)) :=
  ((Document.read? text).bind (at? · path)).map Action.listOfDocument

/-! ### What is printed -/

/-- The actions lie in an envelope under `result` and `actions`. -/
theorem at?_interpretation (instruction : String) (names : List String) (file : Option String) :
    at? (interpretation instruction names file).toDocument.reread ["result", "actions"] =
      some (actionsDocument (interpret instruction names)).reread := by
  simp [interpretation, Envelope.success, Envelope.toDocument, interpretResult, reread,
    rereadFields, setField, at?, field?, List.lookup_cons]

theorem actionsIn_interpretation (instruction : String) (names : List String)
    (file : Option String) :
    actionsIn (interpretation instruction names file).toDocument.indented ["result", "actions"] =
      some (Action.comeBack (interpret instruction names)) := by
  rw [actionsIn, read?_indented (isWritable_interpretation ..), Option.bind_some,
    at?_interpretation, Option.map_some, actionsDocument, Action.listOfDocument_reread]

/-! ### What is responded -/

/-- The actions lie in a response under `result`. -/
theorem at?_respond (id result : Document) :
    at? (respond id (.ok result)).reread ["result"] = some result.reread := by
  simp [respond, reread, rereadFields, setField, at?, field?, List.lookup_cons]

theorem actionsIn_respond {id : Document} {actions : List Action}
    (h : (respond id (.ok (actionsDocument actions))).isWritable = true) :
    actionsIn (respond id (.ok (actionsDocument actions))).compact ["result"] =
      some (Action.comeBack actions) := by
  rw [actionsIn, read?_compact h, Option.bind_some, at?_respond, Option.map_some, actionsDocument,
    Action.listOfDocument_reread]

/-! ### Validation -/

/-- **Printed actions validate back** into what an instruction asks for, if every number in them is
finite; so do those of a response. If a number is not, the list is refused for that number. -/
theorem actions_validate_back (instruction text : String)
    (h : requireInstruction (some instruction) = .ok text) :
    (∀ (s : Store) (file sheets : Option String) (names : List String), Lists s file sheets names →
      ∃ (e : Envelope) (printed : String),
        runInterpret s instruction file sheets = ⟨s, [.envelope e], [], 0⟩ ∧
        e.print = .ok printed ∧
        actionsIn printed ["result", "actions"] = some (Action.comeBack (interpret instruction names))) ∧
    (∀ (around : Surroundings) (settings : Settings) (s : Store) (line : String)
      (request args : Document) (names : List String),
      isBlank line = false → request? line = some request →
      (idOf request).depth < nestingLimit → Asks request args "interpret" instruction →
      Names s args names → ∃ response,
        (answerLine around settings s line).response = .ok (some response) ∧
        actionsIn response.compact ["result"] = some (Action.comeBack (interpret instruction names))) ∧
    (∀ names, Action.comeBack (interpret instruction names) = .ok (interpret instruction names) ↔
      ∀ a ∈ interpret instruction names, a.IsFinite) ∧
    ((Wording.of instruction).lower.length ≤ 308 → ∀ names,
      Action.comeBack (interpret instruction names) = .ok (interpret instruction names)) := by
  refine ⟨?_, ?_, fun names => Action.comeBack_eq_ok_iff, fun hlength names =>
    Action.comeBack_eq_ok_iff.mpr fun a ha => isFinite_of_mem_interpret hlength ha⟩
  · intro s file sheets names hnames
    exact ⟨_, _, runInterpret_eq h hnames, print_interpretation .., actionsIn_interpretation ..⟩
  · intro around settings s line request args names hb hr hid hasks hnames
    obtain ⟨response, hresponse, hwritable, rfl⟩ :=
      exists_response_interpret around settings hb hr hid hasks hnames h
    exact ⟨_, hresponse, actionsIn_respond hwritable⟩

/-- A request for the rows with more than seven of an item. -/
def sevenAsked : Document :=
  .object [("command", .text "interpret"),
    ("args", .object [("instruction", .text "keep rows where item > 7"),
      ("sheets", .list [.text "Stock"])])]

theorem request?_sevenAsked : request? sevenAsked.compact = some sevenAsked := by
  rw [request?, read?_compact (by decide +kernel)]
  simp [sevenAsked, reread, rereadFields, rereadItems, setField]

theorem actions_validate_back_seven :
    let instruction := "keep rows where item > 7"
    let around : Surroundings := ⟨"20240101_120000", [], "1"⟩
    requireInstruction (some instruction) = .ok instruction ∧
      (∃ (e : Envelope) (printed : String),
        runInterpret stockFolder instruction none (some "Stock, Sold") =
          ⟨stockFolder, [.envelope e], [], 0⟩ ∧
        e.print = .ok printed ∧ actionsIn printed ["result", "actions"] =
          some (.ok (interpret instruction ["Stock", "Sold"]))) ∧
      ∃ response,
        (answerLine around .standard stockFolder sevenAsked.compact).response =
          .ok (some response) ∧
        actionsIn response.compact ["result"] = some (.ok (interpret instruction ["Stock"])) := by
  intro instruction around
  have htext : requireInstruction (some instruction) = .ok instruction := by decide +kernel
  obtain ⟨hprinted, hresponded, -, hshort⟩ := actions_validate_back instruction instruction htext
  have hback := hshort (by decide +kernel)
  refine ⟨htext, ?_, ?_⟩
  · rw [← hback]
    have hnames : ["Stock", "Sold"] = namesIn "Stock, Sold" := by decide +kernel
    exact hprinted stockFolder none (some "Stock, Sold") _ hnames
  · rw [← hback]
    exact hresponded around .standard stockFolder _ sevenAsked _ _ (by decide +kernel)
      request?_sevenAsked (by decide +kernel) ⟨rfl, rfl, rfl⟩
      ⟨[.text "Stock"], rfl, .inr ⟨rfl, rfl⟩⟩

/-! ### Numbers that are lost -/

/-- If printed actions come back, then every number in them is finite. -/
theorem isFinite_of_comes_back {s : Store} {instruction text printed : String}
    {file sheets : Option String} {names : List String} {e : Envelope}
    (h : requireInstruction (some instruction) = .ok text) (hnames : Lists s file sheets names)
    (hrun : runInterpret s instruction file sheets = ⟨s, [.envelope e], [], 0⟩)
    (hprint : e.print = .ok printed)
    (hback : actionsIn printed ["result", "actions"] = some (.ok (interpret instruction names))) :
    ∀ a ∈ interpret instruction names, a.IsFinite := by
  have hsame := hrun.symm.trans (runInterpret_eq h hnames)
  obtain rfl : e = interpretation instruction names file := by
    injection hsame with _ hprinted
    injection hprinted with henvelope
    injection henvelope
  obtain rfl := Except.ok.inj ((print_interpretation ..).symm.trans hprint)
  rw [actionsIn_interpretation] at hback
  exact Action.comeBack_eq_ok_iff.mp (Option.some.inj hback)

/-- A canonical phrase that is short enough can be used. -/
theorem exists_requireInstruction_phrase {a : Amount}
    (h : (a.phrase .english).toList.length ≤ Failure.instructionLimit) :
    ∃ text, requireInstruction (some (a.phrase .english)) = .ok text := by
  refine exists_requireInstruction (fun hwords => ?_) h
  have htyped : Text.collapse (a.phrase .english).toList = (a.phrase .english).toList :=
    congrArg Wording.typed (a.wording_phrase .english)
  have hlength := a.length_phrase
  rw [← htyped, Text.collapse, hwords, Text.join, List.length_nil] at hlength
  omega

/-- A filter by a number beyond the range. -/
def beyond : Amount := ⟨⟨['x'], [], by decide⟩, .symbol .greater, (10 ^ 309 : Nat)⟩

theorem length_beyond : (beyond.phrase .english).toList.length ≤ Failure.instructionLimit := by
  have hdigits : (Numeral.written beyond.number).length ≤ 311 :=
    Numeral.length_written_le (by decide) (by decide +kernel : 10 ^ 309 < 10 ^ 310)
  rw [Amount.length_phrase]
  exact Nat.le_trans (Nat.add_le_add_left hdigits _) (by decide)

/-- A filter by a number beyond the range does not come back. -/
theorem not_all_actions_validate_back :
    ¬ ∀ (instruction text : String) (s : Store) (file sheets : Option String)
      (names : List String), requireInstruction (some instruction) = .ok text →
      Lists s file sheets names → ∃ (e : Envelope) (printed : String),
        runInterpret s instruction file sheets = ⟨s, [.envelope e], [], 0⟩ ∧
        e.print = .ok printed ∧
        actionsIn printed ["result", "actions"] = some (.ok (interpret instruction names)) := by
  intro hall
  obtain ⟨text, htext⟩ := exists_requireInstruction_phrase length_beyond
  have hnames : Lists stockFolder none none [] := rfl
  obtain ⟨e, printed, hrun, hprint, hback⟩ := hall _ text _ none none [] htext hnames
  have hfinite := isFinite_of_comes_back htext hnames hrun hprint hback
  rw [beyond.interpret_amount] at hfinite
  exact beyond.not_isFinite_of_large (by decide +kernel : 2 ^ 1024 ≤ 10 ^ 309) _
    (hfinite _ (List.mem_singleton_self _))

end SheetCommand.CommandLine
