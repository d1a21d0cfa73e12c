import SheetCommand.Proofs.CommandLine.Interpretation
import SheetCommand.Proofs.Server.Session

/-!
# Server — requests with an instruction

A request carries its instruction among its arguments, whatever else it holds (`Asks`). What it names
as sheets are the titles of its file, or else the names that it lists (`Names`). With an instruction
that can be used and with sheets, a request to interpret succeeds (`Asks.outcome_interpret`), and the
server responds with the actions (`exists_response_interpret`).
-/

namespace SheetCommand.Server

open Document

/-- A request of a command for an instruction. -/
structure Asks (request args : Document) (command instruction : String) : Prop where
  named : request.field? "command" = some (.text command)
  carries : argumentsOf request = .ok args
  instructs : args.given? "instruction" = some (.text instruction)

/-- The sheets that the arguments of a request name. -/
def Names (s : Store) (args : Document) (names : List String) : Prop :=
  ∃ listed, listedNames args = .ok listed ∧
    ((∃ path w, path? args "file" = .ok (some path) ∧ s.openWorkbook path = .ok w ∧
        names = w.titles) ∨
      path? args "file" = .ok none ∧ usableNames listed = (names, false))

variable {around : Surroundings} {settings : Settings} {s : Store} {line : String}
  {request args : Document} {command instruction text : String} {names : List String}

namespace Asks

theorem commandOf_eq (h : Asks request args command instruction) :
    commandOf request = .text command := by
  rw [commandOf, h.named]
  rfl

theorem outcome_eq (h : Asks request args command instruction) (operation : Operation)
    (hname : Operation.ofName? command = some operation) : outcome around settings s request =
      (operation.run around settings s args).result.mapError fun e => (e.code, e.message) := by
  have hcommand : (commandOf request).shown = command := by
    rw [h.commandOf_eq]
    rfl
  rw [outcome, hcommand, hname, h.carries]

theorem instruction_eq (h : Asks request args command instruction) :
    Server.instruction args = requireInstruction (some instruction) := by
  rw [Server.instruction, h.instructs]

end Asks

/-! ### Requests to interpret -/

theorem interpretRequest_eq (hinstruction : Server.instruction args = .ok text)
    (hnames : Names s args names) :
    interpretRequest s args = .ok (actionsDocument (interpret text names)) := by
  obtain ⟨listed, hlisted, hsheets⟩ := hnames
  rw [interpretRequest, hinstruction, hlisted]
  rcases hsheets with ⟨path, w, hpath, hopen, rfl⟩ | ⟨hpath, husable⟩
  · rw [hpath]
    show (s.openWorkbook path >>= fun w => _) = _
    rw [hopen]
    rfl
  · have hactions : interpretListed text listed = .ok (interpret text names) := by
      rw [interpretListed, husable]
      rfl
    rw [hpath]
    show (interpretListed text listed >>= fun actions => _) = _
    rw [hactions]
    rfl

theorem Asks.outcome_interpret (h : Asks request args "interpret" instruction)
    (hnames : Names s args names) (htext : requireInstruction (some instruction) = .ok text) :
    outcome around settings s request = .ok (actionsDocument (interpret instruction names)) := by
  rw [h.outcome_eq .interpret rfl, Operation.run,
    interpretRequest_eq (h.instruction_eq.trans htext) hnames, interpret_of_requireInstruction htext]
  rfl

/-- **A request to interpret** is responded to with the actions for its instruction. -/
theorem exists_response_interpret (around : Surroundings) (settings : Settings)
    (hb : isBlank line = false) (hr : request? line = some request)
    (hid : (idOf request).depth < nestingLimit) (h : Asks request args "interpret" instruction)
    (hnames : Names s args names) (htext : requireInstruction (some instruction) = .ok text) :
    ∃ response, (answerLine around settings s line).response = .ok (some response) ∧
      response.isWritable = true ∧
      response = respond (idOf request) (.ok (actionsDocument (interpret instruction names))) := by
  have houtcome : outcome around settings s request = _ := h.outcome_interpret hnames htext
  have hcommand : isNested (commandOf request) = false := by
    rw [h.commandOf_eq]
    rfl
  have hwritable : (respond (idOf request)
      (.ok (actionsDocument (interpret instruction names)))).isWritable = true := by
    rw [← houtcome, isWritable_respond_iff hr, houtcome]
    refine ⟨hid, ?_⟩
    rintro result ⟨⟩
    exact intsFit_actionsDocument _
  refine ⟨_, ?_, hwritable, rfl⟩
  rw [answerLine_of_request hb hr, answerRequest_of_not_isNested around settings s hcommand,
    houtcome, written, if_pos hwritable]

end SheetCommand.Server
