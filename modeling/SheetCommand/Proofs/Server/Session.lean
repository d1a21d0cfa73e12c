import SheetCommand.Proofs.Server.Results

/-!
# Server — sessions

A session answers its lines in order, one response for each line that is not blank, and a request
that fails is answered with its code. Three things stop it: a command that is a list or an object is
looked up before anything is guarded, and a response is written after, which fails for an id that is
nested too deep and for a result with an integer beyond 64 bits (`Unanswerable`).

* `answerLine_cases`: one line has no response, or its response, or stops the server.
* `lines_answered_while_answerable`: a session goes on exactly as long as its lines are answerable,
  and has answered every line before the one that it stops at.
-/

namespace SheetCommand.Server

open Document

/-! ### Requests and their outcomes -/

/-- The request that a line holds, if it holds one. -/
def request? (line : String) : Option Document :=
  match read? line with
  | some (object fields) => some (object fields)
  | _ => none

def idOf (request : Document) : Document := (request.field? "id").getD (.text "")

def commandOf (request : Document) : Document := (request.field? "command").getD (.text "")

/-- Lists and objects cannot be looked up among the commands. -/
def isNested : Document → Bool
  | list _ | object _ => true
  | _ => false

/-- What comes of a request: a result, or the code and the message of its failure. -/
def outcome (around : Surroundings) (settings : Settings) (s : Store) (request : Document) :
    Except (ErrorCode × String) Document :=
  match Operation.ofName? (commandOf request).shown with
  | none => .error (.usage, "Unknown command: " ++ (commandOf request).shown)
  | some operation =>
    match argumentsOf request with
    | .error e => .error (e.code, e.message)
    | .ok args =>
      (operation.run around settings s args).result.mapError fun e => (e.code, e.message)

/-- The response with an outcome: a result, or `false` under `ok`, the code and the message. -/
def respond (id : Document) : Except (ErrorCode × String) Document → Document
  | .ok result => .object [("id", id), ("ok", .bool true), ("result", result)]
  | .error (code, message) => .object (("id", id) :: failureFields code message)

def isBlank (line : String) : Bool := (Text.trim line.toList).isEmpty

/-- The response to a line that is not blank. -/
inductive Replied (around : Surroundings) (settings : Settings) (s : Store) (line : String) :
    Document → Prop where
  | unreadable (message : String) (h : request? line = none) :
      Replied around settings s line (.object (failureFields .usage message))
  | request {request : Document} (h : request? line = some request) :
      Replied around settings s line (respond (idOf request) (outcome around settings s request))

/-- The requests that stop the server. -/
inductive Unanswerable (around : Surroundings) (settings : Settings) (s : Store) (line : String) :
    Prop where
  | command {request : Document} (hblank : isBlank line = false) (hr : request? line = some request)
      (hc : isNested (commandOf request) = true)
  | id {request : Document} (hblank : isBlank line = false) (hr : request? line = some request)
      (hid : nestingLimit ≤ (idOf request).depth)
  | result {request result : Document} (hblank : isBlank line = false)
      (hr : request? line = some request) (ho : outcome around settings s request = .ok result)
      (hresult : result.intsFit = false)

variable {around : Surroundings} {settings : Settings} {s : Store} {line : String}
  {request : Document}

/-! ### One line -/

theorem responseOf_eq_respond (id : Document) (result : Except Failure Document) :
    responseOf id result = respond id (result.mapError fun e => (e.code, e.message)) := by
  cases result <;> rfl

theorem answerRequest_of_isNested (around : Surroundings) (settings : Settings) (s : Store)
    (h : isNested (commandOf request) = true) :
    (answerRequest around settings s request).response = .error .wrongType := by
  have hc : (request.field? "command").getD (.text "") = commandOf request := rfl
  unfold answerRequest
  simp only [hc]
  generalize commandOf request = command at h ⊢
  split
  · rfl
  · rfl
  · rename_i hlist hobject
    cases command with
    | list items => exact absurd rfl (hlist items)
    | object fields => exact absurd rfl (hobject fields)
    | _ => cases h

theorem answerRequest_of_not_isNested (around : Surroundings) (settings : Settings) (s : Store)
    (h : isNested (commandOf request) = false) :
    (answerRequest around settings s request).response =
      written (respond (idOf request) (outcome around settings s request)) := by
  have hc : (request.field? "command").getD (.text "") = commandOf request := rfl
  have hid : (request.field? "id").getD (.text "") = idOf request := rfl
  unfold answerRequest outcome
  simp only [hc, hid]
  generalize commandOf request = command at h ⊢
  split
  · cases h
  · cases h
  · -- every other command is looked up by its shown form
    cases Operation.ofName? command.shown with
    | none => rfl
    | some operation =>
      cases argumentsOf request with
      | error e => rfl
      | ok args => exact congrArg written (responseOf_eq_respond ..)

/-- The id of a request that has been read holds no integer beyond 64 bits. -/
theorem intsFit_idOf (h : request? line = some request) : (idOf request).intsFit = true := by
  unfold request? at h
  split at h
  · rename_i fields hread
    cases h
    have hfields : fieldsIntsFit fields = true := intsFit_of_read? hread
    rw [idOf, field?]
    cases hid : fields.lookup "id" with
    | none => rfl
    | some id => exact intsFit_of_lookup hfields hid
  · cases h

theorem depth_le_of_outcome {result : Document}
    (h : outcome around settings s request = .ok result) : result.depth ≤ 5 := by
  unfold outcome at h
  split at h
  · cases h
  · split at h
    · cases h
    · exact depth_le_of_run (mapError_eq_ok_iff.mp h)

theorem intsFit_respond_ok (id result : Document) :
    (respond id (.ok result)).intsFit = (id.intsFit && result.intsFit) := by
  simp [respond, intsFit, fieldsIntsFit]

theorem depth_respond_ok (id result : Document) :
    (respond id (.ok result)).depth = max id.depth result.depth + 1 := by
  simp [respond, depth, fieldsDepth]

theorem intsFit_respond_error (id : Document) (failure : ErrorCode × String) :
    (respond id (.error failure)).intsFit = id.intsFit := by
  simp [respond, failureFields, intsFit, fieldsIntsFit]

theorem depth_respond_error (id : Document) (failure : ErrorCode × String) :
    (respond id (.error failure)).depth = id.depth + 1 := by
  simp [respond, failureFields, depth, fieldsDepth]

/-- A response can be written if its id is not too deep and its result holds no wide integer. -/
theorem isWritable_respond_iff (h : request? line = some request) :
    (respond (idOf request) (outcome around settings s request)).isWritable = true ↔
      (idOf request).depth < nestingLimit ∧
        ∀ result, outcome around settings s request = .ok result → result.intsFit = true := by
  have hid := intsFit_idOf h
  rw [isWritable_iff]
  cases ho : outcome around settings s request with
  | error failure =>
    rw [intsFit_respond_error, depth_respond_error, and_iff_right hid]
    constructor
    · intro hdepth
      refine ⟨hdepth, ?_⟩
      rintro result ⟨⟩
    · exact And.left
  | ok result =>
    have hdepth := depth_le_of_outcome ho
    have hlimit : nestingLimit = 254 := rfl
    rw [intsFit_respond_ok, depth_respond_ok, hid, Bool.true_and]
    constructor
    · rintro ⟨hresult, hmax⟩
      refine ⟨by omega, ?_⟩
      rintro _ ⟨⟩
      exact hresult
    · rintro ⟨hdeep, hresult⟩
      exact ⟨hresult _ rfl, by omega⟩

theorem answerLine_of_request (hb : isBlank line = false) (hr : request? line = some request) :
    answerLine around settings s line = answerRequest around settings s request := by
  unfold request? at hr
  unfold answerLine
  split at hr
  · rename_i fields hread
    cases hr
    rw [if_neg (by rw [← isBlank, hb]; decide), hread]
  · cases hr

theorem exists_answerLine_of_none (around : Surroundings) (settings : Settings) (s : Store)
    (hb : isBlank line = false) (hr : request? line = none) :
    ∃ message, answerLine around settings s line =
      ⟨s, [], .ok (some (.object (failureFields .usage message)))⟩ := by
  unfold request? at hr
  unfold answerLine
  rw [if_neg (by rw [← isBlank, hb]; decide)]
  split at hr
  · cases hr
  · rename_i hread
    split
    · exact ⟨_, rfl⟩
    · rename_i fields h
      exact absurd h (hread fields)
    · exact ⟨_, rfl⟩

/-- A request stops the server exactly if its command is nested or its response cannot be written.
-/
theorem unanswerable_iff (hb : isBlank line = false) (hr : request? line = some request) :
    Unanswerable around settings s line ↔ isNested (commandOf request) = true ∨
      (respond (idOf request) (outcome around settings s request)).isWritable = false := by
  rw [← Bool.not_eq_true, isWritable_respond_iff hr]
  constructor
  · intro h
    cases h with
    | command _ hr' hc => rw [hr] at hr'; cases hr'; exact .inl hc
    | id _ hr' hid =>
      rw [hr] at hr'
      cases hr'
      exact .inr fun h => absurd h.1 (Nat.not_lt.mpr hid)
    | result _ hr' ho hresult =>
      rw [hr] at hr'
      cases hr'
      exact .inr fun h => absurd (h.2 _ ho) (by rw [hresult]; decide)
  · rintro (hc | hw)
    · exact .command hb hr hc
    · rcases Nat.lt_or_ge (idOf request).depth nestingLimit with hid | hid
      · have : ∃ result, outcome around settings s request = .ok result ∧
            ¬ result.intsFit = true := by
          simpa [hid] using hw
        obtain ⟨result, ho, hresult⟩ := this
        exact .result hb hr ho (Bool.eq_false_iff.mpr hresult)
      · exact .id hb hr hid

/-- One line has no response, or its response, or it stops the server. -/
theorem answerLine_cases (around : Surroundings) (settings : Settings) (s : Store) (line : String) :
    let answer := answerLine around settings s line
    (isBlank line = true ∧ ¬ Unanswerable around settings s line ∧ answer = ⟨s, [], .ok none⟩) ∨
      (isBlank line = false ∧ ¬ Unanswerable around settings s line ∧
        ∃ response, Replied around settings s line response ∧
          answer.response = .ok (some response)) ∨
      (Unanswerable around settings s line ∧ answer.response = .error .wrongType) := by
  dsimp only
  cases hb : isBlank line with
  | true =>
    refine .inl ⟨rfl, fun hu => ?_, answerLine_of_blank hb ..⟩
    rcases hu with ⟨h, _, _⟩ | ⟨h, _, _⟩ | ⟨h, _, _, _⟩ <;> rw [hb] at h <;> cases h
  | false =>
    right
    cases hr : request? line with
    | none =>
      obtain ⟨message, h⟩ := exists_answerLine_of_none around settings s hb hr
      refine .inl ⟨rfl, fun hu => ?_, _, .unreadable message hr, by rw [h]⟩
      rcases hu with ⟨_, h, _⟩ | ⟨_, h, _⟩ | ⟨_, h, _, _⟩ <;> rw [hr] at h <;> cases h
    | some request =>
      rw [answerLine_of_request hb hr, unanswerable_iff hb hr]
      cases hc : isNested (commandOf request) with
      | true => exact .inr ⟨.inl rfl, answerRequest_of_isNested around settings s hc⟩
      | false =>
        rw [answerRequest_of_not_isNested around settings s hc, written]
        cases hw : (respond (idOf request) (outcome around settings s request)).isWritable with
        | true => exact .inl ⟨rfl, by simp, _, .request hr, rfl⟩
        | false => exact .inr ⟨.inr rfl, rfl⟩

/-! ### Sessions -/

/-- Whether every line can be answered when it is its turn. -/
def AllAnswerable (around : Surroundings) (settings : Settings) : List String → Store → Prop
  | [], _ => True
  | line :: rest, s => ¬ Unanswerable around settings s line ∧
      AllAnswerable around settings rest (answerLine around settings s line).store

/-- Lines are served with their responses, in order, and lead from one store to another. -/
inductive Served (around : Surroundings) (settings : Settings) :
    Store → List String → List Document → Store → Prop where
  | nil (s : Store) : Served around settings s [] [] s
  | blank {s left : Store} {line : String} {rest : List String} {responses : List Document}
      (hb : isBlank line = true) (h : Served around settings s rest responses left) :
      Served around settings s (line :: rest) responses left
  | reply {s left : Store} {line : String} {rest : List String} {response : Document}
      {responses : List Document} (hb : isBlank line = false)
      (hd : Replied around settings s line response)
      (h : Served around settings (answerLine around settings s line).store rest responses left) :
      Served around settings s (line :: rest) (response :: responses) left

/-- **Sessions.** A session goes on to the end of its lines exactly if every line can be answered at
its turn. In any case it has answered the lines before the one that it stops at, each one that is
not blank with one response, in order. -/
theorem lines_answered_while_answerable (around : Surroundings) (settings : Settings)
    (lines : List String) (s : Store) :
    let session := answerLines around settings lines s
    (session.stopped = none ↔ AllAnswerable around settings lines s) ∧
      ∃ answered rest left, lines = answered ++ rest ∧
        AllAnswerable around settings answered s ∧
        Served around settings s answered session.responses left ∧
        (rest = [] ∧ session.stopped = none ∧ session.store = left ∨
          ∃ line later, rest = line :: later ∧ Unanswerable around settings left line ∧
            session.stopped = some .wrongType) := by
  induction lines generalizing s with
  | nil =>
    exact ⟨⟨fun _ => trivial, fun _ => rfl⟩, [], [], s, rfl, trivial, .nil s,
      .inl ⟨rfl, rfl, rfl⟩⟩
  | cons line lines ih =>
    simp only [answerLines]
    rcases answerLine_cases around settings s line with
      ⟨hb, hu, h⟩ | ⟨hb, hu, response, hd, h⟩ | ⟨hu, h⟩
    · obtain ⟨hiff, answered, rest, left, hl, ha, hs, hend⟩ := ih s
      rw [h]
      refine ⟨?_, line :: answered, rest, left, congrArg (line :: ·) hl, ?_, .blank hb hs, hend⟩
      · rw [AllAnswerable, h]
        exact hiff.trans (and_iff_right hu).symm
      · rw [AllAnswerable, h]
        exact ⟨hu, ha⟩
    · obtain ⟨hiff, answered, rest, left, hl, ha, hs, hend⟩ :=
        ih (answerLine around settings s line).store
      rw [h]
      exact ⟨hiff.trans (and_iff_right hu).symm, line :: answered, rest, left,
        congrArg (line :: ·) hl, ⟨hu, ha⟩, .reply hb hd hs, hend⟩
    · rw [h]
      refine ⟨⟨fun hstop => ?_, fun hall => absurd hu hall.1⟩, [], line :: lines, s, rfl, trivial,
        .nil s, .inr ⟨line, lines, rfl, hu, rfl⟩⟩
      cases hstop

/-- A request with a list for its command, before one that could be answered. -/
def nestedCommand : List String := ["\x7b\"id\": 1, \"command\": []\x7d", "\x7b\"id\": 2\x7d"]

/-- A server that has been given a nested command answers nothing more. -/
theorem not_every_line_answered :
    ¬ ∀ (around : Surroundings) (settings : Settings) (lines : List String) (s : Store),
      let session := answerLines around settings lines s
      session.stopped = none ∧
        session.responses.length = (lines.filter fun line => !isBlank line).length := by
  intro h
  have hstopped := (h ⟨"", [], ""⟩ .standard nestedCommand (.ofEntries [] [])).1
  revert hstopped
  decide +kernel

end SheetCommand.Server
