import SheetCommand.Proofs.Bytes.Base64
import SheetCommand.Proofs.Document.RoundTrip
import SheetCommand.Proofs.Server.Session

/-!
# Server — uploads

A request to transform may carry its workbook in base64 under `data`. What stands there is decoded
before anything else is done: a value that says nothing is a missing document, and one that is not
in base64 is an argument that cannot be used. One kind of value escapes this: a text with a
character beyond ASCII fails as an internal error (`not_every_upload_refused`).

* `payload_of_isForeign`, …: what a value under `data` holds.
* `uploads_answered`: the response to each value, and what a text in base64 leads to.
-/

namespace SheetCommand.Server

open Document

/-- A request to transform what it carries under `data`. -/
structure Uploads (request args data : Document) : Prop where
  named : request.field? "command" = some (.text "transform")
  carries : argumentsOf request = .ok args
  holds : args.field? "data" = some data

/-! ### Values -/

/-- A text with a character beyond ASCII. -/
def IsForeign : Document → Prop
  | .text s => ∃ c ∈ s.toList, 128 ≤ c.toNat
  | _ => False

/-- A text in base64 that says something. -/
def IsEncoded : Document → Prop
  | .text s => s ≠ "" ∧ Base64.IsStrict s.toList
  | _ => False

variable {data : Document}

theorem isForeign_text_iff {s : String} :
    IsForeign (.text s) ↔ (s.toList.any fun c => 128 ≤ c.toNat) = true := by
  simp [IsForeign]

instance : DecidablePred IsForeign := fun d =>
  match d with
  | .text _ => decidable_of_iff _ isForeign_text_iff.symm
  | .null | .bool _ | .int _ | .real _ | .moment _ | .list _ | .object _ =>
    inferInstanceAs (Decidable False)

instance : DecidablePred IsEncoded := fun d =>
  match d with
  | .text _ => inferInstanceAs (Decidable (_ ∧ _))
  | .null | .bool _ | .int _ | .real _ | .moment _ | .list _ | .object _ =>
    inferInstanceAs (Decidable False)

theorem payload_of_not_isGiven (h : data.isGiven = false) : payload data = .ok none := by
  cases data with
  | text s =>
    have hs : s.isEmpty = true := by simpa [isGiven] using h
    rw [payload, if_pos hs]
  | _ => simp [payload, h]

theorem payload_of_isForeign (h : IsForeign data) : payload data = .error .malformed := by
  cases data with
  | text s =>
    have hs : ¬ s.isEmpty = true := by
      rw [String.isEmpty_iff]
      rintro rfl
      exact absurd (isForeign_text_iff.mp h) (by decide)
    rw [payload, if_neg hs, if_pos (isForeign_text_iff.mp h)]
  | _ => exact h.elim

theorem payload_of_not_isEncoded (hgiven : data.isGiven = true) (hforeign : ¬ IsForeign data)
    (h : ¬ IsEncoded data) : payload data = .error .payloadUnreadable := by
  cases data with
  | text s =>
    have hs : s.isEmpty = false := by simpa [isGiven] using hgiven
    have hdecode : Base64.decode? s.toList = none := by
      rw [← Option.not_isSome_iff_eq_none, Base64.isSome_decode?_iff]
      exact fun hstrict => h ⟨String.isEmpty_eq_false_iff.mp hs, hstrict⟩
    rw [payload, if_neg (Bool.eq_false_iff.mp hs), if_neg (isForeign_text_iff.not.mp hforeign),
      hdecode]
  | _ => simp [payload, hgiven]

theorem exists_payload_of_isEncoded (h : IsEncoded data) :
    ∃ text bytes, data = .text text ∧ Base64.decode? text.toList = some bytes ∧ bytes ≠ [] ∧
      payload data = .ok (some (.ofBytes bytes)) := by
  cases data with
  | text s =>
    obtain ⟨hs, hstrict⟩ := h
    obtain ⟨bytes, hbytes⟩ := Option.isSome_iff_exists.mp (Base64.isSome_decode?_iff.mpr hstrict)
    refine ⟨s, bytes, rfl, hbytes, ?_, ?_⟩
    · rintro rfl
      exact hs (String.toList_eq_nil_iff.mp (Base64.decode?_eq_nil_iff.mp hbytes))
    · have hascii : ¬ (s.toList.any fun c => 128 ≤ c.toNat) = true := by
        simpa using fun c hc => hstrict.lt hc
      rw [payload, if_neg (String.isEmpty_iff.not.mpr hs), if_neg hascii, hbytes]
  | _ => exact h.elim

/-! ### Answers -/

/-- The answer that refuses a request and leaves the files as they are. -/
def refusal (s : Store) (request : Document) (code : ErrorCode) (message : String) : Answer :=
  ⟨s, [], .ok (some (respond (idOf request) (.error (code, message))))⟩

/-- The answer that comes of transforming a payload by the instruction of a request. -/
def transformation (around : Surroundings) (settings : Settings) (s : Store)
    (request args : Document) (payload : Payload) : Answer :=
  let reported := Transform.onPayload settings.protectedSheets (some payload) (instruction args)
  let emitter :=
    Emitter.forRequest settings.emitEvents around.requestId (some (idOf request).shown)
  ⟨s, emitter.lines reported.events,
    written (responseOf (idOf request) (reported.result.map payloadResult))⟩

variable {around : Surroundings} {settings : Settings} {s : Store} {line : String}
  {request args : Document}

theorem isWritable_respond_error (hr : request? line = some request)
    (hid : (idOf request).depth < nestingLimit) (failure : ErrorCode × String) :
    (respond (idOf request) (.error failure)).isWritable = true := by
  rw [isWritable_iff, intsFit_respond_error, depth_respond_error]
  exact ⟨intsFit_idOf hr, hid⟩

theorem answerRequest_of_uploads (h : Uploads request args data) :
    answerRequest around settings s request =
      let run := transformRequest around settings s args
      let emitter :=
        Emitter.forRequest settings.emitEvents around.requestId (some (idOf request).shown)
      ⟨run.store, emitter.lines run.events, written (responseOf (idOf request) run.result)⟩ := by
  have hcommand : (request.field? "command").getD (.text "") = .text "transform" := by
    rw [h.named]
    rfl
  have hname : Operation.ofName? (Document.text "transform").shown = some .transform := by decide
  rw [answerRequest, hcommand]
  simp only [hname, h.carries]
  rfl

theorem lines_nil (emitter : Emitter) : emitter.lines [] = [] := by
  simp [Emitter.lines]

/-- A transformation that fails before it has begun refuses the request. -/
theorem answerLine_of_transformRequest (hb : isBlank line = false)
    (hr : request? line = some request) (hid : (idOf request).depth < nestingLimit)
    (h : Uploads request args data) {e : Failure}
    (hrun : transformRequest around settings s args = ⟨s, [], .error e⟩) :
    answerLine around settings s line = refusal s request e.code e.message := by
  have hwritable := isWritable_respond_error hr hid (e.code, e.message)
  rw [answerLine_of_request hb hr, answerRequest_of_uploads h, hrun]
  simp only [lines_nil, responseOf_eq_respond, Except.mapError, written, hwritable, if_true,
    refusal]

theorem answerLine_of_payload_error (hb : isBlank line = false) (hr : request? line = some request)
    (hid : (idOf request).depth < nestingLimit) (h : Uploads request args data) {e : Failure}
    (he : payload data = .error e) :
    answerLine around settings s line = refusal s request e.code e.message := by
  refine answerLine_of_transformRequest hb hr hid h ?_
  rw [transformRequest, h.holds]
  simp only [he]

theorem answerLine_of_payload_none (hb : isBlank line = false) (hr : request? line = some request)
    (hid : (idOf request).depth < nestingLimit) (h : Uploads request args data)
    (hnone : payload data = .ok none) : answerLine around settings s line =
      refusal s request Failure.uploadMissing.code Failure.uploadMissing.message := by
  refine answerLine_of_transformRequest hb hr hid h ?_
  rw [transformRequest, h.holds]
  simp only [hnone, Transform.onPayload, Option.filter_none]
  rfl

theorem answerLine_of_payload_some (hb : isBlank line = false) (hr : request? line = some request)
    (h : Uploads request args data) {p : Payload} (hp : payload data = .ok (some p)) :
    answerLine around settings s line = transformation around settings s request args p := by
  have hrun : transformRequest around settings s args =
      let reported := Transform.onPayload settings.protectedSheets (some p) (instruction args)
      ⟨s, reported.events, reported.result.map payloadResult⟩ := by
    rw [transformRequest, h.holds]
    simp only [hp]
  rw [answerLine_of_request hb hr, answerRequest_of_uploads h, hrun, transformation]

/-! ### Uploads -/

/-- Any bytes may be uploaded: the text that they are written as is transformed as these bytes. -/
theorem answerLine_of_encode (hb : isBlank line = false) (hr : request? line = some request)
    {bytes : List UInt8} (hbytes : bytes ≠ [])
    (h : Uploads request args (.text (.ofList (Base64.encode bytes)))) :
    answerLine around settings s line =
      transformation around settings s request args (.ofBytes bytes) := by
  have hdecode := Base64.decode?_encode bytes
  have hencoded : IsEncoded (.text (.ofList (Base64.encode bytes))) := by
    refine ⟨fun hempty => ?_, ?_⟩
    · rw [← String.toList_eq_nil_iff, String.toList_ofList, ← Base64.decode?_eq_nil_iff,
        hdecode] at hempty
      exact hbytes (Option.some.inj hempty)
    · rw [String.toList_ofList, ← Base64.isSome_decode?_iff, hdecode]
      rfl
  obtain ⟨text, decoded, htext, hdecoded, -, hp⟩ := exists_payload_of_isEncoded hencoded
  obtain rfl := Document.text.inj htext
  rw [String.toList_ofList, hdecode] at hdecoded
  obtain rfl := Option.some.inj hdecoded
  exact answerLine_of_payload_some hb hr h hp

/-- **Uploads.** What a request carries under `data` decides about the response. If it says nothing
the document is missing; if it has a character beyond ASCII the failure is internal; if it is
anything else that is not in base64 the argument cannot be used. The files stay as they are in each
of these cases. What is in base64 says something and is transformed. -/
theorem uploads_answered (around : Surroundings) (settings : Settings) (s : Store)
    (hb : isBlank line = false) (hr : request? line = some request) (h : Uploads request args data)
    (hid : (idOf request).depth < nestingLimit) :
    let answer := answerLine around settings s line
    (data.isGiven = false → answer = refusal s request .missingDocument "No file uploaded") ∧
    (data.isGiven = true → ¬ IsForeign data → ¬ IsEncoded data →
      answer = refusal s request .invalidArgument "Invalid base64 'data'") ∧
    (IsForeign data → ∃ message, answer = refusal s request .internal message) ∧
    (IsEncoded data → ∃ text bytes, data = .text text ∧
      Base64.decode? text.toList = some bytes ∧ bytes ≠ [] ∧
      answer = transformation around settings s request args (.ofBytes bytes)) := by
  refine ⟨fun hgiven => ?_, fun hgiven hforeign hencoded => ?_, fun hforeign => ?_,
    fun hencoded => ?_⟩
  · exact answerLine_of_payload_none hb hr hid h (payload_of_not_isGiven hgiven)
  · exact answerLine_of_payload_error hb hr hid h
      (payload_of_not_isEncoded hgiven hforeign hencoded)
  · exact ⟨_, answerLine_of_payload_error hb hr hid h (payload_of_isForeign hforeign)⟩
  · obtain ⟨text, bytes, htext, hdecode, hbytes, hp⟩ := exists_payload_of_isEncoded hencoded
    exact ⟨text, bytes, htext, hdecode, hbytes, answerLine_of_payload_some hb hr h hp⟩

/-- A request to transform what a text stands for. -/
def upload (data : String) : Document :=
  .object [("id", .int 1), ("command", .text "transform"), ("args", .object [("data", .text data)])]

theorem request?_upload (data : String) : request? (upload data).compact = some (upload data) := by
  rw [request?, read?_compact rfl]
  simp [upload, reread, rereadFields, setField]

theorem uploads_upload (data : String) :
    Uploads (upload data) (.object [("data", .text data)]) (.text data) :=
  ⟨rfl, rfl, rfl⟩

/-- Two bytes in base64 lack a letter, which padding makes up for. -/
theorem uploads_answered_unpadded :
    let around : Surroundings := ⟨"20240101_120000", [], "1"⟩
    let s := Store.ofEntries [] []
    answerLine around .standard s (upload "").compact =
        refusal s (upload "") .missingDocument "No file uploaded" ∧
      answerLine around .standard s (upload "YWI").compact =
        refusal s (upload "YWI") .invalidArgument "Invalid base64 'data'" ∧
      ∃ text bytes, Document.text "YWI=" = .text text ∧
        Base64.decode? text.toList = some bytes ∧ bytes ≠ [] ∧
        answerLine around .standard s (upload "YWI=").compact =
          transformation around .standard s (upload "YWI=") (.object [("data", .text "YWI=")])
            (.ofBytes bytes) := by
  intro around s
  refine ⟨?_, ?_, ?_⟩
  · exact (uploads_answered around .standard s (by decide +kernel) (request?_upload "")
      (uploads_upload "") (by decide)).1 (by decide)
  · exact (uploads_answered around .standard s (by decide +kernel) (request?_upload "YWI")
      (uploads_upload "YWI") (by decide)).2.1 (by decide) (by decide) (by decide +kernel)
  · exact (uploads_answered around .standard s (by decide +kernel) (request?_upload "YWI=")
      (uploads_upload "YWI=") (by decide)).2.2.2 (by decide +kernel)

/-- A text that is not in base64 is not always refused as an argument: `é` is an internal error. -/
theorem not_every_upload_refused :
    ¬ ∀ (around : Surroundings) (settings : Settings) (s : Store) (line : String)
      (request args data : Document), isBlank line = false → request? line = some request →
        Uploads request args data → (idOf request).depth < nestingLimit → data.isGiven = true →
        ¬ IsEncoded data → ∃ message,
          answerLine around settings s line = refusal s request .invalidArgument message := by
  intro h
  have hforeign : IsForeign (.text "é") := by decide
  have hb : isBlank (upload "é").compact = false := by decide +kernel
  obtain ⟨message, hrefusal⟩ := h ⟨"", [], ""⟩ .standard (.ofEntries [] []) _ _ _ _ hb
    (request?_upload "é") (uploads_upload "é") (by decide) (by decide) (by decide)
  rw [answerLine_of_payload_error hb (request?_upload "é") (by decide) (uploads_upload "é")
    (payload_of_isForeign hforeign)] at hrefusal
  have hcode : Failure.malformed.code.name = ErrorCode.invalidArgument.name ∧
      Failure.malformed.message = message := by
    simpa [refusal, respond, failureFields] using hrefusal
  exact absurd hcode.1 (by decide)

end SheetCommand.Server
