import SheetCommand.Proofs.Transform.FileEffects

/-!
# Transform — trial runs

A run reads its source under the lock of its destination. What it reads is what was at the source
before, for where the source is that very lock file there is no workbook left to read
(`source_of_success`); so a run that succeeds has interpreted its instruction against the titles of
the workbook that can be opened there (`actions_of_openWorkbook`).

A trial run and the run itself part ways only when it comes to writing (`trialOf_onFile`).
-/

namespace SheetCommand

/-! ### The workbook at a path -/

namespace Store

variable {s s' : Store} {p : FilePath}

/-- A location that has no step up in it is where it leads. -/
theorem foldl_step_of_not_mem {l : Location} (h : ".." ∉ l) (start : Location) :
    l.foldl FilePath.step start = start ++ l := by
  induction l generalizing start with
  | nil => exact (List.append_nil _).symm
  | cons part l ih =>
    obtain ⟨hne, hrest⟩ := not_or.mp (fun e => h (List.mem_cons.mpr e))
    rw [List.foldl_cons, FilePath.step_of_ne (Ne.symm hne), ih hrest, List.append_assoc]
    rfl

/-- Every step up is taken on the way to a location. -/
theorem not_mem_locate {folder : Location} (h : ".." ∉ folder) (p : FilePath) :
    ".." ∉ p.locate folder := by
  have hsteps : ∀ (parts : List String) (start : Location), ".." ∉ start →
      ".." ∉ parts.foldl FilePath.step start := by
    intro parts
    induction parts with
    | nil => exact fun _ => id
    | cons part parts ih =>
      intro start hstart
      refine ih _ fun hmem => ?_
      by_cases hup : part = ".."
      · rw [FilePath.step, if_pos hup] at hmem
        exact hstart ((List.dropLast_subset start) hmem)
      · rw [FilePath.step_of_ne hup, List.mem_append, List.mem_singleton] at hmem
        exact hmem.elim hstart fun e => hup e.symm
  refine hsteps _ _ ?_
  split
  · exact List.not_mem_nil
  · exact h

/-- A workbook that can be opened is a stored one at the location of its path. -/
theorem exists_stored_of_openWorkbook {w : Workbook} (hbase : ".." ∉ s.base)
    (h : s.openWorkbook p = .ok w) :
    ∃ stored, s.get? (p.locate s.base) = some (.file (.workbook stored)) ∧
      stored.opened = .ok w := by
  simp only [openWorkbook, bind_eq_ok_iff] at h
  obtain ⟨l, hl, there, hthere, h⟩ := h
  obtain ⟨-, rfl⟩ := resolve_eq_ok_iff.mp hl
  cases there with
  | false => cases h
  | true =>
    simp only [Bool.not_true, Bool.false_eq_true, if_false, bind_eq_ok_iff] at h
    obtain ⟨c, hc, h⟩ := h
    have hget := (read_eq_ok_iff.mp hc).2.2
    have hlocate : (⟨true, p.locate s.base⟩ : FilePath).locate s.base = p.locate s.base :=
      foldl_step_of_not_mem (not_mem_locate hbase p) []
    rw [hlocate] at hget
    cases c with
    | raw bytes => cases h
    | workbook stored => exact ⟨stored, hget, mapError_eq_ok_iff.mp h⟩

/-- A lock that is taken has its note in its file. -/
theorem get?_acquire {lock : Location} {note : List UInt8}
    (h : s.acquire lock note = (s', .ok ())) : s'.get? lock = some (.file (.raw note)) := by
  rw [acquire] at h
  rcases s.openLock_cases lock with ⟨found, hfound, hopened⟩ | ⟨e, he, -⟩
  · rw [hfound] at h
    dsimp only at h
    -- its file has been put before, if there was none
    have hfree : (if found.isNone = true then s.put lock (.raw []) else s).get? lock ≠
        some .folder := by
      split
      · rw [get?_put_self hopened.2]
        exact fun e => Entry.noConfusion (Option.some.inj e)
      · exact hopened.2
    generalize (if found.isNone = true then s.put lock (.raw []) else s) = created at h hfree
    by_cases hheld : created.held.contains lock = true
    · rw [if_pos hheld] at h
      cases h
    · rw [if_neg hheld] at h
      obtain rfl := (Prod.mk.inj h).1
      exact get?_put_self hfree _
  · rw [he] at h
    cases h

end Store

namespace Transform
open Store

variable {s : Store} {r : FileRequest} {around : Surroundings} {done : FileTransformed}

theorem load_raw (bytes : List UInt8) : ∃ e, (Payload.raw bytes).load = .error e := by
  rw [Payload.load]
  split
  · exact ⟨_, rfl⟩
  · exact ⟨_, rfl⟩

/-- A note in a lock file is no workbook. -/
theorem onPayload_raw (protectedTitles : List String) (bytes : List UInt8)
    (instruction : Except Failure String) (t : Transformed) :
    (onPayload protectedTitles (some (.raw bytes)) instruction).result ≠ .ok t := by
  intro h
  obtain ⟨hbefore, -, w, hload, -⟩ := onPayload_eq_ok h
  obtain ⟨e, he⟩ := load_raw bytes
  rw [← Option.some.inj hbefore, he] at hload
  cases hload

/-- A run does not succeed where a note is at its source. -/
theorem whileLocked_ne_ok {bytes : List UInt8} {out : FilePath} {inPlace : Bool} {stamp : String}
    (hraw : s.get? (r.source.locate s.base) = some (.file (.raw bytes))) :
    (whileLocked s r out inPlace stamp).result ≠ .ok done := by
  intro h
  rw [whileLocked] at h
  cases hread : s.read r.source with
  | error e => rw [hread] at h; cases h
  | ok payload =>
    have hget := (read_eq_ok_iff.mp hread).2.2
    rw [hraw] at hget
    cases hget
    rw [hread] at h
    dsimp only at h
    split at h
    · cases h
    · rename_i t ht
      exact onPayload_raw _ _ _ _ ht

/-- A run whose source is the lock file of its destination reads its own note there. -/
theorem onFile_ne_ok_of_locksAt (hsource : r.LocksAt s (r.source.locate s.base)) :
    (onFile around s r).result ≠ .ok done := by
  intro h
  obtain ⟨given, hgiven, hlocks⟩ := hsource
  rw [onFile] at h
  cases hcheck : checkRequest s r with
  | error e => rw [hcheck] at h; cases h
  | ok checked =>
    obtain ⟨out, inPlace, lock⟩ := checked
    obtain ⟨-, -, ⟨given', hgiven', rfl⟩, -, hlock⟩ := checkRequest_eq_ok hcheck
    obtain rfl := Except.ok.inj (hgiven.symm.trans hgiven')
    obtain rfl := Except.ok.inj (hlocks.symm.trans hlock)
    rw [hcheck] at h
    dsimp only at h
    have hagree := agree_acquire s (r.source.locate s.base) around.note
    rcases hacquire : s.acquire (r.source.locate s.base) around.note with ⟨held, e | ⟨⟨⟩⟩⟩
    · rw [hacquire] at h
      cases h
    · rw [hacquire] at h hagree
      have hnote := get?_acquire hacquire
      rw [hagree.base] at hnote
      exact whileLocked_ne_ok hnote h

/-- What a run that succeeds has read is what was at its source before. -/
theorem source_of_success (h : (onFile around s r).result = .ok done) :
    s.get? (r.source.locate s.base) = some (.file done.transformed.before) :=
  source_of_onFile (fun hsource => onFile_ne_ok_of_locksAt hsource h) h

/-- **What a run reads** is the workbook that can be opened at its source, so it asks for the same as
its instruction does against the titles there. -/
theorem actions_of_openWorkbook {w : Workbook} (hbase : ".." ∉ s.base)
    (hopen : s.openWorkbook r.source = .ok w) (h : (onFile around s r).result = .ok done) :
    ∃ text, r.instruction = .ok text ∧
      done.transformed.actions = interpret text w.titles := by
  obtain ⟨stored, hstored, hopened⟩ := exists_stored_of_openWorkbook hbase hopen
  have hbefore : done.transformed.before = .workbook stored := by
    have hsource := source_of_success h
    rw [hstored] at hsource
    exact (Entry.file.inj (Option.some.inj hsource)).symm
  rcases onFile_cases around s r with ⟨e, herror, -⟩ |
    ⟨out, inPlace, lock, held, payload, t, -, -, -, ht, left, hwritten, -⟩
  · rw [herror] at h
    cases h
  · have hdone : done.transformed = t := by
      rw [h] at hwritten
      cases hwritten <;> rfl
    rw [hdone] at hbefore ⊢
    obtain ⟨-, htext, loaded, hload, hactions, -⟩ := onPayload_eq_ok ht
    refine ⟨_, htext, ?_⟩
    rw [hbefore, Payload.load, if_neg (by exact Bool.false_ne_true), Payload.openFrom,
      hopened] at hload
    obtain rfl := Except.ok.inj hload
    exact hactions

/-! ### Trials -/

/-- The same request as a trial, or not as one. -/
def asTrial (r : FileRequest) (trial : Bool) : FileRequest := { r with dryRun := trial }

/-- How a trial run and the run itself answer. -/
structure TrialOf (around : Surroundings) (r : FileRequest) (trial real : FileRun FileTransformed) :
    Prop where
  events : trial.events = real.events
  /-- What the run answers with, the trial has found: its actions, its records, its outcome. -/
  foreseen : ∀ done, real.result = .ok done →
    ∃ t, trial.result = .ok t ∧ t.transformed = done.transformed
  failed : ∀ e, trial.result = .error e → real.result = .error e
  /-- A run that fails after its trial fails in its writing. -/
  writing : ∀ t e, trial.result = .ok t → real.result = .error e →
    ∃ held inPlace,
      (writeOut held (asTrial r false) t.out inPlace around.stamp t.transformed).2 = .error e

theorem transformed_of_writeOut {s left : Store} {out : FilePath} {inPlace : Bool} {stamp : String}
    {t : Transformed} (h : writeOut s r out inPlace stamp t = (left, .ok done)) :
    done.transformed = t := by
  have hwritten := written_writeOut s r out inPlace stamp t
  rw [h] at hwritten
  cases hwritten <;> rfl

theorem trialOf_of_same {e : Failure} {trial real : FileRun FileTransformed}
    (hevents : trial.events = real.events) (htrial : trial.result = .error e)
    (hreal : real.result = .error e) : TrialOf around r trial real := by
  refine ⟨hevents, fun done h => ?_, fun e' h => ?_, fun t e' h _ => ?_⟩
  · rw [hreal] at h; cases h
  · rw [htrial] at h; cases h; exact hreal
  · rw [htrial] at h; cases h

/-- **A trial run** reports what the run itself would, and where it succeeds only the writing can
still fail. -/
theorem trialOf_onFile (around : Surroundings) (s : Store) (r : FileRequest) :
    TrialOf around r (onFile around s (asTrial r true)) (onFile around s (asTrial r false)) := by
  have hcheck : ∀ trial, checkRequest s (asTrial r trial) = checkRequest s r := fun _ => rfl
  rw [onFile, onFile, hcheck, hcheck]
  cases checkRequest s r with
  | error e => exact trialOf_of_same rfl rfl rfl
  | ok plan =>
    obtain ⟨out, inPlace, lock⟩ := plan
    dsimp only
    generalize s.acquire lock around.note = outcome
    obtain ⟨held, e | ⟨⟨⟩⟩⟩ := outcome
    · exact trialOf_of_same rfl rfl rfl
    · dsimp only
      rw [whileLocked, whileLocked]
      have hsource : ∀ trial, (asTrial r trial).source = r.source := fun _ => rfl
      have hpayload : ∀ trial payload, onPayload (asTrial r trial).protectedTitles payload
          (asTrial r trial).instruction = onPayload r.protectedTitles payload r.instruction :=
        fun _ _ => rfl
      rw [hsource, hsource]
      cases held.read r.source with
      | error e => exact trialOf_of_same rfl rfl rfl
      | ok payload =>
        dsimp only
        rw [hpayload, hpayload]
        cases hresult : (onPayload r.protectedTitles payload r.instruction).result with
        | error e => exact trialOf_of_same rfl rfl rfl
        | ok t =>
          -- from here on the trial has nothing left to do
          have htrial : writeOut held (asTrial r true) out inPlace around.stamp t =
              (held, .ok ⟨t, false, true, out, none⟩) := rfl
          dsimp only
          rw [htrial]
          refine ⟨rfl, fun done h => ?_, fun e h => ?_, fun done e h hreal => ?_⟩
          · exact ⟨_, rfl, (transformed_of_writeOut (Prod.ext rfl h)).symm⟩
          · cases h
          · cases h
            exact ⟨held, inPlace, hreal⟩

end Transform

end SheetCommand
