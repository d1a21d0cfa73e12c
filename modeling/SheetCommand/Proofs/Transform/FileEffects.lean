import SheetCommand.Proofs.Files.Copies
import SheetCommand.Proofs.Transform.Outcome
import SheetCommand.Transform.File

/-!
# Transform — what a run does to the files

A run asks for the lock of its destination, reads its source, copies what is at the destination if it
has to, and puts the outcome there. Only the last two steps change anything but the lock file, and
once the copy is made nothing can fail any more, since a file that was read can be replaced
(`Written`). So a run that fails, or that has no reason to write, leaves every file as it was but the
lock file of its destination; and one that writes changes its destination and adds its copy
(`file_effects`).
-/

namespace SheetCommand

namespace FileRequest

variable (r : FileRequest) (s : Store)

/-- Where the lock file of the destination of a request is. -/
def LocksAt (l : Location) : Prop :=
  ∃ out, r.out = .ok out ∧ s.lockFile (out.getD r.source) = .ok l

/-- Where a request puts its copy. -/
def CopiesTo (stamp : String) (l : Location) : Prop :=
  ∃ out, r.out = .ok out ∧ (Store.backupPath (out.getD r.source) stamp).locate s.base = l

end FileRequest

namespace Transform
open Store

variable {s : Store} {r : FileRequest} {out : FilePath} {inPlace : Bool} {stamp : String}
  {t : Transformed}

/-! ### The checks -/

theorem checkRequest_eq_ok {lock : Location} (h : checkRequest s r = .ok (out, inPlace, lock)) :
    s.present r.source = .ok true ∧ (∃ text, r.instruction = .ok text) ∧
      (∃ given, r.out = .ok given ∧ given.getD r.source = out) ∧
      (inPlace = true ↔ out.locate s.base = r.source.locate s.base) ∧
      s.lockFile out = .ok lock := by
  rw [checkRequest, bind_eq_ok_iff] at h
  obtain ⟨found, hfound, h⟩ := h
  cases found with
  | false => cases h
  | true =>
    simp only [Bool.not_true, Bool.false_eq_true, if_false, bind_eq_ok_iff] at h
    obtain ⟨text, htext, given, hgiven, a, ha, b, hb, k, hk, h⟩ := h
    obtain ⟨-, rfl⟩ := resolve_eq_ok_iff.mp ha
    obtain ⟨-, rfl⟩ := resolve_eq_ok_iff.mp hb
    cases h
    exact ⟨hfound, ⟨text, htext⟩, ⟨given, hgiven, rfl⟩, beq_iff_eq, hk⟩

/-! ### The copy -/

/-- How a copy is made, and what comes of it. -/
inductive Copied (s : Store) (wanted : Bool) (p : FilePath) (stamp : String) :
    Store × Except Failure (Option String) → Prop where
  | spared (h : wanted = false ∨ s.present p = .ok false) : Copied s wanted p stamp (s, .ok none)
  | failed {e : Failure} : Copied s wanted p stamp (s, .error e)
  | made {l : Location} {old : Payload} (h : wanted = true) (named : p.name ≠ "")
      (reads : s.read p = .ok old) (place : s.placeOf (backupPath p stamp) = .ok l) :
      Copied s wanted p stamp (s.record l old, .ok (some (backupPath p stamp).text))

theorem copied_backupPresent (s : Store) (wanted : Bool) (p : FilePath) (stamp : String) :
    Copied s wanted p stamp (backupPresent s wanted p stamp) := by
  rw [backupPresent]
  by_cases hwanted : wanted = true
  · rw [hwanted, Bool.not_true, if_neg Bool.false_ne_true]
    split
    · exact .failed
    · rename_i habsent
      exact .spared (.inr habsent)
    · rw [backup]
      by_cases hname : p.name = ""
      · rw [if_pos hname]
        exact .failed
      · rw [if_neg hname]
        cases hread : s.read p with
        | error e => exact .failed
        | ok old =>
          dsimp only
          cases hplace : s.placeOf (backupPath p stamp) with
          | error e => exact .failed
          | ok l => exact .made rfl hname hread hplace
  · rw [Bool.not_eq_true] at hwanted
    rw [hwanted]
    exact .spared (.inl rfl)

/-! ### The writing -/

theorem modified_iff : t.modified = true ↔ ∃ c ∈ t.changes, c.isSkipped = false := by
  simp [Transformed.modified]

/-- How an outcome is written, and what comes of it. -/
inductive Written (s : Store) (r : FileRequest) (out : FilePath) (inPlace : Bool) (stamp : String)
    (t : Transformed) : Store × Except Failure FileTransformed → Prop where
  | unneeded (h : (r.dryRun || (inPlace && !t.modified)) = true) :
      Written s r out inPlace stamp t (s, .ok ⟨t, false, r.dryRun, out, none⟩)
  | failed {e : Failure} : Written s r out inPlace stamp t (s, .error e)
  | placed {l : Location} (h : (r.dryRun || (inPlace && !t.modified)) = false)
      (spared : r.backup = false ∨ s.present out = .ok false) (place : s.placeOf out = .ok l) :
      Written s r out inPlace stamp t
        (s.record l t.after, .ok ⟨t, true, r.dryRun, out, none⟩)
  | copied {l copy : Location} {old : Payload} (h : (r.dryRun || (inPlace && !t.modified)) = false)
      (wanted : r.backup = true) (reads : s.read out = .ok old) (place : s.placeOf out = .ok l)
      (copyPlace : s.placeOf (backupPath out stamp) = .ok copy) :
      Written s r out inPlace stamp t
        ((s.record copy old).record l t.after,
          .ok ⟨t, true, r.dryRun, out, some (backupPath out stamp).text⟩)

theorem written_writeOut (s : Store) (r : FileRequest) (out : FilePath) (inPlace : Bool)
    (stamp : String) (t : Transformed) :
    Written s r out inPlace stamp t (writeOut s r out inPlace stamp t) := by
  rw [writeOut]
  by_cases hneeded : (r.dryRun || (inPlace && !t.modified)) = true
  · rw [if_pos hneeded]
    exact .unneeded hneeded
  · rw [if_neg hneeded]
    rw [Bool.not_eq_true] at hneeded
    have hcopied := copied_backupPresent s r.backup out stamp
    generalize backupPresent s r.backup out stamp = outcome at hcopied ⊢
    cases hcopied with
    | failed => exact .failed
    | spared h =>
      dsimp only
      rw [replace_eq]
      cases hplace : s.placeOf out with
      | error e => exact .failed
      | ok l => exact .placed hneeded h hplace
    | @made l old hwanted hname hread hcopy =>
      -- what was read can be replaced, and the copy is no folder on its way
      have hplace := placeOf_of_read hname hread
      have hfree := (placeOf_eq_ok_iff.mp hcopy).2.2.2.2.2
      have hafter := ((agree_record hfree old).placeOf out).mp hplace
      dsimp only
      rw [replace_eq, hafter]
      exact .copied hneeded hwanted hread hplace hcopy

/-- What was written: nothing, or the outcome at the destination and what was there at the copy. -/
theorem Written.left_eq {left : Store} {done : FileTransformed}
    (h : Written s r out inPlace stamp t (left, .ok done))
    (hfree : out.name ≠ "" → out.name ≠ ".." →
      s.get? ((backupPath out stamp).locate s.base) = none) :
    done.transformed = t ∧ done.out = out ∧
      done.applied = !(r.dryRun || (inPlace && !t.modified)) ∧
      (done.applied = false → left = s) ∧
      (done.applied = true → out.name ≠ "" ∧ out.name ≠ ".." ∧
        left.get? (out.locate s.base) = some (.file t.after) ∧
        left.get? ((backupPath out stamp).locate s.base) =
          (if r.backup then s.get? (out.locate s.base) else none) ∧
        ∀ l, l ≠ out.locate s.base → l ≠ (backupPath out stamp).locate s.base →
          left.get? l = s.get? l) := by
  cases h with
  | unneeded h => exact ⟨rfl, rfl, by rw [h]; rfl, fun _ => rfl, fun e => Bool.noConfusion e⟩
  | placed h hspared hplace =>
    refine ⟨rfl, rfl, by rw [h]; rfl, fun e => Bool.noConfusion e, fun _ => ?_⟩
    obtain ⟨husable, hreach, hname, hup, rfl, hnot⟩ := placeOf_eq_ok_iff.mp hplace
    refine ⟨hname, hup, get?_record_self hnot _, ?_, fun l hl _ => get?_record_of_ne hl ..⟩
    rw [get?_record_of_ne (locate_backupPath_ne stamp hname hup), hfree hname hup]
    rcases hspared with hno | habsent
    · rw [hno]
      rfl
    · have hnone : s.get? (out.locate s.base) = none := by
        by_contra hsome
        have hpresent := present_eq_true_iff.mpr ⟨husable, hreach, hsome⟩
        rw [habsent] at hpresent
        cases hpresent
      rw [hnone, ite_self]
  | @copied l copy old h hwanted hread hplace hcopy =>
    refine ⟨rfl, rfl, by rw [h]; rfl, fun e => Bool.noConfusion e, fun _ => ?_⟩
    obtain ⟨-, -, hname, hup, rfl, hnot⟩ := placeOf_eq_ok_iff.mp hplace
    obtain ⟨-, -, -, -, rfl, hnotCopy⟩ := placeOf_eq_ok_iff.mp hcopy
    have hapart := locate_backupPath_ne (b := s.base) stamp hname hup
    have hstill := mt ((agree_record hnotCopy old).folder (out.locate s.base)).mpr hnot
    refine ⟨hname, hup, get?_record_self hstill _, ?_, fun l hl hcopy => ?_⟩
    · rw [get?_record_of_ne hapart, get?_record_self hnotCopy, hwanted, if_pos rfl,
        (read_eq_ok_iff.mp hread).2.2]
    · rw [get?_record_of_ne hl, get?_record_of_ne hcopy]

/-! ### Runs -/

/-- A run leaves all but its lock file to what it writes, and fails before that or comes to write. -/
theorem onFile_cases (around : Surroundings) (s : Store) (r : FileRequest) :
    (∃ e, (onFile around s r).result = .error e ∧
      ∀ l, ¬ r.LocksAt s l → (onFile around s r).store.get? l = s.get? l) ∨
    ∃ out inPlace lock held payload t, checkRequest s r = .ok (out, inPlace, lock) ∧
      Agree (· ≠ lock) s held ∧ held.read r.source = .ok payload ∧
      (onPayload r.protectedTitles payload r.instruction).result = .ok t ∧
      ∃ left, Written held r out inPlace around.stamp t (left, (onFile around s r).result) ∧
        ∀ l, (onFile around s r).store.get? l = left.get? l := by
  rw [onFile]
  cases hcheck : checkRequest s r with
  | error e => exact .inl ⟨e, rfl, fun _ _ => rfl⟩
  | ok checked =>
    obtain ⟨out, inPlace, lock⟩ := checked
    obtain ⟨-, -, ⟨given, hgiven, hout⟩, -, hlock⟩ := checkRequest_eq_ok hcheck
    have hagree := agree_acquire s lock around.note
    have hkept : ∀ l, ¬ r.LocksAt s l → l ≠ lock := by
      rintro l hl rfl
      exact hl ⟨given, hgiven, hout ▸ hlock⟩
    dsimp only
    generalize s.acquire lock around.note = outcome at hagree ⊢
    obtain ⟨held, e | ⟨⟨⟩⟩⟩ := outcome
    · exact .inl ⟨e, rfl, fun l hl => (hagree.same l (hkept l hl)).symm⟩
    · dsimp only
      rw [whileLocked]
      cases hread : held.read r.source with
      | error e => exact .inl ⟨e, rfl, fun l hl => (hagree.same l (hkept l hl)).symm⟩
      | ok payload =>
        dsimp only
        cases hresult : (onPayload r.protectedTitles payload r.instruction).result with
        | error e => exact .inl ⟨e, rfl, fun l hl => (hagree.same l (hkept l hl)).symm⟩
        | ok t =>
          have hwritten := written_writeOut held r out inPlace around.stamp t
          exact .inr ⟨out, inPlace, lock, held, payload, t, rfl, hagree, hread, hresult, _,
            hwritten, fun _ => rfl⟩

/-- What is read under the lock is what was at the source before. -/
theorem source_of_read {lock : Location} {held : Store} {payload : Payload}
    (hcheck : checkRequest s r = .ok (out, inPlace, lock)) (hagree : Agree (· ≠ lock) s held)
    (hread : held.read r.source = .ok payload)
    (ht : (onPayload r.protectedTitles payload r.instruction).result = .ok t)
    (hsource : ¬ r.LocksAt s (r.source.locate s.base)) :
    s.get? (r.source.locate s.base) = some (.file t.before) := by
  obtain ⟨-, -, ⟨given, hgiven, rfl⟩, -, hlock⟩ := checkRequest_eq_ok hcheck
  have hne : r.source.locate s.base ≠ lock := by
    rintro rfl
    exact hsource ⟨given, hgiven, hlock⟩
  obtain rfl := Option.some.inj (onPayload_eq_ok ht).1
  rw [hagree.same _ hne, hagree.base]
  exact (read_eq_ok_iff.mp hread).2.2

/-- A run that succeeds has read its source as it was when it began. -/
theorem source_of_onFile {around : Surroundings} {done : FileTransformed}
    (hsource : ¬ r.LocksAt s (r.source.locate s.base))
    (h : (onFile around s r).result = .ok done) :
    s.get? (r.source.locate s.base) = some (.file done.transformed.before) := by
  rcases onFile_cases around s r with ⟨e, herror, -⟩ |
    ⟨out, inPlace, lock, held, payload, t, hcheck, hagree, hread, ht, written, hwritten, -⟩
  · rw [herror] at h
    cases h
  · have hfile := source_of_read hcheck hagree hread ht hsource
    rw [h] at hwritten
    cases hwritten <;> exact hfile

/-! ### The effects -/

/-- What a run that answers with `t` has done to a store. -/
structure Effects (around : Surroundings) (r : FileRequest) (t : FileTransformed) (s left : Store) :
    Prop where
  destination : r.out.map (·.getD r.source) = .ok t.out
  /-- The source is read and transformed. -/
  read : s.get? (r.source.locate s.base) = some (.file t.transformed.before)
  transformed : (onPayload r.protectedTitles (some t.transformed.before) r.instruction).result =
    .ok t.transformed
  /-- A run writes unless it is a trial, or in place without a change. -/
  applied_iff : t.applied = true ↔ r.dryRun = false ∧
    ((∃ c ∈ t.transformed.changes, c.isSkipped = false) ∨
      t.out.locate s.base ≠ r.source.locate s.base)
  idle : t.applied = false → ∀ l, ¬ r.LocksAt s l → left.get? l = s.get? l
  /-- The destination gets the outcome. -/
  written : t.applied = true → left.get? (t.out.locate s.base) = some (.file t.transformed.after)
  source_kept : t.applied = true → t.out.locate s.base ≠ r.source.locate s.base →
    left.get? (r.source.locate s.base) = s.get? (r.source.locate s.base)
  /-- The copy, if backups are wanted, gets what was at the destination, if anything was. -/
  copied : t.applied = true → ∀ l, r.CopiesTo s around.stamp l →
    left.get? l = if r.backup then s.get? (t.out.locate s.base) else none
  others : t.applied = true → ∀ l, ¬ r.LocksAt s l → ¬ r.CopiesTo s around.stamp l →
    l ≠ t.out.locate s.base → left.get? l = s.get? l
  fingerprint_before : t.toDocument.field? "fingerprint_before" =
    some (.text t.transformed.before.fingerprint)
  fingerprint_after : t.toDocument.field? "fingerprint_after" =
    some (if t.applied then .text t.transformed.after.fingerprint else .null)

/-- What is written under the lock is what the run has done. -/
theorem effects_of_written {around : Surroundings} {lock : Location} {held written left : Store}
    {payload : Payload} {done : FileTransformed}
    (hcheck : checkRequest s r = .ok (out, inPlace, lock)) (hagree : Agree (· ≠ lock) s held)
    (hread : held.read r.source = .ok payload)
    (ht : (onPayload r.protectedTitles payload r.instruction).result = .ok t)
    (hwritten : Written held r out inPlace around.stamp t (written, .ok done))
    (hleft : ∀ l, left.get? l = written.get? l)
    (hsource : ¬ r.LocksAt s (r.source.locate s.base))
    (hfree : ∀ l, r.CopiesTo s around.stamp l → s.get? l = none) :
    Effects around r done s left := by
  obtain ⟨-, -, ⟨given, hgiven, hout⟩, hplace, hlock⟩ := checkRequest_eq_ok hcheck
  have hlocks : ∀ l, ¬ r.LocksAt s l → l ≠ lock := by
    rintro l hl rfl
    exact hl ⟨given, hgiven, hout ▸ hlock⟩
  have hsame : ∀ l, l ≠ lock → held.get? l = s.get? l := fun l hl => (hagree.same l hl).symm
  have hwrites := hwritten.left_eq fun hname hup => by
    rw [← hagree.base, hsame _ (lockFile_ne_backupPath _ hname hup hlock).symm]
    exact hfree _ ⟨given, hgiven, hout ▸ rfl⟩
  rw [← hagree.base] at hwrites
  obtain ⟨rfl, rfl, happlied, hidle, hwrites⟩ := hwrites
  have hbefore := Option.some.inj (onPayload_eq_ok ht).1
  have hfile := source_of_read hcheck hagree hread ht hsource
  refine { destination := ?_, read := hfile, transformed := hbefore ▸ ht,
           applied_iff := ?_, idle := fun hno l hl => ?_, written := fun hyes => ?_,
           source_kept := fun hyes hapart => ?_, copied := fun hyes l hl => ?_,
           others := fun hyes l hl hcopy hapart => ?_,
           fingerprint_before := rfl, fingerprint_after := rfl }
  · rw [hgiven]
    exact congrArg Except.ok hout
  · rw [happlied, Bool.not_eq_true', Bool.or_eq_false_iff, Bool.and_eq_false_iff,
      Bool.not_eq_false', modified_iff, or_comm, ← Bool.not_eq_true inPlace, hplace]
  · rw [hleft, hidle hno, hsame l (hlocks l hl)]
  · obtain ⟨-, -, hget, -⟩ := hwrites hyes
    rw [hleft, hget]
  · obtain ⟨-, -, -, -, hothers⟩ := hwrites hyes
    -- the source is there, so it is not the copy
    have hnew : r.source.locate s.base ≠ (backupPath done.out around.stamp).locate s.base := by
      intro h
      have hnone := hfree _ ⟨given, hgiven, rfl⟩
      rw [hout, ← h, hfile] at hnone
      cases hnone
    rw [hleft, hothers _ hapart.symm hnew, hsame _ (hlocks _ hsource)]
  · obtain ⟨given', hgiven', rfl⟩ := hl
    obtain rfl := Except.ok.inj (hgiven.symm.trans hgiven')
    obtain ⟨hname, hup, -, hcopy, -⟩ := hwrites hyes
    rw [hout, hleft, hcopy, hsame _ (lockFile_eq hlock ▸ (lockBeside_ne _).symm)]
  · obtain ⟨-, -, -, -, hothers⟩ := hwrites hyes
    rw [hleft, hothers l hapart, hsame l (hlocks l hl)]
    rintro rfl
    exact hcopy ⟨given, hgiven, hout ▸ rfl⟩

/-- **The effects of a run on files.** The name of its copy is free, and its source is not the lock
file of its destination. A run that fails leaves everything but that lock file as it was, and so does
one that writes nothing; one that writes changes its destination and adds its copy. -/
theorem file_effects (around : Surroundings) (s : Store) (r : FileRequest)
    (hsource : ¬ r.LocksAt s (r.source.locate s.base))
    (hfree : ∀ l, r.CopiesTo s around.stamp l → s.get? l = none) :
    (∀ e, (onFile around s r).result = .error e →
      ∀ l, ¬ r.LocksAt s l → (onFile around s r).store.get? l = s.get? l) ∧
    ∀ t, (onFile around s r).result = .ok t → Effects around r t s (onFile around s r).store := by
  rcases onFile_cases around s r with ⟨e, herror, hkept⟩ |
    ⟨out, inPlace, lock, held, payload, t, hcheck, hagree, hread, ht, written, hwritten, hleft⟩
  · refine ⟨fun _ _ => hkept, fun done hdone => ?_⟩
    rw [herror] at hdone
    cases hdone
  · constructor
    · intro e herror l hl
      obtain ⟨-, -, ⟨given, hgiven, hout⟩, -, hlock⟩ := checkRequest_eq_ok hcheck
      have hne : l ≠ lock := by
        rintro rfl
        exact hl ⟨given, hgiven, hout ▸ hlock⟩
      rw [herror] at hwritten
      cases hwritten
      rw [hleft, hagree.same l hne]
    · intro done hdone
      rw [hdone] at hwritten
      exact effects_of_written hcheck hagree hread ht hwritten hleft hsource hfree

/-- A folder with one workbook. -/
def stockFolder : Store :=
  .ofEntries ["work"] [(["work", "stock.xlsx"],
    .file (.workbook ⟨[⟨"Stock", ⟨[((1, 1), .text "Item"), ((2, 1), .int 7)]⟩⟩]⟩))]

/-- To delete the one column of that workbook. -/
def clearing : FileRequest :=
  ⟨.ofText "stock.xlsx", .ok "delete column item", .ok none, false, true, []⟩

theorem file_effects_stock :
    let around : Surroundings := ⟨"20240101_120000", [], "1"⟩
    ¬ clearing.LocksAt stockFolder ["work", "stock.xlsx"] ∧
      (∀ l, clearing.CopiesTo stockFolder around.stamp l → stockFolder.get? l = none) ∧
      ∃ t, (onFile around stockFolder clearing).result = .ok t ∧ t.applied = true ∧
        Effects around clearing t stockFolder (onFile around stockFolder clearing).store := by
  intro around
  have hsource : ¬ clearing.LocksAt stockFolder ["work", "stock.xlsx"] := by
    rintro ⟨out, hout, hlock⟩
    cases hout
    exact absurd hlock (by decide)
  have hfree : ∀ l, clearing.CopiesTo stockFolder around.stamp l → stockFolder.get? l = none := by
    rintro l ⟨out, hout, rfl⟩
    cases hout
    decide
  have hdone : (onFile around stockFolder clearing).result.map (·.applied) = .ok true := by
    decide +kernel
  obtain ⟨t, ht, happlied⟩ := map_eq_ok_iff.mp hdone
  exact ⟨hsource, hfree, t, ht, happlied,
    (file_effects around stockFolder clearing hsource hfree).2 t ht⟩

end Transform

end SheetCommand
