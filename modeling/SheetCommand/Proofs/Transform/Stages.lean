import Mathlib.Logic.Function.Iterate
import SheetCommand.Proofs.Transform.FileEffects

/-!
# Transform — the steps of a run

A run on a file goes through stages: it checks its request, asks for the lock, reads, transforms,
copies and puts, and gives the lock back. `Job.step` takes one of these steps in whatever store it
finds; a run that takes all of them without interruption is `Transform.onFile` (`passes_onFile`).

A step under the lock is told by what it finds at the workbook and by the folders (`work_agree`), and
changes nothing at the workbook but by putting the outcome there (`Worked`).
-/

namespace SheetCommand
open Store Transform

/-- A run that is asked for. -/
structure Job where
  around : Surroundings
  request : FileRequest

namespace Job

/-- What a run has made of its request: its destination, whether that is its source, its lock. -/
abbrev Plan := FilePath × Bool × Location

/-- What is to be done next under the lock. -/
inductive Task where
  | read
  | transform (payload : Payload)
  | copy (t : Transformed)
  | put (t : Transformed) (copy : Option String)

/-- How far a run has come. -/
inductive Stage where
  | ready
  | checked (plan : Plan)
  | working (plan : Plan) (task : Task)
  | leaving (lock : Location) (result : Except Failure FileTransformed)
  | ended (result : Except Failure FileTransformed)

/-- The lock that a run holds. -/
def Stage.lock? : Stage → Option Location
  | .ready | .checked _ | .ended _ => none
  | .working plan _ => some plan.2.2
  | .leaving lock _ => some lock

variable (job : Job)

/-- One step under the lock. -/
def work (s : Store) (plan : Plan) : Task → Store × Stage
  | .read =>
    match s.read job.request.source with
    | .error e => (s, .leaving plan.2.2 (.error e))
    | .ok payload => (s, .working plan (.transform payload))
  | .transform payload =>
    match (onPayload job.request.protectedTitles payload job.request.instruction).result with
    | .error e => (s, .leaving plan.2.2 (.error e))
    | .ok t =>
      if job.request.dryRun || (plan.2.1 && !t.modified) then
        (s, .leaving plan.2.2 (.ok ⟨t, false, job.request.dryRun, plan.1, none⟩))
      else (s, .working plan (.copy t))
  | .copy t =>
    match backupPresent s job.request.backup plan.1 job.around.stamp with
    | (s, .error e) => (s, .leaving plan.2.2 (.error e))
    | (s, .ok copy) => (s, .working plan (.put t copy))
  | .put t copy =>
    match s.replace plan.1 t.after with
    | (s, .error e) => (s, .leaving plan.2.2 (.error e))
    | (s, .ok ()) => (s, .leaving plan.2.2 (.ok ⟨t, true, job.request.dryRun, plan.1, copy⟩))

/-- One step. A run that finds its lock held goes on waiting, unless it is late. -/
def step (late : Bool) (s : Store) : Stage → Store × Stage
  | .ready =>
    match checkRequest s job.request with
    | .error e => (s, .ended (.error e))
    | .ok plan => (s, .checked plan)
  | .checked plan =>
    match s.acquire plan.2.2 job.around.note with
    | (s, .error e) =>
      (s, if e = .lockHeld ∧ late = false then .checked plan else .ended (.error e))
    | (s, .ok ()) => (s, .working plan .read)
  | .working plan task => job.work s plan task
  | .leaving lock result => (s.release lock, .ended result)
  | .ended result => (s, .ended result)

/-! ### A run without interruption -/

/-- One step of a run that does not wait. -/
def alone (x : Store × Stage) : Store × Stage := job.step true x.1 x.2

/-- Alone, a run comes from one state to another. -/
def Passes (x y : Store × Stage) : Prop := ∃ n, job.alone^[n] x = y

variable {job} {x y z : Store × Stage} {s s' : Store}

theorem Passes.refl (x : Store × Stage) : job.Passes x x := ⟨0, rfl⟩

theorem Passes.head (h : job.Passes (job.alone x) y) : job.Passes x y := by
  obtain ⟨n, hn⟩ := h
  exact ⟨n + 1, hn⟩

theorem Passes.tail (h : job.Passes x y) : job.Passes x (job.alone y) := by
  obtain ⟨n, rfl⟩ := h
  exact ⟨n + 1, Function.iterate_succ_apply' ..⟩

/-- A run ends in one way. -/
theorem Passes.ends_unique {result result' : Except Failure FileTransformed}
    (h : job.Passes x (s, .ended result)) (h' : job.Passes x (s', .ended result')) :
    s = s' ∧ result = result' := by
  have hfixed : ∀ (s : Store) (result : Except Failure FileTransformed) (k : Nat),
      job.alone^[k] (s, .ended result) = (s, .ended result) := fun s result k =>
    Function.iterate_fixed rfl k
  obtain ⟨n, hn⟩ := h
  obtain ⟨m, hm⟩ := h'
  have hsame : (s, Stage.ended result) = (s', Stage.ended result') := by
    rcases Nat.le_total n m with hle | hle
    · obtain ⟨k, rfl⟩ := Nat.exists_eq_add_of_le' hle
      rw [← hm, Function.iterate_add_apply, hn, hfixed]
    · obtain ⟨k, rfl⟩ := Nat.exists_eq_add_of_le' hle
      rw [← hn, Function.iterate_add_apply, hm, hfixed]
  cases hsame
  exact ⟨rfl, rfl⟩

/-- The steps that write. -/
theorem passes_writeOut (s : Store) (plan : Plan) {payload : Payload} {t : Transformed}
    (ht : (onPayload job.request.protectedTitles payload job.request.instruction).result = .ok t) :
    job.Passes (s, .working plan (.transform payload))
      ((writeOut s job.request plan.1 plan.2.1 job.around.stamp t).1,
        .leaving plan.2.2 (writeOut s job.request plan.1 plan.2.1 job.around.stamp t).2) := by
  refine .head ?_
  rw [alone, step, work]
  dsimp only
  rw [ht, writeOut]
  dsimp only
  split
  · exact .refl _
  · refine .head ?_
    rw [alone, step, work]
    dsimp only
    generalize backupPresent s job.request.backup plan.1 job.around.stamp = outcome
    obtain ⟨left, e | copy⟩ := outcome
    · exact .refl _
    · refine .head ?_
      rw [alone, step, work]
      dsimp only
      generalize left.replace plan.1 t.after = outcome
      obtain ⟨left, e | ⟨⟨⟩⟩⟩ := outcome <;> exact .refl _

/-- The steps under the lock. -/
theorem passes_whileLocked (s : Store) (plan : Plan) : job.Passes (s, .working plan .read)
    ((whileLocked s job.request plan.1 plan.2.1 job.around.stamp).store,
      .leaving plan.2.2 (whileLocked s job.request plan.1 plan.2.1 job.around.stamp).result) := by
  refine .head ?_
  rw [alone, step, work]
  dsimp only
  rw [whileLocked]
  cases hread : s.read job.request.source with
  | error e => exact .refl _
  | ok payload =>
    dsimp only
    cases ht :
        (onPayload job.request.protectedTitles payload job.request.instruction).result with
    | error e =>
      refine .head ?_
      rw [alone, step, work]
      dsimp only
      rw [ht]
      exact .refl _
    | ok t => exact passes_writeOut s plan ht

/-- **The steps of a run** make up the run. -/
theorem passes_onFile (job : Job) (s : Store) : job.Passes (s, .ready)
    ((onFile job.around s job.request).store, .ended (onFile job.around s job.request).result) := by
  rw [onFile]
  refine .head ?_
  rw [alone, step]
  cases hcheck : checkRequest s job.request with
  | error e => exact .refl _
  | ok plan =>
    refine .head ?_
    rw [alone, step]
    dsimp only
    generalize s.acquire plan.2.2 job.around.note = outcome
    obtain ⟨held, e | ⟨⟨⟩⟩⟩ := outcome
    · dsimp only
      rw [if_neg (by simp)]
      exact .refl _
    · exact (passes_whileLocked held plan).tail

/-! ### Steps under the lock -/

/-- How a step under the lock goes, and what comes of it. -/
inductive Worked (job : Job) (s : Store) (plan : Plan) : Task → Store × Stage → Prop where
  | failed {task : Task} {e : Failure} :
      Worked job s plan task (s, .leaving plan.2.2 (.error e))
  | read {payload : Payload} (h : s.read job.request.source = .ok payload) :
      Worked job s plan .read (s, .working plan (.transform payload))
  | unneeded {payload : Payload} {t : Transformed}
      (ht : (onPayload job.request.protectedTitles payload job.request.instruction).result = .ok t)
      (h : (job.request.dryRun || (plan.2.1 && !t.modified)) = true) :
      Worked job s plan (.transform payload)
        (s, .leaving plan.2.2 (.ok ⟨t, false, job.request.dryRun, plan.1, none⟩))
  | transformed {payload : Payload} {t : Transformed}
      (ht : (onPayload job.request.protectedTitles payload job.request.instruction).result = .ok t)
      (h : (job.request.dryRun || (plan.2.1 && !t.modified)) = false) :
      Worked job s plan (.transform payload) (s, .working plan (.copy t))
  | copied {t : Transformed} {left : Store} {copy : Option String}
      (h : backupPresent s job.request.backup plan.1 job.around.stamp = (left, .ok copy)) :
      Worked job s plan (.copy t) (left, .working plan (.put t copy))
  | put {t : Transformed} {copy : Option String} {l : Location} (h : s.placeOf plan.1 = .ok l) :
      Worked job s plan (.put t copy) (s.record l t.after,
        .leaving plan.2.2 (.ok ⟨t, true, job.request.dryRun, plan.1, copy⟩))

theorem worked_work (job : Job) (s : Store) (plan : Plan) (task : Task) :
    Worked job s plan task (job.work s plan task) := by
  cases task with
  | read =>
    rw [work]
    cases hread : s.read job.request.source with
    | error e => exact .failed
    | ok payload => exact .read hread
  | transform payload =>
    rw [work]
    cases ht : (onPayload job.request.protectedTitles payload job.request.instruction).result with
    | error e => exact .failed
    | ok t =>
      dsimp only
      split
      · rename_i h
        exact .unneeded ht h
      · rename_i h
        exact .transformed ht (Bool.not_eq_true _ ▸ h)
  | copy t =>
    have hcopied := copied_backupPresent s job.request.backup plan.1 job.around.stamp
    rw [work]
    cases hcopy : backupPresent s job.request.backup plan.1 job.around.stamp with
    | mk left result =>
      rw [hcopy] at hcopied
      cases result with
      | error e => cases hcopied; exact .failed
      | ok copy => exact .copied hcopy
  | put t copy =>
    rw [work, replace_eq]
    cases hplace : s.placeOf plan.1 with
    | error e => exact .failed
    | ok l => exact .put hplace

section

variable {l : Location} {p : FilePath} {plan : Plan} {task : Task} {wanted : Bool} {stamp : String}
  {copy : Option String} {left : Store} {result : Except Failure (Option String)}

/-- A copy is not made in the place of its workbook. -/
theorem agree_of_copied (h : Copied s wanted p stamp (left, result)) (hp : p.locate s.base = l) :
    Agree (· = l) s left := by
  cases h with
  | spared => exact .refl s
  | failed => exact .refl s
  | @made m old _ hname hread hplace =>
    obtain ⟨-, -, -, hup, -⟩ := placeOf_eq_ok_iff.mp (placeOf_of_read hname hread)
    obtain ⟨-, -, -, -, rfl, hnot⟩ := placeOf_eq_ok_iff.mp hplace
    refine (agree_record hnot old).mono ?_
    rintro _ rfl
    exact hp ▸ (locate_backupPath_ne stamp hname hup).symm

theorem backupPresent_agree (h : Agree (· = l) s s') (hp : p.locate s.base = l) {left : Store}
    (hcopy : backupPresent s wanted p stamp = (left, .ok copy)) :
    ∃ left', backupPresent s' wanted p stamp = (left', .ok copy) ∧ Agree (· = l) left left' := by
  rw [backupPresent] at hcopy ⊢
  rw [← h.present hp]
  by_cases hspared : (!wanted) = true
  · rw [if_pos hspared] at hcopy ⊢
    cases hcopy
    exact ⟨s', rfl, h⟩
  · rw [if_neg hspared] at hcopy ⊢
    generalize s.present p = found at hcopy ⊢
    rcases found with e | _ | _
    · cases hcopy
    · cases hcopy
      exact ⟨s', rfl, h⟩
    · dsimp only at hcopy ⊢
      rw [backup] at hcopy ⊢
      by_cases hname : p.name = ""
      · rw [if_pos hname] at hcopy
        cases hcopy
      · rw [if_neg hname] at hcopy ⊢
        cases hread : s.read p with
        | error e => rw [hread] at hcopy; cases hcopy
        | ok old =>
          rw [hread] at hcopy
          rw [(h.read hp).mp hread]
          dsimp only at hcopy ⊢
          cases hplace : s.placeOf (backupPath p stamp) with
          | error e => rw [hplace] at hcopy; cases hcopy
          | ok m =>
            rw [hplace] at hcopy
            rw [(h.placeOf _).mp hplace]
            cases hcopy
            exact ⟨_, rfl, h.record (placeOf_eq_ok_iff.mp hplace).2.2.2.2.2 old⟩

end

/-! ### The run that holds the lock -/

/-- The run that holds the lock has come as far in the store as it would have come alone from where
it began, as far as the workbook is concerned; and it has not touched that yet, or has failed, or is
done. -/
inductive Holding (job : Job) (l : Location) (first s : Store) : Stage → Prop where
  | working {plan : Plan} {task : Task} {after : Store} (leads : plan.1.locate s.base = l)
      (alone : job.Passes (first, .ready) (after, .working plan task))
      (agree : Agree (· = l) s after) (untouched : Agree (· = l) s first) :
      Holding job l first s (.working plan task)
  | failing {lock : Location} {e : Failure} (untouched : Agree (· = l) s first) :
      Holding job l first s (.leaving lock (.error e))
  | done {lock : Location} {t : FileTransformed} {after : Store}
      (alone : job.Passes (first, .ready) (after, .leaving lock (.ok t)))
      (agree : Agree (· = l) s after) : Holding job l first s (.leaving lock (.ok t))

section

variable {l : Location} {plan : Plan} {task : Task} {first : Store}

/-- **A step under the lock** goes as it would alone. -/
theorem Holding.work (hsource : job.request.source.locate s.base = l)
    (h : Holding job l first s (.working plan task)) :
    Holding job l first (job.work s plan task).1 (job.work s plan task).2 := by
  obtain ⟨hleads, halone, hagree, huntouched⟩ := h
  have hnext := halone.tail
  rw [Job.alone, step] at hnext
  have hworked := worked_work job s plan task
  generalize job.work s plan task = outcome at hworked ⊢
  cases hworked with
  | failed => exact .failing huntouched
  | read hread =>
    rw [Job.work, (hagree.read hsource).mp hread] at hnext
    exact .working hleads hnext hagree huntouched
  | unneeded ht hno =>
    rw [Job.work, ht] at hnext
    dsimp only at hnext
    rw [if_pos hno] at hnext
    exact .done hnext hagree
  | transformed ht hneeded =>
    rw [Job.work, ht] at hnext
    dsimp only at hnext
    rw [if_neg (Bool.not_eq_true _ ▸ hneeded)] at hnext
    exact .working hleads hnext hagree huntouched
  | @copied t left copy hcopy =>
    have hcopied := copied_backupPresent s job.request.backup plan.1 job.around.stamp
    rw [hcopy] at hcopied
    have hleft := agree_of_copied hcopied hleads
    obtain ⟨left', hcopy', hagree'⟩ := backupPresent_agree hagree hleads hcopy
    rw [Job.work, hcopy'] at hnext
    exact .working (hleft.base ▸ hleads) hnext hagree' (hleft.symm.trans huntouched)
  | put hplace =>
    rw [Job.work, replace_eq, (hagree.placeOf _).mp hplace] at hnext
    exact .done hnext (hagree.record (placeOf_eq_ok_iff.mp hplace).2.2.2.2.2 _)

theorem Holding.congr {stage : Stage} (h : Holding job l first s stage)
    (hagree : Agree (· = l) s s') : Holding job l first s' stage := by
  cases h with
  | working leads alone agree untouched =>
    exact .working (hagree.base ▸ leads) alone (hagree.symm.trans agree)
      (hagree.symm.trans untouched)
  | failing untouched => exact .failing (hagree.symm.trans untouched)
  | done alone agree => exact .done alone (hagree.symm.trans agree)

end

/-! ### All steps -/

/-- A job whose source and destination are one workbook. -/
structure InPlace (job : Job) (base l : Location) : Prop where
  source : job.request.source.locate base = l
  out : ∀ given, job.request.out = .ok given → (given.getD job.request.source).locate base = l

/-- What a run plans is for a workbook. -/
def Stage.Leads (l base : Location) : Stage → Prop
  | .ready | .ended _ => True
  | .checked plan | .working plan _ => plan.1.locate base = l ∧ plan.2.2 = lockBeside l
  | .leaving lock _ => lock = lockBeside l

def Stage.IsEnded (stage : Stage) : Prop := ∃ result, stage = .ended result

def Stage.succeeded : Stage → Bool
  | .ended (.ok _) => true
  | _ => false

theorem Stage.succeeded_iff {stage : Stage} :
    stage.succeeded = true ↔ ∃ t, stage = .ended (.ok t) := by
  constructor
  · intro h
    cases stage with
    | ready | checked | working | leaving => cases h
    | ended result =>
      cases result with
      | error e => cases h
      | ok t => exact ⟨t, rfl⟩
  · rintro ⟨t, rfl⟩
    rfl

theorem Stage.succeeded_of_lock {stage : Stage} (h : stage.lock? ≠ none) :
    stage.succeeded = false := by
  cases stage with
  | ready | checked | working | leaving => rfl
  | ended => exact absurd rfl h

/-- How a step goes: outside the lock, into it, under it and out of it. -/
inductive Stepped (job : Job) (l : Location) (s : Store) : Stage → Store × Stage → Prop where
  | outside {stage next : Stage} {left : Store} (without : stage.lock? = none)
      (still : next.lock? = none) (agree : Agree (· = l) s left) (held : left.held = s.held)
      (same : next.succeeded = stage.succeeded)
      (checked : ∀ plan, next = .checked plan →
        checkRequest s job.request = .ok plan ∨ stage = .checked plan) :
      Stepped job l s stage (left, next)
  | takes {plan : Plan} {left : Store} (opened : s.Openable plan.2.2) (free : plan.2.2 ∉ s.held)
      (agree : Agree (· = l) s left) (held : left.held = plan.2.2 :: s.held) :
      Stepped job l s (.checked plan) (left, .working plan .read)
  | works {plan : Plan} {task : Task} :
      Stepped job l s (.working plan task) (job.work s plan task)
  | leaves {lock : Location} {result : Except Failure FileTransformed} :
      Stepped job l s (.leaving lock result) (s.release lock, .ended result)

section

variable {l base : Location}

theorem leads_of_checkRequest {plan : Plan} (hin : job.InPlace s.base l)
    (h : checkRequest s job.request = .ok plan) :
    plan.1.locate s.base = l ∧ plan.2.2 = lockBeside l := by
  obtain ⟨out, inPlace, lock⟩ := plan
  obtain ⟨-, -, ⟨given, hgiven, rfl⟩, -, hlock⟩ := checkRequest_eq_ok h
  have hl := hin.out given hgiven
  exact ⟨hl, hl ▸ lockFile_eq hlock⟩

theorem stepped_step (job : Job) (late : Bool) {stage : Stage} (hleads : stage.Leads l s.base) :
    Stepped job l s stage (job.step late s stage) := by
  cases stage with
  | ready =>
    rw [step]
    cases hcheck : checkRequest s job.request with
    | error e => exact .outside rfl rfl (.refl s) rfl rfl fun _ h => by cases h
    | ok plan =>
      refine .outside rfl rfl (.refl s) rfl rfl fun plan' h => .inl ?_
      cases h
      exact hcheck
  | checked plan =>
    rw [step]
    have hlock : ∀ m, m = l → m ≠ plan.2.2 := by
      rintro _ rfl
      rw [hleads.2]
      exact (lockBeside_ne _).symm
    -- a run without the lock waits or gives up
    have hwithout : ∀ (left : Store) (e : Failure), Agree (· = l) s left → left.held = s.held →
        Stepped job l s (.checked plan)
          (left, if e = .lockHeld ∧ late = false then .checked plan else .ended (.error e)) := by
      intro left e hagree hheld
      split
      · exact .outside rfl rfl hagree hheld rfl fun _ h => .inr h
      · exact .outside rfl rfl hagree hheld rfl fun _ h => by cases h
    have hasked := asked_acquire s plan.2.2 job.around.note
    generalize s.acquire plan.2.2 job.around.note = outcome at hasked ⊢
    cases hasked with
    | unopened => exact hwithout s _ (.refl s) rfl
    | busy _ changed _ held => exact hwithout _ _ (changed.mono hlock) held
    | taken opened changed free held => exact .takes opened free (changed.mono hlock) held
  | working plan task => exact .works
  | leaving lock result => exact .leaves
  | ended result => exact .outside rfl rfl (.refl s) rfl rfl fun _ h => by cases h

end

/-! ### What no step changes -/

/-- No folder comes or goes, and what is at a location stays there or is replaced. -/
structure Steady (l : Location) (s s' : Store) : Prop where
  agree : Agree (fun _ => False) s s'
  stays : s.get? l ≠ none → s'.get? l ≠ none

section

variable {l m : Location} {plan : Plan}

theorem steady_of_agree (h : Agree (· = l) s s') : Steady l s s' := by
  refine ⟨h.mono fun _ => False.elim, fun hl => ?_⟩
  rwa [← h.same l rfl]

theorem steady_record (h : s.get? m ≠ some .folder) (c : Payload) : Steady l s (s.record m c) := by
  refine ⟨(agree_record h c).mono fun _ => False.elim, fun hl => ?_⟩
  by_cases hlm : l = m
  · rw [hlm, get?_record_self h]
    exact Option.some_ne_none _
  · rwa [get?_record_of_ne hlm]

/-- A step under the lock keeps the lock. -/
theorem Worked.keeps {task : Task} {x : Store × Stage} (h : Worked job s plan task x)
    (hleads : plan.1.locate s.base = l) :
    Steady l s x.1 ∧ x.1.held = s.held ∧ x.2.lock? = some plan.2.2 := by
  cases h with
  | failed | read | unneeded | transformed => exact ⟨steady_of_agree (.refl s), rfl, rfl⟩
  | @copied t left copy hcopy =>
    have hcopied := copied_backupPresent s job.request.backup plan.1 job.around.stamp
    rw [hcopy] at hcopied
    refine ⟨steady_of_agree (agree_of_copied hcopied hleads), ?_, rfl⟩
    cases hcopied <;> rfl
  | put hplace =>
    exact ⟨steady_record (placeOf_eq_ok_iff.mp hplace).2.2.2.2.2 _, rfl, rfl⟩

theorem Worked.leads {task : Task} {x : Store × Stage} (h : Worked job s plan task x)
    (hleads : (Stage.working plan task).Leads l s.base) : x.2.Leads l s.base := by
  cases h with
  | failed | unneeded | put => exact hleads.2
  | read | transformed | copied => exact hleads

theorem Stepped.steady {stage : Stage} {x : Store × Stage} (h : Stepped job l s stage x)
    (hleads : stage.Leads l s.base) : Steady l s x.1 := by
  cases h with
  | outside _ _ agree => exact steady_of_agree agree
  | takes _ _ agree => exact steady_of_agree agree
  | works => exact ((worked_work job s _ _).keeps hleads.1).1
  | leaves => exact steady_of_agree (agree_release s _)

theorem Stepped.leads {stage : Stage} {x : Store × Stage} (h : Stepped job l s stage x)
    (hin : job.InPlace s.base l) (hleads : stage.Leads l s.base) : x.2.Leads l s.base := by
  cases h with
  | @outside _ next _ _ still _ _ _ checked =>
    cases next with
    | ready | ended => trivial
    | checked plan =>
      rcases checked plan rfl with h | rfl
      · exact leads_of_checkRequest hin h
      · exact hleads
    | working | leaving => cases still
  | takes => exact hleads
  | works => exact (worked_work job s _ _).leads hleads
  | leaves => trivial

theorem Stepped.checked {stage : Stage} {x : Store × Stage} (h : Stepped job l s stage x)
    (hx : x.2 = .checked plan) :
    checkRequest s job.request = .ok plan ∨ stage = .checked plan := by
  cases h with
  | outside _ _ _ _ _ checked => exact checked plan hx
  | takes | leaves => cases hx
  | @works plan' task =>
    have hworked := worked_work job s plan' task
    generalize job.work s plan' task = outcome at hworked hx
    cases hworked <;> cases hx

/-- A request that has passed its checks passes them again. -/
theorem checkRequest_of_steady (hin : job.InPlace s.base l) (h : Steady l s s')
    (hcheck : checkRequest s job.request = .ok plan) :
    checkRequest s' job.request = .ok plan := by
  obtain ⟨out, inPlace, lock⟩ := plan
  have hpresent := (checkRequest_eq_ok hcheck).1
  obtain ⟨husable, hreach, hthere⟩ := present_eq_true_iff.mp hpresent
  have hpresent' : s'.present job.request.source = .ok true := by
    refine present_eq_true_iff.mpr ⟨husable, (h.agree.reaches _).mp hreach, ?_⟩
    rw [hin.source] at hthere
    rw [← h.agree.base, hin.source]
    exact h.stays hthere
  rw [checkRequest, hpresent] at hcheck
  rw [checkRequest, hpresent']
  simpa only [h.agree.resolve, h.agree.lockFile] using hcheck

end

end Job

end SheetCommand
