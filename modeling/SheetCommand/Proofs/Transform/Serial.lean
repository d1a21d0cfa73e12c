import Mathlib.Data.List.Nodup
import SheetCommand.Proofs.Transform.Stages

/-!
# Transform — runs on one workbook at the same time

Several runs transform one workbook in place, and their steps come in any order. A run that asks for
the lock while another holds it waits or gives up. What is at the workbook in the end is what the
runs that had the lock and succeeded would have left one after another, in the order in which they
took it, and each of them has read what the one before it left (`no_lost_update`).

The run that holds the lock keeps in step with the same run alone, begun in what the earlier ones
left (`Holding`); the others touch nothing at the workbook.
-/

namespace SheetCommand.Job
open Store Transform

/-- A number of runs at once. -/
structure System (n : Nat) where
  store : Store
  stage : Fin n → Stage
  /-- The runs that have taken the lock, the latest last. -/
  order : List (Fin n)

namespace System

variable {n : Nat}

def start (n : Nat) (s : Store) : System n := ⟨s, fun _ => .ready, []⟩

/-- One of the runs takes a step; if it finds the lock held it may be late. -/
def turn (jobs : Fin n → Job) (sys : System n) (who : Fin n × Bool) : System n :=
  let next := (jobs who.1).step who.2 sys.store (sys.stage who.1)
  { store := next.1
    stage := Function.update sys.stage who.1 next.2
    order := if (sys.stage who.1).lock? = none ∧ next.2.lock? ≠ none then sys.order ++ [who.1]
      else sys.order }

def run (jobs : Fin n → Job) (turns : List (Fin n × Bool)) (sys : System n) : System n :=
  turns.foldl (turn jobs) sys

/-- The runs that had the lock and succeeded, in the order in which they took it. -/
def done (sys : System n) : List (Fin n) := sys.order.filter fun i => (sys.stage i).succeeded

end System

/-- Runs one after another. -/
def serially {n : Nat} (jobs : Fin n → Job) (s : Store) (order : List (Fin n)) : Store :=
  order.foldl (fun s i => (onFile (jobs i).around s (jobs i).request).store) s

/-! ### One run -/

theorem whileLocked_keeps (s : Store) (r : FileRequest) (out : FilePath) (inPlace : Bool)
    (stamp : String) : (whileLocked s r out inPlace stamp).store.held = s.held ∧
      (whileLocked s r out inPlace stamp).store.base = s.base := by
  rw [whileLocked]
  cases s.read r.source with
  | error e => exact ⟨rfl, rfl⟩
  | ok payload =>
    dsimp only
    cases (onPayload r.protectedTitles payload r.instruction).result with
    | error e => exact ⟨rfl, rfl⟩
    | ok t =>
      have hwritten := written_writeOut s r out inPlace stamp t
      dsimp only
      generalize writeOut s r out inPlace stamp t = outcome at hwritten ⊢
      cases hwritten <;> exact ⟨rfl, rfl⟩

/-- A run gives its lock back, and paths start from where they did. -/
theorem onFile_keeps (around : Surroundings) (s : Store) (r : FileRequest) :
    (onFile around s r).store.held = s.held ∧ (onFile around s r).store.base = s.base := by
  rw [onFile]
  cases checkRequest s r with
  | error e => exact ⟨rfl, rfl⟩
  | ok plan =>
    have hasked := asked_acquire s plan.2.2 around.note
    dsimp only
    generalize s.acquire plan.2.2 around.note = outcome at hasked ⊢
    cases hasked with
    | unopened => exact ⟨rfl, rfl⟩
    | busy _ changed _ held => exact ⟨held, changed.base.symm⟩
    | @taken left _ changed _ held =>
      obtain ⟨hheld, hbase⟩ := whileLocked_keeps left r plan.1 plan.2.1 around.stamp
      refine ⟨?_, hbase.trans changed.base.symm⟩
      show (whileLocked left r plan.1 plan.2.1 around.stamp).store.held.erase plan.2.2 = s.held
      rw [hheld, held, List.erase_cons_head]

theorem serially_keeps {n : Nat} (jobs : Fin n → Job) (s : Store) (order : List (Fin n)) :
    (serially jobs s order).held = s.held ∧ (serially jobs s order).base = s.base := by
  induction order generalizing s with
  | nil => exact ⟨rfl, rfl⟩
  | cons i order ih =>
    obtain ⟨hheld, hbase⟩ := onFile_keeps (jobs i).around s (jobs i).request
    rw [serially, List.foldl_cons]
    exact ⟨(ih _).1.trans hheld, (ih _).2.trans hbase⟩

/-- A run alone gets as far as its lock if that is free. -/
theorem exists_passes_taken {job : Job} {s : Store} {plan : Plan}
    (hcheck : checkRequest s job.request = .ok plan) (opened : s.Openable plan.2.2)
    (free : plan.2.2 ∉ s.held) : ∃ first, Agree (· ≠ plan.2.2) s first ∧
      job.Passes (s, .ready) (first, .working plan .read) := by
  obtain ⟨first, hfirst, hagree⟩ := acquire_of_free opened free job.around.note
  refine ⟨first, hagree, .head ?_⟩
  rw [alone, step, hcheck]
  refine .head ?_
  rw [alone, step]
  dsimp only
  rw [hfirst]
  exact .refl _

theorem InPlace.source_not_locked {job : Job} {s : Store} {l : Location}
    (h : job.InPlace s.base l) : ¬ job.request.LocksAt s (job.request.source.locate s.base) := by
  rintro ⟨given, hgiven, hlock⟩
  have hbeside := lockFile_eq hlock
  rw [h.source, h.out given hgiven] at hbeside
  exact lockBeside_ne l hbeside.symm

namespace System

variable {n : Nat} {jobs : Fin n → Job} {s : Store} {l : Location} {sys : System n}

/-! ### What holds of all runs -/

/-- What every turn keeps, whoever takes it. -/
structure Sound (jobs : Fin n → Job) (s : Store) (l : Location) (sys : System n) : Prop where
  steady : Agree (fun _ => False) s sys.store
  leads : ∀ i, (sys.stage i).Leads l s.base
  checked : ∀ i plan, sys.stage i = .checked plan →
    checkRequest sys.store (jobs i).request = .ok plan

theorem sound_start (jobs : Fin n → Job) (s : Store) (l : Location) :
    Sound jobs s l (start n s) :=
  ⟨.refl s, fun _ => trivial, fun _ _ h => by cases h⟩

theorem Sound.stepped (h : Sound jobs s l sys) (who : Fin n × Bool) :
    Stepped (jobs who.1) l sys.store (sys.stage who.1)
      ((jobs who.1).step who.2 sys.store (sys.stage who.1)) :=
  stepped_step _ _ (h.steady.base ▸ h.leads who.1)

theorem Sound.turn (hin : ∀ i, (jobs i).InPlace s.base l) (h : Sound jobs s l sys)
    (who : Fin n × Bool) : Sound jobs s l (sys.turn jobs who) := by
  have hleads : ∀ i, (sys.stage i).Leads l sys.store.base := h.steady.base ▸ h.leads
  have hstep := h.stepped who
  have hsteady := hstep.steady (hleads who.1)
  refine ⟨h.steady.trans hsteady.agree, fun i => ?_, fun i plan hi => ?_⟩
  · by_cases hwho : i = who.1
    · subst hwho
      have hnext := hstep.leads (h.steady.base ▸ hin _) (hleads _)
      simpa [System.turn, h.steady.base] using hnext
    · simpa [System.turn, hwho] using h.leads i
  · have hbefore : checkRequest sys.store (jobs i).request = .ok plan := by
      by_cases hwho : i = who.1
      · subst hwho
        rcases hstep.checked (by simpa [System.turn] using hi) with hcheck | hstage
        · exact hcheck
        · exact h.checked _ plan hstage
      · exact h.checked i plan (by simpa [System.turn, hwho] using hi)
    exact checkRequest_of_steady (h.steady.base ▸ hin i) hsteady hbefore

theorem stage_turn_of_ne {i : Fin n} {who : Fin n × Bool} (h : i ≠ who.1) :
    (sys.turn jobs who).stage i = sys.stage i :=
  Function.update_of_ne h ..

theorem stage_turn_self (who : Fin n × Bool) : (sys.turn jobs who).stage who.1 =
    ((jobs who.1).step who.2 sys.store (sys.stage who.1)).2 :=
  Function.update_self ..

theorem stage_turn_of_ended {i : Fin n} (h : (sys.stage i).IsEnded) (who : Fin n × Bool) :
    (sys.turn jobs who).stage i = sys.stage i := by
  by_cases hwho : i = who.1
  · obtain ⟨result, hresult⟩ := h
    rw [hwho, stage_turn_self, ← hwho, hresult]
    rfl
  · exact stage_turn_of_ne hwho

/-! ### What holds of the runs that are done -/

/-- Each run that is done has ended as it would have after those before it. -/
def Kept (jobs : Fin n → Job) (s : Store) (sys : System n) : Prop :=
  ∀ k i, sys.done[k]? = some i → ∃ t, sys.stage i = .ended (.ok t) ∧
    (onFile (jobs i).around (serially jobs s (sys.done.take k)) (jobs i).request).result = .ok t

/-- No run holds the lock. -/
structure Idle (jobs : Fin n → Job) (s : Store) (l : Location) (sys : System n) : Prop where
  free : ∀ i, (sys.stage i).lock? = none
  held : sys.store.held = s.held
  agree : Agree (· = l) sys.store (serially jobs s sys.done)
  past : ∀ i ∈ sys.order, (sys.stage i).IsEnded

/-- One run holds the lock. -/
structure Busy (jobs : Fin n → Job) (s : Store) (l : Location) (sys : System n) (i : Fin n) :
    Prop where
  holds : (sys.stage i).lock? = some (lockBeside l)
  others : ∀ j, j ≠ i → (sys.stage j).lock? = none
  held : sys.store.held = lockBeside l :: s.held
  holding : Holding (jobs i) l (serially jobs s sys.done) sys.store (sys.stage i)
  past : ∃ before, sys.order = before ++ [i] ∧ ∀ j ∈ before, (sys.stage j).IsEnded

theorem idle_start (jobs : Fin n → Job) (s : Store) (l : Location) :
    Idle jobs s l (start n s) :=
  ⟨fun _ => rfl, rfl, .refl s, fun _ h => by cases h⟩

theorem Kept.congr (h : Kept jobs s sys) (who : Fin n × Bool)
    (hdone : (sys.turn jobs who).done = sys.done) : Kept jobs s (sys.turn jobs who) := by
  intro k i hk
  rw [hdone] at hk ⊢
  obtain ⟨t, hstage, hresult⟩ := h k i hk
  exact ⟨t, by rw [stage_turn_of_ended ⟨_, hstage⟩, hstage], hresult⟩

/-- One more run is done, and has ended as it would have after the others. -/
theorem Kept.concat (h : Kept jobs s sys) {who : Fin n × Bool} {t : FileTransformed}
    (hdone : (sys.turn jobs who).done = sys.done ++ [who.1])
    (hstage : (sys.turn jobs who).stage who.1 = .ended (.ok t))
    (hresult : (onFile (jobs who.1).around (serially jobs s sys.done)
      (jobs who.1).request).result = .ok t) : Kept jobs s (sys.turn jobs who) := by
  intro k i hk
  rw [hdone] at hk ⊢
  rcases Nat.lt_trichotomy k sys.done.length with hlt | rfl | hgt
  · rw [List.getElem?_append_left hlt] at hk
    rw [List.take_append_of_le_length hlt.le]
    obtain ⟨u, hu, hbefore⟩ := h k i hk
    exact ⟨u, by rw [stage_turn_of_ended ⟨_, hu⟩, hu], hbefore⟩
  · rw [List.getElem?_concat_length] at hk
    obtain rfl := Option.some.inj hk
    rw [List.take_left]
    exact ⟨t, hstage, hresult⟩
  · rw [List.getElem?_eq_none (by rw [List.length_append]; exact hgt)] at hk
    cases hk

/-- Runs are done in the same order if as many succeed. -/
theorem filter_turn_of_same {who : Fin n × Bool}
    (hsame : ((sys.turn jobs who).stage who.1).succeeded = (sys.stage who.1).succeeded)
    (order : List (Fin n)) : (order.filter fun i => ((sys.turn jobs who).stage i).succeeded) =
      order.filter fun i => (sys.stage i).succeeded := by
  refine List.filter_congr fun i _ => ?_
  by_cases hwho : i = who.1
  · rw [hwho, hsame]
  · rw [stage_turn_of_ne hwho]

theorem order_turn_of_takes {who : Fin n × Bool} (hfree : (sys.stage who.1).lock? = none)
    (htakes : ((sys.turn jobs who).stage who.1).lock? ≠ none) :
    (sys.turn jobs who).order = sys.order ++ [who.1] := by
  rw [stage_turn_self] at htakes
  exact if_pos ⟨hfree, htakes⟩

theorem order_turn_of_not {who : Fin n × Bool} (h : (sys.stage who.1).lock? ≠ none ∨
    ((sys.turn jobs who).stage who.1).lock? = none) : (sys.turn jobs who).order = sys.order := by
  rw [stage_turn_self] at h
  exact if_neg fun ⟨hfree, htakes⟩ => h.elim (absurd hfree) htakes

theorem done_turn_of_same {who : Fin n × Bool} (horder : (sys.turn jobs who).order = sys.order)
    (hsame : ((sys.turn jobs who).stage who.1).succeeded = (sys.stage who.1).succeeded) :
    (sys.turn jobs who).done = sys.done := by
  rw [done, horder]
  exact filter_turn_of_same hsame _

/-- The latest run to take the lock is done when it succeeds. -/
theorem done_turn_of_last {who : Fin n × Bool} {past : List (Fin n)}
    (horder : (sys.turn jobs who).order = sys.order) (hlast : sys.order = past ++ [who.1])
    (hended : ∀ i ∈ past, (sys.stage i).IsEnded)
    (hbefore : (sys.stage who.1).succeeded = false) : (sys.turn jobs who).done =
      sys.done ++ bif ((sys.turn jobs who).stage who.1).succeeded then [who.1] else [] := by
  have hsame : (past.filter fun i => ((sys.turn jobs who).stage i).succeeded) =
      past.filter fun i => (sys.stage i).succeeded :=
    List.filter_congr fun i hi => by rw [stage_turn_of_ended (hended i hi)]
  rw [done, done, horder, hlast, List.filter_append, List.filter_append, hsame,
    List.filter_singleton, List.filter_singleton, hbefore]
  exact congrArg (· ++ _) (List.append_nil _).symm

theorem past_turn {order : List (Fin n)} (h : ∀ i ∈ order, (sys.stage i).IsEnded)
    (who : Fin n × Bool) : ∀ i ∈ order, ((sys.turn jobs who).stage i).IsEnded := by
  intro i hi
  rw [stage_turn_of_ended (h i hi)]
  exact h i hi

/-! ### Turns -/

/-- What holds between turns. -/
def Ordered (jobs : Fin n → Job) (s : Store) (l : Location) (sys : System n) : Prop :=
  Kept jobs s sys ∧ (Idle jobs s l sys ∨ ∃ i, Busy jobs s l sys i)

section

variable {who : Fin n × Bool}

/-- A run without the lock does nothing to the others. -/
theorem Ordered.outside (h : Ordered jobs s l sys) (without : (sys.stage who.1).lock? = none)
    (still : ((sys.turn jobs who).stage who.1).lock? = none)
    (agree : Agree (· = l) sys.store (sys.turn jobs who).store)
    (held : (sys.turn jobs who).store.held = sys.store.held)
    (same : ((sys.turn jobs who).stage who.1).succeeded = (sys.stage who.1).succeeded) :
    Ordered jobs s l (sys.turn jobs who) := by
  have horder := order_turn_of_not (.inr still)
  have hdone : (sys.turn jobs who).done = sys.done := done_turn_of_same horder same
  have hothers : ∀ i, (sys.stage i).lock? = none →
      ((sys.turn jobs who).stage i).lock? = none := by
    intro i hi
    by_cases hwho : i = who.1
    · rw [hwho, still]
    · rw [stage_turn_of_ne hwho, hi]
  obtain ⟨hkept, hidle | ⟨i, hbusy⟩⟩ := h
  · refine ⟨hkept.congr who hdone, .inl ⟨fun i => hothers i (hidle.free i), ?_, ?_, ?_⟩⟩
    · rw [held, hidle.held]
    · rw [hdone]
      exact agree.symm.trans hidle.agree
    · rw [horder]
      exact past_turn hidle.past who
  · have hne : i ≠ who.1 := by
      rintro rfl
      rw [hbusy.holds] at without
      cases without
    refine ⟨hkept.congr who hdone, .inr ⟨i, ?_, fun j hj => hothers j (hbusy.others j hj), ?_, ?_,
      ?_⟩⟩
    · rw [stage_turn_of_ne hne, hbusy.holds]
    · rw [held, hbusy.held]
    · rw [hdone, stage_turn_of_ne hne]
      exact hbusy.holding.congr agree
    · obtain ⟨before, hbefore, hpast⟩ := hbusy.past
      exact ⟨before, horder.trans hbefore, past_turn hpast who⟩

/-- The lock is taken when no run holds it. -/
theorem Ordered.takes {plan : Plan} (hin : ∀ i, (jobs i).InPlace s.base l)
    (hsound : Sound jobs s l sys) (h : Ordered jobs s l sys)
    (before : sys.stage who.1 = .checked plan)
    (after : (sys.turn jobs who).stage who.1 = .working plan .read)
    (opened : sys.store.Openable plan.2.2) (free : plan.2.2 ∉ sys.store.held)
    (agree : Agree (· = l) sys.store (sys.turn jobs who).store)
    (held : (sys.turn jobs who).store.held = plan.2.2 :: sys.store.held) :
    Ordered jobs s l (sys.turn jobs who) := by
  have hleads := hsound.leads who.1
  rw [before] at hleads
  obtain ⟨hout, hlock⟩ := hleads
  obtain ⟨hkept, hidle | ⟨i, hbusy⟩⟩ := h
  · have hdone : (sys.turn jobs who).done = sys.done := by
      rw [done, order_turn_of_takes (hidle.free _) (by rw [after]; exact Option.some_ne_none _),
        List.filter_append, filter_turn_of_same (by rw [before, after]; rfl),
        List.filter_singleton, after]
      exact List.append_nil _
    -- the same run alone, begun where the earlier ones ended
    have hcheck := checkRequest_of_steady (hsound.steady.base ▸ hin who.1)
      (steady_of_agree hidle.agree) (hsound.checked _ _ before)
    obtain ⟨first, hagree, halone⟩ := exists_passes_taken hcheck
      (hidle.agree.openable.mp opened) (by rwa [(serially_keeps ..).1, ← hidle.held])
    have hapart : ∀ m, m = l → m ≠ plan.2.2 := by
      rintro _ rfl
      rw [hlock]
      exact (lockBeside_ne _).symm
    refine ⟨hkept.congr who hdone, .inr ⟨who.1, ?_, fun j hj => ?_, ?_, ?_, sys.order, ?_, ?_⟩⟩
    · rw [after, ← hlock]
      rfl
    · rw [stage_turn_of_ne hj, hidle.free j]
    · rw [held, hidle.held, hlock]
    · rw [hdone, after]
      refine .working ?_ halone ((agree.symm.trans hidle.agree).trans (hagree.mono hapart))
        (agree.symm.trans hidle.agree)
      rw [← agree.base, ← hsound.steady.base, hout]
    · exact order_turn_of_takes (hidle.free _) (by rw [after]; exact Option.some_ne_none _)
    · exact past_turn hidle.past who
  · rw [hbusy.held, hlock] at free
    exact absurd (List.mem_cons_self ..) free

theorem Ordered.holder (h : Ordered jobs s l sys) {i : Fin n} (hi : (sys.stage i).lock? ≠ none) :
    Busy jobs s l sys i := by
  obtain ⟨-, hidle | ⟨k, hbusy⟩⟩ := h
  · exact absurd (hidle.free i) hi
  · by_cases hik : i = k
    · exact hik ▸ hbusy
    · exact absurd (hbusy.others i hik) hi

/-- The run that holds the lock works on. -/
theorem Ordered.works {plan : Plan} {task : Task} (hin : ∀ i, (jobs i).InPlace s.base l)
    (hsound : Sound jobs s l sys) (h : Ordered jobs s l sys)
    (before : sys.stage who.1 = .working plan task)
    (after : ((sys.turn jobs who).store, (sys.turn jobs who).stage who.1) =
      (jobs who.1).work sys.store plan task) : Ordered jobs s l (sys.turn jobs who) := by
  have hbusy := h.holder (i := who.1) (by rw [before]; exact Option.some_ne_none _)
  have hleads := hsound.leads who.1
  rw [before] at hleads
  have hworked := worked_work (jobs who.1) sys.store plan task
  obtain ⟨-, hheld, hlock⟩ := hworked.keeps (hsound.steady.base ▸ hleads.1)
  have hholding := (before ▸ hbusy.holding).work (hsound.steady.base ▸ (hin who.1).source)
  rw [← after] at hheld hlock hholding
  dsimp only at hheld hlock hholding
  have horder : (sys.turn jobs who).order = sys.order :=
    order_turn_of_not (.inl (by rw [before]; exact Option.some_ne_none _))
  have hsame : ((sys.turn jobs who).stage who.1).succeeded = (sys.stage who.1).succeeded := by
    rw [Stage.succeeded_of_lock (by rw [hlock]; exact Option.some_ne_none _), before]
    rfl
  have hdone : (sys.turn jobs who).done = sys.done := done_turn_of_same horder hsame
  refine ⟨h.1.congr who hdone, .inr ⟨who.1, ?_, fun j hj => ?_, ?_, ?_, ?_⟩⟩
  · rw [hlock, hleads.2]
  · rw [stage_turn_of_ne hj, hbusy.others j hj]
  · rw [hheld, hbusy.held]
  · rw [hdone]
    exact hholding
  · obtain ⟨past, hpast, hended⟩ := hbusy.past
    exact ⟨past, horder.trans hpast, past_turn hended who⟩

/-- Once the lock is given back no run holds it. -/
theorem Busy.idle_turn {result : Except Failure FileTransformed}
    (hbusy : Busy jobs s l sys who.1) (horder : (sys.turn jobs who).order = sys.order)
    (store : (sys.turn jobs who).store = sys.store.release (lockBeside l))
    (after : (sys.turn jobs who).stage who.1 = .ended result)
    (agree : Agree (· = l) sys.store (serially jobs s (sys.turn jobs who).done)) :
    Idle jobs s l (sys.turn jobs who) := by
  refine ⟨fun i => ?_, ?_, ?_, fun i hi => ?_⟩
  · by_cases hwho : i = who.1
    · rw [hwho, after]
      rfl
    · rw [stage_turn_of_ne hwho, hbusy.others i hwho]
  · rw [store, release, hbusy.held, List.erase_cons_head]
  · rw [store]
    exact (agree_release _ _).symm.trans agree
  · obtain ⟨past, hpast, hended⟩ := hbusy.past
    rw [horder, hpast] at hi
    rcases List.mem_append.mp hi with hi | hi
    · exact past_turn hended who i hi
    · rw [List.mem_singleton.mp hi, after]
      exact ⟨_, rfl⟩

/-- The run that holds the lock gives it back, and is done if it has not failed. -/
theorem Ordered.leaves {lock : Location} {result : Except Failure FileTransformed}
    (hsound : Sound jobs s l sys) (h : Ordered jobs s l sys)
    (before : sys.stage who.1 = .leaving lock result)
    (store : (sys.turn jobs who).store = sys.store.release lock)
    (after : (sys.turn jobs who).stage who.1 = .ended result) :
    Ordered jobs s l (sys.turn jobs who) := by
  have hbusy := h.holder (i := who.1) (by rw [before]; exact Option.some_ne_none _)
  have hleads := hsound.leads who.1
  rw [before] at hleads
  obtain rfl : lock = lockBeside l := hleads
  have horder : (sys.turn jobs who).order = sys.order :=
    order_turn_of_not (.inl (by rw [before]; exact Option.some_ne_none _))
  obtain ⟨past, hpast, hended⟩ := hbusy.past
  have hdone := done_turn_of_last horder hpast hended (by rw [before]; rfl)
  rw [after] at hdone
  have hholding := hbusy.holding
  rw [before] at hholding
  cases hholding with
  | failing untouched =>
    have hnone : (sys.turn jobs who).done = sys.done := hdone.trans (List.append_nil _)
    exact ⟨h.1.congr who hnone, .inl (hbusy.idle_turn horder store after (hnone ▸ untouched))⟩
  | @done _ t left alone agree =>
    replace hdone : (sys.turn jobs who).done = sys.done ++ [who.1] := hdone
    obtain ⟨hleft, hresult⟩ := alone.tail.ends_unique (passes_onFile ..)
    have hserial : serially jobs s (sys.turn jobs who).done = left.release (lockBeside l) := by
      rw [hdone, serially, List.foldl_append]
      exact hleft.symm
    refine ⟨h.1.concat hdone after hresult.symm, .inl (hbusy.idle_turn horder store after ?_)⟩
    rw [hserial]
    exact agree.trans (agree_release _ _)

theorem Ordered.turn (hin : ∀ i, (jobs i).InPlace s.base l) (hsound : Sound jobs s l sys)
    (h : Ordered jobs s l sys) (who : Fin n × Bool) : Ordered jobs s l (sys.turn jobs who) := by
  have hstep := hsound.stepped who
  have hturn : ((sys.turn jobs who).store, (sys.turn jobs who).stage who.1) =
      (jobs who.1).step who.2 sys.store (sys.stage who.1) := by
    rw [stage_turn_self]
    rfl
  generalize (jobs who.1).step who.2 sys.store (sys.stage who.1) = x at hstep hturn
  have hstore : (sys.turn jobs who).store = x.1 := (Prod.ext_iff.mp hturn).1
  have hafter : (sys.turn jobs who).stage who.1 = x.2 := (Prod.ext_iff.mp hturn).2
  generalize hbefore : sys.stage who.1 = before at hstep
  cases hstep with
  | outside without still agree held same =>
    refine h.outside (hbefore ▸ without) ?_ ?_ ?_ ?_
    · rw [hafter, still]
    · rw [hstore]
      exact agree
    · rw [hstore, held]
    · rw [hafter, hbefore, same]
  | takes opened free agree held =>
    refine h.takes hin hsound hbefore hafter opened free ?_ ?_
    · rw [hstore]
      exact agree
    · rw [hstore, held]
  | works => exact h.works hin hsound hbefore hturn
  | leaves => exact h.leaves hsound hbefore hstore hafter

end

/-! ### The runs that are listed -/

/-- The runs that have taken the lock are listed once each; all that hold it or have succeeded are
among them. -/
structure Listed (sys : System n) : Prop where
  once : sys.order.Nodup
  all : ∀ i, (sys.stage i).lock? ≠ none ∨ (sys.stage i).succeeded = true → i ∈ sys.order

theorem Ordered.of_mem_order (h : Ordered jobs s l sys) {i : Fin n} (hi : i ∈ sys.order) :
    (sys.stage i).IsEnded ∨ (sys.stage i).lock? ≠ none := by
  obtain ⟨-, hidle | ⟨k, hbusy⟩⟩ := h
  · exact .inl (hidle.past i hi)
  · obtain ⟨before, hbefore, hpast⟩ := hbusy.past
    rw [hbefore] at hi
    rcases List.mem_append.mp hi with hi | hi
    · exact .inl (hpast i hi)
    · rw [List.mem_singleton.mp hi, hbusy.holds]
      exact .inr (Option.some_ne_none _)

/-- A run that is without the lock before and after its step does not succeed by it. -/
theorem Sound.succeeded_turn (hsound : Sound jobs s l sys) {who : Fin n × Bool}
    (hbefore : (sys.stage who.1).lock? = none)
    (hafter : ((sys.turn jobs who).stage who.1).lock? = none) :
    ((sys.turn jobs who).stage who.1).succeeded = (sys.stage who.1).succeeded := by
  have hstep := hsound.stepped who
  rw [stage_turn_self] at hafter ⊢
  generalize (jobs who.1).step who.2 sys.store (sys.stage who.1) = x at *
  generalize sys.stage who.1 = before at *
  cases hstep with
  | outside _ _ _ _ same => exact same
  | takes => cases hafter
  | works => cases hbefore
  | leaves => cases hbefore

theorem Listed.turn (hsound : Sound jobs s l sys) (hord : Ordered jobs s l sys) (h : Listed sys)
    (who : Fin n × Bool) : Listed (sys.turn jobs who) := by
  by_cases htakes : (sys.stage who.1).lock? = none ∧
      ((sys.turn jobs who).stage who.1).lock? ≠ none
  · obtain ⟨hfree, hnext⟩ := htakes
    have horder := order_turn_of_takes hfree hnext
    have hnew : who.1 ∉ sys.order := by
      intro hmem
      rcases hord.of_mem_order hmem with hended | hlock
      · rw [stage_turn_of_ended hended] at hnext
        exact hnext hfree
      · exact hlock hfree
    refine ⟨?_, fun i hi => ?_⟩
    · rw [horder]
      exact List.nodup_append.mpr ⟨h.once, List.nodup_singleton _, fun i hi j hj e =>
        hnew (List.mem_singleton.mp hj ▸ e ▸ hi)⟩
    · rw [horder]
      by_cases hwho : i = who.1
      · exact List.mem_append_right _ (List.mem_singleton.mpr hwho)
      · rw [stage_turn_of_ne hwho] at hi
        exact List.mem_append_left _ (h.all i hi)
  · have horder : (sys.turn jobs who).order = sys.order :=
      order_turn_of_not ((not_and_or.mp htakes).imp id not_not.mp)
    refine ⟨horder ▸ h.once, fun i hi => ?_⟩
    rw [horder]
    by_cases hwho : i = who.1
    · subst hwho
      by_cases hlock : (sys.stage who.1).lock? = none
      · have hnone : ((sys.turn jobs who).stage who.1).lock? = none := by
          by_contra hne
          exact htakes ⟨hlock, hne⟩
        refine h.all _ (.inr ?_)
        rw [← hsound.succeeded_turn hlock hnone]
        exact hi.resolve_left (absurd hnone)
      · exact h.all _ (.inl hlock)
    · rw [stage_turn_of_ne hwho] at hi
      exact h.all i hi

/-! ### The result -/

theorem ordered_run (hin : ∀ i, (jobs i).InPlace s.base l) (turns : List (Fin n × Bool))
    (hsound : Sound jobs s l sys) (h : Ordered jobs s l sys) (hlisted : Listed sys) :
    Ordered jobs s l (sys.run jobs turns) ∧ Listed (sys.run jobs turns) := by
  induction turns generalizing sys with
  | nil => exact ⟨h, hlisted⟩
  | cons who turns ih =>
    exact ih (hsound.turn hin who) (h.turn hin hsound who) (hlisted.turn hsound h who)

/-- To delete a column of a workbook and to rename its sheet. -/
def twoJobs (i : Fin 2) : Job :=
  ⟨⟨"20240101_120000", [], "1"⟩, ⟨.ofText "stock.xlsx",
    .ok (if i = 0 then "delete column item" else "rename sheet stock to goods"), .ok none, false,
    true, []⟩⟩

/-- The second run checks its request first, and waits for the lock once. -/
def twoTurns : List (Fin 2 × Bool) :=
  [(1, false), (0, false), (0, false), (1, false)] ++ List.replicate 5 (0, false) ++
    List.replicate 6 (1, false)

end System

end SheetCommand.Job
