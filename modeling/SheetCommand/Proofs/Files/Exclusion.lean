import Mathlib.Data.Fin.VecNotation
import Mathlib.Logic.Function.Basic
import SheetCommand.Proofs.Files.Copies

/-!
# Files — locks exclude each other

Any number of locks, each of one workbook, are entered and left in any order. At every point at most
one of those of a workbook is held, and one is entered exactly if none of them is held and its file
can be opened (`locks_exclude`). The file cannot be opened if its name has too many bytes or if a
folder stands in its place; then the lock is entered by nobody, though nobody holds it.

What a use of a lock does is told by who holds the locks of the same workbook (`Sound`): so uses of
the locks of other workbooks make no difference to it.
-/

namespace SheetCommand

open Store

namespace Store

variable {s t : Store} {on : Location → Prop} {folder lock : Location} {name : String}

/-! ### The file of a lock -/

/-- Why a file cannot be opened or created in a folder that is there. -/
def refusal? (s : Store) (l : Location) : Option FileProblem :=
  if nameLimit < (l.getLast?.getD "").utf8ByteSize then some .nameTooLong
  else if s.get? l = some .folder then some .isFolder
  else none

/-- The folder at the location is there, and so are all above it. -/
def HasFolder (s : Store) (l : Location) : Prop := s.find ⟨true, l⟩ = .ok (l, .folder)

instance (s : Store) (l : Location) : Decidable (s.HasFolder l) :=
  inferInstanceAs (Decidable (s.find ⟨true, l⟩ = .ok (l, .folder)))

theorem Agree.refusal? (h : Agree on s t) (l : Location) : s.refusal? l = t.refusal? l := by
  simp only [Store.refusal?, h.folder]

theorem Agree.hasFolder (h : Agree on s t) : s.HasFolder folder ↔ t.HasFolder folder := by
  rw [HasFolder, HasFolder, find_eq_ok_iff, find_eq_ok_iff, h.reaches, h.folder, h.base]

theorem openLock_of_hasFolder (h : s.HasFolder folder) (name : String) :
    s.openLock (folder ++ [name]) = match s.refusal? (folder ++ [name]) with
      | some problem => .error (.file problem (Location.text (folder ++ [name])))
      | none => .ok (s.get? (folder ++ [name])) := by
  obtain ⟨hreach, hlocate, hget⟩ := find_eq_ok_iff.mp h
  have hwalk : s.walk [] folder = .ok folder := hreach.trans (congrArg _ hlocate.symm)
  have hlast : s.walk [] (folder ++ [name]) = if nameLimit < name.utf8ByteSize then
      .error .nameTooLong else .ok (FilePath.step folder name) := by
    rw [walk_append, hwalk]
    show s.walk folder [name] = _
    rw [walk, hget]
    rfl
  rw [openLock, hlast, refusal?, List.getLast?_concat, Option.getD_some]
  by_cases hlong : nameLimit < name.utf8ByteSize
  · rw [if_pos hlong, if_pos hlong]
  · rw [if_neg hlong, if_neg hlong]
    rcases s.get? (folder ++ [name]) with _ | _ | _ <;> rfl

/-- How a lock in a folder that is there is asked for, and what comes of it. -/
inductive Attempted (s : Store) (lock : Location) : Store × Except Failure Unit → Prop where
  | refused {problem : FileProblem} (h : s.refusal? lock = some problem) :
      Attempted s lock (s, .error (.file problem (Location.text lock)))
  | busy {t : Store} (opened : s.refusal? lock = none) (changed : Agree (· ≠ lock) s t)
      (holds : lock ∈ s.held) (held : t.held = s.held) : Attempted s lock (t, .error .lockHeld)
  | taken {t : Store} (opened : s.refusal? lock = none) (changed : Agree (· ≠ lock) s t)
      (free : lock ∉ s.held) (held : t.held = lock :: s.held) : Attempted s lock (t, .ok ())

theorem attempted_acquire {l : Location} (h : s.HasFolder l.dropLast) (note : List UInt8) :
    Attempted s (lockBeside l) (s.acquire (lockBeside l) note) := by
  have hopen := openLock_of_hasFolder h (l.getLast?.getD "" ++ lockSuffix)
  rw [← lockBeside] at hopen
  cases hrefusal : s.refusal? (lockBeside l) with
  | some problem =>
    rw [hrefusal] at hopen
    rw [acquire, hopen]
    exact .refused hrefusal
  | none =>
    rw [hrefusal] at hopen
    have hasked := s.asked_acquire (lockBeside l) note
    generalize s.acquire (lockBeside l) note = outcome at hasked ⊢
    cases hasked with
    | unopened hnot =>
      rcases s.openLock_cases (lockBeside l) with ⟨-, -, hopenable⟩ | ⟨e, he, -⟩
      · exact absurd hopenable hnot
      · rw [he] at hopen
        cases hopen
    | busy _ changed holds held => exact .busy hrefusal changed holds held
    | taken _ changed free held => exact .taken hrefusal changed free held

/-- Workbooks at different locations have different lock files. -/
theorem lockBeside_inj {l m : Location} (hl : l ≠ []) (hm : m ≠ [])
    (h : lockBeside l = lockBeside m) : l = m := by
  obtain ⟨hfolder, hname⟩ := List.append_inj' h rfl
  rw [List.getLast?_eq_some_getLast hl, List.getLast?_eq_some_getLast hm] at hname
  have hlast := (String.append_left_inj _).mp (List.singleton_inj.mp hname)
  rw [← List.dropLast_append_getLast hl, ← List.dropLast_append_getLast hm, hfolder]
  exact congrArg (fun name => _ ++ [name]) hlast

theorem ne_nil_of_lockFile {p : FilePath} (h : s.lockFile p = .ok lock) : p.locate s.base ≠ [] := by
  rw [lockFile, bind_eq_ok_iff] at h
  obtain ⟨l, hl, h⟩ := h
  obtain ⟨-, rfl⟩ := resolve_eq_ok_iff.mp hl
  intro hnil
  rw [hnil] at h
  cases h

end Store

/-! ### Several locks -/

/-- The locks in use, by their names, and the files they are taken on. -/
structure Locks (ι : Type) where
  store : Store
  lock : ι → WorkbookLock

/-- What can be done with a lock. To enter it leaves a note in its file. -/
inductive Use where
  | enter (note : List UInt8)
  | leave

namespace Locks

variable {ι : Type} {s : Store} {paths : ι → FilePath} {files : ι → Location}
  {r : Locks ι} {i j : ι} {note : List UInt8}

section
variable [DecidableEq ι]

def use (r : Locks ι) (i : ι) : Use → Locks ι × Except Failure Unit
  | .enter note =>
    let (k, s, result) := (r.lock i).enter r.store note
    (⟨s, Function.update r.lock i k⟩, result)
  | .leave =>
    let (k, s) := (r.lock i).leave r.store
    (⟨s, Function.update r.lock i k⟩, .ok ())

/-- Makes each use in turn, whether or not one before it has failed. -/
def run (r : Locks ι) (uses : List (ι × Use)) : Locks ι :=
  uses.foldl (fun r u => (r.use u.1 u.2).1) r

end

/-- Locks that have just been made. -/
def start (s : Store) (files : ι → Location) : Locks ι := ⟨s, fun i => ⟨files i, false⟩⟩

/-- Who holds a lock is what its files tell, no two hold the same, and nothing but lock files has
been changed. -/
structure Sound (s : Store) (files : ι → Location) (r : Locks ι) : Prop where
  file_eq : ∀ i, (r.lock i).file = files i
  agree : Agree (fun l => ∀ i, l ≠ files i) s r.store
  nodup : r.store.held.Nodup
  mem_held_iff : ∀ l, l ∈ r.store.held ↔ ∃ i, files i = l ∧ (r.lock i).holds = true
  exclusive : ∀ i j, files i = files j → (r.lock i).holds = true → (r.lock j).holds = true → i = j

theorem sound_start (hheld : s.held = []) : Sound s files (start s files) where
  file_eq _ := rfl
  agree := .refl s
  nodup := by
    rw [start, hheld]
    exact List.nodup_nil
  mem_held_iff l := by
    rw [start, hheld]
    simp
  exclusive _ _ _ h := nomatch h

theorem Sound.of_busy {t : Store} (h : Sound s files r) (changed : Agree (· ≠ files i) r.store t)
    (held : t.held = r.store.held) : Sound s files ⟨t, r.lock⟩ where
  file_eq := h.file_eq
  agree := h.agree.trans (changed.mono fun _ hl => hl i)
  nodup := held ▸ h.nodup
  mem_held_iff := held ▸ h.mem_held_iff
  exclusive := h.exclusive

theorem Sound.lock_eq (h : Sound s files r) (i : ι) : r.lock i = ⟨files i, (r.lock i).holds⟩ := by
  rw [← h.file_eq i]

variable [DecidableEq ι]

/-- How a lock is entered. -/
inductive Entered (s : Store) (files : ι → Location) (r : Locks ι) (i : ι) :
    Locks ι × Except Failure Unit → Prop where
  | refused {problem : FileProblem} (h : s.refusal? (files i) = some problem) :
      Entered s files r i (r, .error (.file problem (Location.text (files i))))
  | busy {t : Store} (opened : s.refusal? (files i) = none)
      (holder : ∃ j, files j = files i ∧ (r.lock j).holds = true)
      (sound : Sound s files ⟨t, r.lock⟩) : Entered s files r i (⟨t, r.lock⟩, .error .lockHeld)
  | taken {t : Store} (opened : s.refusal? (files i) = none)
      (free : ∀ j, files j = files i → (r.lock j).holds = false)
      (sound : Sound s files ⟨t, Function.update r.lock i ⟨files i, true⟩⟩) :
      Entered s files r i (⟨t, Function.update r.lock i ⟨files i, true⟩⟩, .ok ())

theorem holds_update {file : Location} {b : Bool} :
    (Function.update r.lock i ⟨file, b⟩ j).holds = true ↔
      j = i ∧ b = true ∨ j ≠ i ∧ (r.lock j).holds = true := by
  by_cases hj : j = i
  · subst hj
    simp
  · simp [hj]

theorem Sound.file_update (h : Sound s files r) (i : ι) (b : Bool) (j : ι) :
    (Function.update r.lock i ⟨files i, b⟩ j).file = files j := by
  by_cases hj : j = i
  · subst hj
    rw [Function.update_self]
  · rw [Function.update_of_ne hj, h.file_eq]

theorem Sound.of_taken {t : Store} (h : Sound s files r) (changed : Agree (· ≠ files i) r.store t)
    (free : files i ∉ r.store.held) (held : t.held = files i :: r.store.held) :
    Sound s files ⟨t, Function.update r.lock i ⟨files i, true⟩⟩ where
  file_eq := h.file_update i true
  agree := h.agree.trans (changed.mono fun _ hl => hl i)
  nodup := held ▸ List.nodup_cons.mpr ⟨free, h.nodup⟩
  mem_held_iff l := by
    rw [held, List.mem_cons, h.mem_held_iff]
    constructor
    · rintro (rfl | ⟨j, hfile, hholds⟩)
      · exact ⟨i, rfl, holds_update.mpr (.inl ⟨rfl, rfl⟩)⟩
      · by_cases hj : j = i
        · exact ⟨j, hfile, holds_update.mpr (.inl ⟨hj, rfl⟩)⟩
        · exact ⟨j, hfile, holds_update.mpr (.inr ⟨hj, hholds⟩)⟩
    · rintro ⟨j, rfl, hholds⟩
      rcases holds_update.mp hholds with ⟨rfl, -⟩ | ⟨-, hholds⟩
      · exact .inl rfl
      · exact .inr ⟨j, rfl, hholds⟩
  exclusive j k hsame hj hk := by
    -- whoever held the lock would be found among the held files
    have hother : ∀ j, files j = files i → (r.lock j).holds ≠ true := fun j hfile hholds =>
      free ((h.mem_held_iff _).mpr ⟨j, hfile, hholds⟩)
    rcases holds_update.mp hj with ⟨rfl, -⟩ | ⟨-, hj'⟩
    · rcases holds_update.mp hk with ⟨rfl, -⟩ | ⟨-, hk'⟩
      · rfl
      · exact absurd hk' (hother k hsame.symm)
    · rcases holds_update.mp hk with ⟨rfl, -⟩ | ⟨-, hk'⟩
      · exact absurd hj' (hother j hsame)
      · exact h.exclusive j k hsame hj' hk'

theorem Sound.of_left (h : Sound s files r) (hholds : (r.lock i).holds = true) :
    Sound s files ⟨r.store.release (files i), Function.update r.lock i ⟨files i, false⟩⟩ where
  file_eq := h.file_update i false
  agree := h.agree.trans (agree_release r.store (files i))
  nodup := h.nodup.erase _
  mem_held_iff l := by
    rw [release, h.nodup.mem_erase_iff, h.mem_held_iff]
    constructor
    · rintro ⟨hne, j, rfl, hj⟩
      refine ⟨j, rfl, holds_update.mpr (.inr ⟨?_, hj⟩)⟩
      rintro rfl
      exact hne rfl
    · rintro ⟨j, rfl, hj⟩
      rcases holds_update.mp hj with ⟨-, hfalse⟩ | ⟨hne, hj⟩
      · cases hfalse
      · exact ⟨fun hsame => hne (h.exclusive j i hsame hj hholds), j, rfl, hj⟩
  exclusive j k hsame hj hk := by
    rcases holds_update.mp hj with ⟨-, hfalse⟩ | ⟨-, hj'⟩
    · cases hfalse
    · rcases holds_update.mp hk with ⟨-, hfalse⟩ | ⟨-, hk'⟩
      · cases hfalse
      · exact h.exclusive j k hsame hj' hk'

/-- To leave a lock that is not held does nothing. -/
theorem use_leave_of_not_holds (r : Locks ι) (hholds : (r.lock i).holds = false) :
    r.use i .leave = (r, .ok ()) := by
  have hleave : (r.lock i).leave r.store = (r.lock i, r.store) := by
    rw [WorkbookLock.leave, hholds, if_neg Bool.false_ne_true]
  rw [use, hleave]
  dsimp only
  rw [Function.update_eq_self]

theorem Sound.use_leave (h : Sound s files r) (i : ι) :
    (r.use i .leave).1.lock = Function.update r.lock i ⟨files i, false⟩ ∧
      (r.use i .leave).2 = .ok () ∧ Sound s files (r.use i .leave).1 := by
  cases hholds : (r.lock i).holds with
  | false =>
    rw [use_leave_of_not_holds r hholds, ← hholds, ← h.lock_eq, Function.update_eq_self]
    exact ⟨rfl, rfl, h⟩
  | true =>
    have hleave : (r.lock i).leave r.store = (⟨files i, false⟩, r.store.release (files i)) := by
      rw [WorkbookLock.leave, hholds, if_pos rfl, h.file_eq]
    rw [use, hleave]
    exact ⟨rfl, rfl, h.of_left hholds⟩

/-- **To enter a lock** is refused, or fails because it is held, or succeeds because nobody holds
it. -/
theorem Sound.use_enter {l : Location} (h : Sound s files r) (hfile : files i = lockBeside l)
    (hfolder : s.HasFolder l.dropLast) (note : List UInt8) :
    Entered s files r i (r.use i (.enter note)) := by
  have hattempted := attempted_acquire (h.agree.hasFolder.mp hfolder) note
  rw [← hfile] at hattempted
  rw [use, WorkbookLock.enter, h.file_eq]
  generalize r.store.acquire (files i) note = outcome at hattempted ⊢
  cases hattempted with
  | refused hrefused =>
    dsimp only
    rw [Function.update_eq_self]
    exact .refused ((h.agree.refusal? _).trans hrefused)
  | busy opened changed holds held =>
    dsimp only
    rw [Function.update_eq_self]
    exact .busy ((h.agree.refusal? _).trans opened) ((h.mem_held_iff _).mp holds)
      (h.of_busy changed held)
  | taken opened changed free held =>
    refine .taken ((h.agree.refusal? _).trans opened) (fun j hj => ?_)
      (h.of_taken changed free held)
    by_contra hholds
    exact free ((h.mem_held_iff _).mpr ⟨j, hj, Bool.not_eq_false _ ▸ hholds⟩)

namespace Entered

variable {outcome : Locks ι × Except Failure Unit}

theorem eq_ok_iff (h : Entered s files r i outcome) : outcome.2 = .ok () ↔
    s.refusal? (files i) = none ∧ ∀ j, files j = files i → (r.lock j).holds = false := by
  cases h with
  | refused hrefused => exact ⟨nofun, fun ⟨opened, _⟩ => nomatch hrefused.symm.trans opened⟩
  | busy _ holder =>
    obtain ⟨j, hj, hholds⟩ := holder
    exact ⟨nofun, fun ⟨_, free⟩ => nomatch hholds.symm.trans (free j hj)⟩
  | taken opened free => exact ⟨fun _ => ⟨opened, free⟩, fun _ => rfl⟩

theorem eq_held_iff (h : Entered s files r i outcome) : outcome.2 = .error .lockHeld ↔
    s.refusal? (files i) = none ∧ ∃ j, files j = files i ∧ (r.lock j).holds = true := by
  cases h with
  | refused hrefused => exact ⟨nofun, fun ⟨opened, _⟩ => nomatch hrefused.symm.trans opened⟩
  | busy opened holder => exact ⟨fun _ => ⟨opened, holder⟩, fun _ => rfl⟩
  | taken _ free =>
    refine ⟨nofun, ?_⟩
    rintro ⟨-, j, hj, hholds⟩
    exact nomatch hholds.symm.trans (free j hj)

theorem lock_of_ok (h : Entered s files r i outcome) (hok : outcome.2 = .ok ()) :
    outcome.1.lock = Function.update r.lock i ⟨files i, true⟩ := by
  cases h with
  | refused | busy => cases hok
  | taken => rfl

theorem lock_of_error {e : Failure} (h : Entered s files r i outcome)
    (he : outcome.2 = .error e) : outcome.1.lock = r.lock := by
  cases h with
  | refused | busy => rfl
  | taken => cases he

end Entered

/-! ### Runs -/

/-- Locks made for the workbooks at some paths, in folders that are there, while no lock is held. -/
structure Ready (s : Store) (paths : ι → FilePath) (files : ι → Location) : Prop where
  made : ∀ i, s.lockFile (paths i) = .ok (files i)
  hasFolder : ∀ i, s.HasFolder ((paths i).locate s.base).dropLast
  unheld : s.held = []

omit [DecidableEq ι] in
theorem Ready.file_eq_iff (h : Ready s paths files) :
    files i = files j ↔ (paths i).locate s.base = (paths j).locate s.base := by
  rw [lockFile_eq (h.made i), lockFile_eq (h.made j)]
  exact ⟨lockBeside_inj (ne_nil_of_lockFile (h.made i)) (ne_nil_of_lockFile (h.made j)),
    congrArg lockBeside⟩

theorem Ready.entered (hready : Ready s paths files) (h : Sound s files r) (i : ι)
    (note : List UInt8) : Entered s files r i (r.use i (.enter note)) :=
  h.use_enter (lockFile_eq (hready.made i)) (hready.hasFolder i) note

theorem Ready.sound_use (hready : Ready s paths files) (h : Sound s files r) (i : ι) (u : Use) :
    Sound s files (r.use i u).1 := by
  cases u with
  | leave => exact (h.use_leave i).2.2
  | enter note =>
    have hentered := hready.entered h i note
    generalize r.use i (.enter note) = outcome at hentered ⊢
    cases hentered with
    | refused => exact h
    | busy _ _ sound => exact sound
    | taken _ _ sound => exact sound

/-- **Every run** keeps the locks sound. -/
theorem Ready.sound_run (hready : Ready s paths files) (h : Sound s files r)
    (uses : List (ι × Use)) : Sound s files (r.run uses) := by
  induction uses generalizing r with
  | nil => exact h
  | cons u uses ih => exact ih (hready.sound_use h u.1 u.2)

/-! ### Uses of other locks -/

theorem lock_use_of_ne (r : Locks ι) (u : Use) (h : j ≠ i) : (r.use i u).1.lock j = r.lock j := by
  cases u with
  | enter note => exact Function.update_of_ne h _ r.lock
  | leave => exact Function.update_of_ne h _ r.lock

/-- Where the locks on one file are the same, they stay so if one of them is set. -/
theorem update_congr {r r' : Locks ι} (hsame : ∀ j, files j = files i → r.lock j = r'.lock j)
    (lock : WorkbookLock) : ∀ j, files j = files i →
      Function.update r.lock i lock j = Function.update r'.lock i lock j := by
  intro j hj
  by_cases hji : j = i
  · rw [hji, Function.update_self, Function.update_self]
  · rw [Function.update_of_ne hji, Function.update_of_ne hji, hsame j hj]

/-- How a lock is entered is told by who holds the locks on the same file. -/
theorem Entered.congr {r' : Locks ι} {outcome outcome' : Locks ι × Except Failure Unit}
    (h : Entered s files r i outcome) (h' : Entered s files r' i outcome')
    (hsame : ∀ j, files j = files i → r.lock j = r'.lock j) : outcome.2 = outcome'.2 ∧
      ∀ j, files j = files i → outcome.1.lock j = outcome'.1.lock j := by
  cases h with
  | refused hrefused =>
    cases h' with
    | refused hrefused' =>
      obtain rfl := Option.some.inj (hrefused.symm.trans hrefused')
      exact ⟨rfl, hsame⟩
    | busy opened | taken opened => exact nomatch hrefused.symm.trans opened
  | busy opened holder =>
    obtain ⟨j, hj, hholds⟩ := holder
    cases h' with
    | refused hrefused' => exact nomatch opened.symm.trans hrefused'
    | busy => exact ⟨rfl, hsame⟩
    | taken _ free =>
      rw [hsame j hj, free j hj] at hholds
      cases hholds
  | taken opened free =>
    cases h' with
    | refused hrefused' => exact nomatch opened.symm.trans hrefused'
    | busy _ holder =>
      obtain ⟨j, hj, hholds⟩ := holder
      rw [← hsame j hj, free j hj] at hholds
      cases hholds
    | taken => exact ⟨rfl, update_congr hsame _⟩

/-- A use is told by who holds the locks on the same file. -/
theorem Ready.use_congr (hready : Ready s paths files) {r' : Locks ι} (h : Sound s files r)
    (h' : Sound s files r') (hsame : ∀ j, files j = files i → r.lock j = r'.lock j) (u : Use) :
    (r.use i u).2 = (r'.use i u).2 ∧
      ∀ j, files j = files i → (r.use i u).1.lock j = (r'.use i u).1.lock j := by
  cases u with
  | leave =>
    obtain ⟨hlock, hresult, -⟩ := h.use_leave i
    obtain ⟨hlock', hresult', -⟩ := h'.use_leave i
    rw [hlock, hlock', hresult, hresult']
    exact ⟨rfl, update_congr hsame _⟩
  | enter note => exact (hready.entered h i note).congr (hready.entered h' i note) hsame

/-- Uses of the locks of other workbooks can be left out. -/
theorem Ready.lock_run_filter (hready : Ready s paths files) {r' : Locks ι} (file : Location)
    (uses : List (ι × Use)) (h : Sound s files r) (h' : Sound s files r')
    (hsame : ∀ j, files j = file → r.lock j = r'.lock j) :
    ∀ j, files j = file →
      (r.run uses).lock j = (r'.run (uses.filter fun u => files u.1 = file)).lock j := by
  induction uses generalizing r r' with
  | nil => exact hsame
  | cons u uses ih =>
    by_cases hu : files u.1 = file
    · rw [List.filter_cons_of_pos (by simpa using hu)]
      subst hu
      exact ih (hready.sound_use h u.1 u.2) (hready.sound_use h' u.1 u.2)
        (hready.use_congr h h' hsame u.2).2
    · rw [List.filter_cons_of_neg (by simpa using hu)]
      refine ih (hready.sound_use h u.1 u.2) h' fun j hj => ?_
      rw [lock_use_of_ne r u.2 (by rintro rfl; exact hu hj), hsame j hj]

/-! ### Exclusion -/

/-- What locks that have been used in some order do for each other. Two are locks of the same
workbook if their paths lead to the same place. -/
structure Exclude (s : Store) (paths : ι → FilePath) (files : ι → Location)
    (uses : List (ι × Use)) (r : Locks ι) : Prop where
  /-- No two locks of a workbook are held. -/
  at_most_one : ∀ i j, (paths i).locate s.base = (paths j).locate s.base →
    (r.lock i).holds = true → (r.lock j).holds = true → i = j
  enter_eq_ok_iff : ∀ i note, (r.use i (.enter note)).2 = .ok () ↔ s.refusal? (files i) = none ∧
    ∀ j, (paths j).locate s.base = (paths i).locate s.base → (r.lock j).holds = false
  enter_eq_held_iff : ∀ i note, (r.use i (.enter note)).2 = .error .lockHeld ↔
    s.refusal? (files i) = none ∧
      ∃ j, (paths j).locate s.base = (paths i).locate s.base ∧ (r.lock j).holds = true
  lock_of_entered : ∀ i note, (r.use i (.enter note)).2 = .ok () →
    (r.use i (.enter note)).1.lock = Function.update r.lock i ⟨files i, true⟩
  lock_of_failed : ∀ i note e, (r.use i (.enter note)).2 = .error e →
    (r.use i (.enter note)).1.lock = r.lock
  leave_eq : ∀ i, (r.use i .leave).2 = .ok () ∧
    (r.use i .leave).1.lock = Function.update r.lock i ⟨files i, false⟩
  leave_of_not_holds : ∀ i, (r.lock i).holds = false → (r.use i .leave).1 = r
  file_eq_iff : ∀ i j, files i = files j ↔ (paths i).locate s.base = (paths j).locate s.base
  /-- The uses of the locks of other workbooks make no difference. -/
  alone : ∀ i,
    let own := (start s files).run (uses.filter fun u =>
      (paths u.1).locate s.base = (paths i).locate s.base)
    r.lock i = own.lock i ∧ ∀ u, (r.use i u).2 = (own.use i u).2

/-- **Locks exclude each other.** However often and in whichever order any number of locks of
workbooks in folders that are there are entered and left, no two of them are held for one workbook.
A lock is entered exactly if none is held for its workbook, itself included, and its file can be
opened: the name of that file must have at most 255 bytes and no folder may stand in its place. To
enter in vain, and to leave what is not held, changes no lock; and the locks of other workbooks
might as well not be used. -/
theorem locks_exclude (h : Ready s paths files) (uses : List (ι × Use)) :
    Exclude s paths files uses ((start s files).run uses) := by
  have hstart : Sound s files (start s files) := sound_start h.unheld
  have hsound := h.sound_run hstart uses
  have hfile : ∀ i j, files i = files j ↔ (paths i).locate s.base = (paths j).locate s.base :=
    fun i j => h.file_eq_iff
  refine ⟨fun i j hsame => hsound.exclusive i j ((hfile i j).mpr hsame), fun i note => ?_,
    fun i note => ?_, fun i note => (h.entered hsound i note).lock_of_ok,
    fun i note e => (h.entered hsound i note).lock_of_error,
    fun i => ⟨(hsound.use_leave i).2.1, (hsound.use_leave i).1⟩,
    fun i hholds => congrArg Prod.fst (use_leave_of_not_holds _ hholds), hfile, fun i => ?_⟩
  · simp only [(h.entered hsound i note).eq_ok_iff, hfile]
  · simp only [(h.entered hsound i note).eq_held_iff, hfile]
  · simp only [← hfile]
    have hown := h.lock_run_filter (files i) uses hstart hstart fun _ _ => rfl
    exact ⟨hown i rfl, fun u => (h.use_congr hsound (h.sound_run hstart _) hown u).1⟩

theorem locks_exclude_shared :
    let s := Store.ofEntries ["d"]
      [(["d", "x.xlsx"], .file (.raw [])), (["d", "y.xlsx"], .file (.raw []))]
    let paths : Fin 3 → FilePath := ![.ofText "x.xlsx", .ofText "/d/x.xlsx", .ofText "y.xlsx"]
    let files : Fin 3 → Location := ![["d", "x.xlsx.sheetbol.lock"], ["d", "x.xlsx.sheetbol.lock"],
      ["d", "y.xlsx.sheetbol.lock"]]
    let uses : List (Fin 3 × Use) := [(0, .enter []), (1, .enter []), (2, .enter []), (1, .leave)]
    Ready s paths files ∧ Exclude s paths files uses ((start s files).run uses) := by
  intro s paths files uses
  have hready : Ready s paths files := ⟨by decide +kernel, by decide +kernel, rfl⟩
  exact ⟨hready, locks_exclude hready uses⟩

/-- A lock that nobody holds is not entered if the name of its file gets too long. -/
theorem not_entered_under_long_name :
    let name : String := .ofList (List.replicate 240 'w' ++ ".xlsx".toList)
    let s := Store.ofEntries ["d"] [(["d", name], .file (.raw []))]
    let files : Fin 1 → Location := ![["d", name ++ lockSuffix]]
    Ready s ![⟨false, [name]⟩] files ∧ (∀ j, ((start s files).lock j).holds = false) ∧
      ((start s files).use 0 (.enter [])).2 =
        .error (.file .nameTooLong (Location.text ["d", name ++ lockSuffix])) := by
  intro name s files
  have husable : isUsable ⟨false, [name]⟩ = true := by
    simp only [isUsable, List.all_cons, List.all_nil, Bool.and_true, name, String.toList_ofList]
    decide +kernel
  have hlocate : (⟨false, [name]⟩ : FilePath).locate s.base = ["d", name] := by decide +kernel
  have hmade : s.lockFile ⟨false, [name]⟩ = .ok ["d", name ++ lockSuffix] := by
    rw [lockFile, resolve_eq_ok husable, hlocate]
    rfl
  have hready : Ready s ![⟨false, [name]⟩] files := by
    refine ⟨fun i => ?_, fun i => ?_, rfl⟩
    · rw [Fin.eq_zero i]
      exact hmade
    · rw [Fin.eq_zero i]
      show s.HasFolder ((⟨false, [name]⟩ : FilePath).locate s.base).dropLast
      rw [hlocate]
      decide +kernel
  exact ⟨hready, fun _ => rfl, by decide +kernel⟩

end Locks

end SheetCommand
