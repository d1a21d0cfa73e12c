import SheetCommand.Files.Lock
import SheetCommand.Files.Replacement
import SheetCommand.Proofs.Computation

/-!
# Files — agreement

What a path reads depends on little of a store: on which locations are folders, and on what is at
the location that the path leads to. `Agree on s s'` says that two stores have the same folders and
hold the same at every location of `on`; they then answer alike about any path that leads into `on`.

* `read_eq_ok_iff`, `placeOf_eq_ok_iff`: what a path reads and where its file is put, in terms of
  its location.
* `placeOf_of_read`: a file that can be read can be replaced. So a replacement after a copy of what
  was there does not fail.
* `agree_record`, `agree_acquire`, `agree_release`: a file that is written, a lock that is taken or
  given back change one location at most and no folder.
-/

namespace SheetCommand

/-! ### Paths with a name -/

namespace FilePath

theorem parts_eq {p : FilePath} (h : p.name ≠ "") : p.parts = p.parent.parts ++ [p.name] := by
  have hne : p.parts ≠ [] := by
    intro hnil
    exact h (by rw [name, hnil]; rfl)
  rw [name, parent, List.getLast?_eq_some_getLast hne, Option.getD_some,
    List.dropLast_append_getLast hne]

theorem locate_eq {p : FilePath} (h : p.name ≠ "") (folder : Location) :
    p.locate folder = step (p.parent.locate folder) p.name := by
  rw [locate, parts_eq h, List.foldl_append]
  rfl

theorem step_of_ne {part : String} (h : part ≠ "..") (l : Location) : step l part = l ++ [part] :=
  if_neg h

end FilePath

namespace Store
open FilePath

variable {s s' t : Store} {on : Location → Prop} {l m : Location} {p : FilePath} {c : Payload}

/-! ### Where a path leads -/

theorem folder_above_base (h : m <+: s.base) : s.get? m = some .folder := by
  rw [get?, if_pos (List.isPrefixOf_iff_prefix.mpr h)]

theorem walk_append (s : Store) (l : Location) (front back : List String) :
    s.walk l (front ++ back) = s.walk l front >>= fun m => s.walk m back := by
  induction front generalizing l with
  | nil => rfl
  | cons part front ih =>
    simp only [List.cons_append, walk]
    split
    · rfl
    · rfl
    · split
      · rfl
      · exact ih _

theorem walk_singleton_eq_ok_iff {part : String} : s.walk l [part] = .ok m ↔
    s.get? l = some .folder ∧ part.utf8ByteSize ≤ nameLimit ∧ m = step l part := by
  rw [walk]
  split
  · simp [*]
  · simp [*]
  · rename_i h
    by_cases hlong : nameLimit < part.utf8ByteSize
    · simp [hlong, Nat.not_le_of_lt hlong]
    · simp [h, hlong, walk, Nat.le_of_not_lt hlong, eq_comm]

theorem walk_eq {parts : List String} (h : s.walk l parts = .ok m) : m = parts.foldl step l := by
  induction parts generalizing l with
  | nil => exact (Except.ok.inj h).symm
  | cons part parts ih =>
    rw [← List.singleton_append, walk_append, bind_eq_ok_iff] at h
    obtain ⟨k, hk, h⟩ := h
    obtain ⟨-, -, rfl⟩ := walk_singleton_eq_ok_iff.mp hk
    exact ih h

/-- Every part of a path but the last leads to a folder, and no name is too long. -/
def Reaches (s : Store) (p : FilePath) : Prop :=
  s.walk (if p.absolute then [] else s.base) p.parts = .ok (p.locate s.base)

theorem find_eq_ok_iff {e : Entry} : s.find p = .ok (l, e) ↔
    s.Reaches p ∧ l = p.locate s.base ∧ s.get? l = some e := by
  rw [find, bind_eq_ok_iff]
  constructor
  · rintro ⟨k, hk, h⟩
    obtain rfl := walk_eq hk
    split at h
    · cases h
    · rename_i he
      cases h
      exact ⟨hk, rfl, he⟩
  · rintro ⟨hreach, rfl, he⟩
    exact ⟨_, hreach, by rw [he]⟩

theorem reaches_iff (h : p.name ≠ "") : s.Reaches p ↔
    s.Reaches p.parent ∧ s.get? (p.parent.locate s.base) = some .folder ∧
      p.name.utf8ByteSize ≤ nameLimit := by
  rw [Reaches, parts_eq h, walk_append, bind_eq_ok_iff, locate_eq h]
  constructor
  · rintro ⟨k, hk, hlast⟩
    obtain rfl := walk_eq hk
    obtain ⟨hfolder, hfits, -⟩ := walk_singleton_eq_ok_iff.mp hlast
    exact ⟨hk, hfolder, hfits⟩
  · rintro ⟨hreach, hfolder, hfits⟩
    exact ⟨_, hreach, walk_singleton_eq_ok_iff.mpr ⟨hfolder, hfits, rfl⟩⟩

/-- On the way of a walk everything above is a folder. -/
theorem folder_of_walk {parts : List String} (h : s.walk l parts = .ok m)
    (above : ∀ k, k <+: l → k ≠ l → s.get? k = some .folder) :
    ∀ k, k <+: m → k ≠ m → s.get? k = some .folder := by
  induction parts generalizing l with
  | nil =>
    obtain rfl := Except.ok.inj h
    exact above
  | cons part parts ih =>
    rw [← List.singleton_append, walk_append, bind_eq_ok_iff] at h
    obtain ⟨n, hn, h⟩ := h
    obtain ⟨hfolder, -, rfl⟩ := walk_singleton_eq_ok_iff.mp hn
    refine ih h fun k hk hne => ?_
    have hwithin : ∀ k, k <+: l → s.get? k = some .folder := by
      intro k hk
      by_cases hkl : k = l
      · exact hkl ▸ hfolder
      · exact above k hk hkl
    by_cases hup : part = ".."
    · rw [step, if_pos hup] at hk
      exact hwithin k (hk.trans (List.dropLast_prefix l))
    · rw [step_of_ne hup] at hk hne
      exact hwithin k ((List.prefix_concat_iff.mp hk).resolve_left hne)

/-! ### Reading -/

theorem read_eq_ok_iff : s.read p = .ok c ↔
    isUsable p = true ∧ s.Reaches p ∧ s.get? (p.locate s.base) = some (.file c) := by
  rw [read]
  by_cases husable : isUsable p = true
  · rw [husable, Bool.not_true, if_neg Bool.false_ne_true]
    constructor
    · intro h
      split at h
      · cases h
      · cases h
      · rename_i hfind
        obtain rfl := Except.ok.inj h
        obtain ⟨hreach, rfl, he⟩ := find_eq_ok_iff.mp hfind
        exact ⟨rfl, hreach, he⟩
    · rintro ⟨-, hreach, he⟩
      rw [find_eq_ok_iff.mpr ⟨hreach, rfl, he⟩]
  · simp [husable]

theorem present_eq_true_iff : s.present p = .ok true ↔
    isUsable p = true ∧ s.Reaches p ∧ s.get? (p.locate s.base) ≠ none := by
  rw [present]
  by_cases husable : isUsable p = true
  · rw [husable, Bool.not_true, if_neg Bool.false_ne_true]
    constructor
    · intro h
      split at h
      · rename_i found hfind
        obtain ⟨hreach, hl, he⟩ :=
          find_eq_ok_iff.mp (show s.find p = .ok (found.1, found.2) from hfind)
        exact ⟨rfl, hreach, by rw [← hl, he]; exact Option.some_ne_none _⟩
      · cases h
      · cases h
    · rintro ⟨-, hreach, he⟩
      obtain ⟨e, he⟩ := Option.ne_none_iff_exists'.mp he
      rw [find_eq_ok_iff.mpr ⟨hreach, rfl, he⟩]
  · simp [husable]

theorem resolve_eq_ok (h : isUsable p = true) : s.resolve p = .ok (p.locate s.base) := by
  rw [resolve, if_pos h]

theorem resolve_eq_ok_iff : s.resolve p = .ok l ↔ isUsable p = true ∧ l = p.locate s.base := by
  rw [resolve]
  by_cases husable : isUsable p = true
  · simp [husable, eq_comm]
  · simp [husable]

/-! ### Placing -/

theorem folderOf_eq_ok_iff : s.folderOf p = .ok l ↔
    isUsable p = true ∧ s.Reaches p.parent ∧ l = p.parent.locate s.base ∧
      s.get? l = some .folder := by
  rw [folderOf]
  by_cases husable : isUsable p = true
  · rw [husable, Bool.not_true, if_neg Bool.false_ne_true]
    constructor
    · intro h
      split at h
      · cases h
      · cases h
      · rename_i hfind
        obtain rfl := Except.ok.inj h
        exact ⟨rfl, find_eq_ok_iff.mp hfind⟩
    · rintro ⟨-, h⟩
      rw [find_eq_ok_iff.mpr h]
  · simp [husable]

theorem placeIn_eq_ok_iff {folder : Location} : s.placeIn folder p = .ok l ↔
    p.name ≠ "" ∧ p.name ≠ ".." ∧ p.name.utf8ByteSize ≤ nameLimit ∧ l = folder ++ [p.name] ∧
      s.get? l ≠ some .folder := by
  rw [placeIn]
  constructor
  · intro h
    split at h
    · cases h
    · rename_i hname
      split at h
      · cases h
      · rename_i hfits
        split at h
        · cases h
        · rename_i hfree
          obtain rfl := Except.ok.inj h
          exact ⟨fun e => hname (.inl e), fun e => hname (.inr e), Nat.le_of_not_lt hfits, rfl,
            hfree⟩
  · rintro ⟨hne, hup, hfits, rfl, hfree⟩
    rw [if_neg (by simp [hne, hup]), if_neg (Nat.not_lt_of_le hfits), if_neg hfree]

/-- A file is put where its path leads, if that has a name and is no folder. -/
theorem placeOf_eq_ok_iff : s.placeOf p = .ok l ↔
    isUsable p = true ∧ s.Reaches p ∧ p.name ≠ "" ∧ p.name ≠ ".." ∧ l = p.locate s.base ∧
      s.get? l ≠ some .folder := by
  rw [placeOf, bind_eq_ok_iff]
  constructor
  · rintro ⟨folder, hfolder, hplace⟩
    obtain ⟨husable, hparent, rfl, hget⟩ := folderOf_eq_ok_iff.mp hfolder
    obtain ⟨hne, hup, hfits, hl, hfree⟩ := placeIn_eq_ok_iff.mp hplace
    refine ⟨husable, (reaches_iff hne).mpr ⟨hparent, hget, hfits⟩, hne, hup, ?_, hfree⟩
    rw [locate_eq hne, step_of_ne hup, hl]
  · rintro ⟨husable, hreach, hne, hup, hl, hfree⟩
    obtain ⟨hparent, hget, hfits⟩ := (reaches_iff hne).mp hreach
    rw [locate_eq hne, step_of_ne hup] at hl
    exact ⟨_, folderOf_eq_ok_iff.mpr ⟨husable, hparent, rfl, hget⟩,
      placeIn_eq_ok_iff.mpr ⟨hne, hup, hfits, hl, hfree⟩⟩

/-- A path that ends with a step up leads to a folder. -/
theorem folder_of_up (hreach : s.Reaches p) (hup : p.name = "..") :
    s.get? (p.locate s.base) = some .folder := by
  have hne : p.name ≠ "" := by
    rw [hup]
    decide
  obtain ⟨hparent, hfolder, -⟩ := (reaches_iff hne).mp hreach
  rw [locate_eq hne, hup, step, if_pos rfl]
  have hstart : ∀ k, k <+: (if p.absolute then [] else s.base) → s.get? k = some .folder := by
    intro k hk
    refine folder_above_base (hk.trans ?_)
    split
    · exact List.nil_prefix
    · exact List.prefix_rfl
  by_cases hroot : (p.parent.locate s.base).dropLast = p.parent.locate s.base
  · rw [hroot]
    exact hfolder
  · exact folder_of_walk hparent (fun k hk _ => hstart k hk) _ (List.dropLast_prefix _) hroot

/-- A file that can be read can be replaced. -/
theorem placeOf_of_read (hname : p.name ≠ "") (h : s.read p = .ok c) :
    s.placeOf p = .ok (p.locate s.base) := by
  obtain ⟨husable, hreach, hfile⟩ := read_eq_ok_iff.mp h
  have hnot : s.get? (p.locate s.base) ≠ some .folder := by
    rw [hfile]
    exact fun e => Entry.noConfusion (Option.some.inj e)
  exact placeOf_eq_ok_iff.mpr
    ⟨husable, hreach, hname, fun hup => hnot (folder_of_up hreach hup), rfl, hnot⟩

/-! ### Agreement -/

/-- Two stores with the same folders that hold the same at some locations. -/
structure Agree (on : Location → Prop) (s s' : Store) : Prop where
  base : s.base = s'.base
  folder : ∀ l, s.get? l = some .folder ↔ s'.get? l = some .folder
  same : ∀ l, on l → s.get? l = s'.get? l

namespace Agree

theorem refl (s : Store) : Agree on s s := ⟨rfl, fun _ => Iff.rfl, fun _ _ => rfl⟩

theorem symm (h : Agree on s s') : Agree on s' s :=
  ⟨h.base.symm, fun l => (h.folder l).symm, fun l hl => (h.same l hl).symm⟩

theorem trans (h : Agree on s s') (h' : Agree on s' t) : Agree on s t :=
  ⟨h.base.trans h'.base, fun l => (h.folder l).trans (h'.folder l),
    fun l hl => (h.same l hl).trans (h'.same l hl)⟩

theorem mono {on' : Location → Prop} (h : Agree on s s') (hon : ∀ l, on' l → on l) :
    Agree on' s s' :=
  ⟨h.base, h.folder, fun l hl => h.same l (hon l hl)⟩

/-- A walk ends at the same place, or with a name that is too long, or in another way in both. -/
theorem walk (h : Agree on s s') (l : Location) (parts : List String) :
    (s.walk l parts).mapError (fun e => decide (e = .nameTooLong)) =
      (s'.walk l parts).mapError (fun e => decide (e = .nameTooLong)) := by
  induction parts generalizing l with
  | nil => rfl
  | cons part parts ih =>
    rw [Store.walk, Store.walk]
    have hfolder := h.folder l
    generalize s.get? l = e at hfolder
    generalize s'.get? l = e' at hfolder
    rcases e with _ | _ | _
    · rcases e' with _ | _ | _
      · rfl
      · rfl
      · exact absurd (hfolder.mpr rfl) nofun
    · rcases e' with _ | _ | _
      · rfl
      · rfl
      · exact absurd (hfolder.mpr rfl) nofun
    · rw [hfolder.mp rfl]
      dsimp only
      split
      · rfl
      · exact ih _

theorem walk_eq_ok (h : Agree on s s') {parts : List String} :
    s.walk l parts = .ok m ↔ s'.walk l parts = .ok m := by
  have hwalk := h.walk l parts
  rw [← mapError_eq_ok_iff (f := fun e => decide (e = .nameTooLong)), hwalk, mapError_eq_ok_iff]

theorem reaches (h : Agree on s s') (p : FilePath) : s.Reaches p ↔ s'.Reaches p := by
  rw [Reaches, Reaches, ← h.base, h.walk_eq_ok]

theorem resolve (h : Agree on s s') (p : FilePath) : s.resolve p = s'.resolve p := by
  rw [Store.resolve, Store.resolve, h.base]

theorem lockFile (h : Agree on s s') (p : FilePath) : s.lockFile p = s'.lockFile p := by
  rw [Store.lockFile, Store.lockFile, h.resolve]

theorem read (h : Agree on s s') (hon : on (p.locate s.base)) :
    s.read p = .ok c ↔ s'.read p = .ok c := by
  rw [read_eq_ok_iff, read_eq_ok_iff, h.reaches, h.same _ hon, h.base]

theorem find (h : Agree on s s') (hon : on (p.locate s.base)) :
    (s.find p).mapError (fun e => decide (e = .nameTooLong)) =
      (s'.find p).mapError (fun e => decide (e = .nameTooLong)) := by
  have hwalk := h.walk (if p.absolute then [] else s.base) p.parts
  rw [Store.find, Store.find, ← h.base]
  cases hs : s.walk (if p.absolute then [] else s.base) p.parts with
  | error e =>
    cases hs' : s'.walk (if p.absolute then [] else s.base) p.parts with
    | error e' =>
      rw [hs, hs'] at hwalk
      exact congrArg Except.error (Except.error.inj hwalk)
    | ok m => rw [hs, hs'] at hwalk; cases hwalk
  | ok m =>
    have hm : m = p.locate s.base := Store.walk_eq hs
    have hbind : ∀ k : Location → Except FileProblem (Location × Entry), (.ok m >>= k) = k m :=
      fun _ => rfl
    rw [h.walk_eq_ok.mp hs, hbind, hbind, hm, h.same _ hon]

theorem present (h : Agree on s s') (hon : on (p.locate s.base)) : s.present p = s'.present p := by
  have hfind := h.find hon
  rw [Store.present, Store.present]
  split
  · rfl
  · generalize s.find p = found at hfind
    generalize s'.find p = found' at hfind
    rcases found with e | found
    · rcases found' with e' | found'
      · have hlong : e = .nameTooLong ↔ e' = .nameTooLong :=
          decide_eq_decide.mp (Except.error.inj hfind)
        by_cases he : e = .nameTooLong
        · rw [he, hlong.mp he]
        · cases e <;> cases e' <;> simp_all
      · cases hfind
    · rcases found' with e' | found'
      · cases hfind
      · rfl

theorem placeOf (h : Agree on s s') (p : FilePath) :
    s.placeOf p = .ok l ↔ s'.placeOf p = .ok l := by
  rw [placeOf_eq_ok_iff, placeOf_eq_ok_iff, h.reaches, h.base, ne_eq, ne_eq, ne_eq, ne_eq, h.folder]

end Agree

/-! ### Changes of one location -/

theorem get?_put_of_ne (h : m ≠ l) (s : Store) (c : Payload) : (s.put l c).get? m = s.get? m := by
  rw [get?_put, if_neg h]
  rfl

theorem get?_put_self (h : s.get? l ≠ some .folder) (c : Payload) :
    (s.put l c).get? l = some (.file c) := by
  have hbase : ¬ l.isPrefixOf s.base = true := fun hl =>
    h (folder_above_base (List.isPrefixOf_iff_prefix.mp hl))
  rw [get?_put, if_neg hbase, if_pos rfl]

theorem agree_put (h : s.get? l ≠ some .folder) (c : Payload) :
    Agree (· ≠ l) s (s.put l c) := by
  refine ⟨rfl, fun m => ?_, fun m hm => (get?_put_of_ne hm s c).symm⟩
  by_cases hm : m = l
  · rw [hm, get?_put_self h]
    exact ⟨fun e => absurd e h, fun e => Entry.noConfusion (Option.some.inj e)⟩
  · rw [get?_put_of_ne hm]

theorem agree_of_entries (hbase : s.base = s'.base) (hentries : s.entries = s'.entries) :
    Agree on s s' := by
  have hget : ∀ l, s.get? l = s'.get? l := by
    intro l
    rw [get?, get?, hbase, hentries]
  exact ⟨hbase, fun l => by rw [hget], fun l _ => hget l⟩

theorem agree_record (h : s.get? l ≠ some .folder) (c : Payload) :
    Agree (· ≠ l) s (s.record l c) :=
  (agree_put h c).trans (agree_of_entries rfl rfl)

theorem get?_record_of_ne (h : m ≠ l) (s : Store) (c : Payload) :
    (s.record l c).get? m = s.get? m :=
  get?_put_of_ne h s c

theorem get?_record_self (h : s.get? l ≠ some .folder) (c : Payload) :
    (s.record l c).get? l = some (.file c) :=
  get?_put_self h c

theorem Agree.record (h : Agree on s s') (hl : s.get? l ≠ some .folder) (c : Payload) :
    Agree on (s.record l c) (s'.record l c) := by
  have hl' : s'.get? l ≠ some .folder := fun e => hl ((h.folder l).mpr e)
  refine ⟨h.base, fun m => ?_, fun m hm => ?_⟩
  · rw [← (agree_record hl c).folder, ← (agree_record hl' c).folder, h.folder]
  · by_cases hml : m = l
    · rw [hml, get?_record_self hl, get?_record_self hl']
    · rw [get?_record_of_ne hml, get?_record_of_ne hml, h.same m hm]

theorem agree_release (s : Store) (lock : Location) : Agree on s (s.release lock) :=
  agree_of_entries rfl rfl

/-! ### Locks -/

/-- A lock file can be opened: its folder is there, and no folder is in its place. -/
def Openable (s : Store) (lock : Location) : Prop :=
  s.walk [] lock = .ok (lock.foldl step []) ∧ s.get? lock ≠ some .folder

theorem Agree.openable {lock : Location} (h : Agree on s s') :
    s.Openable lock ↔ s'.Openable lock := by
  rw [Openable, Openable, Ne, Ne, h.folder, h.walk_eq_ok]

/-- How a lock is asked for, and what comes of it. -/
inductive Asked (s : Store) (lock : Location) : Store × Except Failure Unit → Prop where
  | unopened {e : Failure} (h : ¬ s.Openable lock) : Asked s lock (s, .error e)
  | busy {t : Store} (opened : s.Openable lock) (changed : Agree (· ≠ lock) s t)
      (holds : lock ∈ s.held) (held : t.held = s.held) : Asked s lock (t, .error .lockHeld)
  | taken {t : Store} (opened : s.Openable lock) (changed : Agree (· ≠ lock) s t)
      (free : lock ∉ s.held) (held : t.held = lock :: s.held) : Asked s lock (t, .ok ())

theorem openLock_cases (s : Store) (lock : Location) :
    (∃ found, s.openLock lock = .ok found ∧ s.Openable lock) ∨
      ∃ e, s.openLock lock = .error e ∧ ¬ s.Openable lock := by
  rw [openLock]
  cases hwalk : s.walk [] lock with
  | error problem =>
    refine .inr ⟨_, rfl, fun h => ?_⟩
    rw [h.1] at hwalk
    cases hwalk
  | ok m =>
    dsimp only
    split
    · rename_i hfolder
      exact .inr ⟨_, rfl, fun h => h.2 hfolder⟩
    · rename_i hfolder
      exact .inl ⟨_, rfl, walk_eq hwalk ▸ hwalk, hfolder⟩

theorem asked_acquire (s : Store) (lock : Location) (note : List UInt8) :
    Asked s lock (s.acquire lock note) := by
  rw [acquire]
  rcases s.openLock_cases lock with ⟨found, hfound, hopened⟩ | ⟨e, he, hnot⟩
  · rw [hfound]
    let created := if found.isNone then s.put lock (.raw []) else s
    have hcreated : Agree (· ≠ lock) s created ∧ created.held = s.held := by
      by_cases hnone : found.isNone = true
      · rw [show created = s.put lock (.raw []) from if_pos hnone]
        exact ⟨agree_put hopened.2 _, rfl⟩
      · rw [show created = s from if_neg hnone]
        exact ⟨.refl s, rfl⟩
    have hfolder : created.get? lock ≠ some .folder := fun e =>
      hopened.2 ((hcreated.1.folder lock).mpr e)
    show Asked s lock (if created.held.contains lock then (created, .error .lockHeld)
      else ({ created.put lock (.raw note) with held := lock :: created.held }, .ok ()))
    by_cases hheld : created.held.contains lock = true
    · rw [if_pos hheld]
      rw [hcreated.2, List.contains_iff_mem] at hheld
      exact .busy hopened hcreated.1 hheld hcreated.2
    · rw [if_neg hheld]
      rw [hcreated.2, List.contains_iff_mem] at hheld
      exact .taken hopened ((hcreated.1.trans (agree_put hfolder _)).trans
        (agree_of_entries rfl rfl)) hheld (by rw [hcreated.2])
  · rw [he]
    exact .unopened hnot

/-- **Asking for a lock** changes nothing but its file. -/
theorem agree_acquire (s : Store) (lock : Location) (note : List UInt8) :
    Agree (· ≠ lock) s (s.acquire lock note).1 := by
  have hasked := s.asked_acquire lock note
  generalize s.acquire lock note = outcome at hasked ⊢
  cases hasked with
  | unopened => exact .refl s
  | busy _ changed => exact changed
  | taken _ changed => exact changed

/-- A lock that can be opened and is not held is taken. -/
theorem acquire_of_free {lock : Location} (hopen : s.Openable lock) (hfree : lock ∉ s.held)
    (note : List UInt8) : ∃ t, s.acquire lock note = (t, .ok ()) ∧ Agree (· ≠ lock) s t := by
  have hasked := s.asked_acquire lock note
  generalize s.acquire lock note = outcome at hasked ⊢
  cases hasked with
  | unopened h => exact absurd hopen h
  | busy _ _ holds => exact absurd holds hfree
  | taken _ changed => exact ⟨_, rfl, changed⟩

end Store

end SheetCommand
