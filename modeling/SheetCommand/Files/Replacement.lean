import SheetCommand.Files.Store

/-!
# Files — replacing

A file is replaced in steps: a draft is created beside its place, filled, flushed, brought to the disk
and put in its place. Each step can fail for a reason that the store does not know, and the last one
also because of what is in that place.

* `replaceDespite_eq_self_of_error`: a replacement that fails leaves the store as it was; its draft is
  removed.
* `replaceDespite_eq_record_of_ok`: one that does not fail puts the file and changes nothing else.
* `replace_eq`: without a mishap only the place of the file decides.
-/

namespace SheetCommand

/-- The steps of a replacement, in their order. -/
inductive WriteStep where
  | create | fill | flush | sync | swap
  deriving DecidableEq

/-- A step that fails for a reason that the store does not know. -/
structure Mishap where
  step : WriteStep
  problem : FileProblem
  /-- How many bytes a draft has got when it cannot be filled. -/
  filled : Nat

/-- The mishap, if it strikes at a step. -/
def Mishap.at? (mishap : Option Mishap) (step : WriteStep) : Option Mishap :=
  mishap.filter (·.step = step)

namespace Store

/-! ### Places -/

/-- The folder that a file is written into. -/
def folderOf (s : Store) (p : FilePath) : Except Failure Location :=
  if !isUsable p then .error .malformed
  else match s.find p.parent with
    | .error problem => .error (.file problem p.parent.text)
    | .ok (_, .file _) => .error (.file .notFolder p.parent.text)
    | .ok (l, .folder) => .ok l

/-- The place of a file in its folder, where no folder may be. -/
def placeIn (s : Store) (folder : Location) (p : FilePath) : Except Failure Location :=
  if p.name = "" ∨ p.name = ".." then .error (.file .busy p.text)
  else if nameLimit < p.name.utf8ByteSize then .error (.file .nameTooLong p.text)
  else if s.get? (folder ++ [p.name]) = some .folder then .error (.file .isFolder p.text)
  else .ok (folder ++ [p.name])

/-- Where a file can be put. -/
def placeOf (s : Store) (p : FilePath) : Except Failure Location := do
  s.placeIn (← s.folderOf p) p

/-! ### Drafts -/

/-- The names that a draft may have. -/
def draftName (extension : List Char) (n : Nat) : String :=
  ".draft_" ++ .ofList (List.replicate n '0' ++ extension)

/-- The place of a draft in a folder: the first one that is free. -/
def draftIn (s : Store) (folder : Location) (extension : List Char) : Location :=
  let free (n : Nat) : Bool := (s.get? (folder ++ [draftName extension n])).isNone
  folder ++ [draftName extension (((List.range (s.entries.length + 2)).find? free).getD 0)]

/-- Fills a draft and puts it in the place of a file. -/
def settle (mishap : Option Mishap) (s : Store) (folder : Location) (p : FilePath) (draft : Location)
    (content : Payload) : Store × Except Failure Unit :=
  match Mishap.at? mishap .fill with
  | some m =>
    (s.put draft (.raw (content.bytes.take m.filled)), .error (.file m.problem p.text))
  | none =>
    let s := s.put draft content
    match [WriteStep.flush, .sync, .swap].findSome? (Mishap.at? mishap) with
    | some m => (s, .error (.file m.problem p.text))
    | none => match s.placeIn folder p with
      | .error e => (s, .error e)
      | .ok l => ((s.remove draft).record l content, .ok ())

/-! ### Replacing -/

/-- Replaces the file at a path, or creates it, while a mishap may strike. -/
def replaceDespite (mishap : Option Mishap) (s : Store) (p : FilePath) (content : Payload) :
    Store × Except Failure Unit :=
  match s.folderOf p with
  | .error e => (s, .error e)
  | .ok folder =>
    match Mishap.at? mishap .create with
    | some m => (s, .error (.file m.problem p.text))
    | none =>
      let draft := s.draftIn folder (FilePath.splitExtension p.name.toList).2
      match settle mishap (s.put draft (.raw [])) folder p draft content with
      | (s, .error e) => (s.remove draft, .error e)
      | (s, .ok ()) => (s, .ok ())

/-- Replaces the file at a path, or creates it. -/
def replace (s : Store) (p : FilePath) (content : Payload) : Store × Except Failure Unit :=
  replaceDespite none s p content

/-- The path of a copy made at a time: the stamp stands before the extension. -/
def backupPath (p : FilePath) (stamp : String) : FilePath :=
  let (stem, extension) := FilePath.splitExtension p.name.toList
  p.withName (.ofList (stem ++ '.' :: stamp.toList ++ ".bak".toList ++ extension))

/-- Copies a file beside itself, and answers with the path of the copy. -/
def backup (s : Store) (p : FilePath) (stamp : String) : Store × Except Failure String :=
  if p.name = "" then (s, .error (.emptyName p.text))
  else match s.read p with
    | .error e => (s, .error e)
    | .ok content =>
      let copy := backupPath p stamp
      match s.placeOf copy with
      | .error e => (s, .error e)
      | .ok l => (s.record l content, .ok copy.text)

/-! ### The place of a draft is free -/

theorem length_le_of_subset {α : Type} [DecidableEq α] {l m : List α} (nodup : l.Nodup)
    (within : ∀ a ∈ l, a ∈ m) : l.length ≤ m.length := by
  induction l generalizing m with
  | nil => simp
  | cons a l ih =>
    obtain ⟨fresh, nodup⟩ := List.nodup_cons.mp nodup
    have member : a ∈ m := within a (by simp)
    have shorter := ih nodup (m := m.erase a) fun b hb =>
      (List.mem_erase_of_ne (by rintro rfl; exact fresh hb)).mpr (within b (by simp [hb]))
    rw [List.length_erase_of_mem member] at shorter
    have positive := List.length_pos_of_mem member
    simp only [List.length_cons]
    omega

theorem draftName_inj {extension : List Char} {m n : Nat}
    (h : draftName extension m = draftName extension n) : m = n := by
  unfold draftName at h
  have same := congrArg List.length (String.ofList_inj.mp ((String.append_right_inj _).mp h))
  simp only [List.length_append, List.length_replicate] at same
  omega

/-- A location that is taken is one of an entry, or the one on the way to the base. -/
theorem mem_of_taken {s : Store} {folder : Location} {name : String}
    (h : s.get? (folder ++ [name]) ≠ none) :
    folder ++ [name] ∈ s.base.take (folder.length + 1) :: s.entries.map (·.1) := by
  unfold get? at h
  split at h
  · rename_i before
    refine List.mem_cons.mpr (.inl ?_)
    obtain ⟨rest, e⟩ := List.isPrefixOf_iff_prefix.mp before
    rw [← e, List.take_append_of_le_length (by simp), List.take_of_length_le (by simp)]
  · refine List.mem_cons_of_mem _ ?_
    cases found : s.entries.lookup (folder ++ [name]) with
    | none => exact absurd found h
    | some e =>
      obtain ⟨before, after, split, _⟩ := List.lookup_eq_some_iff.mp found
      simp [split]

theorem get?_draftIn (s : Store) (folder : Location) (extension : List Char) :
    s.get? (s.draftIn folder extension) = none := by
  unfold draftIn
  cases found : (List.range (s.entries.length + 2)).find? fun n =>
      (s.get? (folder ++ [draftName extension n])).isNone with
  | some n =>
    have free := List.find?_some found
    simpa [found] using free
  | none =>
    have taken := List.find?_eq_none.mp found
    have few := length_le_of_subset
      (l := (List.range (s.entries.length + 2)).map fun n => folder ++ [draftName extension n])
      (m := s.base.take (folder.length + 1) :: s.entries.map (·.1))
      (by
        refine List.Pairwise.map _ ?_ List.nodup_range
        intro m n different same
        exact different (draftName_inj (by simpa using same)))
      (by
        intro l member
        obtain ⟨n, inRange, rfl⟩ := List.mem_map.mp member
        exact mem_of_taken (by simpa using taken n inRange))
    simp at few

/-! ### Failing and not failing -/

/-- A file that is put where nothing is leaves the places of others as they are. -/
theorem placeIn_put {s : Store} {l : Location} (free : s.get? l = none) (folder : Location)
    (p : FilePath) (content : Payload) :
    (s.put l content).placeIn folder p = s.placeIn folder p := by
  have same : (s.put l content).get? (folder ++ [p.name]) = some .folder ↔
      s.get? (folder ++ [p.name]) = some .folder := by
    rw [get?_put]
    by_cases h : folder ++ [p.name] = l
    · subst h
      have notBase : (folder ++ [p.name]).isPrefixOf s.base ≠ true := fun before => by
        simp [get?, before] at free
      simp [notBase, free]
    · simp [h, get?]
  simp only [placeIn, same]

theorem remove_settle_of_error {mishap : Option Mishap} {s : Store} {folder : Location}
    {p : FilePath} {draft : Location} {content : Payload} {e : Failure}
    (h : (settle mishap s folder p draft content).2 = .error e) :
    (settle mishap s folder p draft content).1.remove draft = s.remove draft := by
  unfold settle at h ⊢
  split
  · exact remove_put ..
  · dsimp only at h ⊢
    split
    · exact remove_put ..
    · split
      · exact remove_put ..
      · simp_all

theorem settle_of_ok {mishap : Option Mishap} {s : Store} {folder : Location}
    {p : FilePath} {draft : Location} {content : Payload}
    (h : (settle mishap s folder p draft content).2 = .ok ()) :
    ∃ l, (s.put draft content).placeIn folder p = .ok l ∧
      (settle mishap s folder p draft content).1 = (s.remove draft).record l content := by
  unfold settle at h ⊢
  split
  · simp_all
  · dsimp only at h ⊢
    split
    · simp_all
    · split
      · simp_all
      · rename_i l place
        exact ⟨l, place, by rw [remove_put]⟩

theorem placeOf_of_folderOf {s : Store} {p : FilePath} {folder : Location}
    (found : s.folderOf p = .ok folder) : s.placeOf p = s.placeIn folder p := by
  rw [placeOf, found]
  rfl

/-- The steps after a draft has been created. -/
theorem replaceDespite_of_folderOf (mishap : Option Mishap) {s : Store} {p : FilePath}
    (content : Payload) {folder : Location} (found : s.folderOf p = .ok folder)
    (spared : Mishap.at? mishap .create = none) :
    ∃ draft, s.get? draft = none ∧
      replaceDespite mishap s p content =
        match settle mishap (s.put draft (.raw [])) folder p draft content with
        | (s, .error e) => (s.remove draft, .error e)
        | (s, .ok ()) => (s, .ok ()) :=
  ⟨_, get?_draftIn s folder (FilePath.splitExtension p.name.toList).2, by
    simp only [replaceDespite, found, spared]⟩

/-- **A replacement that fails** leaves the store as it was. -/
theorem replaceDespite_eq_self_of_error {mishap : Option Mishap} {s : Store} {p : FilePath}
    {content : Payload} {e : Failure} (h : (replaceDespite mishap s p content).2 = .error e) :
    (replaceDespite mishap s p content).1 = s := by
  cases found : s.folderOf p with
  | error e' => simp only [replaceDespite, found]
  | ok folder =>
    cases struck : Mishap.at? mishap .create with
    | some m => simp only [replaceDespite, found, struck]
    | none =>
      obtain ⟨draft, free, steps⟩ := replaceDespite_of_folderOf mishap content found struck
      rw [steps] at h ⊢
      cases settled : settle mishap (s.put draft (.raw [])) folder p draft content with
      | mk left result =>
        rw [settled] at h
        cases result with
        | ok _ => simp at h
        | error e' =>
          have removed := remove_settle_of_error (e := e') (by rw [settled])
          rwa [settled, remove_put, remove_of_free free] at removed

/-- **A replacement that does not fail** puts the file and changes nothing else. -/
theorem replaceDespite_eq_record_of_ok {mishap : Option Mishap} {s : Store} {p : FilePath}
    {content : Payload} (h : (replaceDespite mishap s p content).2 = .ok ()) :
    ∃ l, s.placeOf p = .ok l ∧ (replaceDespite mishap s p content).1 = s.record l content := by
  cases found : s.folderOf p with
  | error e' => simp [replaceDespite, found] at h
  | ok folder =>
    cases struck : Mishap.at? mishap .create with
    | some m => simp [replaceDespite, found, struck] at h
    | none =>
      obtain ⟨draft, free, steps⟩ := replaceDespite_of_folderOf mishap content found struck
      rw [steps] at h ⊢
      cases settled : settle mishap (s.put draft (.raw [])) folder p draft content with
      | mk left result =>
        rw [settled] at h
        cases result with
        | error e' => simp at h
        | ok _ =>
          obtain ⟨l, place, left_eq⟩ := settle_of_ok (congrArg Prod.snd settled)
          rw [settled, remove_put, remove_of_free free] at left_eq
          refine ⟨l, ?_, left_eq⟩
          rw [put_put, placeIn_put free] at place
          rw [placeOf_of_folderOf found, place]

/-- Without a mishap only the place of the file decides. -/
theorem replace_eq (s : Store) (p : FilePath) (content : Payload) :
    s.replace p content = match s.placeOf p with
      | .error e => (s, .error e)
      | .ok l => (s.record l content, .ok ()) := by
  cases found : s.folderOf p with
  | error e =>
    simp only [replace, replaceDespite, placeOf, found]
    rfl
  | ok folder =>
    obtain ⟨draft, free, steps⟩ := replaceDespite_of_folderOf none content found rfl
    have spared : [WriteStep.flush, .sync, .swap].findSome? (Mishap.at? none) = none := rfl
    have place : (s.put draft content).placeIn folder p = s.placeIn folder p := placeIn_put free ..
    have settled : settle none (s.put draft (.raw [])) folder p draft content =
        match s.placeIn folder p with
        | .error e => (s.put draft content, .error e)
        | .ok l => (s.record l content, .ok ()) := by
      unfold settle
      simp only [spared, put_put, place, remove_put, remove_of_free free]
      rfl
    rw [replace, steps, settled, placeOf_of_folderOf found]
    cases s.placeIn folder p with
    | error e => simp [remove_put, remove_of_free free]
    | ok l => rfl

end Store

end SheetCommand
