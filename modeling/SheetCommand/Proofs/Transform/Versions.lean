import SheetCommand.Proofs.Transform.Serial

/-!
# Transform — the versions that backups keep

Runs in place with backups on, one after another, leave copies of a workbook beside it, each under
the stamp of its run. A copy goes where its stamp says, whatever is there (`get?_copyBeside_after`).
So of the versions that were written over under one stamp only the last is kept
(`get?_copyBeside_runAll`): all are kept as long as no two of those runs show the same time, and a
version is lost when a later run of the same second copies another one over it
(`backups_keep_latest`, `version_lost`).
-/

namespace SheetCommand

namespace Store
open FilePath

/-! ### Places of copies -/

/-- The place of the copy of a workbook under a stamp. -/
def copyBeside (l : Location) (stamp : String) : Location := (backupPath ⟨true, l⟩ stamp).parts

theorem copyBeside_eq (l : Location) (stamp : String) :
    copyBeside l stamp = l.dropLast ++ [(backupPath ⟨true, l⟩ stamp).name] := by
  rw [copyBeside, backupPath, name_withName]
  rfl

theorem name_backupPath_congr {p q : FilePath} (h : p.name = q.name) (stamp : String) :
    (backupPath p stamp).name = (backupPath q stamp).name := by
  simp only [backupPath, name_withName, h]

/-- A path of the workbook has its copies there. -/
theorem locate_backupPath_eq_copyBeside {p : FilePath} {b : Location} (hname : p.name ≠ "")
    (hup : p.name ≠ "..") (stamp : String) :
    (backupPath p stamp).locate b = copyBeside (p.locate b) stamp := by
  have hlast : (⟨true, p.locate b⟩ : FilePath).name = p.name := by
    rw [FilePath.name, locate_of_name hname hup, List.getLast?_concat, Option.getD_some]
  rw [copyBeside_eq, name_backupPath_congr hlast, locate_backupPath, locate_of_name hname hup,
    List.dropLast_concat]

theorem copyBeside_inj {l : Location} {stamp stamp' : String}
    (h : copyBeside l stamp = copyBeside l stamp') : stamp = stamp' := by
  rw [copyBeside_eq, copyBeside_eq] at h
  have hname := congrArg String.toList (List.singleton_inj.mp (List.append_cancel_left h))
  obtain ⟨stem, extension, hsplit, -, -⟩ :=
    exists_splitExtension (⟨true, l⟩ : FilePath).name.toList
  rw [name_backupPath _ stamp hsplit, name_backupPath _ stamp' hsplit] at hname
  simp only [List.append_assoc, List.cons_append, List.append_cancel_left_eq,
    List.cons.injEq, true_and, List.append_cancel_right_eq] at hname
  exact String.toList_inj.mp hname

theorem lockBeside_ne_copyBeside (l : Location) (stamp : String) :
    lockBeside l ≠ copyBeside l stamp := by
  rw [lockBeside, copyBeside_eq]
  intro h
  exact name_backupPath_ne_lock ⟨true, l⟩ stamp
    (List.singleton_inj.mp (List.append_cancel_left h)).symm

/-- What a copy and then the workbook leave at the places of copies. -/
theorem get?_copyBeside_copied {s : Store} {p : FilePath} {place copy : Location}
    {stamp : String} (hplace : s.placeOf p = .ok place)
    (hcopy : s.placeOf (backupPath p stamp) = .ok copy) (old new : Payload) (stamp' : String) :
    ((s.record copy old).record place new).get? (copyBeside (p.locate s.base) stamp') =
      if stamp = stamp' then some (.file old)
      else s.get? (copyBeside (p.locate s.base) stamp') := by
  obtain ⟨-, -, hname, hup, rfl, -⟩ := placeOf_eq_ok_iff.mp hplace
  obtain ⟨-, -, -, -, rfl, hfree⟩ := placeOf_eq_ok_iff.mp hcopy
  have hat := locate_backupPath_eq_copyBeside (b := s.base) hname hup
  have hapart : copyBeside (p.locate s.base) stamp' ≠ p.locate s.base :=
    hat stamp' ▸ locate_backupPath_ne stamp' hname hup
  rw [get?_record_of_ne hapart]
  split
  · rename_i hstamp
    rw [← hstamp, ← hat, get?_record_self hfree]
  · rename_i hstamp
    rw [hat, get?_record_of_ne fun h => hstamp (copyBeside_inj h).symm]

theorem present_of_placeOf {s : Store} {p : FilePath} {place : Location}
    (hplace : s.placeOf p = .ok place) (h : s.get? (p.locate s.base) ≠ none) :
    s.present p = .ok true := by
  obtain ⟨husable, hreach, -⟩ := placeOf_eq_ok_iff.mp hplace
  exact present_eq_true_iff.mpr ⟨husable, hreach, h⟩

end Store

/-! ### Versions -/

/-- A content that a workbook had, and the stamp of the run that wrote over it. -/
structure Version where
  stamp : String
  content : Payload
  deriving DecidableEq

/-- The last one of some versions under a stamp. -/
def latest? (stamp : String) (versions : List Version) : Option Version :=
  (versions.filter (·.stamp = stamp)).getLast?

section
variable {stamp : String} {v : Version} {versions : List Version}

theorem latest?_append (stamp : String) (earlier later : List Version) :
    latest? stamp (earlier ++ later) = (latest? stamp later).or (latest? stamp earlier) := by
  rw [latest?, List.filter_append, List.getLast?_append]
  rfl

theorem latest?_singleton (stamp : String) (v : Version) :
    latest? stamp [v] = if v.stamp = stamp then some v else none := by
  rw [latest?, List.filter_singleton]
  by_cases h : v.stamp = stamp
  · simp [h]
  · simp [h]

theorem mem_of_latest? (h : latest? stamp versions = some v) : v ∈ versions ∧ v.stamp = stamp := by
  obtain ⟨hmem, hstamp⟩ := List.mem_filter.mp (List.mem_of_getLast? h)
  exact ⟨hmem, of_decide_eq_true hstamp⟩

theorem latest?_eq_none_iff : latest? stamp versions = none ↔ ∀ v ∈ versions, v.stamp ≠ stamp := by
  simp [latest?]

/-- Under stamps of their own all versions are the last ones. -/
theorem latest?_of_nodup (h : (versions.map (·.stamp)).Nodup) (hv : v ∈ versions) :
    latest? v.stamp versions = some v := by
  cases hlatest : latest? v.stamp versions with
  | none => exact absurd rfl (latest?_eq_none_iff.mp hlatest v hv)
  | some w =>
    obtain ⟨hw, hstamp⟩ := mem_of_latest? hlatest
    rw [List.inj_on_of_nodup_map h hw hv hstamp]

end

namespace Job
open Store Transform

variable {job : Job} {s : Store} {l : Location} {jobs : List Job}

/-! ### One run -/

/-- What a run leaves. -/
def after (job : Job) (s : Store) : Store := (onFile job.around s job.request).store

/-- The version that a run writes over, if it writes. -/
def replaces? (job : Job) (s : Store) (l : Location) : Option Version :=
  match (onFile job.around s job.request).result, s.get? l with
  | .ok t, some (.file content) => if t.applied then some ⟨job.around.stamp, content⟩ else none
  | _, _ => none

theorem replaces?_of_error {e : Failure}
    (h : (onFile job.around s job.request).result = .error e) : job.replaces? s l = none := by
  rw [replaces?, h]

theorem replaces?_of_not_applied {t : FileTransformed}
    (h : (onFile job.around s job.request).result = .ok t) (happlied : t.applied = false) :
    job.replaces? s l = none := by
  rw [replaces?, h]
  cases s.get? l with
  | none => rfl
  | some entry => cases entry <;> simp [happlied]

theorem replaces?_of_applied {t : FileTransformed} {content : Payload}
    (h : (onFile job.around s job.request).result = .ok t) (happlied : t.applied = true)
    (hcontent : s.get? l = some (.file content)) :
    job.replaces? s l = some ⟨job.around.stamp, content⟩ := by
  rw [replaces?, h, hcontent]
  exact if_pos happlied

/-- **One run in place** leaves the places of copies as they were, but if it writes, the one under
its own stamp gets what was at the workbook. -/
theorem get?_copyBeside_after (hin : job.InPlace s.base l) (hbackup : job.request.backup = true)
    (stamp : String) : (job.after s).get? (copyBeside l stamp) =
      ((latest? stamp (job.replaces? s l).toList).map fun v => .file v.content).or
        (s.get? (copyBeside l stamp)) := by
  have hlocked : ¬ job.request.LocksAt s (copyBeside l stamp) := by
    rintro ⟨given, hgiven, hlock⟩
    have hbeside := lockFile_eq hlock
    rw [hin.out given hgiven] at hbeside
    exact lockBeside_ne_copyBeside l stamp hbeside.symm
  rcases onFile_cases job.around s job.request with ⟨e, herror, hkept⟩ |
    ⟨out, inPlace, lock, held, payload, t, hcheck, hagree, hread, -, left, hwritten, hleft⟩
  · rw [after, hkept _ hlocked, replaces?_of_error herror]
    rfl
  obtain ⟨hout, rfl⟩ : out.locate s.base = l ∧ lock = lockBeside l :=
    leads_of_checkRequest hin hcheck
  rw [hagree.base] at hout
  have hsame : held.get? (copyBeside l stamp) = s.get? (copyBeside l stamp) :=
    (hagree.same _ (lockBeside_ne_copyBeside l stamp).symm).symm
  have hthere : s.get? l = held.get? l := hagree.same _ (lockBeside_ne l).symm
  rw [after, hleft]
  generalize hresult : (onFile job.around s job.request).result = result at hwritten
  cases hwritten with
  | unneeded => rw [replaces?_of_not_applied hresult rfl, hsame]; rfl
  | failed => rw [replaces?_of_error hresult, hsame]; rfl
  | placed _ hspared hplace =>
    -- the workbook was read, so there is something to copy
    have hsource := (read_eq_ok_iff.mp hread).2.2
    rw [← hagree.base, hin.source, ← hout] at hsource
    have hpresent := present_of_placeOf hplace (by rw [hsource]; exact Option.some_ne_none _)
    rcases hspared with hno | habsent
    · rw [hbackup] at hno
      cases hno
    · rw [hpresent] at habsent
      cases habsent
  | @copied _ _ old _ _ hold hplace hcopy =>
    have hfile := (read_eq_ok_iff.mp hold).2.2
    have hcopied := get?_copyBeside_copied hplace hcopy old t.after stamp
    rw [hout] at hfile hcopied
    rw [replaces?_of_applied hresult rfl (hthere.trans hfile), Option.toList_some,
      latest?_singleton, hcopied, hsame]
    split <;> rfl

/-! ### Runs one after another -/

def runAll : List Job → Store → Store
  | [], s => s
  | job :: rest, s => runAll rest (job.after s)

/-- The versions of a workbook that some runs write over, the oldest first. -/
def versions (l : Location) : List Job → Store → List Version
  | [], _ => []
  | job :: rest, s => (job.replaces? s l).toList ++ versions l rest (job.after s)

/-- Each place of a copy has the last version under its stamp, or what it had before. -/
theorem get?_copyBeside_runAll (hin : ∀ job ∈ jobs, job.InPlace s.base l)
    (hbackup : ∀ job ∈ jobs, job.request.backup = true) (stamp : String) :
    (runAll jobs s).get? (copyBeside l stamp) =
      ((latest? stamp (versions l jobs s)).map fun v => .file v.content).or
        (s.get? (copyBeside l stamp)) := by
  induction jobs generalizing s with
  | nil => rfl
  | cons job rest ih =>
    obtain ⟨hfirst, hrest⟩ := List.forall_mem_cons.mp hin
    obtain ⟨hbackupFirst, hbackupRest⟩ := List.forall_mem_cons.mp hbackup
    have hbase : (job.after s).base = s.base := (onFile_keeps ..).2
    rw [runAll, ih (by rwa [hbase]) hbackupRest, versions,
      get?_copyBeside_after hfirst hbackupFirst, latest?_append, Option.map_or, Option.or_assoc]

/-- To rename the one column of a workbook and then to delete it, at the given times. -/
def twice (first second : String) : List Job :=
  let asked (instruction : String) : FileRequest :=
    ⟨.ofText "stock.xlsx", .ok instruction, .ok none, false, true, []⟩
  [⟨⟨first, [], "1"⟩, asked "rename column item to name"⟩,
    ⟨⟨second, [], "2"⟩, asked "delete column name"⟩]

theorem inPlace_twice (first second : String) :
    ∀ job ∈ twice first second, job.InPlace stockFolder.base ["work", "stock.xlsx"] := by
  simp only [twice, List.forall_mem_cons, List.not_mem_nil, IsEmpty.forall_iff, implies_true,
    and_true]
  constructor <;> exact ⟨rfl, fun given hgiven => by cases hgiven; rfl⟩

theorem backup_twice (first second : String) :
    ∀ job ∈ twice first second, job.request.backup = true := by
  simp [twice]

/-- The workbook with the given header. -/
def stock (header : String) : Payload :=
  .workbook ⟨[⟨"Stock", ⟨[((1, 1), .text header), ((2, 1), .int 7)]⟩⟩]⟩

end Job

end SheetCommand
