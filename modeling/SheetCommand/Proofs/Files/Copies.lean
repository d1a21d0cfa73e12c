import Mathlib.Data.List.TakeWhile
import SheetCommand.Proofs.Files.Agreement

/-!
# Files — the names beside a workbook

A copy and a lock file stand in the folder of their workbook under names made from its own. The
three places are different, whatever the stamp of the copy is (`locate_backupPath_ne`,
`lockBeside_ne`, `lockFile_ne_backupPath`).
-/

namespace SheetCommand

namespace FilePath

/-! ### Extensions -/

theorem ne_dot {text : List Char} (h : '.' ∉ text) :
    ∀ c ∈ text.reverse, decide (c ≠ '.') = true := by
  intro c hc
  refine decide_eq_true ?_
  rintro rfl
  exact h (List.mem_reverse.mp hc)

theorem splitExtension_of_not_mem {name : List Char} (h : '.' ∉ name) :
    splitExtension name = (name, []) := by
  have hall : name.reverse.takeWhile (· ≠ '.') = name.reverse :=
    List.takeWhile_eq_self_iff.mpr (ne_dot h)
  simp only [splitExtension, hall, List.length_reverse, or_true, if_true]

theorem splitExtension_append {stem after : List Char} (h : '.' ∉ after) :
    splitExtension (stem ++ '.' :: after) =
      if after = [] ∨ stem = [] then (stem ++ '.' :: after, []) else (stem, '.' :: after) := by
  have hlast : (stem ++ '.' :: after).reverse.takeWhile (· ≠ '.') = after.reverse := by
    rw [List.reverse_append, List.reverse_cons, List.append_assoc,
      List.takeWhile_append_of_pos (ne_dot h)]
    simp
  have hstem : (stem ++ '.' :: after).take
      ((stem ++ '.' :: after).length - after.length - 1) = stem := by
    refine List.take_left' ?_
    rw [List.length_append, List.length_cons]
    omega
  have hlen : after.length ≠ (stem ++ '.' :: after).length := by
    rw [List.length_append, List.length_cons]
    omega
  simp only [splitExtension, hlast, List.reverse_reverse, hstem, List.isEmpty_iff, hlen, or_false]

/-- A name is its stem and its extension, and the extension has no dot but its first. -/
theorem exists_splitExtension (name : List Char) : ∃ stem extension,
    splitExtension name = (stem, extension) ∧ name = stem ++ extension ∧
      (extension = [] ∨ ∃ after, '.' ∉ after ∧ extension = '.' :: after) := by
  by_cases hdot : '.' ∈ name
  · obtain ⟨before, after, hsplit, hfirst⟩ :=
      List.eq_append_cons_of_mem (List.mem_reverse.mpr hdot)
    have hname : name = after.reverse ++ '.' :: before.reverse := by
      rw [← List.reverse_reverse name, hsplit, List.reverse_append, List.reverse_cons,
        List.append_assoc]
      rfl
    have hlast : '.' ∉ before.reverse := fun h => hfirst (List.mem_reverse.mp h)
    by_cases hnone : before.reverse = [] ∨ after.reverse = []
    · refine ⟨name, [], ?_, (List.append_nil name).symm, .inl rfl⟩
      rw [hname, splitExtension_append hlast, if_pos hnone]
    · refine ⟨_, _, ?_, hname, .inr ⟨_, hlast, rfl⟩⟩
      rw [hname, splitExtension_append hlast, if_neg hnone]
  · exact ⟨name, [], splitExtension_of_not_mem hdot, (List.append_nil name).symm, .inl rfl⟩

end FilePath

namespace Store
open FilePath

variable (p : FilePath) (stamp : String)

/-! ### The name of a copy -/

theorem parent_backupPath : (backupPath p stamp).parent = p.parent :=
  parent_withName ..

theorem name_backupPath {stem extension : List Char}
    (h : splitExtension p.name.toList = (stem, extension)) : (backupPath p stamp).name.toList =
      stem ++ '.' :: stamp.toList ++ ".bak".toList ++ extension := by
  rw [backupPath, h, name_withName, String.toList_ofList]

theorem length_name_backupPath :
    (backupPath p stamp).name.toList.length = p.name.toList.length + stamp.toList.length + 5 := by
  obtain ⟨stem, extension, hsplit, hname, -⟩ := exists_splitExtension p.name.toList
  have hbak : ".bak".toList.length = 4 := rfl
  rw [name_backupPath p stamp hsplit, hname]
  simp only [List.length_append, List.length_cons, hbak]
  omega

theorem name_backupPath_ne : (backupPath p stamp).name ≠ p.name := by
  intro h
  have hlen := length_name_backupPath p stamp
  rw [h] at hlen
  omega

theorem name_backupPath_ne_up :
    (backupPath p stamp).name ≠ "" ∧ (backupPath p stamp).name ≠ ".." := by
  have hlen := length_name_backupPath p stamp
  constructor
  · intro h
    rw [h] at hlen
    simp at hlen
  · intro h
    have hup : "..".toList.length = 2 := rfl
    rw [h, hup] at hlen
    omega

/-- What stands before the extension of a copy is `.bak`, which no lock file has there. -/
theorem name_backupPath_ne_lock : (backupPath p stamp).name ≠ p.name ++ lockSuffix := by
  intro h
  obtain ⟨stem, extension, hsplit, hname, hextension⟩ := exists_splitExtension p.name.toList
  have hsame := congrArg String.toList h
  rw [name_backupPath p stamp hsplit, String.toList_append, hname] at hsame
  simp only [List.append_assoc, List.cons_append, List.append_cancel_left_eq] at hsame
  have hend := congrArg List.reverse hsame
  rcases hextension with rfl | ⟨after, hafter, rfl⟩
  · simp [lockSuffix] at hend
  · have hlock : ".sheetbol.lock".toList.reverse =
        "kcol".toList ++ '.' :: "lobteehs.".toList := by decide
    rw [lockSuffix] at hend
    simp only [List.reverse_append, List.reverse_cons, List.append_assoc, List.cons_append,
      hlock] at hend
    have hbefore := congrArg (List.dropWhile (· ≠ '.')) hend
    rw [List.dropWhile_append_of_pos (ne_dot hafter),
      List.dropWhile_append_of_pos (List.all_eq_true.mp (by decide))] at hbefore
    simp at hbefore

/-! ### Places -/

/-- The place of the lock file of a workbook. -/
def lockBeside (l : Location) : Location := l.dropLast ++ [l.getLast?.getD "" ++ lockSuffix]

theorem lockFile_eq {p : FilePath} {s : Store} {lock : Location} (h : s.lockFile p = .ok lock) :
    lock = lockBeside (p.locate s.base) := by
  rw [lockFile, bind_eq_ok_iff] at h
  obtain ⟨l, hl, h⟩ := h
  obtain ⟨-, rfl⟩ := resolve_eq_ok_iff.mp hl
  rw [lockBeside]
  split at h
  · cases h
  · rename_i name hname
    rw [hname]
    exact (Except.ok.inj h).symm

theorem lockBeside_ne (l : Location) : lockBeside l ≠ l := by
  intro h
  have hlast := congrArg List.getLast? h
  rw [lockBeside, List.getLast?_concat] at hlast
  have hlen := congrArg (fun name : Option String => (name.getD "").toList.length) hlast
  simp [String.toList_append, lockSuffix] at hlen

section

variable {p : FilePath} {b lock : Location} {s : Store} (hname : p.name ≠ "") (hup : p.name ≠ "..")

include hname hup in
theorem locate_of_name : p.locate b = p.parent.locate b ++ [p.name] := by
  rw [locate_eq hname, step_of_ne hup]

theorem locate_backupPath :
    (backupPath p stamp).locate b = p.parent.locate b ++ [(backupPath p stamp).name] := by
  obtain ⟨hne, hnot⟩ := name_backupPath_ne_up p stamp
  rw [locate_of_name hne hnot, parent_backupPath]

include hname hup

theorem locate_backupPath_ne : (backupPath p stamp).locate b ≠ p.locate b := by
  rw [locate_backupPath, locate_of_name hname hup]
  intro h
  exact name_backupPath_ne p stamp (List.singleton_inj.mp (List.append_cancel_left h))

theorem lockFile_ne_backupPath (h : s.lockFile p = .ok lock) :
    lock ≠ (backupPath p stamp).locate s.base := by
  rw [lockFile_eq h, locate_of_name hname hup, locate_backupPath, lockBeside,
    List.getLast?_concat, List.dropLast_concat]
  intro h
  exact name_backupPath_ne_lock p stamp (List.singleton_inj.mp (List.append_cancel_left h)).symm

end

end Store

end SheetCommand
