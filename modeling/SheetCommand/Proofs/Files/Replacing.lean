import SheetCommand.Proofs.Files.Agreement

/-!
# Files — all or nothing

A replacement either puts the whole content in the place of the file and changes nothing else, or it
fails and leaves the store as it was, whichever of its steps a mishap strikes. It fails in one of
three ways: its folder is not found, a mishap strikes, or no file can be put in the place
(`ending_replaceDespite`).
-/

namespace SheetCommand.Store

variable {s : Store} {p : FilePath} {content : Payload}

/-- How a replacement ends: what is left and what it answers. -/
inductive Ending (mishap : Option Mishap) (s : Store) (p : FilePath) (content : Payload) :
    Store × Except Failure Unit → Prop where
  | homeless {e : Failure} (missing : s.folderOf p = .error e) :
      Ending mishap s p content (s, .error e)
  | struck {folder : Location} {m : Mishap} (found : s.folderOf p = .ok folder)
      (strikes : mishap = some m) :
      Ending mishap s p content (s, .error (.file m.problem p.text))
  | blocked {e : Failure} (spared : mishap = none) (unplaced : s.placeOf p = .error e) :
      Ending mishap s p content (s, .error e)
  | done {t : Store} (spared : mishap = none) (placed : s.placeOf p = .ok (p.locate s.base))
      (holds : t.get? (p.locate s.base) = some (.file content))
      (others : ∀ l, l ≠ p.locate s.base → t.get? l = s.get? l)
      (base : t.base = s.base) (held : t.held = s.held) :
      Ending mishap s p content (t, .ok ())

/-- A draft that has been created is not put in its place after a mishap. -/
theorem settle_of_mishap {m : Mishap} (h : m.step ≠ .create) (s : Store) (folder : Location)
    (p : FilePath) (draft : Location) (content : Payload) :
    (settle (some m) s folder p draft content).2 = .error (.file m.problem p.text) := by
  obtain ⟨step, problem, filled⟩ := m
  cases step with
  | create => exact absurd rfl h
  | fill | flush | sync | swap => rfl

theorem at?_create_eq_none {m : Mishap} (h : m.step ≠ .create) :
    Mishap.at? (some m) .create = none := by
  rw [Mishap.at?, Option.filter_some, if_neg (by simpa using h)]

/-- **A mishap is answered** by its own failure, at whichever step it strikes. -/
theorem replaceDespite_of_mishap {folder : Location} (found : s.folderOf p = .ok folder)
    (m : Mishap) (content : Payload) :
    (replaceDespite (some m) s p content).2 = .error (.file m.problem p.text) := by
  by_cases hcreate : m.step = .create
  · have hstruck : Mishap.at? (some m) .create = some m := by
      rw [Mishap.at?, Option.filter_some, if_pos (by simpa using hcreate)]
    simp only [replaceDespite, found, hstruck]
  · obtain ⟨draft, -, hsteps⟩ :=
      replaceDespite_of_folderOf (some m) content found (at?_create_eq_none hcreate)
    have hsettled := settle_of_mishap hcreate (s.put draft (.raw [])) folder p draft content
    rw [hsteps]
    generalize settle (some m) (s.put draft (.raw [])) folder p draft content = settled
      at hsettled ⊢
    obtain ⟨left, result⟩ := settled
    rw [show result = .error (.file m.problem p.text) from hsettled]

theorem ending_of_mishap (s : Store) (p : FilePath) (content : Payload) (m : Mishap) :
    Ending (some m) s p content (replaceDespite (some m) s p content) := by
  cases hfolder : s.folderOf p with
  | error e =>
    rw [show replaceDespite (some m) s p content = (s, .error e) by
      simp only [replaceDespite, hfolder]]
    exact .homeless hfolder
  | ok folder =>
    have hresult := replaceDespite_of_mishap hfolder m content
    rw [show replaceDespite (some m) s p content = (s, .error (.file m.problem p.text)) from
      Prod.ext (replaceDespite_eq_self_of_error hresult) hresult]
    exact .struck hfolder rfl

theorem ending_replace (s : Store) (p : FilePath) (content : Payload) :
    Ending none s p content (s.replace p content) := by
  rw [replace_eq]
  cases hplace : s.placeOf p with
  | error e => exact .blocked rfl hplace
  | ok l =>
    obtain ⟨-, -, -, -, rfl, hfree⟩ := placeOf_eq_ok_iff.mp hplace
    exact .done rfl hplace (get?_record_self hfree content)
      (fun l hl => get?_record_of_ne hl s content) rfl rfl

/-- **A replacement is all or nothing.** Whatever the store holds and whichever step fails, the
failure is answered and nothing at all has changed, so the file is as before and no draft is left.
If no step fails, the file has the content and everything else is as before. -/
theorem ending_replaceDespite (mishap : Option Mishap) (s : Store) (p : FilePath)
    (content : Payload) : Ending mishap s p content (replaceDespite mishap s p content) := by
  cases mishap with
  | none => exact ending_replace s p content
  | some m => exact ending_of_mishap s p content m

end SheetCommand.Store
