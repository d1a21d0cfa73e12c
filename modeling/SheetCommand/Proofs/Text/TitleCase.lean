import SheetCommand.Instruction.Wording
import SheetCommand.Proofs.Text.Lower
import SheetCommand.Proofs.Text.Tidy

/-!
# Text — titled texts

A text in lower case is titled by giving each of its words a capital (`titleCase_join`). Of ASCII
words this changes the case alone (`titleCase_of_ascii`).
-/

namespace SheetCommand.Text

variable {mark : Char} {text : List Char} {words : List (List Char)}

/-! ### Joining and splitting -/

theorem map_join (f : Char → Char) (hf : f ' ' = ' ') (ws : List (List Char)) :
    (join [' '] ws).map f = join [' '] (ws.map (·.map f)) := by
  induction ws with
  | nil => rfl
  | cons w ws ih =>
    by_cases hne : ws = []
    · subst hne; rfl
    · rw [join_cons_ne_nil w hne, List.map_cons, join_cons_ne_nil _ (by simpa using hne),
        List.map_append, List.map_cons, hf, ih]

theorem words_join (texts : List (List Char)) :
    Text.words (join [' '] texts) = texts.flatMap Text.words := by
  induction texts with
  | nil => rfl
  | cons text texts ih =>
    by_cases hne : texts = []
    · subst hne
      exact (List.append_nil _).symm
    · rw [join_cons_ne_nil text hne, words_append_blank_cons isBlank_space, ih, List.flatMap_cons]

/-- **Collapsing** texts that are joined by spaces. -/
theorem collapse_join {texts : List (List Char)} (h : ∀ text ∈ texts, Text.words text ≠ []) :
    collapse (join [' '] texts) = join [' '] (texts.map collapse) := by
  induction texts with
  | nil => rfl
  | cons text texts ih =>
    obtain ⟨htext, htexts⟩ := List.forall_mem_cons.mp h
    by_cases hne : texts = []
    · subst hne
      rfl
    · obtain ⟨next, hnext⟩ := List.exists_mem_of_ne_nil texts hne
      have hrest : Text.words (join [' '] texts) ≠ [] := by
        rw [words_join]
        exact fun hnil => htexts next hnext (List.flatMap_eq_nil_iff.mp hnil next hnext)
      rw [join_cons_ne_nil text hne, collapse_append_space htext hrest, ih htexts, List.map_cons,
        join_cons_ne_nil _ (mt List.map_eq_nil_iff.mp hne)]

theorem splitAt_of_not_mem (h : mark ∉ text) : splitAt mark text = [text] := by
  induction text with
  | nil => rfl
  | cons c text ih =>
    obtain ⟨hc, htext⟩ := not_or.mp (mt List.mem_cons.mpr h)
    rw [splitAt, if_neg (Ne.symm hc), ih htext]

theorem splitAt_append_cons (h : mark ∉ text) (rest : List Char) :
    splitAt mark (text ++ mark :: rest) = text :: splitAt mark rest := by
  induction text with
  | nil => rw [List.nil_append, splitAt, if_pos rfl]
  | cons c text ih =>
    obtain ⟨hc, htext⟩ := not_or.mp (mt List.mem_cons.mpr h)
    rw [List.cons_append, splitAt, if_neg (Ne.symm hc), ih htext]

theorem splitAt_join (hne : words ≠ []) (h : ∀ w ∈ words, ' ' ∉ w) :
    splitAt ' ' (join [' '] words) = words := by
  induction words with
  | nil => exact absurd rfl hne
  | cons w words ih =>
    obtain ⟨hw, hwords⟩ := List.forall_mem_cons.mp h
    by_cases hlast : words = []
    · subst hlast
      exact splitAt_of_not_mem hw
    · rw [join_cons_ne_nil w hlast, splitAt_append_cons hw, ih hlast hwords]

/-! ### Capitals -/

theorem titleCase_join (hne : words ≠ []) (h : ∀ w ∈ words, w ≠ [] ∧ ' ' ∉ w) :
    titleCase (join [' '] words) = join [' '] (words.map capitalize) := by
  have hwords : words.filter (fun w => !w.isEmpty) = words := by
    refine List.filter_eq_self.mpr fun w hw => ?_
    rw [Bool.not_eq_true', List.isEmpty_eq_false_iff]
    exact (h w hw).1
  rw [titleCase, splitAt_join hne fun w hw => (h w hw).2, hwords]

/-- A capital is of the same letter. -/
theorem toLower_toUpper {c : Char} (h : c.toNat < 128) :
    c.toUpper.toNat < 128 ∧ c.toUpper.toLower = c.toLower := by
  refine of_toNat_lt (P := fun c => c.toUpper.toNat < 128 ∧ c.toUpper.toLower = c.toLower) ?_ h
  decide +kernel

theorem capitalize_of_ascii {w : List Char} (h : ∀ c ∈ w, c.toNat < 128) :
    (∀ c ∈ capitalize w, c.toNat < 128) ∧
      (capitalize w).map Char.toLower = w.map Char.toLower := by
  cases w with
  | nil => exact ⟨h, rfl⟩
  | cons c rest =>
    obtain ⟨hc, hrest⟩ := List.forall_mem_cons.mp h
    obtain ⟨hupper, hlower⟩ := toLower_toUpper hc
    rw [capitalize_cons_of_ascii hc]
    refine ⟨List.forall_mem_cons.mpr ⟨hupper, hrest⟩, ?_⟩
    rw [List.map_cons, hlower, List.map_cons]

/-- **Titled ASCII words** are ASCII and differ from the words in case alone. -/
theorem titleCase_of_ascii (hne : words ≠ [])
    (h : ∀ w ∈ words, w ≠ [] ∧ ' ' ∉ w ∧ ∀ c ∈ w, c.toNat < 128) :
    (∀ c ∈ titleCase (join [' '] words), c.toNat < 128) ∧
      (titleCase (join [' '] words)).map Char.toLower = (join [' '] words).map Char.toLower := by
  rw [titleCase_join hne fun w hw => ⟨(h w hw).1, (h w hw).2.1⟩]
  constructor
  · intro c hc
    rcases mem_join hc with rfl | ⟨w, hw, hmem⟩
    · decide
    · obtain ⟨v, hv, rfl⟩ := List.mem_map.mp hw
      exact (capitalize_of_ascii (h v hv).2.2).1 c hmem
  · rw [map_join _ (by decide), map_join _ (by decide), List.map_map]
    congr 1
    exact List.map_congr_left fun w hw => (capitalize_of_ascii (h w hw).2.2).2

end SheetCommand.Text
