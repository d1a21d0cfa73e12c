import SheetCommand.Text.Blank

/-!
# Text — tidy texts

A text is tidy if it begins and ends with a character that is no white space and all its white space
is single spaces. Collapsing leaves a tidy text as it is (`collapse_of_tidy`), and what it leaves of
any text with a word in it is tidy (`tidy_collapse`).
-/

namespace SheetCommand.Text

/-- Whether a text may stand after a word (`word`) or after a space, as part of a tidy text. -/
def tidyAfter (word : Bool) : List Char → Bool
  | [] => word
  | c :: rest => if isBlank c then word && c == ' ' && tidyAfter false rest else tidyAfter true rest

/-- Begins and ends with a character that is no white space; the white space is single spaces. -/
def IsTidy (text : List Char) : Prop := tidyAfter false text = true

theorem isBlank_space : isBlank ' ' = true := by decide

theorem tidyAfter_space (text : List Char) :
    tidyAfter true (' ' :: text) = tidyAfter false text := by
  simp [tidyAfter, isBlank_space]

theorem tidyAfter_append {word : Bool} {a : List Char} (ha : tidyAfter word a = true)
    (b : List Char) : tidyAfter word (a ++ b) = tidyAfter true b := by
  induction a generalizing word with
  | nil => rw [show word = true from ha]; rfl
  | cons c a ih =>
    rw [List.cons_append, tidyAfter]
    rw [tidyAfter] at ha
    split at ha
    · rename_i hc
      simp only [Bool.and_eq_true] at ha
      rw [if_pos hc, ih ha.2, ha.1.1, ha.1.2, Bool.true_and, Bool.true_and]
    · rename_i hc
      rw [if_neg hc, ih ha]

theorem IsTidy.tidyAfter {text : List Char} (h : IsTidy text) (word : Bool) :
    tidyAfter word text = true := by
  cases text with
  | nil => cases h
  | cons c rest =>
    unfold IsTidy at h
    rw [Text.tidyAfter] at h ⊢
    split at h
    · simp at h
    · rename_i hc
      rwa [if_neg hc]

theorem tidyAfter_of_nonblank {word : List Char} (h : ∀ c ∈ word, isBlank c = false)
    (rest : List Char) (hne : word ≠ []) (before : Bool) :
    tidyAfter before (word ++ rest) = tidyAfter true rest := by
  induction word generalizing before with
  | nil => exact absurd rfl hne
  | cons c word ih =>
    have hc : isBlank c = false := h c (by simp)
    rw [List.cons_append, tidyAfter, if_neg (by simp [hc])]
    cases word with
    | nil => rfl
    | cons d word => exact ih (fun e he => h e (by simp [he])) (by simp) true

/-! ### Collapsing -/

theorem join_cons_ne_nil (text : List Char) {rest : List (List Char)} (h : rest ≠ []) :
    join [' '] (text :: rest) = text ++ ' ' :: join [' '] rest := by
  cases rest with
  | nil => exact absurd rfl h
  | cons t rest => simp [join]

/-- The words of a text after some characters of a word have been read. -/
theorem join_wordsFrom {word : List Char} {text : List Char}
    (h : tidyAfter (!word.isEmpty) text = true) :
    wordsFrom word text ≠ [] ∧ join [' '] (wordsFrom word text) = word.reverse ++ text := by
  induction text generalizing word with
  | nil =>
    have hw : word ≠ [] := by rintro rfl; simp [tidyAfter] at h
    simp [wordsFrom, hw, join]
  | cons c text ih =>
    rw [tidyAfter] at h
    split at h
    · rename_i hc
      simp only [Bool.and_eq_true, beq_iff_eq] at h
      obtain ⟨⟨hword, rfl⟩, htext⟩ := h
      have hw : word ≠ [] := by rintro rfl; simp at hword
      obtain ⟨hne, hjoin⟩ := @ih [] htext
      simp [wordsFrom, hc, hw, join_cons_ne_nil _ hne, hjoin]
    · rename_i hc
      obtain ⟨hne, hjoin⟩ := @ih (c :: word) (by simpa using h)
      simp [wordsFrom, hc, hne, hjoin]

theorem collapse_of_tidy {text : List Char} (h : IsTidy text) : collapse text = text :=
  (@join_wordsFrom [] _ h).2

theorem words_ne_nil_of_tidy {text : List Char} (h : IsTidy text) : words text ≠ [] := by
  intro hwords
  have hself := collapse_of_tidy h
  rw [collapse, hwords] at hself
  subst hself
  cases h

/-- Words hold no white space and are not empty. -/
theorem mem_wordsFrom {word text w : List Char} (hword : ∀ c ∈ word, isBlank c = false)
    (h : w ∈ wordsFrom word text) : w ≠ [] ∧ ∀ c ∈ w, isBlank c = false := by
  induction text generalizing word with
  | nil =>
    by_cases hw : word = []
    · simp [wordsFrom, hw] at h
    · simp only [wordsFrom, List.isEmpty_iff, hw, if_false, List.mem_singleton] at h
      subst h
      exact ⟨by simpa using hw, by simpa using hword⟩
  | cons c text ih =>
    rw [wordsFrom] at h
    split at h
    · split at h
      · exact ih (by simp) h
      · rename_i hw
        rcases List.mem_cons.mp h with rfl | h
        · exact ⟨by simpa [List.isEmpty_iff] using hw, by simpa using hword⟩
        · exact ih (by simp) h
    · rename_i hc
      refine ih (fun d hd => ?_) h
      rcases List.mem_cons.mp hd with rfl | hd
      · simpa using hc
      · exact hword d hd

theorem mem_words {text w : List Char} (h : w ∈ words text) :
    w ≠ [] ∧ ∀ c ∈ w, isBlank c = false := mem_wordsFrom (by simp) h

theorem tidy_join {ws : List (List Char)} (hne : ws ≠ [])
    (h : ∀ w ∈ ws, w ≠ [] ∧ ∀ c ∈ w, isBlank c = false) : IsTidy (join [' '] ws) := by
  induction ws with
  | nil => exact absurd rfl hne
  | cons w ws ih =>
    obtain ⟨hw, hblank⟩ := h w (by simp)
    cases ws with
    | nil =>
      have hword := tidyAfter_of_nonblank hblank [] hw false
      rwa [List.append_nil] at hword
    | cons w' ws =>
      rw [join_cons_ne_nil w (by simp), IsTidy, tidyAfter_of_nonblank hblank _ hw, tidyAfter_space]
      exact ih (by simp) fun x hx => h x (by simp [hx])

theorem tidy_collapse {text : List Char} (h : words text ≠ []) : IsTidy (collapse text) :=
  tidy_join h fun _ hw => mem_words hw

/-- A text that collapsing leaves as it is, is tidy. -/
theorem tidy_of_collapse {text : List Char} (h : collapse text = text) (hne : text ≠ []) :
    IsTidy text := by
  rw [← h]
  refine tidy_collapse fun hw => hne ?_
  rw [← h, collapse, hw]
  rfl

theorem join_append {xs ys : List (List Char)} (hx : xs ≠ []) (hy : ys ≠ []) :
    join [' '] (xs ++ ys) = join [' '] xs ++ ' ' :: join [' '] ys := by
  induction xs with
  | nil => exact absurd rfl hx
  | cons x xs ih =>
    cases xs with
    | nil => simp [join_cons_ne_nil x hy, join]
    | cons x' xs =>
      rw [List.cons_append, join_cons_ne_nil x (by simp), join_cons_ne_nil x (by simp),
        ih (by simp)]
      simp

theorem mem_join {c : Char} {ws : List (List Char)} (h : c ∈ join [' '] ws) :
    c = ' ' ∨ ∃ w ∈ ws, c ∈ w := by
  induction ws with
  | nil => cases h
  | cons w ws ih =>
    by_cases hne : ws = []
    · subst hne
      exact .inr ⟨w, by simp, h⟩
    · rw [join_cons_ne_nil w hne] at h
      rcases List.mem_append.mp h with h | h
      · exact .inr ⟨w, by simp, h⟩
      · rcases List.mem_cons.mp h with rfl | h
        · exact .inl rfl
        · exact (ih h).imp_right fun ⟨x, hx, hc⟩ => ⟨x, by simp [hx], hc⟩

/-- The only white space of a collapsed text is spaces. -/
theorem eq_space_of_mem_collapse {c : Char} {text : List Char} (h : c ∈ collapse text)
    (hc : isBlank c = true) : c = ' ' := by
  rcases mem_join h with hspace | ⟨w, hw, hmem⟩
  · exact hspace
  · rw [(mem_words hw).2 c hmem] at hc
    cases hc

/-! ### White space at the ends -/

theorem words_of_blank {text : List Char} (h : ∀ c ∈ text, isBlank c = true) : words text = [] := by
  induction text with
  | nil => rfl
  | cons c text ih =>
    obtain ⟨hc, htext⟩ := List.forall_mem_cons.mp h
    rw [words_blank_cons hc, ih htext]

theorem words_dropWhile (text : List Char) : words (text.dropWhile isBlank) = words text := by
  induction text with
  | nil => rfl
  | cons c text ih =>
    by_cases hc : isBlank c = true
    · rw [List.dropWhile_cons_of_pos hc, ih, words_blank_cons hc]
    · rw [List.dropWhile_cons_of_neg hc]

theorem words_append_of_blank (text : List Char) {back : List Char}
    (h : ∀ c ∈ back, isBlank c = true) : words (text ++ back) = words text := by
  cases back with
  | nil => rw [List.append_nil]
  | cons c back =>
    obtain ⟨hc, hback⟩ := List.forall_mem_cons.mp h
    rw [words_append_blank_cons hc, words_of_blank hback, List.append_nil]

/-- **White space at the ends** holds no words. -/
theorem words_trim (text : List Char) : words (trim text) = words text := by
  have hsplit := congrArg List.reverse
    (List.takeWhile_append_dropWhile (p := isBlank) (l := (text.dropWhile isBlank).reverse))
  rw [List.reverse_append, List.reverse_reverse] at hsplit
  rw [← words_dropWhile text, ← hsplit, words_append_of_blank]
  · rfl
  · intro c hc
    exact List.all_eq_true.mp (List.all_takeWhile (p := isBlank)) c (List.mem_reverse.mp hc)

theorem length_trim_le (text : List Char) : (trim text).length ≤ text.length := by
  rw [trim, trimBy, List.length_reverse]
  have hback := (List.dropWhile_sublist (l := (text.dropWhile isBlank).reverse) isBlank).length_le
  rw [List.length_reverse] at hback
  exact Nat.le_trans hback (List.dropWhile_sublist isBlank).length_le

theorem collapse_trim (text : List Char) : collapse (trim text) = collapse text := by
  rw [collapse, words_trim, collapse]

theorem collapse_collapse (text : List Char) : collapse (collapse text) = collapse text := by
  by_cases h : words text = []
  · rw [collapse.eq_1 text, h]; rfl
  · exact collapse_of_tidy (tidy_collapse h)

/-- **Collapsing** at a space between two words. -/
theorem collapse_append_space {a b : List Char} (ha : words a ≠ []) (hb : words b ≠ []) :
    collapse (a ++ ' ' :: b) = collapse a ++ ' ' :: collapse b := by
  rw [collapse, words_append_blank_cons isBlank_space, join_append ha hb]
  rfl

end SheetCommand.Text
