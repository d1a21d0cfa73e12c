import SheetCommand.Proofs.Text.TitleCase
import SheetCommand.Text.Letter

/-!
# Text — the characters of names

A name in an instruction is made of word characters, hyphens and white space. In an instruction as
it is read, the ASCII characters among them are letters, digits, underscores, hyphens and spaces
(`IsName`), and giving the words of a name their capitals brings in no other
(`isName_titleCase`), although some characters have a capital of several characters and two have
one in ASCII.
-/

namespace SheetCommand.Text

/-- Outside ASCII anything; in ASCII letters, digits, underscores, hyphens and spaces. -/
def isNameChar (c : Char) : Bool :=
  128 ≤ c.toNat || c.isAlphanum || c == '_' || c == '-' || c == ' '

/-- All characters may stand in a name. -/
def IsName (text : List Char) : Prop := ∀ c ∈ text, isNameChar c = true

variable {c d : Char} {mark : Char} {text part : List Char}

theorem isNameChar_of_le (h : 128 ≤ c.toNat) : isNameChar c = true := by simp [isNameChar, h]

theorem isNameChar_of_isWordChar (h : isWordChar c = true) : isNameChar c = true := by
  unfold isWordChar at h
  split at h
  · simp only [Bool.or_eq_true] at h
    rcases h with h | h <;> simp [isNameChar, h]
  · rename_i hc
    exact isNameChar_of_le (Nat.le_of_not_lt hc)

/-- What holds of the characters of names in ASCII is found out by trying them. -/
theorem of_isNameChar {P : Char → Prop} (h : isNameChar c = true) (hlarge : 128 ≤ c.toNat → P c)
    (hsmall : ∀ n < 128, isNameChar (Char.ofNat n) = true → P (Char.ofNat n)) : P c := by
  by_cases hc : c.toNat < 128
  · have key := hsmall c.toNat hc
    rw [Char.ofNat_toNat] at key
    exact key h
  · exact hlarge (Nat.le_of_not_lt hc)

/-! ### White space in an instruction as it is read -/

theorem small_blanks : ∀ n < 128, isBlank (Char.ofNat n) = true →
    0 < (Char.ofNat n).toNat ∧ (Char.ofNat n).toNat < 0x41 := by
  decide

/-- Once collapsed and in lower case, an instruction has no ASCII white space but spaces. -/
theorem isNameChar_of_isBlank (h : c ∈ lower (collapse text)) (hc : isBlank c = true) :
    isNameChar c = true := by
  by_cases hsmall : c.toNat < 128
  · have hlow := small_blanks c.toNat hsmall
    rw [Char.ofNat_toNat] at hlow
    rw [eq_space_of_mem_collapse (mem_of_mem_lower (hlow hc) h) hc]
    rfl
  · exact isNameChar_of_le (Nat.le_of_not_lt hsmall)

/-! ### Capitals -/

theorem toNat_ofNat_of_isValidChar {n : Nat} (h : n.isValidChar) : (Char.ofNat n).toNat = n := by
  unfold Char.ofNat
  rw [dif_pos h]
  rfl

/-- The runs of capitals stay in one of the two ranges of code points, above ASCII, if they are not
a single letter. -/
theorem upperRuns_targets : ∀ r ∈ upperRuns,
    (128 ≤ r.2.2.2 ∧ r.2.2.2 + (r.2.1 - r.1) < 0xD800) ∨
      (0xE000 ≤ r.2.2.2 ∧ r.2.2.2 + (r.2.1 - r.1) < 0x110000) ∨
      (r.1 = r.2.1 ∧ isNameChar (Char.ofNat r.2.2.2) = true) := by
  decide +kernel

theorem upperExpansions_targets : ∀ e ∈ upperExpansions,
    e.2 ≠ [] ∧ ∀ n ∈ e.2, isNameChar (Char.ofNat n) = true := by
  decide +kernel

theorem expansion_targets {code : Nat} {codes : List Nat}
    (h : upperExpansions.lookup code = some codes) :
    codes ≠ [] ∧ ∀ n ∈ codes, isNameChar (Char.ofNat n) = true := by
  obtain ⟨before, after, hsplit, -⟩ := List.lookup_eq_some_iff.mp h
  refine upperExpansions_targets (code, codes) ?_
  rw [hsplit]
  simp

theorem isNameChar_of_send? {code n : Nat} (h : upperRuns.send? code = some n) :
    isNameChar (Char.ofNat n) = true := by
  obtain ⟨r, hr, hfirst, hlast, -, rfl⟩ := exists_run h
  rcases upperRuns_targets r hr with ⟨hlow, hhigh⟩ | ⟨hlow, hhigh⟩ | ⟨hone, hname⟩
  · refine isNameChar_of_le ?_
    rw [toNat_ofNat_of_isValidChar (.inl (by omega))]
    omega
  · refine isNameChar_of_le ?_
    rw [toNat_ofNat_of_isValidChar (.inr ⟨by omega, by omega⟩)]
    omega
  · rwa [Nat.sub_eq_zero_of_le (hone ▸ hlast)]

theorem small_capitals : ∀ n < 128, isNameChar (Char.ofNat n) = true →
    isNameChar (Char.ofNat n).toUpper = true := by
  decide

theorem isNameChar_of_mem_upperChar (hc : isNameChar c = true) (h : d ∈ upperChar c) :
    isNameChar d = true := by
  unfold upperChar at h
  split at h
  · rename_i hsmall
    rw [List.mem_singleton.mp h]
    exact of_isNameChar (P := fun c => isNameChar c.toUpper = true) hc
      (fun hle => absurd hsmall (Nat.not_lt.mpr hle)) small_capitals
  · split at h
    · rename_i n hn
      rw [List.mem_singleton.mp h]
      exact isNameChar_of_send? hn
    · split at h
      · rename_i codes hcodes
        obtain ⟨n, hn, rfl⟩ := List.mem_map.mp h
        exact (expansion_targets hcodes).2 n hn
      · rwa [List.mem_singleton.mp h]

theorem upperChar_ne_nil (c : Char) : upperChar c ≠ [] := by
  unfold upperChar
  split
  · simp
  · split
    · simp
    · split
      · rename_i codes hcodes
        simpa using (expansion_targets hcodes).1
      · simp

theorem isName_capitalize (h : IsName text) : IsName (capitalize text) := by
  cases text with
  | nil => exact h
  | cons c rest =>
    obtain ⟨hc, hrest⟩ := List.forall_mem_cons.mp h
    exact List.forall_mem_append.mpr ⟨fun d => isNameChar_of_mem_upperChar hc, hrest⟩

/-! ### Titles -/

theorem mem_of_mem_splitAt (hpart : part ∈ splitAt mark text) (hc : c ∈ part) : c ∈ text := by
  induction text generalizing part with
  | nil => rwa [List.mem_singleton.mp hpart] at hc
  | cons d text ih =>
    rw [splitAt] at hpart
    split at hpart
    · rcases List.mem_cons.mp hpart with rfl | hpart
      · cases hc
      · exact List.mem_cons_of_mem _ (ih hpart hc)
    · split at hpart
      · rename_i hnil
        exact absurd hnil (splitAt_ne_nil mark text)
      · rename_i first parts hsplit
        rcases List.mem_cons.mp hpart with rfl | hpart
        · rcases List.mem_cons.mp hc with rfl | hc
          · exact List.mem_cons_self
          · exact List.mem_cons_of_mem _ (ih (hsplit ▸ List.mem_cons_self) hc)
        · exact List.mem_cons_of_mem _ (ih (hsplit ▸ List.mem_cons_of_mem _ hpart) hc)

/-- **A titled name** is a name. -/
theorem isName_titleCase (h : IsName text) : IsName (titleCase text) := by
  intro c hc
  rcases mem_join hc with rfl | ⟨word, hword, hmem⟩
  · rfl
  · obtain ⟨part, hpart, rfl⟩ := List.mem_map.mp hword
    have hin := (List.mem_filter.mp hpart).1
    exact isName_capitalize (fun d hd => h d (mem_of_mem_splitAt hin hd)) c hmem

theorem join_ne_nil {first : List Char} {rest : List (List Char)} (h : first ≠ []) :
    join [' '] (first :: rest) ≠ [] := by
  by_cases hrest : rest = []
  · rwa [hrest]
  · rw [join_cons_ne_nil first hrest]
    exact List.append_ne_nil_of_left_ne_nil h _

/-- A name that begins with a word has a title. -/
theorem titleCase_ne_nil (hc : c ≠ ' ') : titleCase (c :: text) ≠ [] := by
  obtain ⟨part, parts, hsplit⟩ : ∃ part parts, splitAt ' ' (c :: text) = (c :: part) :: parts := by
    rw [splitAt, if_neg hc]
    split
    · exact ⟨_, _, rfl⟩
    · exact ⟨_, _, rfl⟩
  have hcapital : capitalize (c :: part) ≠ [] :=
    List.append_ne_nil_of_left_ne_nil (upperChar_ne_nil c) part
  rw [titleCase, hsplit]
  exact join_ne_nil hcapital

end SheetCommand.Text
