import SheetCommand.Proofs.Number.Digits
import SheetCommand.Proofs.Text.NameChars

/-!
# Text — whole words

A piece of a text is whole if no word character stands directly in front of it or behind it
(`IsWhole`). Digits are word characters and white space is not; and an instruction as it is read has
no white space but spaces (`eq_space_of_isBlank`).
-/

namespace SheetCommand.Text

variable {c d : Char} {text : List Char}

/-! ### Classes of characters -/

theorem zeros_alphanumeric : (zeros.all fun z =>
    alphanumeric.any fun r => Nat.ble r.1 z && Nat.ble (z + 9) r.2) = true := by
  decide +kernel

theorem isWordChar_of_isDigit (h : isDigit c = true) : isWordChar c = true := by
  obtain ⟨d, hd⟩ := Option.isSome_iff_exists.mp h
  unfold digitValue? at hd
  dsimp only at hd
  unfold isWordChar
  split at hd
  · rename_i hsmall
    rw [if_pos hsmall]
    split at hd
    · rename_i hrange
      have hdigit : c.isDigit = true := by
        simpa [Char.isDigit, UInt32.le_iff_toNat_le] using hrange
      simp [Char.isAlphanum, hdigit]
    · cases hd
  · rename_i hlarge
    rw [if_neg hlarge]
    obtain ⟨z, hz, -⟩ := Option.map_eq_some_iff.mp hd
    have hrange := List.find?_some hz
    obtain ⟨r, hr, hbounds⟩ := List.any_eq_true.mp
      (List.all_eq_true.mp zeros_alphanumeric z (List.mem_of_find?_eq_some hz))
    simp only [Bool.and_eq_true, decide_eq_true_eq, Nat.ble_eq] at hrange hbounds
    refine List.any_eq_true.mpr ⟨r, hr, ?_⟩
    simp only [Bool.and_eq_true, decide_eq_true_eq]
    omega

/-- The code points of white space. -/
def blankCodes : List Nat :=
  [9, 10, 11, 12, 13, 0x1C, 0x1D, 0x1E, 0x1F, 0x20, 0x85, 0xA0, 0x1680, 0x2000, 0x2001, 0x2002,
   0x2003, 0x2004, 0x2005, 0x2006, 0x2007, 0x2008, 0x2009, 0x200A, 0x2028, 0x2029, 0x202F, 0x205F,
   0x3000]

theorem toNat_mem_blankCodes (h : isBlank c = true) : c.toNat ∈ blankCodes := by
  simp only [isBlank, isPlainBlank, Bool.or_eq_true, Bool.and_eq_true, decide_eq_true_eq,
    beq_iff_eq] at h
  simp only [blankCodes, List.mem_cons, List.not_mem_nil]
  omega

theorem isWordChar_of_isBlank (h : isBlank c = true) : isWordChar c = false := by
  have hall : ∀ code ∈ blankCodes, isWordChar (Char.ofNat code) = false := by decide +kernel
  have hcode := hall c.toNat (toNat_mem_blankCodes h)
  rwa [Char.ofNat_toNat] at hcode

/-! ### Characters of a text -/

/-- The characters of a text are tested one by one, and not all characters that there are. -/
instance (priority := high) decidableForallMem (p : Char → Prop) [DecidablePred p] :
    Decidable (∀ c ∈ text, p c) := List.decidableBAll p text

instance (priority := high) decidableExistsMem (p : Char → Prop) [DecidablePred p] :
    Decidable (∃ c ∈ text, p c) := List.decidableBEx p text

/-! ### White space in an instruction as it is read -/

/-- No lower-case mapping leads to white space. -/
theorem lowerRuns_not_blank : ∀ r ∈ lowerRuns, ∀ code ∈ blankCodes,
    code < r.2.2.2 ∨ r.2.2.2 + (r.2.1 - r.1) < code := by
  decide +kernel

theorem send?_ne_of_blank {code n : Nat} (h : lowerRuns.send? code = some n)
    (hblank : n ∈ blankCodes) : False := by
  obtain ⟨r, hr, hfirst, hlast, -, hn⟩ := exists_run h
  have hle : n ≤ r.2.2.2 + (r.2.1 - r.1) := hn ▸ Nat.add_le_add_left (Nat.sub_le_sub_right hlast _) _
  rcases lowerRuns_not_blank r hr n hblank with hlow | hhigh
  · exact Nat.not_le.mpr hlow (hn ▸ Nat.le_add_right _ _)
  · exact Nat.not_le.mpr hhigh hle

theorem eq_of_isBlank_of_mem_lowerChar (hd : isBlank d = true) (h : d ∈ lowerChar c) : d = c := by
  by_cases hsmall : d.toNat < 128
  · have hlow := small_blanks d.toNat hsmall
    rw [Char.ofNat_toNat] at hlow
    exact eq_of_mem_lowerChar (hlow hd) h
  · unfold lowerChar at h
    split at h
    · rename_i hc
      exact absurd (List.mem_singleton.mp h ▸ (toLower_of_ascii hc).1) hsmall
    · split at h
      · have hdot : d = 'i' ∨ d = '\u0307' := by simpa using h
        rcases hdot with rfl | rfl <;> exact absurd hd (by decide)
      · split at h
        · rename_i n hn
          have hcode := toNat_mem_blankCodes hd
          rcases toNat_ofNat n with hto | hto <;> rw [← List.mem_singleton.mp h] at hto
          · exact (send?_ne_of_blank hn (hto ▸ hcode)).elim
          · exact absurd hcode (by rw [hto]; decide)
        · exact List.mem_singleton.mp h

/-- **Spaces are the only white space** in an instruction as it is read. -/
theorem eq_space_of_isBlank (h : c ∈ lower (collapse text)) (hc : isBlank c = true) : c = ' ' := by
  refine eq_space_of_mem_collapse (mem_of_mem_lower_of ⟨?_, ?_⟩ ?_ h) hc
  · rintro rfl; exact absurd hc (by decide)
  · rintro rfl; exact absurd hc (by decide)
  · exact fun _ => eq_of_isBlank_of_mem_lowerChar hc

/-! ### Whole pieces -/

/-- No word character stands at the end of this text. -/
def EndsApart (text : List Char) : Prop := ∀ c ∈ text.getLast?, isWordChar c = false

/-- No word character stands at the start of this text. -/
def BeginsApart (text : List Char) : Prop := ∀ c ∈ text.head?, isWordChar c = false

theorem endsApart_iff : EndsApart text ↔ text.getLast?.any isWordChar = false := by
  rw [EndsApart]
  cases text.getLast? <;> simp

theorem beginsApart_iff : BeginsApart text ↔ text.head?.any isWordChar = false := by
  rw [BeginsApart]
  cases text.head? <;> simp

instance : Decidable (EndsApart text) := decidable_of_iff _ endsApart_iff.symm

instance : Decidable (BeginsApart text) := decidable_of_iff _ beginsApart_iff.symm

theorem exists_last_of_not_endsApart (h : ¬ EndsApart text) :
    ∃ before m, text = before ++ [m] ∧ isWordChar m = true := by
  obtain ⟨m, hm, hword⟩ : ∃ m ∈ text.getLast?, isWordChar m = true := by
    simpa [EndsApart] using h
  obtain ⟨before, rfl⟩ := List.getLast?_eq_some_iff.mp hm
  exact ⟨before, m, rfl, hword⟩

/-- A word at the start of a text lies in every piece there that does not end inside a word. -/
theorem exists_behind_word {word piece rest after : List Char} (h : piece ++ rest = word ++ after)
    (hword : ∀ m ∈ word, isWordChar m = true) (hrest : BeginsApart rest)
    (hafter : BeginsApart after) : ∃ more, piece = word ++ more ∧ BeginsApart more := by
  rcases List.append_eq_append_iff.mp h with ⟨cut, rfl, rfl⟩ | ⟨more, rfl, rfl⟩
  · cases cut with
    | nil => exact ⟨[], by simp, by simp [BeginsApart]⟩
    | cons m cut =>
      have hm : isWordChar m = false := hrest m rfl
      rw [hword m (by simp)] at hm
      cases hm
  · refine ⟨more, rfl, fun m hm => hafter m ?_⟩
    rw [List.head?_append, hm]
    rfl

/-- A piece of a text with no word character directly in front of it or behind it. -/
def IsWhole (piece text : List Char) : Prop :=
  ∃ before after, text = before ++ (piece ++ after) ∧ EndsApart before ∧ BeginsApart after

end SheetCommand.Text
