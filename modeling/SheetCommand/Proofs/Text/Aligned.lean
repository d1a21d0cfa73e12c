import Mathlib.Data.List.Forall2
import SheetCommand.Proofs.Text.Lower

/-!
# Text — a text beside its lower case

One character becomes longer in lower case, the capital `İ` with a dot (`length_lower`). A text
without it stands beside its lower case character by character (`lowered_lower`), and what comes
before the letters is the same in both (`stays_lower`). So what stands between two marks in the one
stands between them in the other.
-/

namespace SheetCommand.Text

variable {c d : Char} {text : List Char}

/-- The lower case of a character is one character. -/
theorem exists_lowerChar (h : c ≠ 'İ') : ∃ d, lowerChar c = [d] := by
  unfold lowerChar
  split
  · exact ⟨_, rfl⟩
  · split
    · rename_i hcode
      exact absurd (Char.toNat_inj.mp hcode) h
    · split <;> exact ⟨_, rfl⟩

/-- The one character is what the other becomes in lower case, at the end of a word or elsewhere. -/
def Lowered (c d : Char) : Prop := lowerChar c = [d] ∨ c = 'Σ' ∧ d = 'ς'

/-- What becomes of a character in a text, a capital sigma included. -/
theorem exists_lowered (h : c ≠ 'İ') (before rest : List Char) :
    ∃ d, (if c = 'Σ' then [if isFinalSigma before rest then 'ς' else 'σ'] else lowerChar c) = [d] ∧
      Lowered c d := by
  split
  · rename_i hsigma
    refine ⟨_, rfl, ?_⟩
    split
    · exact .inr ⟨hsigma, rfl⟩
    · exact .inl (by rw [hsigma]; rfl)
  · obtain ⟨d, hd⟩ := exists_lowerChar h
    exact ⟨d, hd, .inl hd⟩

/-- **The length of a text in lower case.** -/
theorem length_lower (text : List Char) : (lower text).length = text.length + text.count 'İ' := by
  have key : ∀ before, (lowerFrom before text).length = text.length + text.count 'İ' := by
    induction text with
    | nil => intro before; rfl
    | cons c text ih =>
      intro before
      rw [lowerFrom, List.length_append, ih, List.length_cons, List.count_cons]
      by_cases h : c = 'İ'
      · subst h
        have hlength : (lowerChar 'İ').length = 2 := by decide
        simp [hlength]
        omega
      · obtain ⟨d, hd, -⟩ := exists_lowered h before text
        simp [hd, h]
        omega
  exact key []

/-- **Without a dotted capital** a text stands beside its lower case. -/
theorem lowered_lower (h : 'İ' ∉ text) : List.Forall₂ Lowered text (lower text) := by
  have key : ∀ before, List.Forall₂ Lowered text (lowerFrom before text) := by
    induction text with
    | nil => intro before; exact .nil
    | cons c text ih =>
      intro before
      obtain ⟨hc, htext⟩ := not_or.mp (mt List.mem_cons.mpr h)
      obtain ⟨d, hd, hlowered⟩ := exists_lowered (Ne.symm hc) before text
      rw [lowerFrom, hd]
      exact .cons hlowered (ih htext _)
  exact key []

/-- The characters that come before the letters stay as they are. -/
def Stays (c d : Char) : Prop := 0 < d.toNat ∧ d.toNat < 0x41 → d = c

theorem Lowered.stays (h : Lowered c d) : Stays c d := by
  intro hlow
  rcases h with h | ⟨-, rfl⟩
  · exact eq_of_mem_lowerChar hlow (h ▸ List.mem_singleton_self d)
  · exact absurd hlow.2 (by decide)

theorem stays_lower (h : 'İ' ∉ text) : List.Forall₂ Stays text (lower text) :=
  (lowered_lower h).imp fun _ _ => Lowered.stays

theorem stays_refl (text : List Char) : List.Forall₂ Stays text text :=
  List.forall₂_same.mpr fun _ _ _ => rfl

variable {source left right : List Char}

theorem exists_append (h : List.Forall₂ Stays source (left ++ right)) :
    ∃ left' right', source = left' ++ right' ∧ left'.length = left.length ∧
      List.Forall₂ Stays right' right :=
  ⟨source.take left.length, source.drop left.length, (List.take_append_drop ..).symm,
    (List.forall₂_take_append _ _ _ h).length_eq, List.forall₂_drop_append _ _ _ h⟩

/-- What stands behind a mark in the one text stands behind it in the other. -/
theorem exists_mark {mark : Char} (hmark : 0 < mark.toNat ∧ mark.toNat < 0x41)
    (h : List.Forall₂ Stays source (left ++ mark :: right)) :
    ∃ left' right', source = left' ++ mark :: right' ∧ left'.length = left.length ∧
      List.Forall₂ Stays right' right := by
  obtain ⟨left', rest, rfl, hlength, hrest⟩ := exists_append h
  obtain ⟨c, right', hc, hright, rfl⟩ := List.forall₂_cons_right_iff.mp hrest
  exact ⟨left', right', by rw [hc hmark], hlength, hright⟩

end SheetCommand.Text
