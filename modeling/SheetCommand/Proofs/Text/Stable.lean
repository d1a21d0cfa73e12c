import SheetCommand.Proofs.Text.NameChars

/-!
# Text — lower case is stable

No case mapping leads to a character that has a mapping itself (`runs_apart`), so what is in lower
case stays as it is when it is put in lower case again (`lower_lower`), and the capital sigma, which
alone looks at its neighbours, is gone (`IsLower.not_mem`).
-/

namespace SheetCommand.Text

variable {c d : Char} {code n : Nat} {text : List Char}

/-! ### Where the runs lead -/

/-- Whether one run leads to nothing that another starts from: it ends in front of it, begins behind
it, or both go by twos and never meet. -/
def runsApart (r r' : Nat × Nat × Nat × Nat) : Bool :=
  Nat.blt (r.2.2.2 + (r.2.1 - r.1)) r'.1 || Nat.blt r'.2.1 r.2.2.2 ||
    (((r.2.2.1 % 2).beq 0 || r.1.beq r.2.1) && (r'.2.2.1 % 2).beq 0 &&
      ((r.2.2.2 + r'.1) % 2).beq 1)

/-- The dotted capital, as a run of its own. -/
def dotted : Nat × Nat × Nat × Nat := (0x130, 0x130, 2, 0x69)

/-- No run leads to what a run or the dotted capital starts from. -/
theorem runs_apart : (lowerRuns.all fun r => (dotted :: lowerRuns).all (runsApart r)) = true := by
  decide +kernel

theorem not_starts_of_runsApart {r r' : Nat × Nat × Nat × Nat} (h : runsApart r r' = true)
    (hfirst : r.1 ≤ code) (hlast : code ≤ r.2.1) (hstep : (code - r.1) % r.2.2.1 = 0) :
    ¬ (r'.1 ≤ r.2.2.2 + (code - r.1) ∧ r.2.2.2 + (code - r.1) ≤ r'.2.1 ∧
      (r.2.2.2 + (code - r.1) - r'.1) % r'.2.2.1 = 0) := by
  obtain ⟨first, last, step, target⟩ := r
  obtain ⟨first', last', step', target'⟩ := r'
  simp only [runsApart, Bool.or_eq_true, Bool.and_eq_true, Nat.blt_eq, Nat.beq_eq] at h
  dsimp only at hfirst hlast hstep ⊢
  rintro ⟨hfirst', hlast', hstep'⟩
  rcases h with (h | h) | ⟨⟨h, heven'⟩, hodd⟩
  · omega
  · omega
  · have hparity : (code - first) % 2 = 0 := by
      rcases h with heven | rfl
      · exact Nat.mod_eq_zero_of_dvd
          (Nat.dvd_trans (Nat.dvd_of_mod_eq_zero heven) (Nat.dvd_of_mod_eq_zero hstep))
      · omega
    have hparity' := Nat.mod_eq_zero_of_dvd
      (Nat.dvd_trans (Nat.dvd_of_mod_eq_zero heven') (Nat.dvd_of_mod_eq_zero hstep'))
    omega

/-- No run, and not the dotted capital, starts from where a run leads. -/
theorem not_starts_of_send? (h : lowerRuns.send? code = some n) {r' : Nat × Nat × Nat × Nat}
    (hr' : r' ∈ dotted :: lowerRuns) :
    ¬ (r'.1 ≤ n ∧ n ≤ r'.2.1 ∧ (n - r'.1) % r'.2.2.1 = 0) := by
  obtain ⟨r, hr, hfirst, hlast, hstep, rfl⟩ := exists_run h
  exact not_starts_of_runsApart (List.all_eq_true.mp (List.all_eq_true.mp runs_apart r hr) r' hr')
    hfirst hlast hstep

theorem send?_of_send? (h : lowerRuns.send? code = some n) : lowerRuns.send? n = none :=
  List.findSome?_eq_none_iff.mpr fun _ hr' =>
    if_neg (not_starts_of_send? h (List.mem_cons_of_mem _ hr'))

theorem isValidChar_of_send? (h : lowerRuns.send? code = some n) : n.isValidChar := by
  obtain ⟨r, hr, hfirst, hlast, -, rfl⟩ := exists_run h
  rcases lowerRuns_lead r hr with ⟨hone, hk⟩ | ⟨-, hlow | hhigh⟩
  · exact .inl (by omega)
  · exact .inl (by omega)
  · exact .inr (by omega)

theorem eq_or_le_of_send? (h : lowerRuns.send? code = some n) : n = 0x6B ∨ 128 ≤ n ∧ n ≠ 0x130 := by
  have hdotted := not_starts_of_send? h List.mem_cons_self
  obtain ⟨r, hr, hfirst, hlast, -, rfl⟩ := exists_run h
  rcases lowerRuns_lead r hr with ⟨hone, hk⟩ | ⟨hlow, -⟩
  · exact .inl (by omega)
  · refine .inr ⟨by omega, fun heq => hdotted ?_⟩
    simp [dotted, heq]

/-! ### Characters in lower case -/

/-- **The lower case of a character** is its own lower case. -/
theorem lowerChar_of_mem (h : d ∈ lowerChar c) : lowerChar d = [d] := by
  unfold lowerChar at h
  split at h
  · rename_i hc
    rw [List.mem_singleton.mp h]
    obtain ⟨hascii, hlow, -⟩ := toLower_of_ascii hc
    rw [lowerChar_of_ascii hascii, hlow]
  · split at h
    · have hdot : d = 'i' ∨ d = '\u0307' := by simpa using h
      rcases hdot with rfl | rfl <;> rfl
    · split at h
      · rename_i n hn
        rw [List.mem_singleton.mp h]
        rcases eq_or_le_of_send? hn with rfl | ⟨hlow, hdotted⟩
        · decide
        · have hcode : (Char.ofNat n).toNat = n := toNat_ofNat_of_isValidChar (isValidChar_of_send? hn)
          unfold lowerChar
          rw [hcode, if_neg (by omega), if_neg hdotted, send?_of_send? hn]
      · rename_i hsmall hdotted _ hnone
        rw [List.mem_singleton.mp h, lowerChar, if_neg hsmall, if_neg hdotted, hnone]

/-! ### Texts in lower case -/

/-- Each character is its own lower case. -/
def IsLower (text : List Char) : Prop := ∀ c ∈ text, lowerChar c = [c]

theorem isLower_lower (text : List Char) : IsLower (lower text) := by
  have key : ∀ before, IsLower (lowerFrom before text) := by
    induction text with
    | nil => intro before; nofun
    | cons c text ih =>
      intro before
      refine List.forall_mem_append.mpr ⟨fun d hd => ?_, ih _⟩
      split at hd
      · rw [List.mem_singleton.mp hd]
        split <;> rfl
      · exact lowerChar_of_mem hd
  exact key []

theorem lowerChar_sigma : lowerChar 'Σ' = ['σ'] := rfl

/-- The capital sigma is not in lower case. -/
theorem IsLower.not_mem (h : IsLower text) : 'Σ' ∉ text := by
  intro hmem
  have hsigma := h _ hmem
  rw [lowerChar_sigma] at hsigma
  exact absurd hsigma (by decide)

/-- Without a capital sigma the characters are put in lower case one by one. -/
theorem lowerFrom_eq_flatMap (h : 'Σ' ∉ text) (before : List Char) :
    lowerFrom before text = text.flatMap lowerChar := by
  induction text generalizing before with
  | nil => rfl
  | cons c text ih =>
    obtain ⟨hc, htext⟩ := not_or.mp (mt List.mem_cons.mpr h)
    rw [lowerFrom, if_neg (Ne.symm hc), ih htext, List.flatMap_cons]

theorem IsLower.flatMap_eq (h : IsLower text) : text.flatMap lowerChar = text := by
  induction text with
  | nil => rfl
  | cons c text ih =>
    obtain ⟨hc, htext⟩ := List.forall_mem_cons.mp h
    rw [List.flatMap_cons, hc, ih htext, List.singleton_append]

theorem IsLower.lowerFrom_eq (h : IsLower text) (before : List Char) :
    lowerFrom before text = text := by
  rw [lowerFrom_eq_flatMap h.not_mem, h.flatMap_eq]

/-- **Lower case is stable.** -/
theorem lower_lower (text : List Char) : lower (lower text) = lower text :=
  (isLower_lower text).lowerFrom_eq []

end SheetCommand.Text
