import SheetCommand.Text.Case.Lower

/-!
# Text — the lower case of a text in parts

Only a capital sigma looks around, and it looks no further than a space. So a text may be
lower-cased in parts that end at a space (`lower_append_space`), and quotes around a part change
nothing (`lower_quoted`). A text in lower case is at least as long as the text, and no quote is new
in it.
-/

namespace SheetCommand.Text

/-- What holds of the characters with a low code is found out by trying them. -/
theorem of_toNat_lt {P : Char → Prop} {bound : Nat} (h : ∀ n < bound, P (Char.ofNat n)) {c : Char}
    (hc : c.toNat < bound) : P c := by
  have hcode := h c.toNat hc
  rwa [Char.ofNat_toNat] at hcode

/-! ### What a sigma sees -/

/-- A sigma that looks at these characters sees nothing in them, nor anything behind them. -/
def Hides (around : List Char) : Prop := ∀ near, meetsCased (near ++ around) = meetsCased near

theorem hides_space (far : List Char) : Hides (' ' :: far) := by
  intro near
  simp only [meetsCased, List.dropWhile_append]
  cases hdrop : near.dropWhile isCaseIgnored with
  | nil => rfl
  | cons c rest => rfl

theorem hides_quote : Hides ['\''] := by
  intro near
  simp only [meetsCased, List.dropWhile_append]
  cases hdrop : near.dropWhile isCaseIgnored with
  | nil => rfl
  | cons c rest => rfl

theorem hides_nil : Hides [] := fun near => by rw [List.append_nil]

/-! ### Parts -/

theorem lowerFrom_of_hides {before before' : List Char} (h : Hides before) (h' : Hides before')
    (text : List Char) : lowerFrom before text = lowerFrom before' text := by
  have key : ∀ read, lowerFrom (read ++ before) text = lowerFrom (read ++ before') text := by
    induction text with
    | nil => intro read; rfl
    | cons c text ih =>
      intro read
      rw [lowerFrom, lowerFrom, isFinalSigma, isFinalSigma, h read, h' read]
      exact congrArg _ (ih (c :: read))
  exact key []

theorem lowerFrom_append {after : List Char} (h : Hides after) (before text : List Char) :
    lowerFrom before (text ++ after) =
      lowerFrom before text ++ lowerFrom (text.reverse ++ before) after := by
  induction text generalizing before with
  | nil => rfl
  | cons c text ih =>
    rw [List.cons_append, lowerFrom, lowerFrom, isFinalSigma, isFinalSigma, h text, ih,
      List.append_assoc, List.reverse_cons, List.append_assoc]
    rfl

/-- **A space** separates what is lower-cased. -/
theorem lower_append_space (a b : List Char) :
    lower (a ++ ' ' :: b) = lower a ++ ' ' :: lower b := by
  rw [lower, lowerFrom_append (hides_space b)]
  exact congrArg (fun t => lower a ++ ' ' :: t) (lowerFrom_of_hides (hides_space _) hides_nil b)

/-- **Quotes around a text** change nothing in its lower case. -/
theorem lower_quoted (text : List Char) :
    lower ('\'' :: (text ++ ['\''])) = '\'' :: (lower text ++ ['\'']) := by
  change '\'' :: lowerFrom ['\''] (text ++ ['\'']) = _
  rw [lowerFrom_append hides_quote, lowerFrom_of_hides hides_quote hides_nil]
  rfl

/-! ### Lengths and characters -/

theorem length_lower_le (text : List Char) : text.length ≤ (lower text).length := by
  have key : ∀ before, text.length ≤ (lowerFrom before text).length := by
    induction text with
    | nil => intro before; exact Nat.le_refl _
    | cons c text ih =>
      intro before
      have hc : 1 ≤ (if c = 'Σ' then [if isFinalSigma before text then 'ς' else 'σ']
          else lowerChar c).length := by
        unfold lowerChar
        split
        · exact Nat.le_refl _
        · split <;> (try split) <;> (try split) <;> simp
      have := ih (c :: before)
      rw [lowerFrom, List.length_append, List.length_cons]
      omega
  exact key []

/-- A code point that runs send somewhere is sent by the run that it lies in. -/
theorem exists_run {code n : Nat} {runs : CodeRuns} (h : runs.send? code = some n) :
    ∃ r ∈ runs, r.1 ≤ code ∧ code ≤ r.2.1 ∧ (code - r.1) % r.2.2.1 = 0 ∧
      n = r.2.2.2 + (code - r.1) := by
  obtain ⟨r, hr, hsend⟩ := List.exists_of_findSome?_eq_some h
  by_cases hc : r.1 ≤ code ∧ code ≤ r.2.1 ∧ (code - r.1) % r.2.2.1 = 0
  · exact ⟨r, hr, hc.1, hc.2.1, hc.2.2, (Option.some.inj ((if_pos hc).symm.trans hsend)).symm⟩
  · exact absurd ((if_neg hc).symm.trans hsend) (by simp)

theorem le_of_send? {low code n : Nat} {runs : CodeRuns} (hruns : ∀ r ∈ runs, low ≤ r.2.2.2)
    (h : runs.send? code = some n) : low ≤ n := by
  obtain ⟨r, hr, -, -, -, rfl⟩ := exists_run h
  exact Nat.le_trans (hruns r hr) (Nat.le_add_right _ _)

/-- Where a run leads there are characters from 128 on, or the letter `k`. -/
theorem lowerRuns_lead : ∀ r ∈ lowerRuns, (r.1 = r.2.1 ∧ r.2.2.2 = 0x6B) ∨ 128 ≤ r.2.2.2 ∧
    (r.2.2.2 + (r.2.1 - r.1) < 0xD800 ∨
      0xE000 ≤ r.2.2.2 ∧ r.2.2.2 + (r.2.1 - r.1) < 0x110000) := by
  decide +kernel

theorem lowerRuns_targets (r : Nat × Nat × Nat × Nat) (hr : r ∈ lowerRuns) : 0x6B ≤ r.2.2.2 := by
  have hlead := lowerRuns_lead r hr
  omega

theorem toNat_ofNat (n : Nat) : (Char.ofNat n).toNat = n ∨ (Char.ofNat n).toNat = 0 := by
  by_cases h : n.isValidChar
  · exact .inl (congrArg Char.toNat (dif_pos h : Char.ofNat n = _))
  · exact .inr (congrArg Char.toNat (dif_neg h : Char.ofNat n = _))

/-- An ASCII character in lower case is one, and stays as it is; what comes before the letters is
not made by it. -/
theorem toLower_of_ascii {c : Char} (hc : c.toNat < 128) : c.toLower.toNat < 128 ∧
    c.toLower.toLower = c.toLower ∧ (c.toLower.toNat < 0x41 → c.toLower = c) := by
  refine of_toNat_lt (P := fun c => c.toLower.toNat < 128 ∧ c.toLower.toLower = c.toLower ∧
    (c.toLower.toNat < 0x41 → c.toLower = c)) ?_ hc
  decide +kernel

/-- Lower-casing makes nothing that comes before the letters. -/
theorem eq_of_mem_lowerChar {c d : Char} (hd : 0 < d.toNat ∧ d.toNat < 0x41)
    (h : d ∈ lowerChar c) : d = c := by
  unfold lowerChar at h
  split at h
  · rename_i hc
    have hlow := List.mem_singleton.mp h
    rw [hlow, (toLower_of_ascii hc).2.2 (hlow ▸ hd.2)]
  · split at h
    · have hdot : d = 'i' ∨ d = '\u0307' := by simpa using h
      rcases hdot with rfl | rfl <;> exact absurd hd.2 (by decide)
    · split at h
      · rename_i n hn
        have hlow := le_of_send? lowerRuns_targets hn
        have hd' := List.mem_singleton.mp h
        rcases toNat_ofNat n with hn | hn <;> rw [← hd'] at hn <;> omega
      · exact List.mem_singleton.mp h

/-- What lower-casing does not make was there before. -/
theorem mem_of_mem_lower_of {d : Char} (hsigma : d ≠ 'ς' ∧ d ≠ 'σ')
    (hd : ∀ c, d ∈ lowerChar c → d = c) {text : List Char} (h : d ∈ lower text) : d ∈ text := by
  have key : ∀ before, d ∈ lowerFrom before text → d ∈ text := by
    clear h
    induction text with
    | nil => intro before h; exact h
    | cons c text ih =>
      intro before h
      rw [lowerFrom, List.mem_append] at h
      rcases h with h | h
      · split at h
        · rw [List.mem_singleton] at h
          split at h
          · exact absurd h hsigma.1
          · exact absurd h hsigma.2
        · exact List.mem_cons.mpr (.inl (hd c h))
      · exact List.mem_cons_of_mem _ (ih _ h)
  exact key [] h

theorem mem_of_mem_lower {d : Char} (hd : 0 < d.toNat ∧ d.toNat < 0x41) {text : List Char}
    (h : d ∈ lower text) : d ∈ text := by
  refine mem_of_mem_lower_of ⟨?_, ?_⟩ (fun c => eq_of_mem_lowerChar hd) h <;> rintro rfl <;>
    exact absurd hd.2 (by decide)

end SheetCommand.Text
