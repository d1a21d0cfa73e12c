import SheetCommand.Proofs.Instruction.Blind

/-!
# What a pattern spells

Leaving aside where a pattern is read and which reading is preferred, it spells a set of texts. What
a pattern reads between two cursors is one of them (`exists_spells`).
-/

namespace SheetCommand.Pattern

variable {σ : Type} {x : List Char}

/-- The texts that a pattern reads, those of its parts one after the other. -/
def Spells : Pattern σ → List Char → Prop
  | one cls, x => ∃ c, cls.accepts c = true ∧ x = [c]
  | seq p q, x => ∃ a b, p.Spells a ∧ q.Spells b ∧ x = a ++ b
  | choice p q, x => p.Spells x ∨ q.Spells x
  | many _ p, x => ∃ parts : List (List Char), (∀ a ∈ parts, p.Spells a) ∧ x = parts.flatten
  | keep _ p, x => p.Spells x
  | empty, x => x = []
  | absent _, x => x = []
  | start, x => x = []
  | stop, x => x = []
  | edge, x => x = []

/-- **What is read between two cursors** is spelled by the pattern. -/
theorem exists_spells (p : Pattern σ) {c d : Cursor σ} (hd : d ∈ p.outcomes c) :
    ∃ x, p.Spells x ∧ c.rest = x ++ d.rest := by
  induction p generalizing c d with
  | one cls =>
    obtain ⟨e, rest, hrest, ha, rfl⟩ := mem_outcomes_one.mp hd
    exact ⟨[e], ⟨e, ha, rfl⟩, hrest⟩
  | seq p q ihp ihq =>
    obtain ⟨e, he, hd⟩ := List.mem_flatMap.mp hd
    obtain ⟨a, ha, hc⟩ := ihp he
    obtain ⟨b, hb, he⟩ := ihq hd
    exact ⟨a ++ b, ⟨a, b, ha, hb, rfl⟩, by rw [hc, he, List.append_assoc]⟩
  | choice p q ihp ihq =>
    rcases List.mem_append.mp hd with hd | hd
    · exact (ihp hd).imp fun _ h => ⟨.inl h.1, h.2⟩
    · exact (ihq hd).imp fun _ h => ⟨.inr h.1, h.2⟩
  | many greedy p ih =>
    refine of_mem_rounds (P := fun c => ∃ x, (many greedy p).Spells x ∧ c.rest = x ++ d.rest) hd
      ⟨[], ⟨[], by simp, rfl⟩, rfl⟩ fun c e he => ?_
    rintro ⟨x, ⟨parts, hparts, rfl⟩, hrest⟩
    obtain ⟨a, ha, hc⟩ := ih he
    exact ⟨a ++ parts.flatten, ⟨a :: parts, by simpa using ⟨ha, hparts⟩, rfl⟩, by
      rw [hc, hrest, List.append_assoc]⟩
  | keep slot p ih =>
    obtain ⟨e, he, rfl⟩ := List.mem_map.mp hd
    exact (ih he : ∃ x, p.Spells x ∧ c.rest = x ++ e.rest)
  | empty => rw [List.mem_singleton.mp hd]; exact ⟨[], rfl, rfl⟩
  | absent | start | stop | edge =>
    obtain ⟨-, rfl⟩ : _ ∧ d = c := by simpa [outcomes] using hd
    exact ⟨[], rfl, rfl⟩

/-! ### Characters of a spelling -/

/-- All characters that a pattern may read have a property. -/
def Only (P : Char → Prop) : Pattern σ → Prop
  | one cls => ∀ c, cls.accepts c = true → P c
  | seq p q => p.Only P ∧ q.Only P
  | choice p q => p.Only P ∧ q.Only P
  | many _ p => p.Only P
  | keep _ p => p.Only P
  | empty => True
  | absent _ => True
  | start => True
  | stop => True
  | edge => True

theorem Spells.forall {P : Char → Prop} {p : Pattern σ} (hp : p.Only P) (h : p.Spells x) :
    ∀ c ∈ x, P c := by
  induction p generalizing x with
  | one cls => obtain ⟨c, hc, rfl⟩ := h; simpa using hp c hc
  | seq p q ihp ihq =>
    obtain ⟨a, b, ha, hb, rfl⟩ := h
    exact List.forall_mem_append.mpr ⟨ihp hp.1 ha, ihq hp.2 hb⟩
  | choice p q ihp ihq => exact h.elim (ihp hp.1) (ihq hp.2)
  | many _ p ih =>
    obtain ⟨parts, hparts, rfl⟩ := h
    intro c hc
    obtain ⟨a, ha, hc⟩ := List.mem_flatten.mp hc
    exact ih hp (hparts a ha) c hc
  | keep _ p ih => exact ih hp h
  | empty | absent | start | stop | edge => subst h; simp

/-! ### Literal texts -/

theorem spells_char {c : Char} (hc : c ≠ ' ') (h : (char c : Pattern σ).Spells x) : x = [c] := by
  rw [char, if_neg hc] at h
  obtain ⟨d, hd, rfl⟩ := h
  simpa [CharClass.accepts] using hd

theorem spells_all_cons {p : Pattern σ} {ps : List (Pattern σ)} (h : (all (p :: ps)).Spells x) :
    ∃ a b, p.Spells a ∧ (all ps).Spells b ∧ x = a ++ b := by
  cases ps with
  | nil => exact ⟨x, [], h, rfl, (List.append_nil x).symm⟩
  | cons q ps => exact h

theorem spells_all_char {s : List Char} (hs : ' ' ∉ s)
    (h : (all (s.map char) : Pattern σ).Spells x) : x = s := by
  induction s generalizing x with
  | nil => exact h
  | cons c s ih =>
    obtain ⟨a, b, ha, hb, rfl⟩ := spells_all_cons h
    rw [spells_char (fun hc => hs (by simp [hc])) ha, ih (fun hm => hs (by simp [hm])) hb]
    rfl

theorem spells_any {ps : List (Pattern σ)} (hne : ps ≠ []) (h : (any ps).Spells x) :
    ∃ p ∈ ps, p.Spells x := by
  induction ps with
  | nil => exact absurd rfl hne
  | cons p ps ih =>
    cases ps with
    | nil => exact ⟨p, by simp, h⟩
    | cons q ps =>
      rcases h with h | h
      · exact ⟨p, by simp, h⟩
      · obtain ⟨r, hr, hx⟩ := ih (by simp) h
        exact ⟨r, List.mem_cons_of_mem _ hr, hx⟩

/-- Literal texts without spaces spell themselves. -/
theorem spells_texts {ss : List String} (hne : ss ≠ []) (hs : ∀ s ∈ ss, ' ' ∉ s.toList)
    (h : (texts ss : Pattern σ).Spells x) : ∃ s ∈ ss, x = s.toList := by
  obtain ⟨p, hp, hx⟩ := spells_any (by simpa using hne) h
  obtain ⟨s, hmem, rfl⟩ := List.mem_map.mp hp
  exact ⟨s, hmem, spells_all_char (hs s hmem) hx⟩

/-! ### Kept pieces -/

/-- Whether a pattern keeps nothing. -/
def keepsNothing : Pattern σ → Bool
  | seq p q => p.keepsNothing && q.keepsNothing
  | choice p q => p.keepsNothing && q.keepsNothing
  | many _ p => p.keepsNothing
  | keep _ _ => false
  | one _ => true
  | empty => true
  | absent _ => true
  | start => true
  | stop => true
  | edge => true

theorem kept_eq {p : Pattern σ} (hp : p.keepsNothing = true) {c d : Cursor σ}
    (hd : d ∈ p.outcomes c) : d.kept = c.kept := by
  induction p generalizing c d with
  | one cls =>
    obtain ⟨e, rest, -, -, rfl⟩ := mem_outcomes_one.mp hd
    rfl
  | seq p q ihp ihq =>
    rw [keepsNothing, Bool.and_eq_true] at hp
    obtain ⟨e, he, hd⟩ := List.mem_flatMap.mp hd
    exact (ihq hp.2 hd).trans (ihp hp.1 he)
  | choice p q ihp ihq =>
    rw [keepsNothing, Bool.and_eq_true] at hp
    exact (List.mem_append.mp hd).elim (ihp hp.1) (ihq hp.2)
  | many greedy p ih =>
    exact of_mem_rounds (P := fun c => d.kept = c.kept) hd rfl fun c e he h => h.trans (ih hp he)
  | keep slot p => cases hp
  | empty => rw [List.mem_singleton.mp hd]
  | absent | start | stop | edge =>
    obtain ⟨-, rfl⟩ : _ ∧ d = c := by simpa [outcomes] using hd
    rfl

end SheetCommand.Pattern
