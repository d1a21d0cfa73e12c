import SheetCommand.Proofs.Instruction.Spelling

/-!
# What is spelled can be read

A pattern that does not look around reads every text that it spells, whatever stands in front of the
text and behind it (`reads_of_spells`). This is the other direction of `exists_spells`, and it makes
the grammar of a phrase out of the phrase.
-/

namespace SheetCommand.Pattern

variable {σ : Type} {x : List Char}

/-- Whether a pattern reads without looking around, and something in every round. -/
def isFree : Pattern σ → Bool
  | seq p q => p.isFree && q.isFree
  | choice p q => p.isFree && q.isFree
  | many _ p => p.isFree && p.eats
  | keep _ p => p.isFree
  | one _ => true
  | empty => true
  | absent _ => false
  | start => false
  | stop => false
  | edge => false

theorem getLast?_append_or (a b : List Char) (last : Option Char) :
    (a ++ b).getLast?.or last = b.getLast?.or (a.getLast?.or last) := by
  rw [List.getLast?_append, Option.or_assoc]

/-- A pattern reads a text, wherever it stands. -/
def Reads (p : Pattern σ) (x : List Char) : Prop :=
  ∀ (last : Option Char) (rest : List Char) (kept : List (σ × Span)),
    ∃ kept', ⟨x.getLast?.or last, rest, kept'⟩ ∈ p.outcomes ⟨last, x ++ rest, kept⟩

theorem Reads.ne_nil {p : Pattern σ} (hp : p.eats = true) (h : p.Reads x) : x ≠ [] := by
  rintro rfl
  obtain ⟨kept, hd⟩ := h none [] []
  exact absurd (length_lt_of_eats hp hd) (Nat.lt_irrefl _)

theorem Reads.seq {p q : Pattern σ} {a b : List Char} (hp : p.Reads a) (hq : q.Reads b) :
    (p.seq q).Reads (a ++ b) := by
  intro last rest kept
  obtain ⟨kept₁, h₁⟩ := hp last (b ++ rest) kept
  obtain ⟨kept₂, h₂⟩ := hq (a.getLast?.or last) rest kept₁
  rw [getLast?_append_or, List.append_assoc]
  exact ⟨kept₂, List.mem_flatMap.mpr ⟨_, h₁, h₂⟩⟩

/-- The rounds of a repetition read one part after the other. -/
theorem reads_many {greedy : Bool} {p : Pattern σ} (hp : p.eats = true)
    {parts : List (List Char)} (h : ∀ a ∈ parts, p.Reads a) :
    (many greedy p).Reads parts.flatten := by
  have key : ∀ (fuel : List Char) (last : Option Char) (rest : List Char) (kept : List (σ × Span)),
      parts.flatten.length ≤ fuel.length → ∃ kept', ⟨parts.flatten.getLast?.or last, rest, kept'⟩ ∈
        rounds greedy p.outcomes fuel ⟨last, parts.flatten ++ rest, kept⟩ := by
    induction parts with
    | nil =>
      intro fuel last rest kept _
      refine ⟨kept, ?_⟩
      cases fuel with
      | nil => simp [rounds]
      | cons _ fuel => exact mem_rounds_cons.mpr (.inr rfl)
    | cons a parts ih =>
      intro fuel last rest kept hfuel
      obtain ⟨ha, hparts⟩ := List.forall_mem_cons.mp h
      have hpos := List.length_pos_iff.mpr (ha.ne_nil hp)
      rw [List.flatten_cons, List.length_append] at hfuel
      cases fuel with
      | nil => rw [List.length_nil] at hfuel; omega
      | cons _ fuel =>
        obtain ⟨kept₁, h₁⟩ := ha last (parts.flatten ++ rest) kept
        obtain ⟨kept₂, h₂⟩ := ih hparts fuel (a.getLast?.or last) rest kept₁ (by
          rw [List.length_cons] at hfuel; omega)
        rw [List.flatten_cons, getLast?_append_or, List.append_assoc]
        exact ⟨kept₂, mem_rounds_cons.mpr (.inl ⟨_, h₁, h₂⟩)⟩
  exact fun last rest kept => key _ last rest kept (by simp)

/-- **What is spelled can be read**, where the pattern does not look around. -/
theorem reads_of_spells {p : Pattern σ} (hp : p.isFree = true) (hx : p.Spells x) : p.Reads x := by
  induction p generalizing x with
  | one cls =>
    obtain ⟨c, hc, rfl⟩ := hx
    exact fun last rest kept => ⟨kept, mem_outcomes_one.mpr ⟨c, rest, rfl, hc, rfl⟩⟩
  | seq p q ihp ihq =>
    rw [isFree, Bool.and_eq_true] at hp
    obtain ⟨a, b, ha, hb, rfl⟩ := hx
    exact (ihp hp.1 ha).seq (ihq hp.2 hb)
  | choice p q ihp ihq =>
    rw [isFree, Bool.and_eq_true] at hp
    intro last rest kept
    rcases hx with hx | hx
    · exact (ihp hp.1 hx last rest kept).imp fun _ h => List.mem_append_left _ h
    · exact (ihq hp.2 hx last rest kept).imp fun _ h => List.mem_append_right _ h
  | many greedy p ih =>
    rw [isFree, Bool.and_eq_true] at hp
    obtain ⟨parts, hparts, rfl⟩ := hx
    exact reads_many hp.2 fun a ha => ih hp.1 (hparts a ha)
  | keep slot p ih =>
    intro last rest kept
    obtain ⟨kept', h⟩ := ih hp hx last rest kept
    exact ⟨_, List.mem_map.mpr ⟨_, h, rfl⟩⟩
  | empty =>
    obtain rfl : x = [] := hx
    exact fun last rest kept => ⟨kept, by simp [outcomes]⟩
  | absent | start | stop | edge => cases hp

/-! ### Spelling repeated characters and literal texts -/

theorem spells_many_one_iff {greedy : Bool} {cls : CharClass} :
    (many greedy (one cls) : Pattern σ).Spells x ↔ ∀ c ∈ x, cls.accepts c = true := by
  constructor
  · exact Spells.forall (p := many greedy (one cls)) fun _ h => h
  · intro h
    refine ⟨x.map ([·]), ?_, by rw [← List.flatMap_def, List.flatMap_singleton']⟩
    intro a ha
    obtain ⟨c, hc, rfl⟩ := List.mem_map.mp ha
    exact ⟨c, h c hc, rfl⟩

theorem spells_all_cons_iff {p : Pattern σ} {ps : List (Pattern σ)} :
    (all (p :: ps)).Spells x ↔ ∃ a b, p.Spells a ∧ (all ps).Spells b ∧ x = a ++ b := by
  refine ⟨spells_all_cons, ?_⟩
  rintro ⟨a, b, ha, hb, rfl⟩
  cases ps with
  | nil =>
    obtain rfl : b = [] := hb
    rwa [List.append_nil]
  | cons q ps => exact ⟨a, b, ha, hb, rfl⟩

theorem spells_char_self {c : Char} (hc : c ≠ ' ') : (char c : Pattern σ).Spells [c] := by
  rw [char, if_neg hc]
  exact ⟨c, by simp [CharClass.accepts], rfl⟩

theorem spells_all_char_self {s : List Char} (hs : ' ' ∉ s) :
    (all (s.map char) : Pattern σ).Spells s := by
  induction s with
  | nil => rfl
  | cons c s ih =>
    obtain ⟨hc, hs⟩ := not_or.mp (mt List.mem_cons.mpr hs)
    exact spells_all_cons_iff.mpr ⟨[c], s, spells_char_self (Ne.symm hc), ih hs, rfl⟩

theorem spells_any_of_mem {p : Pattern σ} {ps : List (Pattern σ)} (hp : p ∈ ps) (hx : p.Spells x) :
    (any ps).Spells x := by
  induction ps with
  | nil => cases hp
  | cons q ps ih =>
    cases ps with
    | nil => rwa [List.mem_singleton.mp hp] at hx
    | cons r ps =>
      rcases List.mem_cons.mp hp with rfl | hp
      · exact .inl hx
      · exact .inr (ih hp)

/-- One of several literal texts without spaces. -/
theorem spells_texts_iff {ss : List String} (hne : ss ≠ []) (hs : ∀ s ∈ ss, ' ' ∉ s.toList) :
    (texts ss : Pattern σ).Spells x ↔ ∃ s ∈ ss, x = s.toList := by
  refine ⟨spells_texts hne hs, ?_⟩
  rintro ⟨s, hmem, rfl⟩
  exact spells_any_of_mem (List.mem_map.mpr ⟨s, hmem, rfl⟩) (spells_all_char_self (hs s hmem))

end SheetCommand.Pattern
