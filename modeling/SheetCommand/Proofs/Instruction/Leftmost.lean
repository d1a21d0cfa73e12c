import SheetCommand.Proofs.Instruction.Acceptance
import SheetCommand.Proofs.Instruction.Kept
import SheetCommand.Proofs.Text.Whole

/-!
# The place where a pattern is found

A search tries the places of a text from the left, so what it finds is the first outcome at the
first place that has any (`search_eq_some_iff`). A cursor that begins at a place of the text stands in the
text wherever a pattern takes it (`standsIn_of_mem_outcomes`), so the characters next to a piece
that was kept are those next to it in the text. A pattern between two edges is found where it spells
a whole piece of the text (`occursIn_between_edges`).
-/

namespace SheetCommand

variable {σ : Type} {text : List Char}

namespace Cursor

/-- The cursor at a place of a text, before anything is kept. -/
def atPlace (text : List Char) (n : Nat) : Cursor σ := ⟨(text.take n).getLast?, text.drop n, []⟩

/-- The cursor is at some place of the text. -/
def StandsIn (text : List Char) (c : Cursor σ) : Prop :=
  ∃ read, text = read ++ c.rest ∧ c.last = read.getLast?

theorem standsIn_atPlace (text : List Char) (n : Nat) : (atPlace text n : Cursor σ).StandsIn text :=
  ⟨text.take n, (List.take_append_drop n text).symm, rfl⟩

theorem atPlace_append (before after : List Char) :
    (atPlace (before ++ after) before.length : Cursor σ) = ⟨before.getLast?, after, []⟩ := by
  simp [atPlace]

theorem StandsIn.advance {c : Cursor σ} (h : c.StandsIn text) {x : Char} {rest : List Char}
    (hrest : c.rest = x :: rest) : (c.advance x rest).StandsIn text := by
  obtain ⟨read, htext, -⟩ := h
  refine ⟨read ++ [x], ?_, by simp [Cursor.advance]⟩
  rw [htext, hrest, List.append_assoc]
  rfl

/-- In front of a word there is an edge if no word is going on. -/
theorem atEdge_iff_of_head {c : Cursor σ} (h : c.rest.head?.any Text.isWordChar = true) :
    c.atEdge = true ↔ ∀ m ∈ c.last, Text.isWordChar m = false := by
  rw [atEdge, h]
  cases c.last <;> simp

/-- Behind a word there is an edge if the word does not go on. -/
theorem atEdge_iff_of_last {c : Cursor σ} (h : c.last.any Text.isWordChar = true) :
    c.atEdge = true ↔ Text.BeginsApart c.rest := by
  rw [atEdge, h, Text.BeginsApart]
  cases c.rest.head? <;> simp

end Cursor

namespace Pattern

/-- **Reading stays in the text.** -/
theorem standsIn_of_mem_outcomes {p : Pattern σ} {c d : Cursor σ} (hd : d ∈ p.outcomes c)
    (hc : c.StandsIn text) : d.StandsIn text := by
  induction p generalizing c d with
  | one cls =>
    obtain ⟨x, rest, hrest, -, rfl⟩ := mem_outcomes_one.mp hd
    exact hc.advance hrest
  | seq p q ihp ihq =>
    obtain ⟨e, he, hd⟩ := List.mem_flatMap.mp hd
    exact ihq hd (ihp he hc)
  | choice p q ihp ihq => exact (List.mem_append.mp hd).elim (ihp · hc) (ihq · hc)
  | many greedy p ih =>
    exact of_mem_rounds (P := fun c => c.StandsIn text → d.StandsIn text) hd id
      (fun c e he h hc => h (ih he hc)) hc
  | keep slot p ih =>
    obtain ⟨e, he, rfl⟩ := List.mem_map.mp hd
    exact (ih he hc : e.StandsIn text)
  | empty => rwa [List.mem_singleton.mp hd]
  | absent | start | stop | edge =>
    obtain ⟨-, rfl⟩ : _ ∧ d = c := by simpa [outcomes] using hd
    exact hc

/-- What was read last is the end of what was read. -/
theorem last_eq_of_mem_outcomes {p : Pattern σ} {c d : Cursor σ} {x : List Char}
    (hd : d ∈ p.outcomes c) (hrest : c.rest = x ++ d.rest) : d.last = x.getLast?.or c.last := by
  have hc : c.StandsIn (c.last.toList ++ c.rest) := ⟨_, rfl, by cases c.last <;> rfl⟩
  obtain ⟨read, htext, hlast⟩ := standsIn_of_mem_outcomes hd hc
  rw [hrest, ← List.append_assoc] at htext
  rw [hlast, ← List.append_cancel_right htext, List.getLast?_append]
  cases c.last <;> rfl

/-! ### The first place -/

theorem searchFrom_eq_some_iff {p : Pattern σ} {last : Option Char} {d : Cursor σ} :
    p.searchFrom last text = some d ↔ ∃ n ≤ text.length,
      (p.outcomes ⟨(text.take n).getLast?.or last, text.drop n, []⟩).head? = some d ∧
        ∀ m < n, p.outcomes ⟨(text.take m).getLast?.or last, text.drop m, []⟩ = [] := by
  induction text generalizing last with
  | nil =>
    rw [searchFrom_nil]
    constructor
    · exact fun h => ⟨0, Nat.le_refl _, h, fun m hm => absurd hm (Nat.not_lt_zero m)⟩
    · rintro ⟨n, -, h, -⟩
      simpa using h
  | cons c text ih =>
    have hback : ∀ n, ((c :: text).take (n + 1)).getLast?.or last =
        (text.take n).getLast?.or (some c) := fun n => by
      rw [List.take_succ_cons, getLast?_cons_or]
    rw [searchFrom_cons, Option.or_eq_some_iff, List.head?_eq_none_iff, ih]
    constructor
    · rintro (h | ⟨hnone, n, hn, h, hbefore⟩)
      · exact ⟨0, Nat.zero_le _, h, fun m hm => absurd hm (Nat.not_lt_zero m)⟩
      · refine ⟨n + 1, Nat.succ_le_succ hn, by rwa [hback], fun m hm => ?_⟩
        cases m with
        | zero => exact hnone
        | succ m => rw [hback]; exact hbefore m (Nat.lt_of_succ_lt_succ hm)
    · rintro ⟨n, hn, h, hbefore⟩
      cases n with
      | zero => exact .inl h
      | succ n =>
        refine .inr ⟨hbefore 0 (Nat.succ_pos n), n, Nat.le_of_succ_le_succ hn, by rwa [← hback],
          fun m hm => ?_⟩
        rw [← hback]
        exact hbefore (m + 1) (Nat.succ_lt_succ hm)

/-- **What a search finds** is the first outcome at the first place where there is one. -/
theorem search_eq_some_iff {p : Pattern σ} {d : Cursor σ} : p.search text = some d ↔
    ∃ n ≤ text.length, (p.outcomes (.atPlace text n)).head? = some d ∧
      ∀ m < n, p.outcomes (.atPlace text m) = [] := by
  rw [search, searchFrom_eq_some_iff]
  simp only [Option.or_none]
  exact Iff.rfl

/-! ### Between edges -/

theorem mem_outcomes_edge {c d : Cursor σ} : d ∈ edge.outcomes c ↔ c.atEdge = true ∧ d = c := by
  simp [outcomes]

theorem any_getLast?_of_forall {f : Char → Bool} {word : List Char} (hne : word ≠ [])
    (h : ∀ c ∈ word, f c = true) (last : Option Char) : (word.getLast?.or last).any f = true := by
  rw [List.getLast?_eq_some_getLast hne]
  exact h _ (List.getLast_mem hne)

theorem any_head?_of_forall {f : Char → Bool} {word : List Char} (hne : word ≠ [])
    (h : ∀ c ∈ word, f c = true) (rest : List Char) : (word ++ rest).head?.any f = true := by
  obtain ⟨c, word, rfl⟩ := List.exists_cons_of_ne_nil hne
  exact h c (by simp)

/-- **A pattern between edges** is found where it spells a whole piece of the text. -/
theorem occursIn_between_edges {p : Pattern σ} (hfree : p.isFree = true) (heats : p.eats = true)
    (hchars : ∀ word, p.Spells word → ∀ c ∈ word, Text.isWordChar c = true) :
    (all [edge, p, edge]).occursIn text = true ↔
      ∃ word, p.Spells word ∧ Text.IsWhole word text := by
  have hword : ∀ {word}, p.Spells word → word ≠ [] ∧ ∀ c ∈ word, Text.isWordChar c = true :=
    fun h => ⟨(reads_of_spells hfree h).ne_nil heats, hchars _ h⟩
  rw [occursIn_iff]
  constructor
  · rintro ⟨read, rest, rfl, d, hd⟩
    obtain ⟨c, hc, hd⟩ := List.mem_flatMap.mp hd
    obtain ⟨hfront, rfl⟩ := mem_outcomes_edge.mp hc
    obtain ⟨e, he, hd⟩ := List.mem_flatMap.mp hd
    obtain ⟨hback, rfl⟩ := mem_outcomes_edge.mp hd
    obtain ⟨word, hspells, hrest⟩ := exists_spells p he
    obtain ⟨hne, hchars⟩ := hword hspells
    refine ⟨word, hspells, read, d.rest, congrArg (read ++ ·) hrest, ?_, ?_⟩
    · refine (Cursor.atEdge_iff_of_head ?_).mp hfront
      rw [hrest]
      exact any_head?_of_forall hne hchars _
    · refine (Cursor.atEdge_iff_of_last ?_).mp hback
      rw [last_eq_of_mem_outcomes he hrest]
      exact any_getLast?_of_forall hne hchars _
  · rintro ⟨word, hspells, before, after, rfl, hbefore, hafter⟩
    obtain ⟨hne, hchars⟩ := hword hspells
    obtain ⟨kept, hread⟩ := reads_of_spells hfree hspells before.getLast? after []
    have hfront : (⟨before.getLast?, word ++ after, []⟩ : Cursor σ).atEdge = true :=
      (Cursor.atEdge_iff_of_head (any_head?_of_forall hne hchars after)).mpr hbefore
    have hback : (⟨word.getLast?.or before.getLast?, after, kept⟩ : Cursor σ).atEdge = true :=
      (Cursor.atEdge_iff_of_last (any_getLast?_of_forall hne hchars _)).mpr hafter
    exact ⟨before, word ++ after, rfl, _,
      List.mem_flatMap.mpr ⟨_, mem_outcomes_edge.mpr ⟨hfront, rfl⟩,
        List.mem_flatMap.mpr ⟨_, hread, mem_outcomes_edge.mpr ⟨hback, rfl⟩⟩⟩⟩

end Pattern

end SheetCommand
