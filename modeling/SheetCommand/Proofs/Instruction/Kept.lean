import SheetCommand.Proofs.Instruction.Form
import SheetCommand.Proofs.Instruction.Spelling

/-!
# What a pattern keeps

A piece that a pattern keeps under a name lies in the text and is spelled by the part of the pattern
that stands under that name (`exists_kept`). So the letters of a piece, and its first letter, are
told by the pattern alone: `consistsOf` and `beginsWith` decide them. Whether some piece is kept at
all is decided by `keepsSurely`.
-/

namespace SheetCommand.Pattern

variable {σ : Type} {x : List Char}

/-! ### Letters of a spelling -/

/-- All classes of characters that a pattern reads pass a test. -/
def consistsOf (ok : CharClass → Bool) : Pattern σ → Bool
  | one cls => ok cls
  | seq p q => p.consistsOf ok && q.consistsOf ok
  | choice p q => p.consistsOf ok && q.consistsOf ok
  | many _ p => p.consistsOf ok
  | keep _ p => p.consistsOf ok
  | empty => true
  | absent _ => true
  | start => true
  | stop => true
  | edge => true

theorem only_of_consistsOf {P : Char → Prop} {ok : CharClass → Bool}
    (hok : ∀ cls, ok cls = true → ∀ c, cls.accepts c = true → P c) {p : Pattern σ}
    (hp : p.consistsOf ok = true) : p.Only P := by
  induction p with
  | one cls => exact hok cls hp
  | seq p q ihp ihq | choice p q ihp ihq =>
    rw [consistsOf, Bool.and_eq_true] at hp
    exact ⟨ihp hp.1, ihq hp.2⟩
  | many _ p ih | keep _ p ih => exact ih hp
  | empty | absent | start | stop | edge => trivial

/-- Whether a pattern reads nothing. -/
def isSilent : Pattern σ → Bool
  | seq p q => p.isSilent && q.isSilent
  | choice p q => p.isSilent && q.isSilent
  | keep _ p => p.isSilent
  | one _ => false
  | many _ _ => false
  | empty => true
  | absent _ => true
  | start => true
  | stop => true
  | edge => true

/-- Whether a pattern reads something, first a character of a class that passes a test. -/
def beginsWith (ok : CharClass → Bool) : Pattern σ → Bool
  | one cls => ok cls
  | seq p q => p.beginsWith ok || (p.isSilent && q.beginsWith ok)
  | choice p q => p.beginsWith ok && q.beginsWith ok
  | keep _ p => p.beginsWith ok
  | many _ _ => false
  | empty => false
  | absent _ => false
  | start => false
  | stop => false
  | edge => false

theorem Spells.eq_nil {p : Pattern σ} (hp : p.isSilent = true) (h : p.Spells x) : x = [] := by
  induction p generalizing x with
  | one | many => cases hp
  | seq p q ihp ihq =>
    rw [isSilent, Bool.and_eq_true] at hp
    obtain ⟨a, b, ha, hb, rfl⟩ := h
    rw [ihp hp.1 ha, ihq hp.2 hb, List.append_nil]
  | choice p q ihp ihq =>
    rw [isSilent, Bool.and_eq_true] at hp
    exact h.elim (ihp hp.1) (ihq hp.2)
  | keep _ p ih => exact ih hp h
  | empty | absent | start | stop | edge => exact h

theorem Spells.exists_cons {ok : CharClass → Bool} {p : Pattern σ} (hp : p.beginsWith ok = true)
    (h : p.Spells x) : ∃ cls c rest, ok cls = true ∧ cls.accepts c = true ∧ x = c :: rest := by
  induction p generalizing x with
  | one cls =>
    obtain ⟨c, hc, rfl⟩ := h
    exact ⟨cls, c, [], hp, hc, rfl⟩
  | seq p q ihp ihq =>
    rw [beginsWith, Bool.or_eq_true, Bool.and_eq_true] at hp
    obtain ⟨a, b, ha, hb, rfl⟩ := h
    rcases hp with hp | ⟨hsilent, hq⟩
    · obtain ⟨cls, c, rest, hok, hc, rfl⟩ := ihp hp ha
      exact ⟨cls, c, rest ++ b, hok, hc, rfl⟩
    · rw [ha.eq_nil hsilent]
      exact ihq hq hb
  | choice p q ihp ihq =>
    rw [beginsWith, Bool.and_eq_true] at hp
    exact h.elim (ihp hp.1) (ihq hp.2)
  | keep _ p ih => exact ih hp h
  | many | empty | absent | start | stop | edge => cases hp

/-! ### Kept pieces -/

/-- The names under which a pattern keeps pieces, each with what is read there. -/
def slots : Pattern σ → List (σ × Pattern σ)
  | seq p q => p.slots ++ q.slots
  | choice p q => p.slots ++ q.slots
  | many _ p => p.slots
  | keep slot p => (slot, p) :: p.slots
  | one _ => []
  | empty => []
  | absent _ => []
  | start => []
  | stop => []
  | edge => []

/-- A piece that was read in a text by a pattern that stands under its name. -/
def IsKept (p : Pattern σ) (text : List Char) (piece : σ × Span) : Prop :=
  piece.2.chars <:+: text ∧ ∃ q, (piece.1, q) ∈ p.slots ∧ q.Spells piece.2.chars

theorem IsKept.mono {p q : Pattern σ} {text text' : List Char} {piece : σ × Span}
    (h : p.IsKept text piece) (hslots : p.slots ⊆ q.slots) (htext : text <:+: text') :
    q.IsKept text' piece :=
  ⟨h.1.trans htext, h.2.imp fun _ hq => ⟨hslots hq.1, hq.2⟩⟩

/-- What is left of a text is its end. -/
theorem rest_suffix {p : Pattern σ} {c d : Cursor σ} (hd : d ∈ p.outcomes c) :
    d.rest <:+ c.rest := by
  obtain ⟨x, -, hx⟩ := p.exists_spells hd
  exact ⟨x, hx.symm⟩

/-- What stands between two cursors is what has been read there. -/
theorem spells_chars {p : Pattern σ} {c d : Cursor σ} (hd : d ∈ p.outcomes c) :
    p.Spells (Span.chars ⟨c.rest, d.rest⟩) ∧ c.rest = Span.chars ⟨c.rest, d.rest⟩ ++ d.rest := by
  obtain ⟨x, hx, hrest⟩ := p.exists_spells hd
  have hchars : Span.chars ⟨c.rest, d.rest⟩ = x := by
    rw [hrest]
    exact Instruction.span_chars_append x d.rest
  rw [hchars]
  exact ⟨hx, hrest⟩

/-- **Kept pieces** are added in front of those kept before. -/
theorem exists_kept (p : Pattern σ) {c d : Cursor σ} (hd : d ∈ p.outcomes c) :
    ∃ new, d.kept = new ++ c.kept ∧ ∀ piece ∈ new, p.IsKept c.rest piece := by
  induction p generalizing c d with
  | one cls =>
    obtain ⟨e, rest, -, -, rfl⟩ := mem_outcomes_one.mp hd
    exact ⟨[], rfl, by simp⟩
  | seq p q ihp ihq =>
    obtain ⟨e, he, hd⟩ := List.mem_flatMap.mp hd
    obtain ⟨first, hfirst, hp⟩ := ihp he
    obtain ⟨second, hsecond, hq⟩ := ihq hd
    refine ⟨second ++ first, by rw [hsecond, hfirst, List.append_assoc], ?_⟩
    rw [List.forall_mem_append]
    exact ⟨fun piece h => (hq piece h).mono (List.subset_append_right ..) (rest_suffix he).isInfix,
      fun piece h => (hp piece h).mono (List.subset_append_left ..) (List.infix_refl _)⟩
  | choice p q ihp ihq =>
    rcases List.mem_append.mp hd with hd | hd
    · obtain ⟨new, hnew, hp⟩ := ihp hd
      exact ⟨new, hnew, fun piece h =>
        (hp piece h).mono (List.subset_append_left ..) (List.infix_refl _)⟩
    · obtain ⟨new, hnew, hq⟩ := ihq hd
      exact ⟨new, hnew, fun piece h =>
        (hq piece h).mono (List.subset_append_right ..) (List.infix_refl _)⟩
  | many greedy p ih =>
    refine of_mem_rounds (P := fun c => ∃ new, d.kept = new ++ c.kept ∧
      ∀ piece ∈ new, p.IsKept c.rest piece) hd ⟨[], rfl, by simp⟩ fun c e he => ?_
    rintro ⟨later, hlater, hd⟩
    obtain ⟨new, hnew, hp⟩ := ih he
    refine ⟨later ++ new, by rw [hlater, hnew, List.append_assoc], ?_⟩
    rw [List.forall_mem_append]
    exact ⟨fun piece h => (hd piece h).mono (List.Subset.refl _) (rest_suffix he).isInfix, hp⟩
  | keep slot p ih =>
    obtain ⟨e, he, rfl⟩ := List.mem_map.mp hd
    obtain ⟨new, hnew, hp⟩ := ih he
    obtain ⟨hspells, hsplit⟩ := spells_chars he
    have hpiece : (keep slot p).IsKept c.rest (slot, ⟨c.rest, e.rest⟩) :=
      ⟨⟨[], e.rest, hsplit.symm⟩, p, List.mem_cons_self, hspells⟩
    exact ⟨(slot, ⟨c.rest, e.rest⟩) :: new, congrArg (_ :: ·) hnew,
      List.forall_mem_cons.mpr ⟨hpiece, fun piece h =>
        (hp piece h).mono (List.subset_cons_self ..) (List.infix_refl _)⟩⟩
  | empty => rw [List.mem_singleton.mp hd]; exact ⟨[], rfl, by simp⟩
  | absent | start | stop | edge =>
    obtain ⟨-, rfl⟩ : _ ∧ d = c := by simpa [outcomes] using hd
    exact ⟨[], rfl, by simp⟩

/-- **A piece that a search has kept** lies in the text and is spelled by what stands under its
name. -/
theorem isKept_of_search [BEq σ] [LawfulBEq σ] {p : Pattern σ} {text : List Char} {d : Cursor σ}
    (h : p.search text = some d) {slot : σ} {span : Span} (hslot : d.piece? slot = some span) :
    p.IsKept text (slot, span) := by
  obtain ⟨c, hkept, hrest, hd⟩ := exists_mem_outcomes_of_search h
  obtain ⟨new, hnew, hp⟩ := p.exists_kept hd
  rw [hkept, List.append_nil] at hnew
  obtain ⟨before, after, hsplit, -⟩ := List.lookup_eq_some_iff.mp hslot
  have hmem : (slot, span) ∈ new := by
    rw [← hnew, hsplit]
    simp
  exact (hp _ hmem).mono (List.Subset.refl _) hrest.isInfix

/-- A pattern that keeps nothing under a name leaves what was kept there. -/
theorem piece?_of_mem_outcomes [BEq σ] [LawfulBEq σ] {p : Pattern σ} {slot : σ}
    (hp : p.slots.all (fun s => s.1 != slot) = true) {c d : Cursor σ} (hd : d ∈ p.outcomes c) :
    d.piece? slot = c.piece? slot := by
  obtain ⟨new, hnew, hkept⟩ := p.exists_kept hd
  have hnone : new.lookup slot = none := by
    refine List.lookup_eq_none_iff.mpr fun piece hpiece => ?_
    obtain ⟨-, q, hq, -⟩ := hkept piece hpiece
    rw [bne_comm]
    exact List.all_eq_true.mp hp _ hq
  rw [Cursor.piece?, hnew, List.lookup_append, hnone]
  rfl

/-! ### Pieces that are kept in every reading -/

/-- Whether every reading keeps a piece under a name. -/
def keepsSurely [BEq σ] (slot : σ) : Pattern σ → Bool
  | seq p q => p.keepsSurely slot || q.keepsSurely slot
  | choice p q => p.keepsSurely slot && q.keepsSurely slot
  | keep s p => slot == s || p.keepsSurely slot
  | many _ _ => false
  | one _ => false
  | empty => false
  | absent _ => false
  | start => false
  | stop => false
  | edge => false

theorem isSome_piece?_mono [BEq σ] {p : Pattern σ} {c d : Cursor σ} {slot : σ}
    (hd : d ∈ p.outcomes c) (hc : (c.piece? slot).isSome = true) :
    (d.piece? slot).isSome = true := by
  obtain ⟨new, hnew, -⟩ := p.exists_kept hd
  rw [Cursor.piece?, hnew, List.lookup_append, Option.isSome_or]
  exact Bool.or_eq_true_iff.mpr (.inr hc)

theorem isSome_piece? [BEq σ] {p : Pattern σ} {slot : σ} (hp : p.keepsSurely slot = true)
    {c d : Cursor σ} (hd : d ∈ p.outcomes c) : (d.piece? slot).isSome = true := by
  induction p generalizing c d with
  | seq p q ihp ihq =>
    obtain ⟨e, he, hd⟩ := List.mem_flatMap.mp hd
    rw [keepsSurely, Bool.or_eq_true] at hp
    exact hp.elim (fun hp => isSome_piece?_mono hd (ihp hp he)) fun hq => ihq hq hd
  | choice p q ihp ihq =>
    rw [keepsSurely, Bool.and_eq_true] at hp
    exact (List.mem_append.mp hd).elim (ihp hp.1) (ihq hp.2)
  | keep s p ih =>
    obtain ⟨e, he, rfl⟩ := List.mem_map.mp hd
    rw [keepsSurely, Bool.or_eq_true] at hp
    rw [Cursor.piece?, Cursor.keep, List.lookup_cons]
    split
    · rfl
    · rename_i hne
      exact ih (hp.resolve_left (by simp [hne])) he
  | many | one | empty | absent | start | stop | edge => cases hp

end SheetCommand.Pattern
