import SheetCommand.Proofs.Instruction.Leftmost

/-!
# The ends of kept pieces

Whether a word is cut where a kept piece begins or ends is told by what the pattern reads next to
the piece. `Pattern.endsApart` and `Pattern.beginsApart` decide whether what a pattern reads surely
ends, or begins, with something other than a word character; from them `Pattern.bounds` lists, for
every piece that a pattern may keep, at which of its ends it is surely apart
(`exists_bound_of_search`). They look at all readings of a pattern at once, so they say nothing of
which reading is preferred.
-/

namespace SheetCommand

open Text

variable {σ : Type} {text : List Char}

namespace CharClass

/-- Whether a class has no word characters. -/
def isApart : CharClass → Bool
  | blank => true
  | only chars => chars.all fun c => !isWordChar c
  | either a b => a.isApart && b.isApart
  | word => false
  | digit => false
  | allBut _ => false

theorem isWordChar_of_isApart {cls : CharClass} (h : cls.isApart = true) {c : Char}
    (hc : cls.accepts c = true) : isWordChar c = false := by
  induction cls with
  | blank => exact isWordChar_of_isBlank hc
  | only chars =>
    have hall := List.all_eq_true.mp h c (List.contains_iff_mem.mp hc)
    simpa using hall
  | either a b iha ihb =>
    rw [isApart, Bool.and_eq_true] at h
    rw [accepts, Bool.or_eq_true] at hc
    exact hc.elim (iha h.1) (ihb h.2)
  | word | digit | allBut => cases h

end CharClass

/-- No word is going on in front of the cursor. -/
def Cursor.IsApart (c : Cursor σ) : Prop := ∀ m ∈ c.last, isWordChar m = false

namespace Pattern

/-! ### Next to what is read -/

/-- Whether no word goes on behind what a pattern reads, if `before` says that none goes on in front
of it. -/
def endsApart : Pattern σ → (before : Bool) → Bool
  | one cls, _ => cls.isApart
  | seq p q, before => q.endsApart (p.endsApart before)
  | choice p q, before => p.endsApart before && q.endsApart before
  | many _ p, before => before && p.endsApart true
  | keep _ p, before => p.endsApart before
  | start, _ => true
  | empty, before => before
  | absent _, before => before
  | stop, before => before
  | edge, before => before

/-- Whether what a pattern reads begins apart, if `after` says that what follows it does. -/
def beginsApart : Pattern σ → (after : Bool) → Bool
  | one cls, _ => cls.isApart
  | seq p q, after => p.beginsApart (q.beginsApart after)
  | choice p q, after => p.beginsApart after && q.beginsApart after
  | many _ p, after => after && p.beginsApart true
  | keep _ p, after => p.beginsApart after
  | stop, _ => true
  | empty, after => after
  | absent _, after => after
  | start, after => after
  | edge, after => after

theorem isApart_of_endsApart {p : Pattern σ} {before : Bool} (hp : p.endsApart before = true)
    {c d : Cursor σ} (hd : d ∈ p.outcomes c) (hc : before = true → c.IsApart) : d.IsApart := by
  induction p generalizing before c d with
  | one cls =>
    obtain ⟨m, rest, -, hm, rfl⟩ := mem_outcomes_one.mp hd
    rintro _ ⟨⟩
    exact CharClass.isWordChar_of_isApart hp hm
  | seq p q ihp ihq =>
    obtain ⟨e, he, hd⟩ := List.mem_flatMap.mp hd
    exact ihq hp hd fun hmiddle => ihp hmiddle he hc
  | choice p q ihp ihq =>
    rw [endsApart, Bool.and_eq_true] at hp
    exact (List.mem_append.mp hd).elim (ihp hp.1 · hc) (ihq hp.2 · hc)
  | many greedy p ih =>
    rw [endsApart, Bool.and_eq_true] at hp
    exact of_mem_rounds (P := fun c => c.IsApart → d.IsApart) hd id
      (fun u v hv hlater hu => hlater (ih hp.2 hv fun _ => hu)) (hc hp.1)
  | keep slot p ih =>
    obtain ⟨e, he, rfl⟩ := List.mem_map.mp hd
    exact (ih hp he hc : e.IsApart)
  | start =>
    obtain ⟨hnone, rfl⟩ : c.last = none ∧ d = c := by simpa [outcomes] using hd
    simp [Cursor.IsApart, hnone]
  | empty => rw [List.mem_singleton.mp hd]; exact hc hp
  | absent | stop | edge =>
    obtain ⟨-, rfl⟩ : _ ∧ d = c := by simpa [outcomes] using hd
    exact hc hp

theorem beginsApart_of_beginsApart {p : Pattern σ} {after : Bool}
    (hp : p.beginsApart after = true) {c d : Cursor σ} (hd : d ∈ p.outcomes c)
    (hafter : after = true → BeginsApart d.rest) : BeginsApart c.rest := by
  induction p generalizing after c d with
  | one cls =>
    obtain ⟨m, rest, hrest, hm, rfl⟩ := mem_outcomes_one.mp hd
    rw [hrest]
    rintro _ ⟨⟩
    exact CharClass.isWordChar_of_isApart hp hm
  | seq p q ihp ihq =>
    obtain ⟨e, he, hd⟩ := List.mem_flatMap.mp hd
    exact ihp hp he fun hmiddle => ihq hmiddle hd hafter
  | choice p q ihp ihq =>
    rw [beginsApart, Bool.and_eq_true] at hp
    exact (List.mem_append.mp hd).elim (ihp hp.1 · hafter) (ihq hp.2 · hafter)
  | many greedy p ih =>
    rw [beginsApart, Bool.and_eq_true] at hp
    exact of_mem_rounds (P := fun c => BeginsApart c.rest) hd (hafter hp.1)
      fun u v hv hlater => ih hp.2 hv fun _ => hlater
  | keep slot p ih =>
    obtain ⟨e, he, rfl⟩ := List.mem_map.mp hd
    exact ih hp he hafter
  | stop =>
    obtain ⟨hnil, rfl⟩ : c.rest = [] ∧ d = c := by simpa [outcomes] using hd
    simp [BeginsApart, hnil]
  | empty => rw [← List.mem_singleton.mp hd]; exact hafter hp
  | absent | start | edge =>
    obtain ⟨-, rfl⟩ : _ ∧ d = c := by simpa [outcomes] using hd
    exact hafter hp

/-! ### The ends of a piece -/

/-- A name under which a piece may be kept, and the ends at which the piece is surely apart. -/
structure Bound (σ : Type) where
  slot : σ
  front : Bool
  back : Bool

/-- The bounds of all pieces that a pattern may keep. -/
def bounds : Pattern σ → (before after : Bool) → List (Bound σ)
  | seq p q, before, after =>
    p.bounds before (q.beginsApart after) ++ q.bounds (p.endsApart before) after
  | choice p q, before, after => p.bounds before after ++ q.bounds before after
  -- The rounds before and after a piece are not looked at.
  | many _ p, _, _ => p.bounds false false
  | keep slot p, before, after => ⟨slot, before, after⟩ :: p.bounds before after
  | one _, _, _ => []
  | empty, _, _ => []
  | absent _, _, _ => []
  | start, _, _ => []
  | stop, _, _ => []
  | edge, _, _ => []

/-- A piece of a text that is kept under a name and apart where its bound says so. -/
structure Bound.Holds (b : Bound σ) (text : List Char) (piece : σ × Span) : Prop where
  slot : b.slot = piece.1
  front : ∃ read, text = read ++ piece.2.fromStart ∧ (b.front = true → EndsApart read)
  split : piece.2.fromStart = piece.2.chars ++ piece.2.fromEnd
  back : b.back = true → BeginsApart piece.2.fromEnd

/-- A piece that is apart at both ends is whole. -/
theorem Bound.Holds.isWhole {b : Bound σ} {piece : σ × Span} (h : b.Holds text piece)
    (hfront : b.front = true) (hback : b.back = true) : IsWhole piece.2.chars text := by
  obtain ⟨read, htext, hread⟩ := h.front
  exact ⟨read, piece.2.fromEnd, by rw [htext, ← h.split], hread hfront, h.back hback⟩

/-- Every piece has one of the bounds. -/
def AllBound (text : List Char) (bounds : List (Bound σ)) (pieces : List (σ × Span)) : Prop :=
  ∀ piece ∈ pieces, ∃ b ∈ bounds, b.Holds text piece

theorem AllBound.mono {bounds more : List (Bound σ)} {pieces : List (σ × Span)}
    (h : AllBound text bounds pieces) (hsub : bounds ⊆ more) : AllBound text more pieces :=
  fun piece hpiece => (h piece hpiece).imp fun _ hb => ⟨hsub hb.1, hb.2⟩

theorem AllBound.append {bounds : List (Bound σ)} {later pieces : List (σ × Span)}
    (hlater : AllBound text bounds later) (h : AllBound text bounds pieces) :
    AllBound text bounds (later ++ pieces) := List.forall_mem_append.mpr ⟨hlater, h⟩

/-- **The pieces that a reading keeps** are apart where the bounds of the pattern say so. -/
theorem exists_allBound (p : Pattern σ) {before after : Bool} {c d : Cursor σ}
    (hd : d ∈ p.outcomes c) (hc : c.StandsIn text) (hbefore : before = true → c.IsApart)
    (hafter : after = true → BeginsApart d.rest) :
    ∃ new, d.kept = new ++ c.kept ∧ AllBound text (p.bounds before after) new := by
  induction p generalizing before after c d with
  | seq p q ihp ihq =>
    obtain ⟨e, he, hd⟩ := List.mem_flatMap.mp hd
    obtain ⟨first, hfirst, hp⟩ :=
      ihp he hc hbefore fun hq => beginsApart_of_beginsApart hq hd hafter
    obtain ⟨second, hsecond, hq⟩ := ihq hd (standsIn_of_mem_outcomes he hc)
      (fun hp => isApart_of_endsApart hp he hbefore) hafter
    exact ⟨second ++ first, by rw [hsecond, hfirst, List.append_assoc],
      (hq.mono (List.subset_append_right ..)).append (hp.mono (List.subset_append_left ..))⟩
  | choice p q ihp ihq =>
    rcases List.mem_append.mp hd with hd | hd
    · obtain ⟨new, hnew, hp⟩ := ihp hd hc hbefore hafter
      exact ⟨new, hnew, hp.mono (List.subset_append_left ..)⟩
    · obtain ⟨new, hnew, hq⟩ := ihq hd hc hbefore hafter
      exact ⟨new, hnew, hq.mono (List.subset_append_right ..)⟩
  | many greedy p ih =>
    refine of_mem_rounds (P := fun c => c.StandsIn text →
      ∃ new, d.kept = new ++ c.kept ∧ AllBound text (p.bounds false false) new) hd
      (fun _ => ⟨[], rfl, by simp [AllBound]⟩) (fun u v hv hlater hu => ?_) hc
    obtain ⟨later, hkept, hbound⟩ := hlater (standsIn_of_mem_outcomes hv hu)
    obtain ⟨new, hnew, hp⟩ := ih hv hu (nofun : false = true → _) (nofun : false = true → _)
    exact ⟨later ++ new, by rw [hkept, hnew, List.append_assoc], hbound.append hp⟩
  | keep slot p ih =>
    obtain ⟨e, he, rfl⟩ := List.mem_map.mp hd
    obtain ⟨new, hnew, hp⟩ := ih he hc hbefore hafter
    obtain ⟨read, htext, hlast⟩ := hc
    have hpiece : Bound.Holds ⟨slot, before, after⟩ text (slot, ⟨c.rest, e.rest⟩) := by
      refine ⟨rfl, ⟨read, htext, fun h => ?_⟩, (spells_chars he).2, hafter⟩
      rw [EndsApart, ← hlast]
      exact hbefore h
    refine ⟨(slot, ⟨c.rest, e.rest⟩) :: new, congrArg (_ :: ·) hnew, ?_⟩
    exact List.forall_mem_cons.mpr
      ⟨⟨_, List.mem_cons_self, hpiece⟩, hp.mono (List.subset_cons_self ..)⟩
  | one cls =>
    obtain ⟨e, rest, -, -, rfl⟩ := mem_outcomes_one.mp hd
    exact ⟨[], rfl, by simp [AllBound]⟩
  | empty => rw [List.mem_singleton.mp hd]; exact ⟨[], rfl, by simp [AllBound]⟩
  | absent | start | stop | edge =>
    obtain ⟨-, rfl⟩ : _ ∧ d = c := by simpa [outcomes] using hd
    exact ⟨[], rfl, by simp [AllBound]⟩

/-- **A piece that a search has kept** lies in the text as one of the bounds says. -/
theorem exists_bound_of_search [BEq σ] [LawfulBEq σ] {p : Pattern σ} {d : Cursor σ}
    (h : p.search text = some d) {slot : σ} {span : Span} (hslot : d.piece? slot = some span) :
    ∃ b ∈ p.bounds false false, b.Holds text (slot, span) := by
  obtain ⟨n, -, hhead, -⟩ := search_eq_some_iff.mp h
  obtain ⟨new, hnew, hbound⟩ :
      ∃ new, d.kept = new ++ [] ∧ AllBound text (p.bounds false false) new :=
    p.exists_allBound (List.mem_of_mem_head? hhead) (Cursor.standsIn_atPlace text n) nofun nofun
  rw [List.append_nil] at hnew
  obtain ⟨before, after, hsplit, -⟩ := List.lookup_eq_some_iff.mp hslot
  exact hbound _ (by rw [← hnew, hsplit]; simp)

end Pattern

end SheetCommand
