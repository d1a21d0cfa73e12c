import SheetCommand.Proofs.Instruction.Reach

/-!
# Sketches — the reading that comes first

`Pattern.leads` follows the preferred reading of a pattern through all fillings of a sketch at once.
Its answer is sure: at a choice the first branch must lead to the goal, or it must fail in every
filling, as `Pattern.reach` tells, and the second branch must lead there. Inside an open part a
repetition comes back to a stand it has been at with a shorter text to read, so the goal may be
assumed there.

The texts kept on the way are known as stretches of the sketch. `search_of_finds` says which texts a
pattern keeps in every filling of a sketch.
-/

namespace SheetCommand.Instruction

variable {σ : Type}

/-- The kept texts, by what follows their starts and their ends in the sketch. -/
abbrev Keeping (σ : Type) := List (σ × Sketch × Sketch)

/-- The kept texts in a filling. -/
def Keeping.spans (v : Filling) (kept : Keeping σ) : List (σ × Span) :=
  kept.map fun (slot, start, stop) => (slot, ⟨start.fill v, stop.fill v⟩)

/-! ### What is sure at a place -/

/-- The stand after a letter that a class surely accepts. -/
def Hole.next? (h : Hole) (cls : CharClass) (t : Sketch) : Option Stand :=
  match h.share cls with
  | .all => some ⟨.letter h, .onWord h [] t⟩
  | _ => none

/-- The stand after the next character, if there surely is one and a class surely accepts it. -/
def Place.next? (cls : CharClass) : Place → Option Stand
  | .at [] => none
  | .at (.char c :: t) => if cls.accepts c then some ⟨.char c, .at t⟩ else none
  | .at (.hole h _ :: t) => h.next? cls t
  | fresh h t => h.next? cls t
  | onWord h left t => if left.contains [] then h.next? cls t else none
  | between h t => if cls.accepts ' ' then some ⟨.char ' ', .fresh h t⟩ else none
  | anywhere => none

/-- Whether the place is inside an open part. -/
def Place.isOpen : Place → Bool
  | .at _ => false
  | _ => true

/-- Whether the characters on both sides may be of the same kind. -/
def Stand.mayBeInside (s : Stand) : Bool :=
  s.last.mayBe true && s.place.mayBe true || s.last.mayBe false && s.place.mayBe false

/-! ### The goal -/

/-- A test for having reached the goal, or being sure to. -/
abbrev Goal (σ : Type) := Stand → Keeping σ → Bool

variable [DecidableEq σ]

/-- Whether a repetition surely leads to the goal. `step` is one round, `fails` says that no way
through one more round serves, and `seen` are the stands at which rounds were begun. -/
def leadRounds (greedy : Bool) (step : Stand → Keeping σ → Goal σ → Bool) (fails : Stand → Bool)
    (hit : Goal σ) (miss : Stand → Bool) : (fuel : Nat) → List (Stand × Keeping σ) → Goal σ
  | 0, _, _, _ => false
  | fuel + 1, seen, s, kept =>
    seen.contains (s, kept) || s.cases.all fun s' =>
      let seen' := if s.place.isOpen then (s, kept) :: seen else seen
      let round := step s' kept (leadRounds greedy step fails hit miss fuel seen')
      if greedy then round || (fails s' && hit s' kept) else hit s' kept || (miss s' && round)

end SheetCommand.Instruction

namespace SheetCommand.Pattern

open Instruction

variable {σ : Type}

/-- Whether every reading surely reads a character. -/
def eats : Pattern σ → Bool
  | one _ => true
  | seq p q => p.eats || q.eats
  | choice p q => p.eats && q.eats
  | keep _ p => p.eats
  | empty => false
  | many .. => false
  | absent _ => false
  | start => false
  | stop => false
  | edge => false

/-- Whether all stands that the pattern may reach fail. -/
def fails (p : Pattern σ) (miss : Stand → Bool) (s : Stand) : Bool := (p.reach [s]).all miss

variable [DecidableEq σ]

/-- Whether the first reading from which the rest of the work succeeds surely is one to the goal:
at the stands of `hit` the rest succeeds, at those of `miss` it fails. -/
def leads : Pattern σ → Stand → Keeping σ → (hit : Goal σ) → (miss : Stand → Bool) → Bool
  | empty, s, kept, hit, _ => hit s kept
  | one cls, s, kept, hit, _ => s.cases.all fun s =>
    match s.place.next? cls with
    | some t => hit t kept
    | none => false
  | seq p q, s, kept, hit, miss =>
    p.leads s kept (fun t kept => q.leads t kept hit miss) (q.fails miss)
  | choice p q, s, kept, hit, miss => s.cases.all fun s =>
    p.leads s kept hit miss || (p.fails miss s && q.leads s kept hit miss)
  | many greedy p, s, kept, hit, miss =>
    let missAll := (many greedy p).fails miss
    p.eats && leadRounds greedy (fun s kept goal => p.leads s kept goal missAll) (p.fails missAll)
      hit miss patience [] s kept
  | keep slot p, s, kept, hit, miss =>
    p.leads s kept (fun t kept =>
      match s.place, t.place with
      | .at a, .at b => hit t ((slot, a, b) :: kept)
      | _, _ => false) miss
  | absent p, s, kept, hit, _ => (p.reach [s]).isEmpty && hit s kept
  | start, s, kept, hit, _ => s.last == .start && hit s kept
  | stop, s, kept, hit, _ => s.cases.all fun s => s.place == .at [] && hit s kept
  | edge, s, kept, hit, _ => s.cases.all fun s => !s.mayBeInside && hit s kept

/-- The pattern is found in every filling of a sketch and keeps these texts. -/
def finds (p : Pattern σ) (t : Sketch) (kept : Keeping σ) : Bool :=
  p.anywhere.leads ⟨.start, .at t⟩ [] (fun _ kept' => kept' == kept) fun _ => false

end SheetCommand.Pattern

/-! ### What is sure holds in every filling -/

namespace SheetCommand.Instruction

variable {σ : Type} {v : Filling} {rest : List Char}

theorem Hole.Part.next {h : Hole} {left : List (List Char)} {text : List Char} {cls : CharClass}
    {t : Sketch} {s : Stand} (ht : t.Fits v) (hp : h.Part left text) (hnil : [] ∈ left)
    (hs : h.next? cls t = some s) :
    ∃ c rest, text ++ t.fill v = c :: rest ∧ cls.accepts c = true ∧
      s.last.Holds (some c) ∧ s.place.Stands v rest := by
  have hshare := h.share_holds cls
  unfold Hole.next? at hs
  split at hs
  · rename_i hall
    rw [hall] at hshare
    cases hs
    rcases hp.cases with ⟨c, text', rfl, hc, hp⟩ | ⟨hl, -⟩ | ⟨hl, -⟩
    · exact ⟨c, _, rfl, hshare c hc, ⟨c, hc, rfl⟩, ht, text', hp.forget, rfl⟩
    · exact absurd hnil hl
    · exact absurd hnil hl
  · cases hs

/-- **A character that is sure**: there is one, the class accepts it, and the stand after it
holds. -/
theorem Place.exists_next {p : Place} {cls : CharClass} {s : Stand} (hp : p.Stands v rest)
    (hs : p.next? cls = some s) :
    ∃ c rest', rest = c :: rest' ∧ cls.accepts c = true ∧
      s.last.Holds (some c) ∧ s.place.Stands v rest' := by
  cases p with
  | «at» t =>
    obtain ⟨ht, rfl⟩ := hp
    cases t with
    | nil => cases hs
    | cons piece t =>
      cases piece with
      | char c =>
        by_cases ha : cls.accepts c = true
        · simp only [next?, ha, if_true, Option.some.injEq] at hs
          subst hs
          exact ⟨c, _, rfl, ha, rfl, ht, rfl⟩
        · simp [next?, ha] at hs
      | hole h i => exact ht.1.next ht.2 List.mem_cons_self hs
  | fresh h t =>
    obtain ⟨ht, text, hf, rfl⟩ := hp
    exact hf.next ht List.mem_cons_self hs
  | onWord h left t =>
    obtain ⟨ht, text, hpart, rfl⟩ := hp
    by_cases hl : left.contains [] = true
    · simp only [next?, hl, if_true] at hs
      exact hpart.next ht (List.contains_iff_mem.mp hl) hs
    · rw [next?, if_neg hl] at hs
      cases hs
  | between h t =>
    obtain ⟨ht, -, text, hf, rfl⟩ := hp
    by_cases ha : cls.accepts ' ' = true
    · simp only [next?, ha, if_true, Option.some.injEq] at hs
      subst hs
      exact ⟨' ', _, rfl, ha, rfl, ht, text, hf, rfl⟩
    · simp [next?, ha] at hs
  | anywhere => cases hs

theorem Stand.Holds.exists_cases {s : Stand} {c : Cursor σ} (hs : s.Holds v c) :
    ∃ s' ∈ s.cases, s'.Holds v c := by
  obtain ⟨p, hp, hstands⟩ := hs.2.exists_cases
  exact ⟨{ s with place := p }, List.mem_map.mpr ⟨p, hp, rfl⟩, hs.1, hstands⟩

theorem Stand.atEdge_of_holds {s : Stand} {c : Cursor σ} (hs : s.Holds v c)
    (he : s.mayBeInside = false) : c.atEdge = true := by
  have hlast := Last.mayBe_of_holds hs.1
  have hplace := Place.mayBe_of_stands hs.2
  simp only [Cursor.atEdge, bne_iff_ne, ne_eq]
  intro heq
  rw [heq] at hlast
  cases hb : c.rest.head?.any Text.isWordChar <;> simp_all [mayBeInside]

end SheetCommand.Instruction

namespace SheetCommand.Pattern

open Instruction

variable {σ : Type} {v : Filling}

/-- Whether a cursor may be one after the pattern, as far as its length tells. -/
def Within (p : Pattern σ) (c d : Cursor σ) : Prop :=
  d.rest.length + p.eats.toNat ≤ c.rest.length

theorem Within.le {p : Pattern σ} {c d : Cursor σ} (h : p.Within c d) :
    d.rest.length ≤ c.rest.length := Nat.le_trans (Nat.le_add_right _ _) h

theorem Within.seq {p q : Pattern σ} {c d e : Cursor σ} (hp : p.Within c d) (hq : q.Within d e) :
    (p.seq q).Within c e := by
  have heats : (p.seq q).eats = (p.eats || q.eats) := rfl
  simp only [Within, heats] at *
  cases hp : p.eats <;> cases hq : q.eats <;> simp_all <;> omega

theorem Within.of_eats {p q : Pattern σ} {c d : Cursor σ} (h : p.Within c d)
    (heats : q.eats = true → p.eats = true) : q.Within c d := by
  have hle : q.eats.toNat ≤ p.eats.toNat := by
    cases hq : q.eats with
    | false => exact Nat.zero_le _
    | true => exact Nat.le_of_eq (congrArg Bool.toNat (heats hq)).symm
  exact Nat.le_trans (Nat.add_le_add_left hle _) h

theorem Within.choice_left {p q : Pattern σ} {c d : Cursor σ} (h : p.Within c d) :
    (p.choice q).Within c d :=
  h.of_eats fun heats => ((Bool.and_eq_true _ _).mp heats).1

theorem Within.choice_right {p q : Pattern σ} {c d : Cursor σ} (h : q.Within c d) :
    (p.choice q).Within c d :=
  h.of_eats fun heats => ((Bool.and_eq_true _ _).mp heats).2

/-- After a round the rounds that are left are within those from its start. -/
theorem Within.many {greedy : Bool} {p q : Pattern σ} {c d e : Cursor σ} (h : q.Within c d)
    (he : (many greedy p).Within d e) : (many greedy p).Within c e :=
  Nat.le_trans he.le h.le

theorem within_of_mem_rounds {greedy : Bool} {p : Pattern σ}
    (hp : ∀ c, ∀ d ∈ p.outcomes c, p.Within c d) {fuel : List Char} {c d : Cursor σ}
    (hd : d ∈ rounds greedy p.outcomes fuel c) : (many greedy p).Within c d :=
  of_mem_rounds (P := (Within (many greedy p) · d)) hd (Nat.le_refl _) fun c e he hle =>
    (hp c e he).many hle

theorem within_of_mem_outcomes (p : Pattern σ) {c d : Cursor σ} (hd : d ∈ p.outcomes c) :
    p.Within c d := by
  induction p generalizing c d with
  | one cls =>
    obtain ⟨e, rest, hrest, -, rfl⟩ := mem_outcomes_one.mp hd
    simp [Within, eats, hrest, Cursor.advance]
  | seq p q ihp ihq =>
    obtain ⟨e, he, hd⟩ := List.mem_flatMap.mp hd
    exact (ihp he).seq (ihq hd)
  | choice p q ihp ihq =>
    rcases List.mem_append.mp hd with hd | hd
    · exact (ihp hd).choice_left
    · exact (ihq hd).choice_right
  | many greedy p ih => exact within_of_mem_rounds (fun c d hd => ih hd) hd
  | keep slot p ih =>
    obtain ⟨e, he, rfl⟩ := List.mem_map.mp hd
    exact (ih he : p.Within c e)
  | empty => rw [List.mem_singleton.mp hd]; exact Nat.le_refl _
  | absent | start | stop | edge =>
    obtain ⟨-, rfl⟩ : _ ∧ d = c := by simpa [outcomes] using hd
    exact Nat.le_refl _

/-! ### What surely fails -/

/-- The work fails at all cursors of the stands that `miss` accepts. -/
def Misses (v : Filling) (k : Task σ) (miss : Stand → Bool) (bound : Cursor σ → Prop) : Prop :=
  ∀ s, miss s = true → ∀ d, s.Holds v d → bound d → k d = none

theorem run_eq_none_of_fails {p : Pattern σ} {miss : Stand → Bool} {s : Stand} {c : Cursor σ}
    {k : Task σ} (h : p.fails miss s = true) (hs : s.Holds v c)
    (hmiss : Misses v k miss (p.Within c)) : p.run c k = none := by
  rw [run_eq_findSome?, List.findSome?_eq_none_iff]
  intro d hd
  obtain ⟨t, ht, htd⟩ := p.reach_covers ⟨s, List.mem_singleton_self s, hs⟩ hd
  exact hmiss t (List.all_eq_true.mp h t ht) d htd (p.within_of_mem_outcomes hd)

/-! ### What surely leads to the goal -/

/-- The work succeeds, with a result of the kind asked for. -/
def Serves (k : Task σ) (Q : Cursor σ → Prop) (c : Cursor σ) : Prop := ∃ d, k c = some d ∧ Q d

/-- The work serves at all cursors at the goal. -/
def Hits (v : Filling) (k : Task σ) (Q : Cursor σ → Prop) (hit : Goal σ)
    (bound : Cursor σ → Prop) : Prop :=
  ∀ s kept, hit s kept = true → ∀ d, s.Holds v d → d.kept = kept.spans v → bound d → Serves k Q d

theorem Serves.orElse {k l : Task σ} {Q : Cursor σ → Prop} {c : Cursor σ}
    (h : Serves k Q c ∨ (k c = none ∧ Serves l Q c)) : Serves (fun c => k c <|> l c) Q c := by
  rcases h with ⟨d, hd, hQ⟩ | ⟨hnone, d, hd, hQ⟩
  · exact ⟨d, by simp [hd], hQ⟩
  · exact ⟨d, by simp [hnone, hd], hQ⟩

theorem iterate_eq_none_of_fails {greedy : Bool} {p : Pattern σ} {miss : Stand → Bool} {s : Stand}
    {c : Cursor σ} {k : Task σ} (h : (many greedy p).fails miss s = true) (hs : s.Holds v c)
    (hmiss : Misses v k miss ((many greedy p).Within c)) (fuel : List Char) :
    iterate greedy p.run fuel c k = none := by
  rw [iterate_eq_findSome? p.run_eq_findSome?, List.findSome?_eq_none_iff]
  intro d hd
  obtain ⟨t, ht, htd⟩ : Covers v ((many greedy p).reach [s]) d :=
    closure_covers (fun ss s hs c hsc d hd => p.reach_covers ⟨s, hs, hsc⟩ hd) patience
      ⟨s, List.mem_singleton_self s, hs⟩ hd
  exact hmiss t (List.all_eq_true.mp h t ht) d htd
    (within_of_mem_rounds (fun c d hd => p.within_of_mem_outcomes hd) hd)

theorem run_eq_none_of_eats {p : Pattern σ} (heats : p.eats = true) {c : Cursor σ}
    (hc : c.rest = []) (k : Task σ) : p.run c k = none := by
  rw [run_eq_findSome?, List.findSome?_eq_none_iff]
  intro d hd
  have := p.within_of_mem_outcomes hd
  simp [Within, heats, hc] at this

/-- A repetition serves if its next round does, or if leaving it does, in the order of
preference. -/
theorem serves_iterate {greedy : Bool} {p : Pattern σ} (heats : p.eats = true) {k : Task σ}
    {Q : Cursor σ → Prop} {c : Cursor σ} {fuel : List Char} (hfuel : c.rest.length ≤ fuel.length)
    (hgreedy : greedy = true → ∀ xs : List Char, c.rest.length ≤ xs.length + 1 →
      Serves (p.run · fun d => iterate greedy p.run xs d k) Q c ∨
        (p.run c (fun d => iterate greedy p.run xs d k) = none ∧ Serves k Q c))
    (hlazy : greedy = false → ∀ xs : List Char, c.rest.length ≤ xs.length + 1 →
      Serves k Q c ∨
        (k c = none ∧ Serves (p.run · fun d => iterate greedy p.run xs d k) Q c)) :
    Serves (iterate greedy p.run fuel · k) Q c := by
  cases fuel with
  | nil =>
    have hnil : c.rest = [] := List.eq_nil_of_length_eq_zero (Nat.le_zero.mp hfuel)
    have hno : ∀ k : Task σ, ¬ Serves (p.run · k) Q c := by
      rintro k ⟨d, hd, -⟩
      simp [run_eq_none_of_eats heats hnil] at hd
    cases greedy with
    | true => exact ((hgreedy rfl [] (by simp [hnil])).resolve_left (hno _)).2
    | false => exact (hlazy rfl [] (by simp [hnil])).resolve_right fun h => hno _ h.2
  | cons x xs =>
    cases greedy with
    | true =>
      have h := Serves.orElse (hgreedy rfl xs hfuel)
      simpa [Serves, iterate] using h
    | false =>
      have h := Serves.orElse (hlazy rfl xs hfuel)
      simpa [Serves, iterate] using h

theorem Hits.mono {k : Task σ} {Q : Cursor σ → Prop} {hit : Goal σ} {b b' : Cursor σ → Prop}
    (h : Hits v k Q hit b) (hb : ∀ d, b' d → b d) : Hits v k Q hit b' :=
  fun s kept hs d hd hkept hd' => h s kept hs d hd hkept (hb d hd')

theorem Misses.mono {k : Task σ} {miss : Stand → Bool} {b b' : Cursor σ → Prop}
    (h : Misses v k miss b) (hb : ∀ d, b' d → b d) : Misses v k miss b' :=
  fun s hs d hd hd' => h s hs d hd (hb d hd')

/-- Wherever the rounds surely fail, they fail after one round more. -/
theorem Misses.iterate {greedy : Bool} {p q : Pattern σ} {miss : Stand → Bool} {k : Task σ}
    {c : Cursor σ} (hmiss : Misses v k miss ((many greedy p).Within c)) (fuel : List Char) :
    Misses v (Pattern.iterate greedy p.run fuel · k) ((many greedy p).fails miss) (q.Within c) :=
  fun _ ht _ htd hd => iterate_eq_none_of_fails ht htd (hmiss.mono fun _ he => hd.many he) fuel

/-- The rounds serve at all cursors of a stand. -/
def RoundsServe (v : Filling) (greedy : Bool) (p : Pattern σ) (k : Task σ) (Q : Cursor σ → Prop)
    (x : Stand × Keeping σ) (bound : Cursor σ → Prop) : Prop :=
  ∀ d : Cursor σ, x.1.Holds v d → d.kept = x.2.spans v → bound d →
    ∀ fuel : List Char, d.rest.length ≤ fuel.length → Serves (iterate greedy p.run fuel · k) Q d

theorem RoundsServe.mono {greedy : Bool} {p : Pattern σ} {k : Task σ} {Q : Cursor σ → Prop}
    {x : Stand × Keeping σ} {b b' : Cursor σ → Prop} (h : RoundsServe v greedy p k Q x b)
    (hb : ∀ d, b' d → b d) : RoundsServe v greedy p k Q x b' :=
  fun d hs hkept hd => h d hs hkept (hb d hd)

variable [DecidableEq σ]

/-- What `leads` promises of a pattern. -/
def LeadsSurely (v : Filling) (p : Pattern σ) : Prop :=
  ∀ {s kept hit miss}, p.leads s kept hit miss = true →
    ∀ {c : Cursor σ} {k : Task σ} {Q : Cursor σ → Prop}, s.Holds v c → c.kept = kept.spans v →
      Hits v k Q hit (p.Within c) → Misses v k miss (p.Within c) → Serves (p.run · k) Q c

section Rounds

variable {greedy : Bool} {p : Pattern σ} {hit goal : Goal σ} {miss : Stand → Bool} {k : Task σ}
  {Q : Cursor σ → Prop} {s : Stand} {kept : Keeping σ} {c : Cursor σ}

/-- **One round**: where the rounds after it serve, they serve with it too, in whichever order of
preference it is surely the one to be taken. -/
theorem serves_of_round (hp : LeadsSurely v p) (heats : p.eats = true)
    (hs : s.Holds v c) (hkept : c.kept = kept.spans v)
    (hhit : Hits v k Q hit ((many greedy p).Within c))
    (hmiss : Misses v k miss ((many greedy p).Within c))
    (hgoal : ∀ xs : List Char, c.rest.length ≤ xs.length + 1 →
      Hits v (iterate greedy p.run xs · k) Q goal (p.Within c))
    (h : (if greedy then
        p.leads s kept goal ((many greedy p).fails miss) ||
          (p.fails ((many greedy p).fails miss) s && hit s kept)
      else hit s kept || (miss s && p.leads s kept goal ((many greedy p).fails miss))) = true)
    (fuel : List Char) (hfuel : c.rest.length ≤ fuel.length) :
    Serves (iterate greedy p.run fuel · k) Q c := by
  have hround : ∀ xs : List Char, c.rest.length ≤ xs.length + 1 →
      p.leads s kept goal ((many greedy p).fails miss) = true →
        Serves (p.run · fun d => iterate greedy p.run xs d k) Q c :=
    fun xs hxs hlead => hp hlead hs hkept (hgoal xs hxs) (hmiss.iterate xs)
  have hskip : ∀ xs : List Char, p.fails ((many greedy p).fails miss) s = true →
      p.run c (fun d => iterate greedy p.run xs d k) = none :=
    fun xs hfails => run_eq_none_of_fails hfails hs (hmiss.iterate xs)
  have hstay : hit s kept = true → Serves k Q c :=
    fun ht => hhit s kept ht c hs hkept (Nat.le_refl _)
  have hleave : miss s = true → k c = none := fun ht => hmiss s ht c hs (Nat.le_refl _)
  refine serves_iterate heats hfuel (fun hg xs hxs => ?_) fun hg xs hxs => ?_
  · subst hg
    simp only [if_true, Bool.or_eq_true, Bool.and_eq_true] at h
    exact h.imp (hround xs hxs) fun hc => ⟨hskip xs hc.1, hstay hc.2⟩
  · subst hg
    simp only [Bool.false_eq_true, if_false, Bool.or_eq_true, Bool.and_eq_true] at h
    exact h.imp hstay fun hc => ⟨hleave hc.1, hround xs hxs hc.2⟩

/-- **A repetition that surely leads to the goal**: by induction on the rounds followed and, for the
stands at which a round was begun before, on the length of the text. -/
theorem serves_of_leadRounds (hp : LeadsSurely v p) (heats : p.eats = true) (n : Nat)
    {seen : List (Stand × Keeping σ)}
    (h : leadRounds greedy (fun s kept goal => p.leads s kept goal ((many greedy p).fails miss))
      (p.fails ((many greedy p).fails miss)) hit miss n seen s kept = true)
    (hs : s.Holds v c) (hkept : c.kept = kept.spans v)
    (hhit : Hits v k Q hit ((many greedy p).Within c))
    (hmiss : Misses v k miss ((many greedy p).Within c))
    (hseen : ∀ x ∈ seen, RoundsServe v greedy p k Q x ((many greedy p).Within c))
    (fuel : List Char) (hfuel : c.rest.length ≤ fuel.length) :
    Serves (iterate greedy p.run fuel · k) Q c := by
  induction n generalizing seen s kept c fuel with
  | zero => cases h
  | succ n ih =>
    -- The induction on the length needs the goal for all cursors of the stand.
    induction hlen : c.rest.length using Nat.strongRecOn generalizing c fuel with
    | ind m ihlen =>
    subst hlen
    unfold leadRounds at h
    rcases Bool.or_eq_true _ _ ▸ h with hmem | hall
    · exact hseen _ (List.contains_iff_mem.mp hmem) c hs hkept (Nat.le_refl _) fuel hfuel
    obtain ⟨s', hs', hs'c⟩ := hs.exists_cases
    have hcase := List.all_eq_true.mp hall s' hs'
    refine serves_of_round hp heats hs'c hkept hhit hmiss (fun xs hxs t kept' ht d htd hdk hd => ?_)
      hcase fuel hfuel
    have hlt : d.rest.length + 1 ≤ c.rest.length := by simpa [Within, heats] using hd
    refine ih ht htd hdk (hhit.mono fun _ => hd.many) (hmiss.mono fun _ => hd.many)
      (fun x hx => ?_) xs (by omega)
    have hsub : x = (s, kept) ∨ x ∈ seen := by
      split at hx
      · exact List.mem_cons.mp hx
      · exact .inr hx
    rcases hsub with rfl | hx
    · intro e hxe hek he fuel hfuel
      have hle : (many greedy p).Within c e := hd.many he
      exact ihlen e.rest.length (Nat.lt_of_le_of_lt he.le hlt) hxe hek (hhit.mono fun _ => hle.many)
        (hmiss.mono fun _ => hle.many) (fun y hy => (hseen y hy).mono fun _ => hle.many) fuel hfuel
        rfl
    · exact (hseen x hx).mono fun _ => hd.many

end Rounds

section

variable {p q : Pattern σ}

theorem leadsSurely_one (cls : CharClass) : LeadsSurely v (one cls : Pattern σ) := by
  intro s kept hit miss h c k Q hs hkept hhit _
  obtain ⟨s', hs', hs'c⟩ := hs.exists_cases
  have hcase := List.all_eq_true.mp h s' hs'
  split at hcase
  · rename_i t ht
    obtain ⟨a, rest, hrest, ha, hlast, hstands⟩ := Place.exists_next hs'c.2 ht
    have hserves : Serves k Q (c.advance a rest) :=
      hhit t kept hcase _ ⟨hlast, hstands⟩ hkept (by simp [Within, eats, hrest, Cursor.advance])
    simpa [Serves, run, hrest, ha] using hserves
  · cases hcase

theorem LeadsSurely.seq (hp : LeadsSurely v p) (hq : LeadsSurely v q) :
    LeadsSurely v (p.seq q) := by
  intro s kept hit miss h c k Q hs hkept hhit hmiss
  refine hp h hs hkept (fun t kept' ht d htd hdk hd => ?_) fun t ht d htd hd => ?_
  · exact hq ht htd hdk (hhit.mono fun e he => hd.seq he) (hmiss.mono fun e he => hd.seq he)
  · exact run_eq_none_of_fails ht htd (hmiss.mono fun e he => hd.seq he)

theorem LeadsSurely.choice (hp : LeadsSurely v p) (hq : LeadsSurely v q) :
    LeadsSurely v (p.choice q) := by
  intro s kept hit miss h c k Q hs hkept hhit hmiss
  obtain ⟨s', hs', hs'c⟩ := hs.exists_cases
  have hcase := List.all_eq_true.mp h s' hs'
  simp only [Bool.or_eq_true, Bool.and_eq_true] at hcase
  refine Serves.orElse (hcase.imp (fun h => ?_) fun h => ⟨?_, ?_⟩)
  · exact hp h hs'c hkept (hhit.mono fun _ => .choice_left) (hmiss.mono fun _ => .choice_left)
  · exact run_eq_none_of_fails h.1 hs'c (hmiss.mono fun _ => .choice_left)
  · exact hq h.2 hs'c hkept (hhit.mono fun _ => .choice_right)
      (hmiss.mono fun _ => .choice_right)

theorem LeadsSurely.many (hp : LeadsSurely v p) (greedy : Bool) :
    LeadsSurely v (many greedy p) := by
  intro s kept hit miss h c k Q hs hkept hhit hmiss
  obtain ⟨heats, h⟩ := (Bool.and_eq_true _ _).mp h
  exact serves_of_leadRounds hp heats patience h hs hkept hhit hmiss (by simp) c.rest
    (Nat.le_refl _)

theorem LeadsSurely.keep (hp : LeadsSurely v p) (slot : σ) : LeadsSurely v (keep slot p) := by
  intro s kept hit miss h c k Q hs hkept hhit hmiss
  refine hp h hs hkept (fun t kept' ht d htd hdk hd => ?_) fun t ht d htd hd => ?_
  · dsimp only at ht
    split at ht
    · rename_i a b ha hb
      have hstart := hs.2
      have hstop := htd.2
      rw [ha] at hstart
      rw [hb] at hstop
      refine hhit t _ ht (c.keep d slot) htd ?_ hd
      simp [Cursor.keep, Keeping.spans, hdk, hstart.2, hstop.2]
    · cases ht
  · exact hmiss t ht (c.keep d slot) htd hd

/-- What cannot be read anywhere is surely absent. -/
theorem leadsSurely_absent (p : Pattern σ) : LeadsSurely v (absent p) := by
  intro s kept hit miss h c k Q hs hkept hhit _
  obtain ⟨hnil, h⟩ := (Bool.and_eq_true _ _).mp h
  have hfails : p.fails (fun _ => false) s = true := by simp [fails, List.isEmpty_iff.mp hnil]
  have hnone : p.run c some = none := run_eq_none_of_fails hfails hs fun _ h => by cases h
  simpa [Serves, run, hnone] using hhit s kept h c hs hkept (Nat.le_refl _)

theorem leadsSurely_start : LeadsSurely v (start : Pattern σ) := by
  intro s kept hit miss h c k Q hs hkept hhit _
  obtain ⟨hstart, h⟩ := (Bool.and_eq_true _ _).mp h
  have hlast := hs.1
  rw [beq_iff_eq.mp hstart] at hlast
  have hnone : c.last.isNone = true := by simp [show c.last = none from hlast]
  simpa [Serves, run, hnone] using hhit s kept h c hs hkept (Nat.le_refl _)

theorem leadsSurely_stop : LeadsSurely v (stop : Pattern σ) := by
  intro s kept hit miss h c k Q hs hkept hhit _
  obtain ⟨s', hs', hs'c⟩ := hs.exists_cases
  obtain ⟨hstop, h⟩ := (Bool.and_eq_true _ _).mp (List.all_eq_true.mp h s' hs')
  have hplace := hs'c.2
  rw [beq_iff_eq.mp hstop] at hplace
  have hnil : c.rest = [] := hplace.2
  simpa [Serves, run, hnil] using hhit s' kept h c hs'c hkept (Nat.le_refl _)

theorem leadsSurely_edge : LeadsSurely v (edge : Pattern σ) := by
  intro s kept hit miss h c k Q hs hkept hhit _
  obtain ⟨s', hs', hs'c⟩ := hs.exists_cases
  obtain ⟨hedge, h⟩ := (Bool.and_eq_true _ _).mp (List.all_eq_true.mp h s' hs')
  have hat := Stand.atEdge_of_holds hs'c (by simpa using hedge)
  simpa [Serves, run, hat] using hhit s' kept h c hs'c hkept (Nat.le_refl _)

end

/-- **What surely leads to the goal** does so in every filling. -/
theorem leadsSurely (p : Pattern σ) : LeadsSurely v p := by
  induction p with
  | empty => exact fun h c k Q hs hkept hhit _ => hhit _ _ h c hs hkept (Nat.le_refl _)
  | one cls => exact leadsSurely_one cls
  | seq p q ihp ihq => exact ihp.seq ihq
  | choice p q ihp ihq => exact ihp.choice ihq
  | many greedy p ih => exact ih.many greedy
  | keep slot p ih => exact ih.keep slot
  | absent p _ => exact leadsSurely_absent p
  | start => exact leadsSurely_start
  | stop => exact leadsSurely_stop
  | edge => exact leadsSurely_edge

/-- **A pattern that finds a sketch** is found in every filling and keeps these texts. -/
theorem search_of_finds {p : Pattern σ} {t : Sketch} {kept : Keeping σ}
    (h : p.finds t kept = true) (ht : t.Fits v) :
    ∃ c, p.search (t.fill v) = some c ∧ c.kept = kept.spans v := by
  rw [search_eq_run]
  refine p.anywhere.leadsSurely (Q := fun c => c.kept = kept.spans v) h ⟨rfl, ht, rfl⟩ rfl
    (fun s kept' hk c _ hc _ => ⟨c, rfl, ?_⟩) fun _ h => by cases h
  exact hc.trans (by rw [beq_iff_eq.mp hk])

end SheetCommand.Pattern
