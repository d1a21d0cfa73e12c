import SheetCommand.Proofs.Instruction.Lead

/-!
# Patterns that do not read a mark

A pattern that cannot read a mark, such as a quote, never reads across one. So it is found in a text
if and only if it is found in one of the pieces between the marks (`occursIn_append_mark`).
-/

namespace SheetCommand

variable {σ : Type} {mark : Char} {before : Option Char} {after : List Char}

/-! ### A text inside another -/

/-- The same piece of a longer text. -/
def Span.extend (after : List Char) (s : Span) : Span := ⟨s.fromStart ++ after, s.fromEnd ++ after⟩

/-- The same cursor in a longer text: `before` is the character in front of the inner text, `after`
what follows it. -/
def Cursor.surround (before : Option Char) (after : List Char) (c : Cursor σ) : Cursor σ where
  last := c.last.or before
  rest := c.rest ++ after
  kept := c.kept.map fun piece => (piece.1, piece.2.extend after)

/-- Nothing but marks around the inner text. -/
structure Marked (mark : Char) (before : Option Char) (after : List Char) : Prop where
  notWord : Text.isWordChar mark = false
  front : ∀ c ∈ before, c = mark
  back : ∀ c ∈ after.head?, c = mark

theorem Marked.any_front (h : Marked mark before after) :
    before.any Text.isWordChar = false := by
  cases before with
  | none => rfl
  | some c => rw [h.front c rfl]; exact h.notWord

theorem Marked.any_back (h : Marked mark before after) :
    after.head?.any Text.isWordChar = false := by
  cases after with
  | nil => rfl
  | cons c after => rw [h.back c rfl]; exact h.notWord

theorem Cursor.atEdge_surround (h : Marked mark before after) (c : Cursor σ) :
    (c.surround before after).atEdge = c.atEdge := by
  have hlast : (c.last.or before).any Text.isWordChar = c.last.any Text.isWordChar := by
    cases c.last with
    | none => exact h.any_front
    | some d => rfl
  have hrest : (c.rest ++ after).head?.any Text.isWordChar = c.rest.head?.any Text.isWordChar := by
    cases c.rest with
    | nil => exact h.any_back
    | cons d rest => rfl
  simp only [atEdge, surround, hlast, hrest]

namespace Pattern

/-! ### Sequences and repetitions -/

theorem outcomes_all_cons (p : Pattern σ) (ps : List (Pattern σ)) (c : Cursor σ) :
    (all (p :: ps)).outcomes c = (p.outcomes c).flatMap (all ps).outcomes := by
  cases ps with
  | nil => simp [all, outcomes]
  | cons q ps => rfl

theorem outcomes_all_append (ps qs : List (Pattern σ)) (c : Cursor σ) :
    (all (ps ++ qs)).outcomes c = ((all ps).outcomes c).flatMap (all qs).outcomes := by
  induction ps generalizing c with
  | nil => simp [all, outcomes]
  | cons p ps ih =>
    rw [List.cons_append, outcomes_all_cons, outcomes_all_cons, List.flatMap_assoc]
    exact congrArg (fun f => (p.outcomes c).flatMap f) (funext ih)

theorem getLast?_cons_or (c : Char) (read : List Char) (last : Option Char) :
    (c :: read).getLast?.or last = read.getLast?.or (some c) := by
  rw [List.getLast?_cons]
  cases read.getLast? <;> rfl

/-- The cursor further on in the text. -/
def Skips (c d : Cursor σ) : Prop :=
  ∃ read, c.rest = read ++ d.rest ∧ d.last = read.getLast?.or c.last ∧ d.kept = c.kept

theorem skips_of_mem_many {greedy : Bool} {cls : CharClass} {c d : Cursor σ}
    (h : d ∈ (many greedy (one cls)).outcomes c) : Skips c d := by
  refine of_mem_rounds (P := (Skips · d)) h ⟨[], rfl, rfl, rfl⟩ fun c e he => ?_
  rintro ⟨read, hrest, hlast, hkept⟩
  obtain ⟨x, rest, hc, -, rfl⟩ := mem_outcomes_one.mp he
  refine ⟨x :: read, ?_, ?_, hkept⟩
  · rw [hc, List.cons_append]; exact congrArg (x :: ·) hrest
  · rw [hlast, getLast?_cons_or]; rfl

/-- A repeated class reads as far as it accepts. -/
theorem mem_many_of_append {greedy : Bool} {cls : CharClass} {read : List Char}
    (h : ∀ c ∈ read, cls.accepts c = true) (rest : List Char) (last : Option Char)
    (kept : List (σ × Span)) :
    ⟨read.getLast?.or last, rest, kept⟩ ∈
      (many greedy (one cls)).outcomes (⟨last, read ++ rest, kept⟩ : Cursor σ) := by
  have key : ∀ (fuel : List Char) (last : Option Char), read.length ≤ fuel.length →
      ⟨read.getLast?.or last, rest, kept⟩ ∈
        rounds greedy (one cls).outcomes fuel (⟨last, read ++ rest, kept⟩ : Cursor σ) := by
    induction read with
    | nil =>
      intro fuel last _
      cases fuel with
      | nil => simp [rounds]
      | cons _ fuel => exact mem_rounds_cons.mpr (.inr rfl)
    | cons c read ih =>
      intro fuel last hfuel
      cases fuel with
      | nil => cases hfuel
      | cons _ fuel =>
        rw [getLast?_cons_or]
        have hone := (mem_outcomes_one (s := (⟨last, c :: (read ++ rest), kept⟩ : Cursor σ))).mpr
          ⟨c, read ++ rest, rfl, h c (by simp), rfl⟩
        exact mem_rounds_cons.mpr (.inl ⟨_, hone,
          ih (fun d hd => h d (by simp [hd])) fuel (some c) (Nat.le_of_succ_le_succ hfuel)⟩)
  exact key _ last (by simp)

/-! ### Occurrences -/

theorem isSome_head?_iff {α : Type} {l : List α} : l.head?.isSome = true ↔ ∃ a, a ∈ l := by
  cases l <;> simp

theorem search_eq_none_iff {p : Pattern σ} {text : List Char} :
    p.search text = none ↔ p.occursIn text = false := by
  simp [occursIn]

/-- A pattern occurs where some reading of it begins. -/
theorem occursIn_iff {p : Pattern σ} {text : List Char} :
    p.occursIn text = true ↔
      ∃ read rest, text = read ++ rest ∧ ∃ d, d ∈ p.outcomes ⟨read.getLast?, rest, []⟩ := by
  have key : ∀ last, (p.searchFrom last text).isSome = true ↔
      ∃ read rest, text = read ++ rest ∧ ∃ d, d ∈ p.outcomes ⟨read.getLast?.or last, rest, []⟩ := by
    induction text with
    | nil =>
      intro last
      rw [searchFrom_nil, isSome_head?_iff]
      constructor
      · exact fun h => ⟨[], [], rfl, h⟩
      · rintro ⟨read, rest, htext, h⟩
        obtain ⟨rfl, rfl⟩ := List.append_eq_nil_iff.mp htext.symm
        exact h
    | cons c text ih =>
      intro last
      rw [searchFrom_cons, Option.isSome_or, Bool.or_eq_true, isSome_head?_iff, ih]
      constructor
      · rintro (h | ⟨read, rest, rfl, h⟩)
        · exact ⟨[], c :: text, rfl, h⟩
        · exact ⟨c :: read, rest, rfl, by rwa [getLast?_cons_or]⟩
      · rintro ⟨read, rest, htext, h⟩
        cases read with
        | nil => obtain rfl : c :: text = rest := htext; exact .inl h
        | cons d read =>
          obtain ⟨rfl, rfl⟩ := List.cons.inj htext
          exact .inr ⟨read, rest, rfl, by rwa [getLast?_cons_or] at h⟩
  have hkey := key none
  simp only [Option.or_none] at hkey
  exact hkey

/-- What a search finds is an outcome of some place of the text, with nothing kept before. -/
theorem exists_mem_outcomes_of_search {p : Pattern σ} {text : List Char} {d : Cursor σ}
    (h : p.search text = some d) : ∃ c, c.kept = [] ∧ c.rest <:+ text ∧ d ∈ p.outcomes c := by
  have key : ∀ last, p.searchFrom last text = some d →
      ∃ c, c.kept = [] ∧ c.rest <:+ text ∧ d ∈ p.outcomes c := by
    clear h
    induction text with
    | nil =>
      intro last h
      rw [searchFrom_nil] at h
      exact ⟨_, rfl, List.suffix_refl _, List.mem_of_mem_head? h⟩
    | cons c text ih =>
      intro last h
      rw [searchFrom_cons, Option.or_eq_some_iff] at h
      rcases h with h | ⟨-, h⟩
      · exact ⟨_, rfl, List.suffix_refl _, List.mem_of_mem_head? h⟩
      · obtain ⟨b, hkept, hrest, hd⟩ := ih (some c) h
        exact ⟨b, hkept, hrest.trans (List.suffix_cons c text), hd⟩
  exact key none h

/-! ### Blind patterns -/

/-- The pattern cannot read the mark, nor see where the text starts or stops. Its repetitions read
something in every round. -/
def isBlind (mark : Char) : Pattern σ → Bool
  | one cls => !cls.accepts mark
  | seq p q => p.isBlind mark && q.isBlind mark
  | choice p q => p.isBlind mark && q.isBlind mark
  | many _ p => p.isBlind mark && p.eats
  | keep _ p => p.isBlind mark
  | absent p => p.isBlind mark
  | empty => true
  | edge => true
  | start => false
  | stop => false

theorem length_lt_of_eats {p : Pattern σ} (hp : p.eats = true) {c d : Cursor σ}
    (hd : d ∈ p.outcomes c) : d.rest.length < c.rest.length := by
  have h := p.within_of_mem_outcomes hd
  rw [Within, hp] at h
  exact h

/-- Rounds that read something need no more fuel than there is text. -/
theorem rounds_map {greedy : Bool} {step : Cursor σ → List (Cursor σ)} {f : Cursor σ → Cursor σ}
    (hf : ∀ c, step (f c) = (step c).map f)
    (hless : ∀ c, ∀ d ∈ step c, d.rest.length < c.rest.length) (fuel fuel' : List Char)
    {c : Cursor σ} (h : c.rest.length ≤ fuel.length) (h' : c.rest.length ≤ fuel'.length) :
    rounds greedy step fuel' (f c) = (rounds greedy step fuel c).map f := by
  have hover : ∀ c, c.rest.length = 0 → step c = [] := fun c hc =>
    List.eq_nil_iff_forall_not_mem.mpr fun d hd => by have := hless c d hd; omega
  induction fuel generalizing fuel' c with
  | nil =>
    have hnil := hover c (Nat.le_zero.mp h)
    cases fuel' with
    | nil => rfl
    | cons _ fuel' => cases greedy <;> simp [rounds, hf, hnil]
  | cons x fuel ih =>
    cases fuel' with
    | nil =>
      have hnil := hover c (Nat.le_zero.mp h')
      cases greedy <;> simp [rounds, hnil]
    | cons _ fuel' =>
      have hmore : (step (f c)).flatMap (rounds greedy step fuel') =
          ((step c).flatMap (rounds greedy step fuel)).map f := by
        rw [hf, List.flatMap_map, List.map_flatMap]
        rw [List.flatMap_def, List.flatMap_def]
        refine congrArg List.flatten (List.map_congr_left fun d hd => ?_)
        have hlt := hless c d hd
        rw [List.length_cons] at h h'
        exact ih fuel' (by omega) (by omega)
      cases greedy <;> simp [rounds, hmore]

/-- **A blind pattern** reads a text inside another as it reads the text alone. -/
theorem outcomes_surround (h : Marked mark before after) {p : Pattern σ}
    (hp : p.isBlind mark = true) (c : Cursor σ) :
    p.outcomes (c.surround before after) = (p.outcomes c).map (·.surround before after) := by
  induction p generalizing c with
  | empty => rfl
  | one cls =>
    rw [isBlind, Bool.not_eq_true'] at hp
    obtain ⟨last, rest, kept⟩ := c
    cases rest with
    | nil =>
      cases hafter : after with
      | nil => simp [outcomes, Cursor.surround]
      | cons d after' =>
        obtain rfl : d = mark := h.back d (by simp [hafter])
        simp [outcomes, Cursor.surround, hp]
    | cons d rest =>
      by_cases hd : cls.accepts d <;> simp [outcomes, Cursor.surround, Cursor.advance, hd]
  | seq p q ihp ihq =>
    rw [isBlind, Bool.and_eq_true] at hp
    simp only [outcomes, ihp hp.1, List.flatMap_map, List.map_flatMap, ihq hp.2]
  | choice p q ihp ihq =>
    rw [isBlind, Bool.and_eq_true] at hp
    simp only [outcomes, ihp hp.1, ihq hp.2, List.map_append]
  | many greedy p ih =>
    rw [isBlind, Bool.and_eq_true] at hp
    exact rounds_map (ih hp.1) (fun c d => length_lt_of_eats hp.2) c.rest _ (Nat.le_refl _)
      (by simp [Cursor.surround])
  | keep slot p ih =>
    simp only [outcomes, ih hp, List.map_map]
    rfl
  | absent p ih =>
    simp only [outcomes, ih hp, List.isEmpty_map]
    split <;> rfl
  | start => cases hp
  | stop => cases hp
  | edge =>
    simp only [outcomes, Cursor.atEdge_surround h]
    split <;> rfl

/-! ### Finding a blind pattern -/

theorem isSome_head?_surround (h : Marked mark before after) {p : Pattern σ}
    (hp : p.isBlind mark = true) (last : Option Char) (text : List Char) :
    ((p.outcomes ⟨last.or before, text ++ after, []⟩).head?).isSome =
      ((p.outcomes ⟨last, text, []⟩).head?).isSome := by
  have hout := outcomes_surround h hp ⟨last, text, []⟩
  simp only [Cursor.surround, List.map_nil] at hout
  rw [hout, List.head?_map, Option.isSome_map]

theorem isSome_searchFrom_mark (hmark : Text.isWordChar mark = false) {p : Pattern σ}
    (hp : p.isBlind mark = true) (text : List Char) :
    (p.searchFrom (some mark) text).isSome = (p.search text).isSome := by
  have hfront : Marked mark (some mark) [] := ⟨hmark, by simp, by simp⟩
  have hhead := isSome_head?_surround hfront hp none text
  rw [List.append_nil] at hhead
  cases text with
  | nil => rw [searchFrom_nil, search, searchFrom_nil]; exact hhead
  | cons c text =>
    rw [searchFrom_cons, search, searchFrom_cons, Option.isSome_or, Option.isSome_or]
    exact congrArg (· || _) hhead

/-- **A blind pattern is found on one side of a mark.** -/
theorem occursIn_append_mark (hmark : Text.isWordChar mark = false) {p : Pattern σ}
    (hp : p.isBlind mark = true) (s t : List Char) :
    p.occursIn (s ++ mark :: t) = (p.occursIn s || p.occursIn t) := by
  have hback : Marked mark none (mark :: t) := ⟨hmark, by simp, by simp⟩
  have key : ∀ last, (p.searchFrom last (s ++ mark :: t)).isSome =
      ((p.searchFrom last s).isSome || (p.search t).isSome) := by
    induction s with
    | nil =>
      intro last
      have hhead := isSome_head?_surround hback hp last []
      rw [Option.or_none, List.nil_append] at hhead
      rw [List.nil_append, searchFrom_cons, searchFrom_nil, Option.isSome_or, hhead,
        isSome_searchFrom_mark hmark hp]
    | cons c s ih =>
      intro last
      have hhead := isSome_head?_surround hback hp last (c :: s)
      rw [Option.or_none] at hhead
      rw [List.cons_append] at hhead ⊢
      rw [searchFrom_cons, searchFrom_cons, Option.isSome_or, Option.isSome_or, hhead, ih,
        Bool.or_assoc]
  exact key none

end Pattern

end SheetCommand
