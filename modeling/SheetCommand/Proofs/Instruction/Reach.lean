import SheetCommand.Proofs.Instruction.Sketch

/-!
# Sketches — where a pattern may get

A cursor in a filling of a sketch stands at some `Place` of the sketch: at the end or before a piece
of it, or inside an open part. A `Stand` is such a place with what is known of the character just
read. `Pattern.reach` computes, from some stands, stands that cover every cursor the pattern can
reach (`reach_covers`). It follows all readings at once, so it says where the pattern may get but
not which reading is preferred; a pattern that reaches nothing is not found (`search_of_misses`).

Where the computation gives up it answers with the stand that covers every cursor.
-/

namespace SheetCommand.Instruction

/-! ### Places -/

inductive Place where
  /-- Before the rest of the sketch. -/
  | at (t : Sketch)
  /-- At the start of a word of an open part. -/
  | fresh (h : Hole) (t : Sketch)
  /-- On a word of an open part or at its end; the rest of the word is none of `left`. -/
  | onWord (h : Hole) (left : List (List Char)) (t : Sketch)
  /-- Before a space that another word of the open part follows. -/
  | between (h : Hole) (t : Sketch)
  | anywhere
  deriving BEq, ReflBEq, LawfulBEq

namespace Place

/-- Whether a text is what follows the place in a filling. -/
def Stands (v : Filling) : Place → List Char → Prop
  | .at t, rest => t.Fits v ∧ rest = t.fill v
  | fresh h t, rest => t.Fits v ∧ ∃ text, h.Fills text ∧ rest = text ++ t.fill v
  | onWord h left t, rest => t.Fits v ∧ ∃ text, h.Part left text ∧ rest = text ++ t.fill v
  | between h t, rest =>
    t.Fits v ∧ h.isSpaced = true ∧ ∃ text, h.Fills text ∧ rest = ' ' :: (text ++ t.fill v)
  | anywhere, _ => True

/-- A word that has begun goes on, or it is over. -/
def cases : Place → List Place
  | onWord h left t =>
    if left.contains [] then [onWord h left t]
    else onWord h ([] :: left) t :: .at t :: (if h.isSpaced then [between h t] else [])
  | p => [p]

/-- Whether the text may be over. -/
def mayEnd : Place → Bool
  | .at t => t.isEmpty
  | onWord _ left t => !left.contains [] && t.isEmpty
  | fresh .. => false
  | between .. => false
  | anywhere => true

end Place

/-- Whether a letter of an open part may be, or may fail to be, a word character. -/
def Hole.mayBe (word : Bool) : Hole → Bool
  | name => word
  | .word => word
  | run letters => letters.any (Text.isWordChar · == word)
  | free _ => true

/-- Whether the next character, if any, may be (or may fail to be) a word character. -/
def Sketch.mayBe (word : Bool) : Sketch → Bool
  | [] => !word
  | .char c :: _ => Text.isWordChar c == word
  | .hole h _ :: _ => h.mayBe word

def Place.mayBe (word : Bool) : Place → Bool
  | .at t => t.mayBe word
  | fresh h _ => h.mayBe word
  | onWord h left t => h.mayBe word || (!left.contains [] && (h.isSpaced && !word || t.mayBe word))
  | between .. => !word
  | anywhere => true

/-! ### Stands -/

/-- What is known of the character just read. -/
inductive Last where
  | start
  | char (c : Char)
  | letter (h : Hole)
  | unclear
  deriving BEq, ReflBEq, LawfulBEq

namespace Last

def Holds : Last → Option Char → Prop
  | start, last => last = none
  | char c, last => last = some c
  | letter h, last => ∃ c, h.isLetter c = true ∧ last = some c
  | unclear, _ => True

def mayBeStart : Last → Bool
  | start => true
  | char _ => false
  | letter _ => false
  | unclear => true

def mayBe (word : Bool) : Last → Bool
  | start => !word
  | char c => Text.isWordChar c == word
  | letter h => h.mayBe word
  | unclear => true

end Last

structure Stand where
  last : Last
  place : Place
  deriving BEq, ReflBEq, LawfulBEq

namespace Stand

variable {σ : Type}

def Holds (v : Filling) (s : Stand) (c : Cursor σ) : Prop :=
  s.last.Holds c.last ∧ s.place.Stands v c.rest

/-- The stand of every cursor. -/
def lost : Stand := ⟨.unclear, .anywhere⟩

def cases (s : Stand) : List Stand := s.place.cases.map fun p => { s with place := p }

def mayBeEdge (s : Stand) : Bool :=
  s.last.mayBe true && s.place.mayBe false || s.last.mayBe false && s.place.mayBe true

end Stand

/-! ### Reading a character -/

namespace Hole

/-- The stands after a letter of an open part that a class accepts. -/
def afterLetter (h : Hole) (cls : CharClass) (left : List (List Char)) (t : Sketch) : List Stand :=
  match h.share cls with
  | .none => []
  | .only c => [⟨.letter h, .onWord h (strip c left) t⟩]
  | _ => [⟨.letter h, .onWord h [] t⟩]

/-- The stands after a space between two words of an open part. -/
def afterSpace (h : Hole) (cls : CharClass) (t : Sketch) : List Stand :=
  if h.isSpaced && cls.accepts ' ' then [⟨.char ' ', .fresh h t⟩] else []

end Hole

/-- The stands after a character that a class accepts. -/
def Sketch.read (cls : CharClass) : Sketch → List Stand
  | [] => []
  | .char c :: t => if cls.accepts c then [⟨.char c, .at t⟩] else []
  | .hole h _ :: t => h.afterLetter cls h.refused t

def Place.read (cls : CharClass) : Place → List Stand
  | .at t => t.read cls
  | fresh h t => h.afterLetter cls h.refused t
  | onWord h left t => h.afterLetter cls left t ++
      (h.afterSpace cls t ++ t.read cls).filter fun _ => !left.contains []
  | between h t => h.afterSpace cls t
  | anywhere => [.lost]

/-! ### Reading a pattern -/

def union : List Stand → List Stand → List Stand
  | [], ts => ts
  | s :: ss, ts => if ts.contains s then union ss ts else s :: union ss ts

/-- How often a repetition is followed before giving up. -/
def patience : Nat := 100

/-- The stands that repeated steps lead to, `fresh` being those among `seen` from which no step has
been tried. -/
def closure (step : List Stand → List Stand) :
    (fuel : Nat) → (seen fresh : List Stand) → List Stand
  | 0, _, _ => [.lost]
  | fuel + 1, seen, fresh =>
    match (step fresh).filter fun s => !seen.contains s with
    | [] => seen
    | new => closure step fuel (union new seen) new

end SheetCommand.Instruction

namespace SheetCommand.Pattern

open Instruction

variable {σ : Type}

/-- Stands that cover the cursors a pattern can reach. -/
def reach : Pattern σ → List Stand → List Stand
  | empty, ss => ss
  | one cls, ss => ss.flatMap fun s => s.place.read cls
  | seq p q, ss =>
    match p.reach ss with
    | [] => []
    | ts => q.reach ts
  | choice p q, ss => union (p.reach ss) (q.reach ss)
  | many _ p, ss => closure p.reach patience ss ss
  | keep _ p, ss => p.reach ss
  | absent _, ss => ss
  | start, ss => ss.filter (·.last.mayBeStart)
  | stop, ss => ss.filter (·.place.mayEnd)
  | edge, ss => (ss.flatMap Stand.cases).filter (·.mayBeEdge)

/-- Some characters, as few as possible, and then the pattern. -/
def anywhere (p : Pattern σ) : Pattern σ :=
  seq (many false (one (.either (.allBut ' ') (.only [' '])))) p

/-- The pattern is found in no filling of a sketch. -/
def misses (p : Pattern σ) (t : Sketch) : Bool :=
  (p.anywhere.reach [⟨.start, .at t⟩]).isEmpty

end SheetCommand.Pattern

/-! ### The places of a text -/

namespace SheetCommand.Instruction

variable {σ : Type} {v : Filling} {rest : List Char}

theorem Place.Stands.exists_cases {p : Place} (hp : p.Stands v rest) :
    ∃ p' ∈ p.cases, p'.Stands v rest := by
  cases p with
  | onWord h left t =>
    by_cases hl : left.contains [] = true
    · exact ⟨_, by simp [Place.cases, List.contains_iff_mem.mp hl], hp⟩
    · obtain ⟨ht, text, hpart, rfl⟩ := hp
      have hnil : [] ∉ left := fun hm => hl (List.contains_iff_mem.mpr hm)
      obtain ⟨word, more, hw, hword, hmore, rfl⟩ := hpart
      cases word with
      | cons c word =>
        refine ⟨.onWord h ([] :: left) t, by simp [Place.cases, hnil], ht, _, ?_, rfl⟩
        exact ⟨_, more, hw, by simp [hword], hmore, rfl⟩
      | nil =>
        cases hmore with
        | nil => exact ⟨.at t, by simp [Place.cases, hnil], ht, rfl⟩
        | word spaced next further =>
          exact ⟨.between h t, by simp [Place.cases, hnil, spaced], ht, spaced, _,
            ⟨_, _, next.1, next.2, further, rfl⟩, rfl⟩
  | «at» | fresh | between | anywhere => exact ⟨_, by simp [Place.cases], hp⟩

theorem Sketch.eq_nil_of_fill {t : Sketch} (ht : t.Fits v) (hnil : t.fill v = []) : t = [] := by
  cases t with
  | nil => rfl
  | cons piece t =>
    cases piece with
    | char c => simp [Sketch.fill] at hnil
    | hole h i => exact absurd (List.append_eq_nil_iff.mp hnil).1 ht.1.ne_nil

theorem Place.mayEnd_of_stands {p : Place} (hp : p.Stands v []) : p.mayEnd = true := by
  cases p with
  | «at» t => simp [mayEnd, Sketch.eq_nil_of_fill hp.1 hp.2.symm]
  | fresh h t =>
    obtain ⟨-, text, hf, hnil⟩ := hp
    exact absurd (List.append_eq_nil_iff.mp hnil.symm).1 hf.ne_nil
  | onWord h left t =>
    obtain ⟨ht, text, hpart, hnil⟩ := hp
    obtain ⟨rfl, hfill⟩ := List.append_eq_nil_iff.mp hnil.symm
    rcases hpart.cases with ⟨_, _, h, -⟩ | ⟨hl, -⟩ | ⟨-, _, h, -⟩
    · simp at h
    · simp [mayEnd, hl, Sketch.eq_nil_of_fill ht hfill]
    · simp at h
  | between h t => obtain ⟨-, -, text, -, hnil⟩ := hp; simp at hnil
  | anywhere => rfl

/-! ### Word characters -/

theorem isWordChar_space : Text.isWordChar ' ' = false := by decide

theorem Hole.mayBe_of_letter {h : Hole} {c : Char} (hc : h.isLetter c = true) :
    h.mayBe (Text.isWordChar c) = true := by
  cases h with
  | name | word => exact Hole.isWordChar_of_name hc
  | run letters => exact List.any_eq_true.mpr ⟨c, List.contains_iff_mem.mp hc, by simp⟩
  | free _ => rfl

theorem Last.mayBe_of_holds {l : Last} {last : Option Char} (hl : l.Holds last) :
    l.mayBe (last.any Text.isWordChar) = true := by
  cases l with
  | start => subst hl; rfl
  | char c => subst hl; simp [mayBe]
  | letter h => obtain ⟨c, hc, rfl⟩ := hl; exact Hole.mayBe_of_letter hc
  | unclear => rfl

theorem Last.mayBeStart_of_holds {l : Last} (hl : l.Holds none) : l.mayBeStart = true := by
  cases l with
  | start => rfl
  | char c => simp [Holds] at hl
  | letter h => simp [Holds] at hl
  | unclear => rfl

theorem Hole.mayBe_of_fills {h : Hole} {text : List Char} (hf : h.Fills text) :
    h.mayBe ((text ++ rest).head?.any Text.isWordChar) = true := by
  rcases hf.cases with ⟨c, text', rfl, hc, -⟩ | ⟨hl, -⟩ | ⟨hl, -⟩
  · exact Hole.mayBe_of_letter hc
  · simp at hl
  · simp at hl

theorem Sketch.mayBe_of_fits {t : Sketch} (ht : t.Fits v) :
    t.mayBe ((t.fill v).head?.any Text.isWordChar) = true := by
  cases t with
  | nil => rfl
  | cons piece t =>
    cases piece with
    | char c => simp [Sketch.mayBe, Sketch.fill]
    | hole h i => exact Hole.mayBe_of_fills ht.1

theorem Place.mayBe_of_stands {p : Place} (hp : p.Stands v rest) :
    p.mayBe (rest.head?.any Text.isWordChar) = true := by
  cases p with
  | «at» t => obtain ⟨ht, rfl⟩ := hp; exact Sketch.mayBe_of_fits ht
  | fresh h t => obtain ⟨-, text, hf, rfl⟩ := hp; exact Hole.mayBe_of_fills hf
  | onWord h left t =>
    obtain ⟨ht, text, hpart, rfl⟩ := hp
    rcases hpart.cases with ⟨c, text', rfl, hc, -⟩ | ⟨hl, rfl⟩ | ⟨hl, text', rfl, spaced, -⟩
    · simp [mayBe, Hole.mayBe_of_letter hc]
    · simp [mayBe, hl, Sketch.mayBe_of_fits ht]
    · simp [mayBe, hl, spaced, isWordChar_space]
  | between h t => obtain ⟨-, -, text, -, rfl⟩ := hp; simp [mayBe, isWordChar_space]
  | anywhere => rfl

theorem Stand.mayBeEdge_of_holds {s : Stand} {c : Cursor σ} (hs : s.Holds v c)
    (he : c.atEdge = true) : s.mayBeEdge = true := by
  have hlast := Last.mayBe_of_holds hs.1
  have hplace := Place.mayBe_of_stands hs.2
  simp only [Cursor.atEdge, bne_iff_ne, ne_eq] at he
  cases ha : c.last.any Text.isWordChar <;> cases hb : c.rest.head?.any Text.isWordChar <;>
    simp_all [mayBeEdge]

/-! ### Covering cursors -/

/-- Some stand holds of the cursor. -/
def Covers (v : Filling) (ss : List Stand) (c : Cursor σ) : Prop := ∃ s ∈ ss, s.Holds v c

theorem covers_lost (c : Cursor σ) : Covers v [.lost] c := ⟨.lost, by simp, trivial, trivial⟩

theorem Covers.mono {ss ts : List Stand} {c : Cursor σ} (hc : Covers v ss c) (h : ss ⊆ ts) :
    Covers v ts c := hc.imp fun _ hs => ⟨h hs.1, hs.2⟩

theorem mem_union {s : Stand} {ss ts : List Stand} : s ∈ union ss ts ↔ s ∈ ss ∨ s ∈ ts := by
  induction ss with
  | nil => simp [union]
  | cons t ss ih =>
    unfold union
    split
    · rename_i h
      have ht := List.contains_iff_mem.mp h
      grind
    · grind

theorem Hole.Part.read {h : Hole} {left : List (List Char)} {c : Char} {text : List Char}
    {cls : CharClass} {t : Sketch} (ht : t.Fits v) (hl : h.isLetter c = true)
    (hp : h.Part (strip c left) text) (ha : cls.accepts c = true) :
    ∃ s ∈ h.afterLetter cls left t,
      s.last.Holds (some c) ∧ s.place.Stands v (text ++ t.fill v) := by
  have hshare := h.share_holds cls
  unfold afterLetter
  split
  · rename_i hs
    rw [hs] at hshare
    exact (hshare c hl ha).elim
  · rename_i d hs
    rw [hs] at hshare
    obtain rfl := hshare c hl ha
    exact ⟨⟨.letter h, .onWord h (strip c left) t⟩, by simp, ⟨c, hl, rfl⟩, ht, _, hp, rfl⟩
  · exact ⟨⟨.letter h, .onWord h [] t⟩, by simp, ⟨c, hl, rfl⟩, ht, _, hp.forget, rfl⟩

theorem Hole.Fills.read {h : Hole} {c : Char} {text : List Char} {cls : CharClass} {t : Sketch}
    (ht : t.Fits v) (hf : h.Fills text) (hrest : text ++ t.fill v = c :: rest)
    (ha : cls.accepts c = true) :
    ∃ s ∈ h.afterLetter cls h.refused t, s.last.Holds (some c) ∧ s.place.Stands v rest := by
  rcases hf.cases with ⟨d, text', rfl, hl, hp⟩ | ⟨hl, -⟩ | ⟨hl, -⟩
  · obtain ⟨rfl, rfl⟩ := List.cons.inj hrest
    exact hp.read ht hl ha
  · simp at hl
  · simp at hl

theorem Sketch.exists_read {t : Sketch} {c : Char} {cls : CharClass} (ht : t.Fits v)
    (hrest : t.fill v = c :: rest) (ha : cls.accepts c = true) :
    ∃ s ∈ t.read cls, s.last.Holds (some c) ∧ s.place.Stands v rest := by
  cases t with
  | nil => simp [Sketch.fill] at hrest
  | cons piece t =>
    cases piece with
    | char d =>
      obtain ⟨rfl, rfl⟩ := List.cons.inj hrest
      exact ⟨⟨.char d, .at t⟩, by simp [Sketch.read, ha], rfl, ht, rfl⟩
    | hole h i => exact ht.1.read ht.2 hrest ha

theorem Hole.exists_afterSpace {h : Hole} {text : List Char} {cls : CharClass} {t : Sketch}
    (ht : t.Fits v) (spaced : h.isSpaced = true) (hf : h.Fills text)
    (ha : cls.accepts ' ' = true) :
    ∃ s ∈ h.afterSpace cls t, s.last.Holds (some ' ') ∧ s.place.Stands v (text ++ t.fill v) :=
  ⟨⟨.char ' ', .fresh h t⟩, by simp [Hole.afterSpace, spaced, ha], rfl, ht, text, hf, rfl⟩

/-- **Reading a character**: the stands after it cover the cursor after it. -/
theorem Place.exists_read {p : Place} {c : Char} {cls : CharClass} (hp : p.Stands v (c :: rest))
    (ha : cls.accepts c = true) :
    ∃ s ∈ p.read cls, s.last.Holds (some c) ∧ s.place.Stands v rest := by
  cases p with
  | «at» t => exact Sketch.exists_read hp.1 hp.2.symm ha
  | fresh h t =>
    obtain ⟨ht, text, hf, hrest⟩ := hp
    exact hf.read ht hrest.symm ha
  | onWord h left t =>
    obtain ⟨ht, text, hpart, hrest⟩ := hp
    rcases hpart.cases with ⟨d, text', rfl, hl, hp⟩ | ⟨hnil, rfl⟩ | ⟨hnil, text', rfl, spaced, hf⟩
    · obtain ⟨rfl, rfl⟩ := List.cons.inj hrest
      obtain ⟨s, hs, hhold⟩ := hp.read ht hl ha
      exact ⟨s, List.mem_append_left _ hs, hhold⟩
    · obtain ⟨s, hs, hhold⟩ := Sketch.exists_read ht hrest.symm ha
      exact ⟨s, by simp [read, hnil, hs], hhold⟩
    · obtain ⟨rfl, rfl⟩ := List.cons.inj hrest
      obtain ⟨s, hs, hhold⟩ := Hole.exists_afterSpace ht spaced hf ha
      exact ⟨s, by simp [read, hnil, hs], hhold⟩
  | between h t =>
    obtain ⟨ht, spaced, text, hf, hrest⟩ := hp
    obtain ⟨rfl, rfl⟩ := List.cons.inj hrest
    exact Hole.exists_afterSpace ht spaced hf ha
  | anywhere => exact ⟨.lost, by simp [read], trivial, trivial⟩

/-! ### Repeated steps -/

/-- Whatever `next` leads to from a cursor of `s` is covered. -/
def StepsInto (v : Filling) (next : Cursor σ → List (Cursor σ)) (s : Stand) (ts : List Stand) :
    Prop :=
  ∀ c, s.Holds v c → ∀ d ∈ next c, Covers v ts d

theorem StepsInto.mono {next : Cursor σ → List (Cursor σ)} {s : Stand} {ss ts : List Stand}
    (hs : StepsInto v next s ss) (h : ss ⊆ ts) : StepsInto v next s ts :=
  fun c hc d hd => (hs c hc d hd).mono h

/-- **The closure is closed** under the step: every stand in it either was tried or is still
fresh. -/
theorem closure_spec {next : Cursor σ → List (Cursor σ)} {step : List Stand → List Stand}
    (hstep : ∀ ss, ∀ s ∈ ss, StepsInto v next s (step ss)) (fuel : Nat) {seen fresh : List Stand}
    (htried : ∀ s ∈ seen, s ∈ fresh ∨ StepsInto v next s seen) :
    (∀ c : Cursor σ, Covers v seen c → Covers v (closure step fuel seen fresh) c) ∧
      ∀ s ∈ closure step fuel seen fresh, StepsInto v next s (closure step fuel seen fresh) := by
  induction fuel generalizing seen fresh with
  | zero => exact ⟨fun c _ => covers_lost c, fun _ _ _ _ d _ => covers_lost d⟩
  | succ fuel ih =>
    have hnew : ∀ s ∈ step fresh, s ∈ seen ∨ s ∈ (step fresh).filter fun s => !seen.contains s := by
      intro s hs
      by_cases hm : s ∈ seen
      · exact .inl hm
      · exact .inr (by simp [hs, hm])
    unfold closure
    split
    · rename_i hnil
      refine ⟨fun c hc => hc, fun s hs => ?_⟩
      rcases htried s hs with hf | hl
      · refine (hstep fresh s hf).mono fun t ht => (hnew t ht).resolve_right fun hm => ?_
        rw [hnil] at hm
        simp at hm
      · exact hl
    · generalize hdef : (step fresh).filter (fun s => !seen.contains s) = new at *
      have hsub : seen ⊆ union new seen := fun s hs => mem_union.mpr (.inr hs)
      have hreach : step fresh ⊆ union new seen := fun s hs => mem_union.mpr (hnew s hs).symm
      -- A stand of `seen` is either tried now, or it had been before.
      have hinv : ∀ s ∈ union new seen, s ∈ new ∨ StepsInto v next s (union new seen) := by
        intro s hs
        rcases mem_union.mp hs with hs | hs
        · exact .inl hs
        · rcases htried s hs with hf | hl
          · exact .inr ((hstep fresh s hf).mono hreach)
          · exact .inr (hl.mono hsub)
      exact ⟨fun c hc => (ih hinv).1 c (hc.mono hsub), (ih hinv).2⟩

theorem closure_covers {step : List Stand → List Stand} {next : Cursor σ → List (Cursor σ)}
    (hstep : ∀ ss, ∀ s ∈ ss, StepsInto v next s (step ss)) {greedy : Bool} (n : Nat)
    {fuel : List Char} {ss : List Stand} {c d : Cursor σ} (hc : Covers v ss c)
    (hd : d ∈ Pattern.rounds greedy next fuel c) : Covers v (closure step n ss ss) d := by
  have htried : ∀ s ∈ ss, s ∈ ss ∨ StepsInto v next s ss := fun _ hs => .inl hs
  obtain ⟨hstart, hclosed⟩ := closure_spec hstep n htried
  have key : ∀ (fuel : List Char) (c : Cursor σ), Covers v (closure step n ss ss) c →
      ∀ d ∈ Pattern.rounds greedy next fuel c, Covers v (closure step n ss ss) d := by
    intro fuel
    induction fuel with
    | nil => intro c hc d hd; rw [List.mem_singleton.mp hd]; exact hc
    | cons _ fuel ih =>
      intro c hc d hd
      rcases Pattern.mem_rounds_cons.mp hd with ⟨e, he, hd⟩ | rfl
      · obtain ⟨s, hs, hsc⟩ := hc
        exact ih e (hclosed s hs c hsc e he) d hd
      · exact hc
  exact key fuel c (hstart c hc) d hd

end SheetCommand.Instruction

/-! ### Reaching covers what is read -/

namespace SheetCommand.Pattern

open Instruction

variable {σ : Type} {v : Filling}

/-- **What a pattern reaches** covers every cursor that it can read to. -/
theorem reach_covers (p : Pattern σ) {ss : List Stand} {c d : Cursor σ} (hc : Covers v ss c)
    (hd : d ∈ p.outcomes c) : Covers v (p.reach ss) d := by
  induction p generalizing ss c d with
  | empty => rw [List.mem_singleton.mp hd]; exact hc
  | one cls =>
    obtain ⟨s, hs, -, hplace⟩ := hc
    obtain ⟨e, rest, hrest, ha, rfl⟩ := mem_outcomes_one.mp hd
    obtain ⟨t, ht, hlast, hstands⟩ := Place.exists_read (hrest ▸ hplace) ha
    exact ⟨t, List.mem_flatMap.mpr ⟨s, hs, ht⟩, hlast, hstands⟩
  | seq p q ihp ihq =>
    obtain ⟨e, he, hd⟩ := List.mem_flatMap.mp hd
    have hcover := ihp hc he
    unfold reach
    split
    · rename_i hnil
      obtain ⟨s, hs, -⟩ := hnil ▸ hcover
      simp at hs
    · exact ihq hcover hd
  | choice p q ihp ihq =>
    rcases List.mem_append.mp hd with hd | hd
    · exact (ihp hc hd).mono fun s hs => mem_union.mpr (.inl hs)
    · exact (ihq hc hd).mono fun s hs => mem_union.mpr (.inr hs)
  | many greedy p ih =>
    exact closure_covers (fun ss s hs c hsc d hd => ih ⟨s, hs, hsc⟩ hd) patience hc hd
  | keep slot p ih =>
    obtain ⟨e, he, rfl⟩ := List.mem_map.mp hd
    exact (ih hc he : Covers v (p.reach ss) e)
  | absent p _ =>
    obtain ⟨-, rfl⟩ : _ ∧ d = c := by simpa [outcomes] using hd
    exact hc
  | start =>
    obtain ⟨s, hs, hlast, hplace⟩ := hc
    obtain ⟨hn, rfl⟩ : c.last = none ∧ d = c := by simpa [outcomes] using hd
    exact ⟨s, List.mem_filter.mpr ⟨hs, Last.mayBeStart_of_holds (hn ▸ hlast)⟩, hlast, hplace⟩
  | stop =>
    obtain ⟨s, hs, hlast, hplace⟩ := hc
    obtain ⟨he, rfl⟩ : c.rest = [] ∧ d = c := by simpa [outcomes] using hd
    exact ⟨s, List.mem_filter.mpr ⟨hs, Place.mayEnd_of_stands (he ▸ hplace)⟩, hlast, hplace⟩
  | edge =>
    obtain ⟨s, hs, hlast, hplace⟩ := hc
    obtain ⟨he, rfl⟩ : c.atEdge = true ∧ d = c := by simpa [outcomes] using hd
    obtain ⟨p, hp, hstands⟩ := hplace.exists_cases
    have hholds : Stand.Holds v { s with place := p } d := ⟨hlast, hstands⟩
    refine ⟨{ s with place := p }, List.mem_filter.mpr ⟨?_, ?_⟩, hholds⟩
    · exact List.mem_flatMap.mpr ⟨s, hs, List.mem_map.mpr ⟨p, hp, rfl⟩⟩
    · exact Stand.mayBeEdge_of_holds hholds he

/-- A pattern is searched for by skipping some characters, as few as possible. -/
theorem search_eq_run (p : Pattern σ) (text : List Char) :
    p.search text = p.anywhere.run ⟨none, text, []⟩ some := by
  have key : ∀ (text : List Char) (last : Option Char), p.searchFrom last text =
      iterate false (one (.either (.allBut ' ') (.only [' ']))).run text ⟨last, text, []⟩
        fun c => p.run c some := by
    intro text
    induction text with
    | nil => intro last; rfl
    | cons c text ih =>
      intro last
      have ha : CharClass.accepts (.either (.allBut ' ') (.only [' '])) c = true := by
        by_cases hc : c = ' ' <;> simp [CharClass.accepts, hc]
      simp [searchFrom, iterate, run, ha, ih, Cursor.advance]
  exact key text none

/-- **A pattern that misses a sketch** is found in none of its fillings. -/
theorem search_of_misses {p : Pattern σ} {t : Sketch} (h : p.misses t = true) (ht : t.Fits v) :
    p.search (t.fill v) = none := by
  rw [search_eq_run, run_some_eq_head?, List.head?_eq_none_iff, List.eq_nil_iff_forall_not_mem]
  intro d hd
  have hcover : Covers v [⟨.start, .at t⟩] (⟨none, t.fill v, []⟩ : Cursor σ) :=
    ⟨_, List.mem_singleton_self _, rfl, ht, rfl⟩
  obtain ⟨s, hs, -⟩ := p.anywhere.reach_covers hcover hd
  rw [List.isEmpty_iff.mp h] at hs
  simp at hs

end SheetCommand.Pattern
