import SheetCommand.Pattern.Basic

/-!
# Pattern — reading a text

A cursor stands between two characters of the text and remembers the pieces kept so far.
`Pattern.outcomes` lists every cursor that a pattern can reach from a given one, in order of
preference. `Pattern.run` finds the first outcome from which the rest of the work succeeds; it never
computes an outcome that is not needed, and `run_eq_findSome?` says that it returns exactly what a
search through `outcomes` returns. `Pattern.search` starts the pattern at every position of a text,
from the left.

Every repeated pattern of this project reads at least one character per round, so the text that is
left bounds the number of rounds.
-/

namespace SheetCommand

/-- A piece of the text, by what follows its start and what follows its end. -/
structure Span where
  fromStart : List Char
  fromEnd : List Char

namespace Span

def length (s : Span) : Nat := s.fromStart.length - s.fromEnd.length

/-- The characters of the piece. -/
def chars (s : Span) : List Char := s.fromStart.take s.length

/-- The same stretch of another text of the same length. -/
def charsIn (s : Span) (other : List Char) : List Char :=
  (other.drop (other.length - s.fromStart.length)).take s.length

end Span

structure Cursor (σ : Type) where
  /-- The character just read, if any. -/
  last : Option Char
  rest : List Char
  kept : List (σ × Span)

namespace Cursor

variable {σ : Type}

/-- The piece kept last under a name. -/
def piece? [BEq σ] (s : Cursor σ) (slot : σ) : Option Span := s.kept.lookup slot

/-- The cursor after the next character. -/
def advance (s : Cursor σ) (c : Char) (rest : List Char) : Cursor σ :=
  { s with last := some c, rest := rest }

/-- Keeps what was read between two cursors. -/
def keep (s t : Cursor σ) (slot : σ) : Cursor σ :=
  { t with kept := (slot, ⟨s.rest, t.rest⟩) :: t.kept }

def atEdge (s : Cursor σ) : Bool :=
  s.last.any Text.isWordChar != s.rest.head?.any Text.isWordChar

end Cursor

namespace Pattern

variable {σ : Type}

/-! ### All readings, in order of preference -/

/-- The cursors after zero or more rounds of `step`, at most one round for each character of
`fuel`. -/
def rounds (greedy : Bool) (step : Cursor σ → List (Cursor σ)) :
    List Char → Cursor σ → List (Cursor σ)
  | [], s => [s]
  | _ :: fuel, s =>
    let more := (step s).flatMap (rounds greedy step fuel)
    if greedy then more ++ [s] else s :: more

def outcomes : Pattern σ → Cursor σ → List (Cursor σ)
  | empty, s => [s]
  | one cls, s =>
    match s.rest with
    | [] => []
    | c :: rest => if cls.accepts c then [s.advance c rest] else []
  | seq p q, s => (p.outcomes s).flatMap q.outcomes
  | choice p q, s => p.outcomes s ++ q.outcomes s
  | many greedy p, s => rounds greedy p.outcomes s.rest s
  | keep slot p, s => (p.outcomes s).map fun t => s.keep t slot
  | absent p, s => if (p.outcomes s).isEmpty then [s] else []
  | start, s => if s.last.isNone then [s] else []
  | stop, s => if s.rest.isEmpty then [s] else []
  | edge, s => if s.atEdge then [s] else []

/-! ### The first reading that serves -/

/-- What is still to be done after a pattern has been read. -/
abbrev Task (σ : Type) := Cursor σ → Option (Cursor σ)

def iterate (greedy : Bool) (step : Cursor σ → Task σ → Option (Cursor σ)) :
    List Char → Cursor σ → Task σ → Option (Cursor σ)
  | [], s, k => k s
  | _ :: fuel, s, k =>
    if greedy then step s (fun t => iterate greedy step fuel t k) <|> k s
    else k s <|> step s (fun t => iterate greedy step fuel t k)

/-- The first outcome of the pattern from which `k` succeeds, followed by `k`. -/
def run : Pattern σ → Cursor σ → Task σ → Option (Cursor σ)
  | empty, s, k => k s
  | one cls, s, k =>
    match s.rest with
    | [] => none
    | c :: rest => if cls.accepts c then k (s.advance c rest) else none
  | seq p q, s, k => p.run s fun t => q.run t k
  | choice p q, s, k => p.run s k <|> q.run s k
  | many greedy p, s, k => iterate greedy p.run s.rest s k
  | keep slot p, s, k => p.run s fun t => k (s.keep t slot)
  | absent p, s, k => if (p.run s some).isNone then k s else none
  | start, s, k => if s.last.isNone then k s else none
  | stop, s, k => if s.rest.isEmpty then k s else none
  | edge, s, k => if s.atEdge then k s else none

/-- The first reading at the leftmost position where there is one. -/
def searchFrom (p : Pattern σ) (last : Option Char) : List Char → Option (Cursor σ)
  | [] => p.run ⟨last, [], []⟩ some
  | c :: rest =>
    p.run ⟨last, c :: rest, []⟩ some <|> p.searchFrom (some c) rest

def search (p : Pattern σ) (text : List Char) : Option (Cursor σ) := p.searchFrom none text

def occursIn (p : Pattern σ) (text : List Char) : Bool := (p.search text).isSome

/-! ### Running agrees with searching the outcomes -/

theorem findSome?_flatMap {α β γ : Type} (l : List α) (f : α → List β) (g : β → Option γ) :
    (l.flatMap f).findSome? g = l.findSome? fun a => (f a).findSome? g := by
  induction l with
  | nil => rfl
  | cons a l ih =>
    rw [List.flatMap_cons, List.findSome?_append, ih, List.findSome?_cons]
    cases (f a).findSome? g <;> rfl

theorem iterate_eq_findSome? {greedy : Bool} {step : Cursor σ → Task σ → Option (Cursor σ)}
    {list : Cursor σ → List (Cursor σ)} (h : ∀ s k, step s k = (list s).findSome? k)
    (fuel : List Char) (s : Cursor σ) (k : Task σ) :
    iterate greedy step fuel s k = (rounds greedy list fuel s).findSome? k := by
  induction fuel generalizing s k with
  | nil => simp [iterate, rounds]
  | cons c fuel ih =>
    have more : step s (fun t => iterate greedy step fuel t k) =
        ((list s).flatMap (rounds greedy list fuel)).findSome? k := by
      rw [h, findSome?_flatMap]
      exact congrArg (fun f => List.findSome? f (list s)) (funext fun t => ih t k)
    cases greedy with
    | true => simp [iterate, rounds, more, List.findSome?_append]
    | false => simp [iterate, rounds, more, List.findSome?_cons]; cases k s <;> rfl

/-- **Running a pattern** finds the first of its outcomes that serves. -/
theorem run_eq_findSome? (p : Pattern σ) (s : Cursor σ) (k : Task σ) :
    p.run s k = (p.outcomes s).findSome? k := by
  induction p generalizing s k with
  | empty => simp [run, outcomes]
  | one cls =>
    cases hs : s.rest with
    | nil => simp [run, outcomes, hs]
    | cons c rest => by_cases h : cls.accepts c <;> simp [run, outcomes, hs, h]
  | seq p q ihp ihq =>
    rw [run, ihp, outcomes, findSome?_flatMap]
    exact congrArg (fun f => List.findSome? f (p.outcomes s)) (funext fun t => ihq t k)
  | choice p q ihp ihq => simp [run, outcomes, ihp, ihq, List.findSome?_append]
  | many greedy p ih => exact iterate_eq_findSome? ih s.rest s k
  | keep slot p ih => simp [run, outcomes, ih, List.findSome?_map, Function.comp_def]
  | absent p ih =>
    rw [run, outcomes, ih]
    cases p.outcomes s <;> simp
  | start => by_cases h : s.last.isNone <;> simp [run, outcomes, h]
  | stop => by_cases h : s.rest.isEmpty <;> simp [run, outcomes, h]
  | edge => by_cases h : s.atEdge <;> simp [run, outcomes, h]

theorem run_some_eq_head? (p : Pattern σ) (s : Cursor σ) :
    p.run s some = (p.outcomes s).head? := by
  rw [run_eq_findSome?]
  cases p.outcomes s <;> simp

theorem searchFrom_nil (p : Pattern σ) (last : Option Char) :
    p.searchFrom last [] = (p.outcomes ⟨last, [], []⟩).head? := run_some_eq_head? ..

theorem searchFrom_cons (p : Pattern σ) (last : Option Char) (c : Char) (rest : List Char) :
    p.searchFrom last (c :: rest) =
      ((p.outcomes ⟨last, c :: rest, []⟩).head?).or (p.searchFrom (some c) rest) := by
  rw [searchFrom, run_some_eq_head?]
  cases (p.outcomes ⟨last, c :: rest, []⟩).head? <;> rfl

/-! ### Outcomes -/

theorem mem_outcomes_one {cls : CharClass} {s t : Cursor σ} :
    t ∈ (one cls).outcomes s ↔
      ∃ c rest, s.rest = c :: rest ∧ cls.accepts c = true ∧ t = s.advance c rest := by
  cases hs : s.rest with
  | nil => simp [outcomes, hs]
  | cons c rest =>
    simp only [outcomes, hs, List.cons.injEq]
    constructor
    · intro ht
      split at ht
      · exact ⟨c, rest, ⟨rfl, rfl⟩, ‹_›, List.mem_singleton.mp ht⟩
      · cases ht
    · rintro ⟨_, _, ⟨rfl, rfl⟩, ha, rfl⟩
      simp [ha]

/-- A repetition takes a round and goes on, or it stops where it is. -/
theorem mem_rounds_cons {greedy : Bool} {step : Cursor σ → List (Cursor σ)} {x : Char}
    {fuel : List Char} {s t : Cursor σ} :
    t ∈ rounds greedy step (x :: fuel) s ↔ (∃ u ∈ step s, t ∈ rounds greedy step fuel u) ∨ t = s := by
  cases greedy <;> simp [rounds, or_comm]

/-- What holds after the rounds, and in front of every round after which it holds, holds in front of
the rounds. -/
theorem of_mem_rounds {greedy : Bool} {step : Cursor σ → List (Cursor σ)} {P : Cursor σ → Prop}
    {fuel : List Char} {s t : Cursor σ} (ht : t ∈ rounds greedy step fuel s) (hlast : P t)
    (hstep : ∀ u, ∀ v ∈ step u, P v → P u) : P s := by
  induction fuel generalizing s with
  | nil => exact List.mem_singleton.mp ht ▸ hlast
  | cons _ fuel ih =>
    rcases mem_rounds_cons.mp ht with ⟨u, hu, ht⟩ | rfl
    · exact hstep s u hu (ih ht)
    · exact hlast

end Pattern

end SheetCommand
