import SheetCommand.Text.Letter
import SheetCommand.Text.Digit
import SheetCommand.Text.Blank

/-!
# Pattern — the language of patterns

A pattern describes pieces of an instruction. It is built from classes of characters by sequence,
choice and repetition; choices and repetitions carry a preference, so that a pattern does not only
say which texts it accepts but also which way of reading a text comes first. Named slots keep the
pieces that an action is built from.

Spaces inside the literal texts of a pattern stand for any white-space character.
-/

namespace SheetCommand

/-- What a single character of a pattern may be. -/
inductive CharClass where
  | blank
  | word
  | digit
  | only (chars : List Char)
  | allBut (c : Char)
  | either (a b : CharClass)

namespace CharClass

def accepts : CharClass → Char → Bool
  | blank, c => Text.isBlank c
  | word, c => Text.isWordChar c
  | digit, c => Text.isDigit c
  | only chars, c => chars.contains c
  | allBut d, c => c != d
  | either a b, c => a.accepts c || b.accepts c

/-- What may continue a word of an instruction. -/
def name : CharClass := either word (only ['-'])

end CharClass

/-- A pattern over slots `σ`. The first branch of `choice` is preferred; a repetition prefers more
rounds if it is `greedy` and fewer if it is not. -/
inductive Pattern (σ : Type) where
  | empty
  | one (cls : CharClass)
  | seq (p q : Pattern σ)
  | choice (p q : Pattern σ)
  | many (greedy : Bool) (p : Pattern σ)
  /-- Keeps the text that `p` reads under a name. -/
  | keep (slot : σ) (p : Pattern σ)
  /-- Reads nothing; succeeds where `p` cannot be read. -/
  | absent (p : Pattern σ)
  /-- Reads nothing; succeeds at the start of the text. -/
  | start
  /-- Reads nothing; succeeds at the end of the text. -/
  | stop
  /-- Reads nothing; succeeds between a word character and something else, or an end. -/
  | edge

namespace Pattern

variable {σ : Type}

instance : Append (Pattern σ) := ⟨seq⟩

instance : Inhabited (Pattern σ) := ⟨empty⟩

/-- The patterns one after the other. -/
def all : List (Pattern σ) → Pattern σ
  | [] => empty
  | [p] => p
  | p :: ps => seq p (all ps)

/-- One of the patterns, an earlier one if possible. -/
def any : List (Pattern σ) → Pattern σ
  | [] => absent empty
  | [p] => p
  | p :: ps => choice p (any ps)

/-- The pattern, or nothing where it cannot be read. -/
def opt (p : Pattern σ) : Pattern σ := choice p empty

/-- One or more rounds. -/
def oneOrMore (greedy : Bool) (p : Pattern σ) : Pattern σ := seq p (many greedy p)

/-! ### Characters and literal texts -/

def blank : Pattern σ := one .blank

def wordChar : Pattern σ := one .word

def digit : Pattern σ := one .digit

/-- Any character of a line. -/
def anyChar : Pattern σ := one (.allBut '\n')

def oneOf (chars : List Char) : Pattern σ := one (.only chars)

def char (c : Char) : Pattern σ := if c = ' ' then blank else one (.only [c])

def text (s : String) : Pattern σ := all (s.toList.map char)

/-- One of several literal texts. -/
def texts (ss : List String) : Pattern σ := any (ss.map text)

/-- Exactly `n` rounds. -/
def times (n : Nat) (p : Pattern σ) : Pattern σ := all (List.replicate n p)

end Pattern

end SheetCommand
