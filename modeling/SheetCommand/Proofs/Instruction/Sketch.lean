import SheetCommand.Pattern.Reading

/-!
# Sketches — instructions with open parts

A sketch is an instruction some of whose parts are left open. An open part is of a kind: a name, one
word of a name, a run of certain characters, or free text. `Sketch.fill` puts texts in for the open
parts, and `Sketch.Fits` says that they are of the kinds asked for.

Reading a filling character by character leaves a rest of the word that is being read.
`Hole.Part h left text` is a filling without the characters already read: `left` lists what may not
be the rest of its first word, because the whole word would then be one of the grammar. So the
words of the grammar are followed while they are being spelled, and `strip` is one step of it.
-/

namespace SheetCommand.Instruction

/-- The words that the phrases spell out. -/
def grammarWords : List (List Char) :=
  ["column", "col", "stambh", "sheet", "sheets", "ascending", "asc", "descending", "desc", "rakho",
   "rakh", "do", "karo", "kar", "banao", "bana", "kijiye", "rename", "change", "naam", "name",
   "badlo", "me", "mein", "main", "par", "pe", "ke", "andar", "from", "in", "of", "on", "the", "se",
   "ka", "ko", "to", "as", "sort", "set", "add", "create", "jodo", "jod", "insert", "daalo", "dalo",
   "jo", "jisme", "which", "is", "that", "where", "a", "an", "new", "named", "called", "with", "ho",
   "hai", "hoga", "sum", "total", "delete", "remove", "drop", "hatao", "hatado", "hata", "mitao",
   "nikalo", "nikal", "jahan", "jahaan", "jaha", "jismein", "jinme", "jinmein", "sirf", "keep",
   "only", "retain", "bas", "hisaab", "hisab", "anusaar", "mutabik", "basis", "wise", "order",
   "rows", "data", "table", "by", "when", "if", "likho"].map String.toList

/-! ### Open parts -/

/-- What an open part may be filled with. -/
inductive Hole where
  /-- Words of lower-case letters, digits and underscores with single spaces between them, none of
  them a word of the grammar. -/
  | name
  /-- One word of a name. -/
  | word
  /-- Some of these characters. -/
  | run (letters : List Char)
  /-- Some characters other than these. -/
  | free (excluded : List Char)
  deriving BEq, ReflBEq, LawfulBEq

namespace Hole

/-- What the words of a filling consist of. -/
def isLetter : Hole → Char → Bool
  | name, c => c.isLower || c.isDigit || c == '_'
  | word, c => c.isLower || c.isDigit || c == '_'
  | run letters, c => letters.contains c
  | free excluded, c => !excluded.contains c

def refused : Hole → List (List Char)
  | name => grammarWords
  | word => grammarWords
  | run _ => []
  | free _ => []

/-- Whether a filling may have more than one word. -/
def isSpaced : Hole → Bool
  | name => true
  | word => false
  | run _ => false
  | free _ => false

def IsWord (h : Hole) (word : List Char) : Prop :=
  (∀ c ∈ word, h.isLetter c = true) ∧ word ∉ [] :: h.refused

/-- What may follow a word of a filling. -/
inductive GoesOn (h : Hole) : List Char → Prop
  | nil : h.GoesOn []
  | word {word rest : List Char} (spaced : h.isSpaced = true) (next : h.IsWord word)
      (further : h.GoesOn rest) : h.GoesOn (' ' :: (word ++ rest))

/-- A filling from which something may have been read, with a rest of its first word that is none
of `left`. -/
def Part (h : Hole) (left : List (List Char)) (text : List Char) : Prop :=
  ∃ word rest, (∀ c ∈ word, h.isLetter c = true) ∧ word ∉ left ∧ h.GoesOn rest ∧
    text = word ++ rest

/-- A text that an open part may be filled with. -/
def Fills (h : Hole) (text : List Char) : Prop := h.Part ([] :: h.refused) text

end Hole

/-- What is left of the words that begin with a character. -/
def strip (c : Char) : List (List Char) → List (List Char)
  | [] => []
  | [] :: words => strip c words
  | (d :: word) :: words => if c = d then word :: strip c words else strip c words

theorem mem_strip {c : Char} {word : List Char} {words : List (List Char)} :
    word ∈ strip c words ↔ c :: word ∈ words := by
  induction words with
  | nil => simp [strip]
  | cons w words ih =>
    cases w with
    | nil => simp [strip, ih]
    | cons d w =>
      by_cases h : c = d
      · subst h; simp [strip, ih]
      · simp [strip, h, ih]

namespace Hole

variable {h : Hole} {left : List (List Char)} {text : List Char}

theorem Part.forget (hp : h.Part left text) : h.Part [] text := by
  obtain ⟨word, rest, hw, -, hr, rfl⟩ := hp
  exact ⟨word, rest, hw, by simp, hr, rfl⟩

/-- **A rest of a filling** goes on with a letter of its first word, or the word is over: then the
filling is over too, or a space and another word follow. -/
theorem Part.cases (hp : h.Part left text) :
    (∃ c text', text = c :: text' ∧ h.isLetter c = true ∧ h.Part (strip c left) text') ∨
      ([] ∉ left ∧ text = []) ∨
      ([] ∉ left ∧ ∃ text', text = ' ' :: text' ∧ h.isSpaced = true ∧ h.Fills text') := by
  obtain ⟨word, rest, hw, hl, hr, rfl⟩ := hp
  cases word with
  | cons c word =>
    refine .inl ⟨c, word ++ rest, rfl, hw c (by simp), word, rest, fun d hd => hw d (by simp [hd]),
      ?_, hr, rfl⟩
    rwa [mem_strip]
  | nil =>
    cases hr with
    | nil => exact .inr (.inl ⟨hl, rfl⟩)
    | word spaced next further =>
      exact .inr (.inr ⟨hl, _, rfl, spaced, _, _, next.1, next.2, further, rfl⟩)

theorem Fills.ne_nil (hf : h.Fills text) : text ≠ [] := by
  rcases hf.cases with ⟨c, text', rfl, -⟩ | ⟨hl, -⟩ | ⟨hl, -⟩
  · simp
  · simp at hl
  · simp at hl

/-- One word fills an open part. -/
theorem IsWord.fills (hw : h.IsWord text) : h.Fills text :=
  ⟨text, [], hw.1, hw.2, .nil, by simp⟩

theorem Fills.cons_word {word : List Char} (spaced : h.isSpaced = true) (hw : h.IsWord word)
    (hf : h.Fills text) : h.Fills (word ++ ' ' :: text) := by
  obtain ⟨first, rest, hl, hr, hg, rfl⟩ := hf
  exact ⟨word, _, hw.1, hw.2, .word spaced ⟨hl, hr⟩ hg, rfl⟩

end Hole

/-! ### Classes of characters against the letters of a filling -/

/-- How many of the letters of a filling a class accepts. -/
inductive Share where
  | none | only (c : Char) | some | all

namespace Share

def or : Share → Share → Share
  | none, b => b
  | a, none => a
  | all, _ => all
  | _, all => all
  | _, _ => some

/-- What a share says of the letters and of the accepted characters. -/
def Holds (letter accepted : Char → Bool) : Share → Prop
  | none => ∀ c, letter c = true → accepted c = true → False
  | only d => ∀ c, letter c = true → accepted c = true → c = d
  | some => True
  | all => ∀ c, letter c = true → accepted c = true

variable {p q r : Char → Bool} {a b : Share}

theorem Holds.or (ha : a.Holds p q) (hb : b.Holds p r) :
    (a.or b).Holds p fun c => q c || r c := by
  cases a <;> cases b <;> simp only [Share.or, Holds, Bool.or_eq_true] at * <;> grind

theorem Holds.symm (ha : a.Holds p q) (h : a ≠ all) : a.Holds q p := by
  cases a with
  | none => exact fun c hq hp => ha c hp hq
  | only d => exact fun c hq hp => ha c hp hq
  | some => trivial
  | all => exact absurd rfl h

/-- The share that a list has in the characters with a property. -/
def ofList (p : Char → Bool) : List Char → Share
  | [] => none
  | c :: cs =>
    match ofList p cs with
    | none => if p c then only c else none
    | only d => if p c then some else only d
    | _ => some

theorem ofList_ne_all (p : Char → Bool) (cs : List Char) : ofList p cs ≠ all := by
  cases cs with
  | nil => simp [ofList]
  | cons c cs => unfold ofList; split <;> (try split) <;> simp

theorem ofList_holds (p : Char → Bool) (cs : List Char) :
    (ofList p cs).Holds p fun c => cs.contains c := by
  induction cs with
  | nil => simp [ofList, Holds]
  | cons d cs ih =>
    unfold ofList
    split <;> by_cases hd : p d = true <;> simp_all [Holds] <;> grind

end Share

namespace Hole

/-- The share that a class has in the letters of a filling, as far as it is known. -/
def share : Hole → CharClass → Share
  | run letters, cls => if letters.all cls.accepts then .all else .ofList cls.accepts letters
  | h, .only chars => .ofList h.isLetter chars
  | h, .allBut c => if h.isLetter c then .some else .all
  | h, .either a b => (h.share a).or (h.share b)
  | name, .word => .all
  | name, .blank => .none
  | word, .word => .all
  | word, .blank => .none
  | _, _ => .some

theorem ascii_of_name {c : Char} (hc : name.isLetter c = true) :
    (97 ≤ c.toNat ∧ c.toNat ≤ 122) ∨ (48 ≤ c.toNat ∧ c.toNat ≤ 57) ∨ c.toNat = 95 := by
  simp only [isLetter, Bool.or_eq_true, beq_iff_eq] at hc
  rcases hc with (hc | hc) | rfl
  · have hrange : (decide ('a'.val ≤ c.val) && decide (c.val ≤ 'z'.val)) = true := hc
    simp [UInt32.le_iff_toNat_le] at hrange
    exact .inl hrange
  · simp [Char.isDigit, UInt32.le_iff_toNat_le] at hc; exact .inr (.inl hc)
  · exact .inr (.inr rfl)

theorem isWordChar_of_name {c : Char} (hc : name.isLetter c = true) : Text.isWordChar c = true := by
  have h := ascii_of_name hc
  have hlt : c.toNat < 128 := by omega
  simp only [isLetter, Bool.or_eq_true] at hc
  have halpha : c.isAlpha = (c.isUpper || c.isLower) := rfl
  rw [Text.isWordChar, if_pos hlt, Char.isAlphanum, halpha]
  rcases hc with (hc | hc) | hc <;> simp [hc]

theorem isBlank_of_name {c : Char} (hc : name.isLetter c = true) : Text.isBlank c = false := by
  have h := ascii_of_name hc
  simp only [Text.isBlank, Text.isPlainBlank, Bool.or_eq_false_iff, Bool.and_eq_false_iff,
    decide_eq_false_iff_not, beq_eq_false_iff_ne]
  omega

theorem share_run_holds (letters : List Char) (cls : CharClass) :
    ((run letters).share cls).Holds (run letters).isLetter cls.accepts := by
  unfold share
  split
  · rename_i h
    exact fun c hc => List.all_eq_true.mp h c (List.contains_iff_mem.mp hc)
  · exact (Share.ofList_holds cls.accepts letters).symm (Share.ofList_ne_all _ _)

theorem share_allBut_holds (letter : Char → Bool) (d : Char) :
    (if letter d then Share.some else .all).Holds letter (CharClass.allBut d).accepts := by
  split
  · trivial
  · rename_i h
    intro c hc
    simp only [CharClass.accepts, bne_iff_ne]
    rintro rfl
    exact h hc

theorem share_holds (h : Hole) (cls : CharClass) :
    (h.share cls).Holds h.isLetter cls.accepts := by
  cases h with
  | run letters => exact share_run_holds letters cls
  | name | word =>
    induction cls with
    | blank => exact fun c hc hb => absurd hb (by simp [CharClass.accepts, isBlank_of_name hc])
    | word => exact fun c hc => isWordChar_of_name hc
    | digit => trivial
    | only chars => exact Share.ofList_holds _ chars
    | allBut d => exact share_allBut_holds _ d
    | either a b iha ihb => exact iha.or ihb
  | free excluded =>
    induction cls with
    | only chars => exact Share.ofList_holds _ chars
    | allBut d => exact share_allBut_holds _ d
    | either a b iha ihb => exact iha.or ihb
    | _ => trivial

end Hole

/-! ### Sketches -/

inductive Piece where
  | char (c : Char)
  /-- An open part; parts of one number have one filling. -/
  | hole (h : Hole) (i : Nat)
  deriving BEq, ReflBEq, LawfulBEq

abbrev Sketch := List Piece

/-- The texts of the open parts, by their numbers. -/
abbrev Filling := Nat → List Char

namespace Sketch

def fill (v : Filling) : Sketch → List Char
  | [] => []
  | .char c :: t => c :: fill v t
  | .hole _ i :: t => v i ++ fill v t

/-- The texts are of the kinds asked for. -/
def Fits (v : Filling) : Sketch → Prop
  | [] => True
  | .char _ :: t => Fits v t
  | .hole h i :: t => h.Fills (v i) ∧ Fits v t

/-- A text as a sketch without open parts. -/
def ofChars (text : List Char) : Sketch := text.map .char

end Sketch

end SheetCommand.Instruction
