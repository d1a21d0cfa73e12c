import SheetCommand.Proofs.Instruction.Plain
import SheetCommand.Proofs.Text.TitleCase

/-!
# Spaced names

A spaced name is made of ASCII words, in any case and with any white space around and between them,
none of which is a word of the grammar. It is read in lower case and with single spaces, and actions
have it with a capital for every word.

What an instruction asks for is told by its form, whatever the case in which it is typed
(`Cased.recognize_eq`); so is an instruction that gives a form for two spaced names
(`recognize_of_names`).
-/

namespace SheetCommand.Instruction

/-- A name of ASCII words, in any case and with any white space around and between them, none of
which is a word of the grammar. -/
structure SpacedName where
  text : String
  worded : Text.words text.toList ≠ []
  plain : ∀ word ∈ Text.words text.toList, isAsciiWord word = true

namespace SpacedName

/-- The name with single spaces. -/
def typed (name : SpacedName) : List Char := Text.collapse name.text.toList

def lower (name : SpacedName) : List Char := name.typed.map Char.toLower

/-- The name as actions have it: every word with a capital. -/
def titled (name : SpacedName) : String := .ofList (Text.titleCase name.lower)

/-- Whether its white space is single spaces between its words. -/
def IsSingleSpaced (name : SpacedName) : Prop := Text.collapse name.text.toList = name.text.toList

theorem ascii (name : SpacedName) : ∀ c ∈ name.typed, c.toNat < 128 := by
  intro c hc
  rcases Text.mem_join hc with rfl | ⟨word, hword, hmem⟩
  · decide
  · have h := name.plain word hword
    simp only [isAsciiWord, Bool.and_eq_true, List.all_eq_true] at h
    exact ascii_of_alphanum (h.1.2 c hmem)

theorem lower_typed (name : SpacedName) : Text.lower name.typed = name.lower :=
  Text.lower_of_ascii name.ascii

/-- The words of a name as they are read. -/
def words (name : SpacedName) : List (List Char) :=
  (Text.words name.text.toList).map (·.map Char.toLower)

theorem lower_eq_join (name : SpacedName) : name.lower = Text.join [' '] name.words := by
  rw [lower, typed, Text.collapse, Text.map_join _ (by decide), words]

theorem words_ne_nil (name : SpacedName) : name.words ≠ [] :=
  mt List.map_eq_nil_iff.mp name.worded

theorem isWord (name : SpacedName) : ∀ word ∈ name.words, Hole.name.IsWord word := by
  intro word hword
  obtain ⟨typed, htyped, rfl⟩ := List.mem_map.mp hword
  exact isWord_of_ascii (name.plain typed htyped)

theorem fills (name : SpacedName) : Hole.name.Fills name.lower := by
  rw [lower_eq_join]
  exact fills_join name.words_ne_nil name.isWord

theorem isPlain (name : SpacedName) : IsPlain name.lower := by
  rw [lower_eq_join]
  exact isPlain_join name.words_ne_nil name.isWord

theorem ne_empty (name : SpacedName) : name.text ≠ "" := by
  intro h
  exact name.worded (by rw [h]; rfl)

/-! ### Titled names -/

/-- Titling a name changes the case alone. -/
theorem titled_of_ascii (name : SpacedName) :
    (∀ c ∈ name.titled.toList, c.toNat < 128) ∧
      name.titled.toList.map Char.toLower = name.lower := by
  have hlow : name.lower.map Char.toLower = name.lower := by
    rw [← Text.lower_of_ascii fun c hc => ?_, name.isPlain.lower]
    have hc := name.isPlain.low c hc
    simp only [isLowAscii, Bool.and_eq_true, decide_eq_true_eq] at hc
    exact hc.1
  have htitled := Text.titleCase_of_ascii name.words_ne_nil fun word hword =>
    (name.isWord word hword).ascii
  rw [← lower_eq_join, hlow] at htitled
  rwa [titled, String.toList_ofList]

theorem lower_titled (name : SpacedName) : Text.lower name.titled.toList = name.lower := by
  rw [Text.lower_of_ascii name.titled_of_ascii.1, name.titled_of_ascii.2]

/-- The characters of a titled name are spaces and, but for their case, letters of names. -/
theorem eq_space_or_isLetter {name : SpacedName} {c : Char} (h : c ∈ name.titled.toList) :
    c.toLower = ' ' ∨ Hole.name.isLetter c.toLower = true := by
  have hlower : c.toLower ∈ name.lower := name.titled_of_ascii.2 ▸ List.mem_map_of_mem h
  rw [lower_eq_join] at hlower
  refine (Text.mem_join hlower).imp_right ?_
  rintro ⟨word, hword, hmem⟩
  exact (name.isWord word hword).1 _ hmem

theorem titled_ne_empty (name : SpacedName) : name.titled ≠ "" := by
  intro h
  have hlower := name.lower_titled
  rw [h] at hlower
  have htidy := name.isPlain.tidy
  rw [← hlower] at htidy
  cases htidy

end SpacedName

/-! ### Instructions in any case -/

/-- Two fillings in ASCII of which the second is the first in lower case. -/
structure Cased (u v : Filling) : Prop where
  ascii : ∀ i, ∀ c ∈ u i, c.toNat < 128
  lower_eq : ∀ i, (u i).map Char.toLower = v i

namespace Cased

variable {u v : Filling} {t : Sketch} {f : Form}

/-- What is in lower case already. -/
theorem of_isPlain (h : ∀ i, IsPlain (v i)) : Cased v v := by
  have hlow : ∀ i, ∀ c ∈ v i, c.toNat < 128 ∧ c.toLower = c := fun i c hc => by
    simpa [isLowAscii] using (h i).low c hc
  exact ⟨fun i c hc => (hlow i c hc).1, fun i =>
    (List.map_congr_left fun c hc => (hlow i c hc).2).trans (List.map_id _)⟩

theorem fill_eq (h : Cased u v) (ht : t.all Piece.isLowAscii = true) :
    (t.fill u).map Char.toLower = t.fill v := by
  induction t with
  | nil => rfl
  | cons piece t ih =>
    obtain ⟨hpiece, hrest⟩ := (Bool.and_eq_true ..).mp ht
    cases piece with
    | char c =>
      simp only [Piece.isLowAscii, isLowAscii, Bool.and_eq_true, beq_iff_eq] at hpiece
      rw [Sketch.fill, List.map_cons, hpiece.2, ih hrest, Sketch.fill]
    | hole hole i => rw [Sketch.fill, List.map_append, h.lower_eq, ih hrest, Sketch.fill]

theorem ascii_fill (h : Cased u v) (ht : t.all Piece.isLowAscii = true) :
    ∀ c ∈ t.fill u, c.toNat < 128 := by
  refine Sketch.forall_mem_fill (fun c hc => ?_) fun _ i _ => h.ascii i
  have hlow := List.all_eq_true.mp ht _ hc
  simp only [Piece.isLowAscii, isLowAscii, Bool.and_eq_true, decide_eq_true_eq] at hlow
  exact hlow.1

/-- How an instruction is read that gives a form once its white space is collapsed. -/
theorem wording_eq (h : Cased u v) {text : String}
    (hlow : f.sketch.all Piece.isLowAscii = true)
    (htyped : Text.collapse text.toList = f.sketch.fill u) :
    Wording.of text = ⟨f.sketch.fill u, f.sketch.fill v⟩ := by
  rw [Wording.of, htyped, Text.lower_of_ascii (h.ascii_fill hlow), h.fill_eq hlow]

/-- **Recognising a form** in any case. -/
theorem recognize_eq (h : Cased u v) {text : String} {n : Nat} {kind : ActionKind} {r : Request}
    (hmissed : ∀ x ∈ ranked.take n, x.2.search (f.sketch.fill v) = none)
    (hfound : f.isFoundAt n = true) (hkind : (ranked[n]?).map Prod.fst = some kind)
    (hlow : f.sketch.all Piece.isLowAscii = true) (hfits : f.sketch.Fits v)
    (htyped : Text.collapse text.toList = f.sketch.fill u)
    (hbuild : ∀ w c, w.lower = f.sketch.fill v → f.Reading u v w c → build kind w c = some r) :
    recognize (Wording.of text) = some r := by
  rw [h.wording_eq hlow htyped]
  refine recognize_of_isFoundAt hfound hkind (fun x hx => ?_) hfits rfl rfl (fun _ i => ?_)
    fun c hc => hbuild _ c rfl hc
  · rw [hmissed x hx, Option.bind_none]
  · rw [← h.lower_eq, List.length_map]

end Cased

/-! ### Instructions with two names -/

/-- What two names fill the open parts of a form with, as they are typed. -/
def typedBy (first second : SpacedName) : Filling
  | 0 => first.typed
  | _ => second.typed

/-- What two names fill the open parts of a form with, as they are read. -/
def readBy (first second : SpacedName) : Filling
  | 0 => first.lower
  | _ => second.lower

section

variable {first second : SpacedName} {f : Form}

theorem cased_names : Cased (typedBy first second) (readBy first second) where
  ascii
    | 0 => first.ascii
    | _ + 1 => second.ascii
  lower_eq
    | 0 => rfl
    | _ + 1 => rfl

theorem wording_of_names {text : String} (hlow : f.sketch.all Piece.isLowAscii = true)
    (htyped : Text.collapse text.toList = f.sketch.fill (typedBy first second)) :
    Wording.of text =
      ⟨f.sketch.fill (typedBy first second), f.sketch.fill (readBy first second)⟩ :=
  cased_names.wording_eq hlow htyped

/-- **Recognising a form of two names.** -/
theorem recognize_of_names {text : String} {n : Nat} {kind : ActionKind} {r : Request}
    (hmissed : ((ranked.take n).all fun x => x.2.misses f.sketch) = true)
    (hfound : f.isFoundAt n = true) (hkind : (ranked[n]?).map Prod.fst = some kind)
    (hlow : f.sketch.all Piece.isLowAscii = true)
    (hfits : f.sketch.Fits (readBy first second))
    (htyped : Text.collapse text.toList = f.sketch.fill (typedBy first second))
    (hbuild : ∀ w c, f.Reading (typedBy first second) (readBy first second) w c →
      build kind w c = some r) :
    recognize (Wording.of text) = some r :=
  cased_names.recognize_eq
    (fun x hx => Pattern.search_of_misses (List.all_eq_true.mp hmissed x hx) hfits) hfound hkind
    hlow hfits htyped fun w c _ hc => hbuild w c hc

end

end SheetCommand.Instruction
