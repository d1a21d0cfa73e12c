import SheetCommand.Proofs.Instruction.Form
import SheetCommand.Proofs.Text.Lower
import SheetCommand.Proofs.Text.Tidy

/-!
# Plain names

A plain word is a lower-case ASCII word that begins with a letter and is no word of the grammar; a
plain name is one or more of them with single spaces between them. A plain name fills an open part
of a sketch, and an instruction made of plain names and lower-case text is read as it was typed
(`wording_of_plain`).
-/

namespace SheetCommand.Instruction

/-! ### Names -/

def isPlainWord : List Char → Bool
  | [] => false
  | c :: rest =>
    c.isLower && rest.all (fun d => d.isLower || d.isDigit) && !grammarWords.contains (c :: rest)

structure PlainName where
  first : List Char
  others : List (List Char)
  plain : ∀ word ∈ first :: others, isPlainWord word = true

namespace PlainName

def chars (name : PlainName) : List Char := Text.join [' '] (name.first :: name.others)

def text (name : PlainName) : String := .ofList name.chars

/-- The name as actions have it: every word with a capital. -/
def titled (name : PlainName) : String := titleCase name.text

end PlainName

theorem isWord_of_plain {word : List Char} (h : isPlainWord word = true) :
    Hole.name.IsWord word := by
  cases word with
  | nil => cases h
  | cons c rest =>
    simp only [isPlainWord, Bool.and_eq_true, List.all_eq_true, Bool.not_eq_true',
      Bool.or_eq_true] at h
    refine ⟨fun d hd => ?_, fun hm => ?_⟩
    · rcases List.mem_cons.mp hd with rfl | hd
      · simp [Hole.isLetter, h.1.1]
      · have := h.1.2 d hd
        simp only [Hole.isLetter, Bool.or_eq_true]
        exact .inl this
    · rcases List.mem_cons.mp hm with hm | hm
      · cases hm
      · have hcontains : grammarWords.contains (c :: rest) = true := List.contains_iff_mem.mpr hm
        rw [hcontains] at h
        simp at h

/-- An ASCII word, in any case, that is no word of the grammar. -/
def isAsciiWord (word : List Char) : Bool :=
  !word.isEmpty && word.all (fun c => c.isAlphanum || c == '_') &&
    !grammarWords.contains (word.map Char.toLower)

theorem ascii_of_alphanum {c : Char} (h : (c.isAlphanum || c == '_') = true) : c.toNat < 128 := by
  have halpha : c.isAlpha = (decide ('A'.val ≤ c.val ∧ c.val ≤ 'Z'.val) ||
    (decide ('a'.val ≤ c.val) && decide (c.val ≤ 'z'.val))) := rfl
  simp only [Char.isAlphanum, halpha, Char.isDigit, Bool.or_eq_true, Bool.and_eq_true,
    decide_eq_true_eq, UInt32.le_iff_toNat_le, beq_iff_eq] at h
  have hval : c.val.toNat = c.toNat := rfl
  rcases h with h | rfl
  · simp [hval] at h
    omega
  · decide

theorem isBlank_of_alphanum {c : Char} (h : (c.isAlphanum || c == '_') = true) :
    Text.isBlank c = false := by
  refine Text.of_toNat_lt (P := fun c => (c.isAlphanum || c == '_') = true →
    Text.isBlank c = false) ?_ (ascii_of_alphanum h) h
  decide +kernel

theorem isLetter_toLower {c : Char} (h : (c.isAlphanum || c == '_') = true) :
    Hole.name.isLetter c.toLower = true := by
  refine Text.of_toNat_lt (P := fun c => (c.isAlphanum || c == '_') = true →
    Hole.name.isLetter c.toLower = true) ?_ (ascii_of_alphanum h) h
  decide +kernel

theorem isWord_of_ascii {word : List Char} (h : isAsciiWord word = true) :
    Hole.name.IsWord (word.map Char.toLower) := by
  simp only [isAsciiWord, Bool.and_eq_true, Bool.not_eq_true', List.all_eq_true] at h
  refine ⟨fun c hc => ?_, fun hm => ?_⟩
  · obtain ⟨d, hd, rfl⟩ := List.mem_map.mp hc
    exact isLetter_toLower (h.1.2 d hd)
  · rcases List.mem_cons.mp hm with hm | hm
    · rw [List.map_eq_nil_iff] at hm
      simp [hm] at h
    · have hcontains : grammarWords.contains (word.map Char.toLower) = true :=
        List.contains_iff_mem.mpr hm
      rw [h.2] at hcontains
      cases hcontains

/-! ### Texts between names -/

/-- Whether a sketch, after a word or after a space, gives a tidy text if its open parts are filled
with tidy ones. -/
def Sketch.tidyAfter (word : Bool) : Sketch → Bool
  | [] => word
  | .char c :: t =>
    if Text.isBlank c then word && c == ' ' && tidyAfter false t else tidyAfter true t
  | .hole _ _ :: t => tidyAfter true t

/-- ASCII, and the same in lower case. -/
def isLowAscii (c : Char) : Bool := c.toNat < 128 && c.toLower == c

def Piece.isLowAscii : Piece → Bool
  | .char c => Instruction.isLowAscii c
  | .hole .. => true

/-- Whether a sketch is read as it was typed if its open parts are. -/
def Sketch.isPlain (t : Sketch) : Bool := t.tidyAfter false && t.all Piece.isLowAscii

/-- A text that is read as it was typed. -/
structure IsPlain (text : List Char) : Prop where
  tidy : Text.IsTidy text
  low : ∀ c ∈ text, isLowAscii c = true

variable {v : Filling}

theorem Sketch.tidyAfter_fill (hv : ∀ i, Text.IsTidy (v i)) {t : Sketch} {word : Bool}
    (h : t.tidyAfter word = true) : Text.tidyAfter word (t.fill v) = true := by
  induction t generalizing word with
  | nil => exact h
  | cons piece t ih =>
    cases piece with
    | char c =>
      rw [Sketch.tidyAfter] at h
      rw [Sketch.fill, Text.tidyAfter]
      split
      · rename_i hc
        rw [if_pos hc] at h
        simp only [Bool.and_eq_true] at h ⊢
        exact ⟨h.1, ih h.2⟩
      · rename_i hc
        rw [if_neg hc] at h
        exact ih h
    | hole hole i =>
      rw [Sketch.fill, Text.tidyAfter_append ((hv i).tidyAfter word)]
      exact ih h

theorem Sketch.forall_mem_fill {p : Char → Prop} {t : Sketch} (hchar : ∀ c, .char c ∈ t → p c)
    (hhole : ∀ h i, .hole h i ∈ t → ∀ c ∈ v i, p c) : ∀ c ∈ t.fill v, p c := by
  induction t with
  | nil => simp [Sketch.fill]
  | cons piece t ih =>
    have htail := ih (fun c hc => hchar c (List.mem_cons_of_mem _ hc))
      fun h i hi => hhole h i (List.mem_cons_of_mem _ hi)
    intro c hc
    cases piece with
    | char d =>
      rcases List.mem_cons.mp hc with rfl | hc
      · exact hchar c List.mem_cons_self
      · exact htail c hc
    | hole h i =>
      rcases List.mem_append.mp hc with hc | hc
      · exact hhole h i List.mem_cons_self c hc
      · exact htail c hc

theorem IsPlain.fill {t : Sketch} (ht : t.isPlain = true) (hv : ∀ i, IsPlain (v i)) :
    IsPlain (t.fill v) := by
  simp only [Sketch.isPlain, Bool.and_eq_true, List.all_eq_true] at ht
  exact ⟨Sketch.tidyAfter_fill (fun i => (hv i).tidy) ht.1,
    Sketch.forall_mem_fill (fun c hc => ht.2 _ hc) fun h i _ => (hv i).low⟩

theorem IsPlain.lower {text : List Char} (h : IsPlain text) : Text.lower text = text := by
  have hlow : ∀ c ∈ text, c.toNat < 128 ∧ c.toLower = c := fun c hc => by
    simpa [isLowAscii] using h.low c hc
  rw [Text.lower_of_ascii fun c hc => (hlow c hc).1]
  exact (List.map_congr_left fun c hc => (hlow c hc).2).trans (List.map_id _)

/-- **A plain instruction** is read as it was typed. -/
theorem wording_of_plain {text : List Char} (h : IsPlain text) :
    Wording.of (.ofList text) = ⟨text, text⟩ := by
  simp [Wording.of, Text.collapse_of_tidy h.tidy, h.lower]

/-- A text without blanks is plain as it is. -/
theorem isPlain_of_chars {text : List Char} (hne : text ≠ [])
    (h : ∀ c ∈ text, Text.isBlank c = false ∧ isLowAscii c = true) : IsPlain text :=
  ⟨@Text.tidy_join [text] (by simp) (by simpa using ⟨hne, fun c hc => (h c hc).1⟩),
    fun c hc => (h c hc).2⟩

/-! ### Names as plain texts -/

theorem isLowAscii_of_name {c : Char} (h : Hole.name.isLetter c = true) : isLowAscii c = true := by
  have hc := Hole.ascii_of_name h
  have hval : c.val.toNat = c.toNat := rfl
  have hlow : c.toLower = c := by
    unfold Char.toLower
    rw [dif_neg]
    simp only [UInt32.le_iff_toNat_le, hval, Char.reduceVal, UInt32.reduceToNat]
    omega
  simp only [isLowAscii, hlow, beq_self_eq_true, Bool.and_true, decide_eq_true_eq]
  omega

/-- What titling asks of a word. -/
theorem Hole.IsWord.ascii {word : List Char} (h : Hole.name.IsWord word) :
    word ≠ [] ∧ ' ' ∉ word ∧ ∀ c ∈ word, c.toNat < 128 := by
  obtain ⟨hletters, hrefused⟩ := h
  refine ⟨?_, fun hspace => ?_, fun c hc => ?_⟩
  · rintro rfl
    exact hrefused List.mem_cons_self
  · have hblank := Hole.isBlank_of_name (hletters ' ' hspace)
    cases hblank
  · have hlow := isLowAscii_of_name (hletters c hc)
    simp only [isLowAscii, Bool.and_eq_true, decide_eq_true_eq] at hlow
    exact hlow.1

theorem fills_join {ws : List (List Char)} (hne : ws ≠ []) (h : ∀ w ∈ ws, Hole.name.IsWord w) :
    Hole.name.Fills (Text.join [' '] ws) := by
  induction ws with
  | nil => exact absurd rfl hne
  | cons w ws ih =>
    cases ws with
    | nil => exact (h w (by simp)).fills
    | cons w' ws =>
      rw [Text.join_cons_ne_nil w (by simp)]
      exact (ih (by simp) fun x hx => h x (by simp [hx])).cons_word rfl (h w (by simp))

theorem isPlain_join {ws : List (List Char)} (hne : ws ≠ []) (h : ∀ w ∈ ws, Hole.name.IsWord w) :
    IsPlain (Text.join [' '] ws) := by
  refine ⟨Text.tidy_join hne fun w hw => ⟨?_, fun c hc => ?_⟩, fun c hc => ?_⟩
  · rintro rfl
    exact (h [] hw).2 List.mem_cons_self
  · exact Hole.isBlank_of_name ((h w hw).1 c hc)
  · rcases Text.mem_join hc with rfl | ⟨w, hw, hc⟩
    · decide
    · exact isLowAscii_of_name ((h w hw).1 c hc)

namespace PlainName

theorem fills (name : PlainName) : Hole.name.Fills name.chars :=
  fills_join (by simp) fun w hw => isWord_of_plain (name.plain w hw)

theorem isPlain (name : PlainName) : IsPlain name.chars :=
  isPlain_join (by simp) fun w hw => isWord_of_plain (name.plain w hw)

end PlainName

end SheetCommand.Instruction
