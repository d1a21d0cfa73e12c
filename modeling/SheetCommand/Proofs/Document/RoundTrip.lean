import SheetCommand.Proofs.Document.Numeral
import SheetCommand.Proofs.Document.Writable

/-!
# Document — what is written is read

A document that is written and read again comes back as it was (`read?_write`), but for what has no
form of its own: a number that is not finite comes back as `null`, a moment as its text, and of two
fields of one name the last value in the place of the first (`reread`). Neither the layout nor what
follows the document makes a difference.

The written form of a document decides the case of the reader by its first character. Every part of
it is shorter than the whole, so the fuel of the reader, which is taken from the length of the text,
lasts.
-/

namespace SheetCommand.Document

/-! ### What comes back -/

mutual

/-- What a document is once it has been written and read. -/
def reread : Document → Document
  | real x => if x.isFinite then real x else null
  | moment m => text m.iso
  | list items => list (rereadItems items)
  | object fields => object (rereadFields [] fields)
  | d => d

def rereadItems : List Document → List Document
  | [] => []
  | item :: items => item.reread :: rereadItems items

/-- Fields are added one by one to those already there. -/
def rereadFields (before : List (String × Document)) :
    List (String × Document) → List (String × Document)
  | [] => before
  | (name, value) :: fields => rereadFields (setField before name value.reread) fields

end

/-! ### Texts -/

theorem unit?_append {digits : List Char} {n : Nat} (h : unit? digits = some (n, []))
    (rest : List Char) : unit? (digits ++ rest) = some (n, rest) := by
  unfold unit? at h
  split at h
  · rename_i a b c d back
    simp only [Option.bind_eq_bind, Option.bind_eq_some_iff] at h
    obtain ⟨a', ha, b', hb, c', hc, d', hd, e⟩ := h
    obtain ⟨rfl, rfl⟩ := Prod.mk.inj (Option.some.inj e)
    simp [unit?, ha, hb, hc, hd]
  · cases h

theorem unit?_hex : ∀ n : Fin 32, unit? (Text.hex 4 n) = some ((n : Nat), []) := by decide

theorem readText_control {c : Char} (h : c.toNat < 32) (fuel : Nat) (rest : List Char) :
    readText (fuel + 1) ('\\' :: 'u' :: (Text.hex 4 c.toNat ++ rest)) =
      (readText fuel rest).map fun read => (c :: read.1, read.2) := by
  have hunit := unit?_append (unit?_hex ⟨c.toNat, h⟩) rest
  have hhigh : isHigh c.toNat = false := by simp [isHigh]; omega
  have hlow : isLow c.toNat = false := by simp [isLow]; omega
  rw [readText, codePoint?]
  simp only [hunit, hhigh, hlow, Option.bind_eq_bind, Option.bind_some, Bool.false_eq_true, if_false,
    Char.ofNat_toNat]
  cases readText fuel rest <;> rfl

/-- One character of a text, escaped or not. -/
theorem readText_escape (c : Char) (fuel : Nat) (rest : List Char) :
    readText (fuel + 1) (escape c ++ rest) =
      (readText fuel rest).map fun read => (c :: read.1, read.2) := by
  -- the letters that stand for characters after a backslash
  have hletter : ∀ d : Char, d ≠ 'u' → escaped? d = some c →
      readText (fuel + 1) ('\\' :: d :: rest) =
        (readText fuel rest).map fun read => (c :: read.1, read.2) := by
    intro d hd hescaped
    rw [readText.eq_def]
    simp only [hescaped]
    cases readText fuel rest <;> rfl
  unfold escape
  split_ifs with hquote hbackslash _ _ _ _ _ hcontrol
  · exact hletter '"' (by decide) (by rw [hquote]; rfl)
  · exact hletter '\\' (by decide) (by rw [hbackslash]; rfl)
  · exact hletter 'b' (by decide) (by subst_vars; rfl)
  · exact hletter 't' (by decide) (by subst_vars; rfl)
  · exact hletter 'n' (by decide) (by subst_vars; rfl)
  · exact hletter 'f' (by decide) (by subst_vars; rfl)
  · exact hletter 'r' (by decide) (by subst_vars; rfl)
  · exact readText_control hcontrol fuel rest
  · rw [List.singleton_append, readText, if_neg (not_or.mpr ⟨hcontrol, hbackslash⟩)]
    · exact hquote
    · exact fun _ h _ => hbackslash h
    · exact fun _ _ h _ => hbackslash h

theorem length_le_length_escaped (text : List Char) :
    text.length ≤ (text.flatMap escape).length := by
  have hone : ∀ c, 1 ≤ (escape c).length := by
    intro c
    unfold escape
    split_ifs <;> simp
  induction text with
  | nil => exact Nat.le_refl _
  | cons c text ih =>
    rw [List.flatMap_cons, List.length_append, List.length_cons]
    have := hone c
    omega

/-- **A text** is read back as it was. -/
theorem readText_escaped (text rest : List Char) {fuel : Nat} (hfuel : text.length < fuel) :
    readText fuel (text.flatMap escape ++ '"' :: rest) = some (text, rest) := by
  induction text generalizing fuel with
  | nil =>
    obtain ⟨fuel, rfl⟩ := Nat.exists_eq_succ_of_ne_zero (by omega : fuel ≠ 0)
    rfl
  | cons c text ih =>
    rw [List.length_cons] at hfuel
    obtain ⟨fuel, rfl⟩ := Nat.exists_eq_succ_of_ne_zero (by omega : fuel ≠ 0)
    rw [List.flatMap_cons, List.append_assoc, readText_escape, ih (by omega)]
    rfl

theorem writeText_eq (s : String) (rest : List Char) :
    writeText s ++ rest = '"' :: (s.toList.flatMap escape ++ '"' :: rest) := by
  simp [writeText]

theorem readText_written (s : String) (rest : List Char) :
    readText ((s.toList.flatMap escape ++ '"' :: rest).length + 1)
      (s.toList.flatMap escape ++ '"' :: rest) = some (s.toList, rest) := by
  have hlength := length_le_length_escaped s.toList
  exact readText_escaped _ _ (by rw [List.length_append]; omega)

/-! ### Spaces and what follows -/

/-- Nothing but space. -/
def IsGap (text : List Char) : Prop := ∀ c ∈ text, isSpace c = true

theorem skipSpace_append {gap : List Char} (h : IsGap gap) (rest : List Char) :
    skipSpace (gap ++ rest) = skipSpace rest :=
  List.dropWhile_append_of_pos h

theorem skipSpace_cons {c : Char} (h : isSpace c = false) (rest : List Char) :
    skipSpace (c :: rest) = c :: rest :=
  List.dropWhile_cons_of_neg (by simp [h])

theorem isGap_nil : IsGap [] := fun _ h => by cases h

theorem isGap_gap (layout : Layout) (depth : Nat) : IsGap (layout.gap depth) := by
  intro c hc
  cases layout with
  | line => cases hc
  | indented =>
    rcases List.mem_cons.mp hc with rfl | hc
    · rfl
    · rw [List.eq_of_mem_replicate hc]
      rfl

theorem exists_colon (layout : Layout) : ∃ gap, layout.colon = ':' :: gap ∧ IsGap gap := by
  cases layout with
  | line => exact ⟨[], rfl, isGap_nil⟩
  | indented => exact ⟨[' '], rfl, by intro c hc; rw [List.mem_singleton.mp hc]; rfl⟩

/-- A text that does not go on with a number. -/
def Stops (text : List Char) : Prop := ∀ c ∈ text.head?, isNumberChar c = false

theorem isSpace_of_isNumberChar {c : Char} (h : isNumberChar c = true) : isSpace c = false := by
  by_contra hspace
  simp only [isSpace, Bool.not_eq_false, Bool.or_eq_true, beq_iff_eq] at hspace
  rcases hspace with ((rfl | rfl) | rfl) | rfl <;> cases h

theorem stops_of_gap {gap rest : List Char} (hgap : IsGap gap) (h : Stops rest) :
    Stops (gap ++ rest) := by
  cases gap with
  | nil => exact h
  | cons c gap =>
    rintro d ⟨⟩
    by_contra hnumber
    have hspace := isSpace_of_isNumberChar (Bool.not_eq_false _ ▸ hnumber)
    rw [hgap c List.mem_cons_self] at hspace
    cases hspace

/-! ### Numbers -/

/-- What begins as a number is read as one: no other document begins with such a character. -/
theorem readValue_of_isNumberChar {c : Char} {tail source : List Char}
    (hc : isNumberChar c = true) (hskip : skipSpace source = c :: tail) (fuel room : Nat) :
    readValue (fuel + 1) room source =
      (ofNumeral? ((c :: tail).takeWhile isNumberChar)).map
        (·, (c :: tail).dropWhile isNumberChar) := by
  rw [readValue, hskip]
  split
  case h_1 heq => cases heq
  case h_8 => rfl
  all_goals
    rename_i heq
    obtain rfl := (List.cons.inj heq).1
    cases hc

/-- **A number** is read up to where it stops. -/
theorem readValue_numeral {numeral gap rest : List Char} {d : Document}
    (h : IsNumeralOf numeral d) (hgap : IsGap gap) (hrest : Stops rest) (fuel room : Nat) :
    readValue (fuel + 1) room (gap ++ (numeral ++ rest)) = some (d, rest) := by
  obtain ⟨c, tail, hnumeral⟩ := List.exists_cons_of_ne_nil h.ne_nil
  have hc : isNumberChar c = true := h.chars c (by rw [hnumeral]; exact List.mem_cons_self)
  have hskip : skipSpace (gap ++ (numeral ++ rest)) = c :: (tail ++ rest) := by
    rw [skipSpace_append hgap, hnumeral, List.cons_append,
      skipSpace_cons (isSpace_of_isNumberChar hc)]
  have hstop : rest.takeWhile isNumberChar = [] ∧ rest.dropWhile isNumberChar = rest := by
    cases rest with
    | nil => exact ⟨rfl, rfl⟩
    | cons d rest => simp [hrest d rfl]
  have htake : (numeral ++ rest).takeWhile isNumberChar = numeral := by
    rw [List.takeWhile_append_of_pos h.chars, hstop.1, List.append_nil]
  have hdrop : (numeral ++ rest).dropWhile isNumberChar = rest := by
    rw [List.dropWhile_append_of_pos h.chars, hstop.2]
  rw [readValue_of_isNumberChar hc hskip, ← List.cons_append, ← hnumeral, htake, hdrop, h.reads]
  rfl

/-! ### Documents -/

/-- A document is read back from wherever it is written. -/
def ReadsBack (d : Document) : Prop :=
  ∀ (layout : Layout) (level fuel room : Nat) (gap rest : List Char), IsGap gap →
    (d.write layout level).length ≤ fuel → d.depth ≤ room → Stops rest →
      readValue fuel room (gap ++ (d.write layout level ++ rest)) = some (d.reread, rest)

theorem exists_succ_of_length {text : List Char} {fuel : Nat} (hne : text ≠ [])
    (h : text.length ≤ fuel) : ∃ left, fuel = left + 1 := by
  have := List.length_pos_of_ne_nil hne
  exact ⟨fuel - 1, by omega⟩

theorem readsBack_null : ReadsBack null := by
  intro layout level fuel room gap rest hgap hfuel _ _
  obtain ⟨fuel, rfl⟩ := exists_succ_of_length (by simp [write]) hfuel
  rw [readValue, skipSpace_append hgap]
  rfl

theorem readsBack_bool (b : Bool) : ReadsBack (bool b) := by
  intro layout level fuel room gap rest hgap hfuel _ _
  obtain ⟨fuel, rfl⟩ := exists_succ_of_length (by cases b <;> simp [write]) hfuel
  rw [readValue, skipSpace_append hgap]
  cases b <;> rfl

theorem readsBack_int (n : Int) : ReadsBack (int n) := by
  intro layout level fuel room gap rest hgap hfuel _ hrest
  have hnumeral := isNumeralOf_writeInt n
  obtain ⟨fuel, rfl⟩ := exists_succ_of_length hnumeral.ne_nil hfuel
  exact readValue_numeral hnumeral hgap hrest fuel room

theorem readsBack_real (x : Binary64) : ReadsBack (real x) := by
  by_cases hx : x.isFinite = true
  · intro layout level fuel room gap rest hgap hfuel _ hrest
    have hnumeral := isNumeralOf_json hx
    rw [write, if_pos hx] at hfuel ⊢
    obtain ⟨fuel, rfl⟩ := exists_succ_of_length hnumeral.ne_nil hfuel
    rw [reread, if_pos hx]
    exact readValue_numeral hnumeral hgap hrest fuel room
  · intro layout level fuel room gap rest hgap hfuel hroom hrest
    rw [write, if_neg hx] at hfuel ⊢
    rw [reread, if_neg hx]
    exact readsBack_null layout level fuel room gap rest hgap hfuel hroom hrest

theorem readValue_text {gap : List Char} (s : String) (hgap : IsGap gap) (rest : List Char)
    (fuel room : Nat) :
    readValue (fuel + 1) room (gap ++ (writeText s ++ rest)) = some (text s, rest) := by
  rw [readValue, skipSpace_append hgap, writeText_eq, skipSpace_cons rfl]
  simp only [readText_written, Option.map_some, String.ofList_toList]

theorem readsBack_text (s : String) : ReadsBack (text s) := by
  intro layout level fuel room gap rest hgap hfuel _ _
  obtain ⟨fuel, rfl⟩ := exists_succ_of_length (by simp [write, writeText]) hfuel
  exact readValue_text s hgap rest fuel room

theorem readsBack_moment (m : Moment) : ReadsBack (moment m) := by
  intro layout level fuel room gap rest hgap hfuel _ _
  obtain ⟨fuel, rfl⟩ := exists_succ_of_length (by simp [write, writeText]) hfuel
  exact readValue_text m.iso hgap rest fuel room

/-- No document begins with a space or with what closes a list. -/
theorem exists_head (d : Document) (layout : Layout) (level : Nat) :
    ∃ c tail, d.write layout level = c :: tail ∧ isSpace c = false ∧ c ≠ ']' := by
  have hnumeral : ∀ {numeral : List Char} {d : Document}, IsNumeralOf numeral d →
      ∃ c tail, numeral = c :: tail ∧ isSpace c = false ∧ c ≠ ']' := by
    intro numeral d h
    obtain ⟨c, tail, rfl⟩ := List.exists_cons_of_ne_nil h.ne_nil
    have hc := h.chars c List.mem_cons_self
    refine ⟨c, tail, rfl, isSpace_of_isNumberChar hc, ?_⟩
    rintro rfl
    cases hc
  cases d with
  | null => exact ⟨_, _, rfl, rfl, by decide⟩
  | bool b => cases b <;> exact ⟨_, _, rfl, rfl, by decide⟩
  | int n => exact hnumeral (isNumeralOf_writeInt n)
  | real x =>
    rw [write]
    split
    · exact hnumeral (isNumeralOf_json ‹_›)
    · exact ⟨_, _, rfl, rfl, by decide⟩
  | text | moment => exact ⟨_, _, rfl, rfl, by decide⟩
  | list items => cases items <;> exact ⟨_, _, rfl, rfl, by decide⟩
  | object fields => cases fields <;> exact ⟨_, _, rfl, rfl, by decide⟩

/-! ### Lists -/

/-- What follows an item: more items, or the end of the list. -/
theorem stops_items (layout : Layout) (level : Nat) (items : List Document) {gap : List Char}
    (hgap : IsGap gap) (rest : List Char) :
    Stops (writeItems layout level items ++ (gap ++ ']' :: rest)) := by
  cases items with
  | nil =>
    rw [writeItems, List.nil_append]
    exact stops_of_gap hgap (by rintro c ⟨⟩; rfl)
  | cons item items =>
    rw [writeItems]
    rintro c ⟨⟩
    rfl

/-- What an item that has been read comes to, by what follows it. -/
def afterItem (fuel room : Nat) (item : Document) (rest : List Char) :
    Option (List Document × List Char) :=
  match skipSpace rest with
  | ',' :: rest => (readItems fuel room rest).bind fun read => some (item :: read.1, read.2)
  | ']' :: rest => some ([item], rest)
  | _ => none

/-- One item is read, and what follows it decides. -/
theorem readItems_item {layout : Layout} {level : Nat} {item : Document} (h : ReadsBack item)
    {fuel room : Nat} {gap rest : List Char} (hgap : IsGap gap)
    (hfuel : (item.write layout level).length ≤ fuel) (hroom : item.depth ≤ room)
    (hrest : Stops rest) :
    readItems (fuel + 1) room (gap ++ (item.write layout level ++ rest)) =
      afterItem fuel room item.reread rest := by
  rw [readItems, h layout level fuel room gap rest hgap hfuel hroom hrest]
  rfl

/-- **Items** are read back, if each of them is. -/
theorem readItems_write {layout : Layout} {level : Nat} {item : Document} {items : List Document}
    (h : ∀ d ∈ item :: items, ReadsBack d) {fuel room : Nat} {gap gap' : List Char}
    (hgap : IsGap gap) (hgap' : IsGap gap') (rest : List Char)
    (hfuel : (item.write layout level).length + (writeItems layout level items).length < fuel)
    (hroom : itemsDepth (item :: items) ≤ room) :
    readItems fuel room (gap ++ (item.write layout level ++
      (writeItems layout level items ++ (gap' ++ ']' :: rest)))) =
      some (rereadItems (item :: items), rest) := by
  induction items generalizing item fuel gap with
  | nil =>
    obtain ⟨fuel, rfl⟩ := Nat.exists_eq_succ_of_ne_zero (by omega : fuel ≠ 0)
    rw [readItems_item (h item List.mem_cons_self) hgap (by omega)
      (itemsDepth_le_iff.mp hroom item List.mem_cons_self) (stops_items layout level [] hgap' rest),
      afterItem, writeItems, List.nil_append, skipSpace_append hgap', skipSpace_cons (c := ']') rfl]
    rfl
  | cons next items ih =>
    obtain ⟨fuel, rfl⟩ := Nat.exists_eq_succ_of_ne_zero (by omega : fuel ≠ 0)
    have hlength : (writeItems layout level (next :: items)).length =
        1 + (layout.gap level).length + (next.write layout level).length +
          (writeItems layout level items).length := by
      simp only [writeItems, List.length_append, List.length_cons]
      omega
    have hshort : (next.write layout level).length + (writeItems layout level items).length < fuel := by
      omega
    have hmore := ih (fun d hd => h d (List.mem_cons_of_mem _ hd)) (isGap_gap layout level) hshort
      (itemsDepth_le_iff.mpr fun d hd => itemsDepth_le_iff.mp hroom d (List.mem_cons_of_mem _ hd))
    have hwritten : writeItems layout level (next :: items) ++ (gap' ++ ']' :: rest) =
        ',' :: (layout.gap level ++ (next.write layout level ++
          (writeItems layout level items ++ (gap' ++ ']' :: rest)))) := by
      simp only [writeItems, List.cons_append, List.append_assoc]
    rw [readItems_item (h item List.mem_cons_self) hgap (by omega)
      (itemsDepth_le_iff.mp hroom item List.mem_cons_self)
      (stops_items layout level (next :: items) hgap' rest), hwritten, afterItem,
      skipSpace_cons (c := ',') rfl]
    simp only [hmore]
    rfl

theorem readsBack_list {items : List Document} (h : ∀ d ∈ items, ReadsBack d) :
    ReadsBack (list items) := by
  intro layout level fuel room gap rest hgap hfuel hroom hrest
  obtain ⟨fuel, rfl⟩ := exists_succ_of_length (by cases items <;> simp [write]) hfuel
  have hnonzero : room ≠ 0 := by
    rintro rfl
    exact absurd hroom (by simp [depth])
  cases items with
  | nil =>
    rw [readValue, skipSpace_append hgap, write]
    simp only [List.cons_append, List.nil_append, skipSpace_cons (c := '[') rfl, if_neg hnonzero,
      skipSpace_cons (c := ']') rfl]
    rfl
  | cons item items =>
    obtain ⟨c, tail, hhead, hspace, hclose⟩ := exists_head item layout (level + 1)
    have hwritten : (list (item :: items)).write layout level ++ rest =
        '[' :: (layout.gap (level + 1) ++ (item.write layout (level + 1) ++
          (writeItems layout (level + 1) items ++ (layout.gap level ++ ']' :: rest)))) := by
      simp only [write, List.cons_append, List.append_assoc, List.nil_append]
    have hlength : ((list (item :: items)).write layout level).length =
        1 + (layout.gap (level + 1)).length + (item.write layout (level + 1)).length +
          (writeItems layout (level + 1) items).length + (layout.gap level).length + 1 := by
      simp only [write, List.length_append, List.length_cons, List.length_nil]
      omega
    have hshort : (item.write layout (level + 1)).length +
        (writeItems layout (level + 1) items).length < fuel := by omega
    have hdepth : itemsDepth (item :: items) ≤ room - 1 := by
      rw [depth] at hroom
      omega
    have hitems := readItems_write h isGap_nil (isGap_gap layout level) rest hshort hdepth
    rw [List.nil_append] at hitems
    have hskip : ∀ more, skipSpace (layout.gap (level + 1) ++ (item.write layout (level + 1) ++ more)) =
        item.write layout (level + 1) ++ more := by
      intro more
      rw [skipSpace_append (isGap_gap layout (level + 1)), hhead, List.cons_append,
        skipSpace_cons hspace]
    rw [readValue, skipSpace_append hgap, hwritten, skipSpace_cons (c := '[') rfl]
    simp only [if_neg hnonzero, hskip]
    rw [hhead, List.cons_append] at hitems ⊢
    split
    · rename_i heq
      exact absurd (List.cons.inj heq).1 hclose
    · rw [hitems]
      rfl

/-! ### Objects -/

/-- What follows a field: more fields, or the end of the object. -/
theorem stops_fields (layout : Layout) (level : Nat) (fields : List (String × Document))
    {gap : List Char} (hgap : IsGap gap) (rest : List Char) :
    Stops (writeFields layout level fields ++ (gap ++ '\x7d' :: rest)) := by
  cases fields with
  | nil =>
    rw [writeFields, List.nil_append]
    exact stops_of_gap hgap (by rintro c ⟨⟩; rfl)
  | cons field fields =>
    rw [writeFields]
    rintro c ⟨⟩
    rfl

/-- What the fields read so far come to, by what follows them. -/
def afterField (fuel room : Nat) (fields : List (String × Document)) (rest : List Char) :
    Option (List (String × Document) × List Char) :=
  match skipSpace rest with
  | ',' :: rest => readFields fuel room fields rest
  | '\x7d' :: rest => some (fields, rest)
  | _ => none

/-- One field is read, and what follows it decides. -/
theorem readFields_field {layout : Layout} {level : Nat} (name : String) {value : Document}
    (h : ReadsBack value) {fuel room : Nat} {gap rest : List Char} (hgap : IsGap gap)
    (hfuel : (value.write layout level).length ≤ fuel) (hroom : value.depth ≤ room)
    (hrest : Stops rest) (before : List (String × Document)) :
    readFields (fuel + 1) room before
        (gap ++ (writeText name ++ (layout.colon ++ (value.write layout level ++ rest)))) =
      afterField fuel room (setField before name value.reread) rest := by
  obtain ⟨blank, hcolon, hblank⟩ := exists_colon layout
  have hvalue := h layout level fuel room blank rest hblank hfuel hroom hrest
  rw [readFields, skipSpace_append hgap, writeText_eq, skipSpace_cons (c := '"') rfl]
  simp only [readText_written, Option.bind_eq_bind, Option.bind_some, hcolon, List.cons_append,
    skipSpace_cons (c := ':') rfl, hvalue, String.ofList_toList]
  rfl

/-- **Fields** are read back, if the value of each of them is. -/
theorem readFields_write {layout : Layout} {level : Nat} {name : String} {value : Document}
    {fields : List (String × Document)}
    (h : ∀ field ∈ (name, value) :: fields, ReadsBack field.2) {fuel room : Nat}
    {gap gap' : List Char} (hgap : IsGap gap) (hgap' : IsGap gap') (rest : List Char)
    (hfuel : (value.write layout level).length + (writeFields layout level fields).length < fuel)
    (hroom : fieldsDepth ((name, value) :: fields) ≤ room) (before : List (String × Document)) :
    readFields fuel room before (gap ++ (writeText name ++ (layout.colon ++
      (value.write layout level ++ (writeFields layout level fields ++ (gap' ++ '\x7d' :: rest)))))) =
      some (rereadFields before ((name, value) :: fields), rest) := by
  have hvalue : ReadsBack value := h (name, value) List.mem_cons_self
  induction fields generalizing name value fuel gap before with
  | nil =>
    obtain ⟨fuel, rfl⟩ := Nat.exists_eq_succ_of_ne_zero (by omega : fuel ≠ 0)
    rw [readFields_field name hvalue hgap (by omega)
      (fieldsDepth_le_iff.mp hroom _ List.mem_cons_self) (stops_fields layout level [] hgap' rest),
      afterField, writeFields, List.nil_append, skipSpace_append hgap', skipSpace_cons (c := '\x7d') rfl]
    rfl
  | cons next fields ih =>
    obtain ⟨other, more⟩ := next
    obtain ⟨fuel, rfl⟩ := Nat.exists_eq_succ_of_ne_zero (by omega : fuel ≠ 0)
    have hlength : (writeFields layout level ((other, more) :: fields)).length =
        1 + (layout.gap level).length + (writeText other).length + layout.colon.length +
          (more.write layout level).length + (writeFields layout level fields).length := by
      simp only [writeFields, List.length_append, List.length_cons]
      omega
    have hshort : (more.write layout level).length + (writeFields layout level fields).length < fuel := by
      omega
    have hmore := ih (fun d hd => h d (List.mem_cons_of_mem _ hd)) (isGap_gap layout level) hshort
      (fieldsDepth_le_iff.mpr fun d hd =>
        fieldsDepth_le_iff.mp hroom d (List.mem_cons_of_mem _ hd))
      (setField before name value.reread) (h (other, more) (by simp))
    have hwritten : writeFields layout level ((other, more) :: fields) ++ (gap' ++ '\x7d' :: rest) =
        ',' :: (layout.gap level ++ (writeText other ++ (layout.colon ++ (more.write layout level ++
          (writeFields layout level fields ++ (gap' ++ '\x7d' :: rest)))))) := by
      simp only [writeFields, List.cons_append, List.append_assoc]
    rw [readFields_field name hvalue hgap (by omega)
      (fieldsDepth_le_iff.mp hroom _ List.mem_cons_self)
      (stops_fields layout level ((other, more) :: fields) hgap' rest), hwritten, afterField,
      skipSpace_cons (c := ',') rfl]
    exact hmore

theorem readsBack_object {fields : List (String × Document)}
    (h : ∀ field ∈ fields, ReadsBack field.2) : ReadsBack (object fields) := by
  intro layout level fuel room gap rest hgap hfuel hroom hrest
  obtain ⟨fuel, rfl⟩ := exists_succ_of_length (by cases fields <;> simp [write]) hfuel
  have hnonzero : room ≠ 0 := by
    rintro rfl
    exact absurd hroom (by simp [depth])
  cases fields with
  | nil =>
    rw [readValue, skipSpace_append hgap, write]
    simp only [List.cons_append, List.nil_append, skipSpace_cons (c := '\x7b') rfl,
      if_neg hnonzero, skipSpace_cons (c := '\x7d') rfl]
    rfl
  | cons field fields =>
    obtain ⟨name, value⟩ := field
    have hwritten : (object ((name, value) :: fields)).write layout level ++ rest =
        '\x7b' :: (layout.gap (level + 1) ++ (writeText name ++ (layout.colon ++
          (value.write layout (level + 1) ++ (writeFields layout (level + 1) fields ++
            (layout.gap level ++ '\x7d' :: rest)))))) := by
      simp only [write, List.cons_append, List.append_assoc, List.nil_append]
    have hlength : ((object ((name, value) :: fields)).write layout level).length =
        1 + (layout.gap (level + 1)).length + (writeText name).length + layout.colon.length +
          (value.write layout (level + 1)).length +
          (writeFields layout (level + 1) fields).length + (layout.gap level).length + 1 := by
      simp only [write, List.length_append, List.length_cons, List.length_nil]
      omega
    have hshort : (value.write layout (level + 1)).length +
        (writeFields layout (level + 1) fields).length < fuel := by omega
    have hdepth : fieldsDepth ((name, value) :: fields) ≤ room - 1 := by
      rw [depth] at hroom
      omega
    have hfields := readFields_write h isGap_nil (isGap_gap layout level) rest hshort hdepth []
    rw [readValue, skipSpace_append hgap, hwritten, skipSpace_cons (c := '\x7b') rfl]
    simp only [if_neg hnonzero, skipSpace_append (isGap_gap layout (level + 1)), writeText_eq,
      skipSpace_cons (c := '"') rfl]
    rw [List.nil_append, writeText_eq] at hfields
    split
    · rename_i heq
      exact absurd (List.cons.inj heq).1 (by decide)
    · rw [hfields]
      rfl

/-! ### All documents -/

theorem sizeOf_value_lt {fields : List (String × Document)} {field : String × Document}
    (h : field ∈ fields) : sizeOf field.2 < sizeOf fields := by
  have hfield := List.sizeOf_lt_of_mem h
  obtain ⟨name, value⟩ := field
  simp only [Prod.mk.sizeOf_spec] at hfield ⊢
  omega

/-- **Every document** is read back from wherever it is written. -/
theorem readsBack : ∀ d : Document, ReadsBack d
  | null => readsBack_null
  | bool b => readsBack_bool b
  | int n => readsBack_int n
  | real x => readsBack_real x
  | text s => readsBack_text s
  | moment m => readsBack_moment m
  | list items => readsBack_list fun d _ => readsBack d
  | object fields => readsBack_object fun field h =>
    have := sizeOf_value_lt h
    readsBack field.2

/-! ### Integers of 64 bits -/

theorem fieldsIntsFit_setField {fields : List (String × Document)} {name : String}
    {value : Document} (h : fieldsIntsFit fields = true) (hvalue : value.intsFit = true) :
    fieldsIntsFit (setField fields name value) = true := by
  induction fields with
  | nil => simp [setField, fieldsIntsFit, hvalue]
  | cons field fields ih =>
    obtain ⟨other, old⟩ := field
    rw [fieldsIntsFit, Bool.and_eq_true] at h
    rw [setField]
    split
    · simp [fieldsIntsFit, hvalue, h.2]
    · simp [fieldsIntsFit, h.1, ih h.2]

mutual

theorem intsFit_reread : ∀ {d : Document}, d.intsFit = true → d.reread.intsFit = true
  | null, _ | bool _, _ | text _, _ | moment _, _ => rfl
  | int _, h => h
  | real x, _ => by
    rw [reread]
    split <;> rfl
  | list items, h => by
    rw [reread, intsFit]
    exact itemsIntsFit_rereadItems h
  | object fields, h => by
    rw [reread, intsFit]
    exact fieldsIntsFit_rereadFields rfl h

theorem itemsIntsFit_rereadItems : ∀ {items : List Document}, itemsIntsFit items = true →
    itemsIntsFit (rereadItems items) = true
  | [], _ => rfl
  | item :: items, h => by
    rw [itemsIntsFit, Bool.and_eq_true] at h
    rw [rereadItems, itemsIntsFit, intsFit_reread h.1, itemsIntsFit_rereadItems h.2, Bool.and_self]

theorem fieldsIntsFit_rereadFields : ∀ {fields before : List (String × Document)},
    fieldsIntsFit before = true → fieldsIntsFit fields = true →
      fieldsIntsFit (rereadFields before fields) = true
  | [], _, hbefore, _ => hbefore
  | (_, value) :: fields, _, hbefore, h => by
    rw [fieldsIntsFit, Bool.and_eq_true] at h
    rw [rereadFields]
    exact fieldsIntsFit_rereadFields (fieldsIntsFit_setField hbefore (intsFit_reread h.1)) h.2

end

mutual

/-- Integers of 64 bits stay as they are. -/
theorem narrow?_of_intsFit : ∀ {d : Document}, d.intsFit = true → narrow? d = some d
  | null, _ | bool _, _ | real _, _ | text _, _ | moment _, _ => rfl
  | int n, h => by
    rw [intsFit, Bool.not_eq_true'] at h
    simp [narrow?, narrowInt?, h]
  | list items, h => by
    rw [narrow?, narrowItems?_of_intsFit h]
    rfl
  | object fields, h => by
    rw [narrow?, narrowFields?_of_intsFit h]
    rfl

theorem narrowItems?_of_intsFit : ∀ {items : List Document}, itemsIntsFit items = true →
    narrowItems? items = some items
  | [], _ => rfl
  | item :: items, h => by
    rw [itemsIntsFit, Bool.and_eq_true] at h
    simp [narrowItems?, narrow?_of_intsFit h.1, narrowItems?_of_intsFit h.2]

theorem narrowFields?_of_intsFit : ∀ {fields : List (String × Document)},
    fieldsIntsFit fields = true → narrowFields? fields = some fields
  | [], _ => rfl
  | (_, value) :: fields, h => by
    rw [fieldsIntsFit, Bool.and_eq_true] at h
    simp [narrowFields?, narrow?_of_intsFit h.1, narrowFields?_of_intsFit h.2]

end

/-- **What is written is read**, in either layout. -/
theorem read?_write {d : Document} (h : d.isWritable = true) (layout : Layout) :
    read? (.ofList (d.write layout 0)) = some d.reread := by
  obtain ⟨hints, hdepth⟩ := isWritable_iff.mp h
  have hroom : d.depth ≤ readingLimit := Nat.le_trans hdepth (by decide)
  have hread := readsBack d layout 0 (2 * (d.write layout 0).length + 1) readingLimit [] []
    isGap_nil (by omega) hroom (by rintro c ⟨⟩)
  rw [List.nil_append, List.append_nil] at hread
  have hexact : readExact? (.ofList (d.write layout 0)) = some d.reread := by
    rw [readExact?, String.toList_ofList]
    simp only [hread, Option.bind_eq_bind, Option.bind_some]
    rfl
  rw [read?, hexact, Option.bind_some, narrow?_of_intsFit (intsFit_reread hints)]

theorem read?_indented {d : Document} (h : d.isWritable = true) :
    read? d.indented = some d.reread :=
  read?_write h .indented

theorem read?_compact {d : Document} (h : d.isWritable = true) :
    read? d.compact = some d.reread :=
  read?_write h .line

end SheetCommand.Document
