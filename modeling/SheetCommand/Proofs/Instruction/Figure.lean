import SheetCommand.Instruction.Grammar
import SheetCommand.Proofs.Instruction.Acceptance
import SheetCommand.Proofs.Number.Whole
import SheetCommand.Proofs.Text.Whole

/-!
# Figures — numbers as they are written in an instruction

A figure is a number written in digits of any script, plain or in groups of three, with an optional
sign and an optional fraction; these are the texts that the filter's phrase spells for its number
(`spells_numeral_iff`), and the number is the one nearest to what the digits say
(`Figure.decimal?_eq`). In a text a figure ends where the text no longer goes on as a word or a
number, and there is only one place where it can (`Figure.unique`).
-/

namespace SheetCommand

open Text

/-! ### Digits and groups of digits -/

/-- Some digits of any script. -/
structure IsDigits (text : List Char) : Prop where
  ne_nil : text ≠ []
  digits : ∀ c ∈ text, isDigit c = true

/-- Between one and three digits, then groups of three with a comma in front of each. -/
def IsGrouped (text : List Char) : Prop :=
  ∃ lead groups, (IsDigits lead ∧ lead.length ≤ 3) ∧ groups ≠ [] ∧
    (∀ group ∈ groups, IsDigits group ∧ group.length = 3) ∧
    text = lead ++ (groups.map (',' :: ·)).flatten

/-- A number as it is written in an instruction. -/
@[ext]
structure Figure where
  negative : Bool
  whole : List Char
  fraction : List Char
  isWhole : IsDigits whole ∨ IsGrouped whole
  isFraction : ∀ c ∈ fraction, isDigit c = true

namespace Figure

def chars (f : Figure) : List Char := Numeral.numeral f.negative f.whole f.fraction

/-- The digits without the commas between them. -/
def digits (f : Figure) : List Nat := (f.whole ++ f.fraction).filterMap digitValue?

/-- The number nearest to what the digits say. -/
def number (f : Figure) : Binary64 :=
  .ofRatio f.negative (digitsValue f.digits) (10 ^ f.fraction.length)

end Figure

/-! ### What goes on -/

/-- Whether a text begins with a word character, or with a point or a comma and a digit: then it
goes on with what stands in front of it, as a word or as a number. -/
def goesOn : List Char → Bool
  | [] => false
  | c :: rest => isWordChar c || ((c == '.' || c == ',') && rest.head?.any isDigit)

/-- A text that goes on at each of its characters. -/
def GoesThrough : List Char → Prop
  | [] => True
  | c :: rest => goesOn (c :: rest) = true ∧ GoesThrough rest

/-- The start of a text, up to where it no longer goes on. -/
def goingPart : List Char → List Char
  | [] => []
  | c :: rest => if goesOn (c :: rest) then c :: goingPart rest else []

variable {text other after after' : List Char} {c : Char}

theorem goesOn_append (h : goesOn text = true) (other : List Char) :
    goesOn (text ++ other) = true := by
  cases text with
  | nil => cases h
  | cons c text =>
    simp only [goesOn, Bool.or_eq_true, Bool.and_eq_true, List.cons_append] at h ⊢
    refine h.imp_right (And.imp_right fun hd => ?_)
    cases text with
    | nil => cases hd
    | cons d text => exact hd

theorem GoesThrough.append (h : GoesThrough text) (h' : GoesThrough other) :
    GoesThrough (text ++ other) := by
  induction text with
  | nil => exact h'
  | cons c text ih => exact ⟨goesOn_append h.1 other, ih h.2⟩

/-- A text that goes on up to its end is the part that goes on of any text which it begins. -/
theorem goingPart_append (h : GoesThrough text) (hafter : goesOn after = false) :
    goingPart (text ++ after) = text := by
  induction text with
  | nil =>
    cases after with
    | nil => rfl
    | cons c after => exact if_neg (by simp [hafter])
  | cons c text ih =>
    rw [List.cons_append, goingPart, ← List.cons_append, if_pos (goesOn_append h.1 after), ih h.2]

theorem goesThrough_of_digits (h : ∀ c ∈ text, isDigit c = true) : GoesThrough text := by
  induction text with
  | nil => trivial
  | cons c text ih =>
    obtain ⟨hc, htext⟩ := List.forall_mem_cons.mp h
    exact ⟨by simp [goesOn, isWordChar_of_isDigit hc], ih htext⟩

/-- Digits behind a mark. -/
theorem IsDigits.goesThrough_cons (h : IsDigits text) (hc : c = '.' ∨ c = ',') :
    GoesThrough (c :: text) := by
  refine ⟨?_, goesThrough_of_digits h.digits⟩
  obtain ⟨d, rest, rfl⟩ := List.exists_cons_of_ne_nil h.ne_nil
  simp [goesOn, hc, h.digits d]

theorem IsGrouped.goesThrough (h : IsGrouped text) : GoesThrough text := by
  obtain ⟨lead, groups, ⟨hlead, -⟩, -, hgroups, rfl⟩ := h
  refine (goesThrough_of_digits hlead.digits).append ?_
  clear hlead
  induction groups with
  | nil => trivial
  | cons group groups ih =>
    obtain ⟨hgroup, hgroups⟩ := List.forall_mem_cons.mp hgroups
    exact (hgroup.1.goesThrough_cons (.inr rfl)).append (ih hgroups)

theorem goesThrough_pointed (h : ∀ c ∈ text, isDigit c = true) :
    GoesThrough (Numeral.pointed text) := by
  cases text with
  | nil => trivial
  | cons c digits => exact IsDigits.goesThrough_cons ⟨by simp, h⟩ (.inl rfl)

/-! ### One figure -/

theorem IsDigits.exists_cons (h : IsDigits text) :
    ∃ c rest, text = c :: rest ∧ isDigit c = true := by
  obtain ⟨c, rest, rfl⟩ := List.exists_cons_of_ne_nil h.ne_nil
  exact ⟨c, rest, rfl, h.digits c (by simp)⟩

theorem ne_of_isDigit {mark : Char} (h : isDigit c = true) (hmark : isDigit mark = false) :
    c ≠ mark := by
  rintro rfl
  rw [h] at hmark
  cases hmark

namespace Figure

variable {f g : Figure}

theorem exists_cons_whole (f : Figure) : ∃ c rest, f.whole = c :: rest ∧ isDigit c = true := by
  rcases f.isWhole with h | ⟨lead, groups, ⟨h, -⟩, -, -, hwhole⟩
  · exact h.exists_cons
  · obtain ⟨c, rest, rfl, hc⟩ := h.exists_cons
    exact ⟨c, _, hwhole, hc⟩

/-- In front of the decimal point stand digits and commas. -/
theorem mem_whole (f : Figure) : ∀ c ∈ f.whole, isDigit c = true ∨ c = ',' := by
  rcases f.isWhole with h | ⟨lead, groups, ⟨hlead, -⟩, -, hgroups, hwhole⟩
  · exact fun c hc => .inl (h.digits c hc)
  · rw [hwhole, List.forall_mem_append]
    refine ⟨fun c hc => .inl (hlead.digits c hc), fun c hc => ?_⟩
    obtain ⟨part, hpart, hc⟩ := List.mem_flatten.mp hc
    obtain ⟨group, hgroup, rfl⟩ := List.mem_map.mp hpart
    exact (List.mem_cons.mp hc).symm.imp_left ((hgroups group hgroup).1.digits c)

/-- The figure without its sign. -/
def body (f : Figure) : List Char := f.whole ++ Numeral.pointed f.fraction

theorem chars_eq (f : Figure) : f.chars = (if f.negative then ['-'] else []) ++ f.body := rfl

theorem goesThrough_body (f : Figure) : GoesThrough f.body :=
  (f.isWhole.elim (fun h => goesThrough_of_digits h.digits) IsGrouped.goesThrough).append
    (goesThrough_pointed f.isFraction)

theorem takeWhile_body (f : Figure) : f.body.takeWhile (· ≠ '.') = f.whole := by
  have hwhole : ∀ c ∈ f.whole, decide (c ≠ '.') = true := fun c hc => by
    rcases f.mem_whole c hc with hc | rfl
    · exact decide_eq_true (ne_of_isDigit hc (by decide))
    · decide
  rw [body, List.takeWhile_append_of_pos hwhole]
  cases f.fraction <;> simp [Numeral.pointed]

theorem body_inj (h : f.body = g.body) : f.whole = g.whole ∧ f.fraction = g.fraction := by
  have hwhole : f.whole = g.whole := by rw [← takeWhile_body, h, takeWhile_body]
  rw [body, body, hwhole, List.append_cancel_left_eq] at h
  refine ⟨hwhole, ?_⟩
  cases hf : f.fraction <;> cases hg : g.fraction <;> simp_all [Numeral.pointed]

/-- **A text begins with one figure at most** that ends where the text no longer goes on. -/
theorem unique (h : f.chars ++ after = g.chars ++ after') (hafter : goesOn after = false)
    (hafter' : goesOn after' = false) : f = g := by
  have hnegative : f.negative = g.negative := by
    obtain ⟨c, rest, hf, hc⟩ := f.exists_cons_whole
    obtain ⟨d, rest', hg, hd⟩ := g.exists_cons_whole
    have hminus : ∀ {e : Char}, isDigit e = true → e ≠ '-' :=
      fun he => ne_of_isDigit he (by decide)
    cases hfn : f.negative <;> cases hgn : g.negative <;>
      simp_all [chars_eq, body, hminus hc, (hminus hd).symm]
  have hbody : f.body ++ after = g.body ++ after' := by
    rwa [chars_eq, chars_eq, hnegative, List.append_assoc, List.append_assoc,
      List.append_cancel_left_eq] at h
  have hpart := congrArg goingPart hbody
  rw [goingPart_append f.goesThrough_body hafter, goingPart_append g.goesThrough_body hafter']
    at hpart
  exact Figure.ext hnegative (body_inj hpart).1 (body_inj hpart).2

end Figure

/-! ### What the phrase spells -/

namespace Instruction

open Pattern

theorem spells_digits_iff {greedy : Bool} :
    (oneOrMore greedy digit : Phrase).Spells text ↔ IsDigits text := by
  constructor
  · rintro ⟨_, b, ⟨c, hc, rfl⟩, hb, rfl⟩
    exact ⟨List.cons_ne_nil c b, List.forall_mem_cons.mpr ⟨hc, spells_many_one_iff.mp hb⟩⟩
  · intro h
    obtain ⟨c, rest, rfl, hc⟩ := h.exists_cons
    exact ⟨[c], rest, ⟨c, hc, rfl⟩,
      spells_many_one_iff.mpr (List.forall_mem_cons.mp h.digits).2, rfl⟩

theorem spells_fewDigits_iff :
    (fewDigits : Phrase).Spells text ↔ IsDigits text ∧ text.length ≤ 3 := by
  constructor
  · intro h
    refine ⟨⟨?_, Spells.forall (p := fewDigits)
      ⟨fun _ h => h, ⟨fun _ h => h, fun _ h => h, trivial⟩, trivial⟩ h⟩, ?_⟩
    all_goals
      obtain ⟨a, b, ⟨c, -, rfl⟩, ⟨a', b', ⟨d, -, rfl⟩, ⟨e, -, rfl⟩ | rfl, rfl⟩ | rfl, rfl⟩ := h <;>
        simp
  · rintro ⟨⟨hne, hdigits⟩, hlength⟩
    match text, hne, hdigits, hlength with
    | [c], _, h, _ => exact ⟨[c], [], ⟨c, h c (by simp), rfl⟩, .inr rfl, rfl⟩
    | [c, d], _, h, _ =>
      exact ⟨[c], [d], ⟨c, h c (by simp), rfl⟩,
        .inl ⟨[d], [], ⟨d, h d (by simp), rfl⟩, .inr rfl, rfl⟩, rfl⟩
    | [c, d, e], _, h, _ =>
      exact ⟨[c], [d, e], ⟨c, h c (by simp), rfl⟩,
        .inl ⟨[d], [e], ⟨d, h d (by simp), rfl⟩, .inl ⟨e, h e (by simp), rfl⟩, rfl⟩, rfl⟩

theorem spells_times_digit_iff {n : Nat} : (times n digit : Phrase).Spells text ↔
    (∀ c ∈ text, isDigit c = true) ∧ text.length = n := by
  induction n generalizing text with
  | zero =>
    refine ⟨?_, fun h => List.length_eq_zero_iff.mp h.2⟩
    rintro rfl
    exact ⟨by simp, rfl⟩
  | succ n ih =>
    rw [times, List.replicate_succ, spells_all_cons_iff]
    constructor
    · rintro ⟨_, b, ⟨c, hc, rfl⟩, hb, rfl⟩
      obtain ⟨hdigits, hlength⟩ := ih.mp hb
      exact ⟨List.forall_mem_cons.mpr ⟨hc, hdigits⟩, congrArg (· + 1) hlength⟩
    · rintro ⟨hdigits, hlength⟩
      obtain ⟨c, rest, rfl⟩ := List.exists_cons_of_length_eq_add_one hlength
      obtain ⟨hc, hrest⟩ := List.forall_mem_cons.mp hdigits
      exact ⟨[c], rest, ⟨c, hc, rfl⟩, ih.mpr ⟨hrest, Nat.succ.inj hlength⟩, rfl⟩

/-- A comma and three digits. -/
def group : Phrase := char ',' ++ times 3 digit

theorem spells_group_iff : group.Spells text ↔
    ∃ digits, (IsDigits digits ∧ digits.length = 3) ∧ text = ',' :: digits := by
  constructor
  · rintro ⟨a, b, ha, hb, rfl⟩
    obtain ⟨hdigits, hlength⟩ := spells_times_digit_iff.mp hb
    rw [spells_char (by decide) ha]
    exact ⟨b, ⟨⟨List.ne_nil_of_length_eq_add_one hlength, hdigits⟩, hlength⟩, rfl⟩
  · rintro ⟨digits, ⟨⟨-, hdigits⟩, hlength⟩, rfl⟩
    exact ⟨[','], digits, spells_char_self (by decide),
      spells_times_digit_iff.mpr ⟨hdigits, hlength⟩, rfl⟩

/-- Texts that all come from something of a kind. -/
theorem exists_map_eq {α β : Type} {P : α → Prop} {f : α → β} {bs : List β}
    (h : ∀ b ∈ bs, ∃ a, P a ∧ b = f a) :
    ∃ as : List α, (∀ a ∈ as, P a) ∧ bs = as.map f := by
  induction bs with
  | nil => exact ⟨[], by simp, rfl⟩
  | cons b bs ih =>
    obtain ⟨⟨a, ha, rfl⟩, hbs⟩ := List.forall_mem_cons.mp h
    obtain ⟨as, has, rfl⟩ := ih hbs
    exact ⟨a :: as, List.forall_mem_cons.mpr ⟨ha, has⟩, rfl⟩

theorem spells_groups_iff : (oneOrMore true group).Spells text ↔
    ∃ groups, groups ≠ [] ∧ (∀ g ∈ groups, IsDigits g ∧ g.length = 3) ∧
      text = (groups.map (',' :: ·)).flatten := by
  constructor
  · rintro ⟨a, b, ha, ⟨parts, hparts, rfl⟩, rfl⟩
    obtain ⟨first, hfirst, rfl⟩ := spells_group_iff.mp ha
    obtain ⟨groups, hgroups, rfl⟩ := exists_map_eq fun a ha => spells_group_iff.mp (hparts a ha)
    exact ⟨first :: groups, by simp, List.forall_mem_cons.mpr ⟨hfirst, hgroups⟩, rfl⟩
  · rintro ⟨groups, hne, hgroups, rfl⟩
    obtain ⟨first, groups, rfl⟩ := List.exists_cons_of_ne_nil hne
    obtain ⟨hfirst, hgroups⟩ := List.forall_mem_cons.mp hgroups
    refine ⟨',' :: first, _, spells_group_iff.mpr ⟨first, hfirst, rfl⟩,
      ⟨groups.map (',' :: ·), ?_, rfl⟩, rfl⟩
    intro a ha
    obtain ⟨digits, hmem, rfl⟩ := List.mem_map.mp ha
    exact spells_group_iff.mpr ⟨digits, hgroups digits hmem, rfl⟩

/-- Digits, perhaps in groups. -/
def whole : Phrase :=
  choice (fewDigits ++ oneOrMore true (char ',' ++ times 3 digit)) (oneOrMore true digit)

theorem spells_whole_iff : whole.Spells text ↔ IsDigits text ∨ IsGrouped text := by
  rw [or_comm]
  refine or_congr ⟨?_, ?_⟩ spells_digits_iff
  · rintro ⟨lead, b, hlead, hb, rfl⟩
    obtain ⟨groups, hne, hgroups, rfl⟩ := spells_groups_iff.mp hb
    exact ⟨lead, groups, spells_fewDigits_iff.mp hlead, hne, hgroups, rfl⟩
  · rintro ⟨lead, groups, hlead, hne, hgroups, rfl⟩
    exact ⟨lead, _, spells_fewDigits_iff.mpr hlead,
      spells_groups_iff.mpr ⟨groups, hne, hgroups, rfl⟩, rfl⟩

theorem spells_fraction_iff : (opt (char '.' ++ oneOrMore true digit) : Phrase).Spells text ↔
    ∃ fraction, (∀ c ∈ fraction, isDigit c = true) ∧ text = Numeral.pointed fraction := by
  constructor
  · rintro (⟨a, digits, ha, hdigits, rfl⟩ | rfl)
    · obtain ⟨hne, hdigits⟩ := spells_digits_iff.mp hdigits
      obtain ⟨d, digits, rfl⟩ := List.exists_cons_of_ne_nil hne
      exact ⟨d :: digits, hdigits, by rw [spells_char (by decide) ha]; rfl⟩
    · exact ⟨[], by simp, rfl⟩
  · rintro ⟨fraction, hdigits, rfl⟩
    cases fraction with
    | nil => exact .inr rfl
    | cons d digits =>
      exact .inl ⟨['.'], d :: digits, spells_char_self (by decide),
        spells_digits_iff.mpr ⟨by simp, hdigits⟩, rfl⟩

/-- **What the phrase spells for a number** are the figures. -/
theorem spells_numeral_iff : (numeral : Phrase).Spells text ↔ ∃ f : Figure, text = f.chars := by
  constructor
  · rintro ⟨sign, rest, hsign, ⟨a, b, ha, hb, rfl⟩, rfl⟩
    obtain ⟨fraction, hfraction, rfl⟩ := spells_fraction_iff.mp hb
    have hwhole := spells_whole_iff.mp ha
    rcases hsign with hsign | rfl
    · exact ⟨⟨true, a, fraction, hwhole, hfraction⟩, by rw [spells_char (by decide) hsign]; rfl⟩
    · exact ⟨⟨false, a, fraction, hwhole, hfraction⟩, rfl⟩
  · rintro ⟨⟨negative, whole, fraction, hwhole, hfraction⟩, rfl⟩
    refine ⟨if negative then ['-'] else [], _, ?_, ⟨whole, _, spells_whole_iff.mpr hwhole,
      spells_fraction_iff.mpr ⟨fraction, hfraction, rfl⟩, rfl⟩, rfl⟩
    cases negative with
    | true => exact .inl (spells_char_self (by decide))
    | false => exact .inr rfl

end Instruction

/-! ### The number of a figure -/

namespace Text

theorem digitValue?_ascii (h : isDigit c = true) : digitValue? (ascii c) = digitValue? c := by
  obtain ⟨d, hd⟩ := Option.isSome_iff_exists.mp h
  unfold ascii
  split
  · rfl
  · rw [hd]
    exact digitValue?_digitChar (lt_ten_of_digitValue? hd)

theorem takeDigits_map_ascii (h : ∀ c ∈ text, isDigit c = true) :
    (takeDigits (text.map ascii)).1 = text.filterMap digitValue? := by
  induction text with
  | nil => rfl
  | cons c text ih =>
    obtain ⟨hc, htext⟩ := List.forall_mem_cons.mp h
    obtain ⟨d, hd⟩ := Option.isSome_iff_exists.mp hc
    rw [List.map_cons, takeDigits_cons_of_some ((digitValue?_ascii hc).trans hd), ih htext,
      List.filterMap_cons_some hd]

end Text

namespace Figure

theorem filter_chars (f : Figure) : f.chars.filter (· ≠ ',') =
    Numeral.numeral f.negative (f.whole.filter (· ≠ ',')) f.fraction := by
  have hfraction : (Numeral.pointed f.fraction).filter (· ≠ ',') = Numeral.pointed f.fraction := by
    refine List.filter_eq_self.mpr fun c hc => decide_eq_true ?_
    cases hf : f.fraction with
    | nil => rw [hf] at hc; cases hc
    | cons d digits =>
      rw [hf] at hc
      rcases List.mem_cons.mp hc with rfl | hc
      · decide
      · exact ne_of_isDigit (f.isFraction c (hf ▸ hc)) (by decide)
  rw [chars, Numeral.numeral, List.filter_append, List.filter_append, hfraction]
  cases f.negative <;> rfl

theorem isDigits_filter_whole (f : Figure) : IsDigits (f.whole.filter (· ≠ ',')) := by
  constructor
  · obtain ⟨c, rest, hwhole, hc⟩ := f.exists_cons_whole
    have hcomma : c ≠ ',' := ne_of_isDigit hc (by decide)
    simp [hwhole, hcomma]
  · intro c hc
    rw [List.mem_filter, decide_eq_true_eq] at hc
    exact (f.mem_whole c hc.1).resolve_right hc.2

/-- **A figure is read** as the number nearest to what its digits say. -/
theorem decimal?_eq (f : Figure) :
    Numeral.decimal? (f.chars.filter (· ≠ ',')) = some f.number := by
  obtain ⟨hne, hdigits⟩ := f.isDigits_filter_whole
  have hcommas : (f.whole.filter (· ≠ ',')).filterMap digitValue? =
      f.whole.filterMap digitValue? := by
    rw [List.filterMap_filter]
    refine congrArg (fun g => f.whole.filterMap g) (funext fun c => ?_)
    by_cases hc : c = ','
    · subst hc; rfl
    · simp [hc]
  rw [filter_chars, Numeral.decimal?_numeral hne hdigits f.isFraction,
    takeDigits_map_ascii (List.forall_mem_append.mpr ⟨hdigits, f.isFraction⟩),
    List.filterMap_append, hcommas, ← List.filterMap_append, Decimal.toBinary64_eq_ofRatio]
  simp [number, digits]

end Figure

end SheetCommand
