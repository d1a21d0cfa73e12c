import SheetCommand.Document.Printer
import SheetCommand.Document.Reader
import SheetCommand.Proofs.Number.Shortest
import SheetCommand.Proofs.Number.Whole

/-!
# Document — written numbers

A number is written with a point or a power of ten, an integer with neither, and both are read back
as what they were (`isNumeralOf_json`, `isNumeralOf_writeInt`). In between stand the parts of a
numeral: digits before the point and after it, and a power of ten. Whatever the layout of a decimal,
its parts have its value (`exists_parts`).
-/

namespace SheetCommand

/-! ### Digits -/

namespace Text

/-- The number that digits spell. -/
def numberOf (digits : List Char) : Nat := digitsValue (takeDigits digits).1

theorem exists_takeDigits {text : List Char} (h : ∀ c ∈ text, isAsciiDigit c = true) :
    ∃ digits, takeDigits text = (digits, []) ∧ digits.length = text.length := by
  induction text with
  | nil => exact ⟨[], rfl, rfl⟩
  | cons c text ih =>
    obtain ⟨hc, htext⟩ := List.forall_mem_cons.mp h
    obtain ⟨digits, hdigits, hlength⟩ := ih htext
    have hvalue := digitValue?_of_isAsciiDigit hc
    exact ⟨_, by rw [takeDigits_cons_of_some hvalue, hdigits], by simp [hlength]⟩

theorem digitsValue_append (a b : List Nat) :
    digitsValue (a ++ b) = digitsValue a * 10 ^ b.length + digitsValue b := by
  induction b using List.reverseRecOn with
  | nil => simp [digitsValue_nil]
  | append_singleton b d ih =>
    rw [← List.append_assoc, digitsValue_append_one, digitsValue_append_one, ih,
      List.length_append, List.length_singleton, Nat.pow_succ]
    ring

theorem numberOf_append {a b : List Char} (ha : ∀ c ∈ a, isAsciiDigit c = true)
    (hb : ∀ c ∈ b, isAsciiDigit c = true) :
    numberOf (a ++ b) = numberOf a * 10 ^ b.length + numberOf b := by
  obtain ⟨front, hfront, -⟩ := exists_takeDigits ha
  obtain ⟨back, hback, hlength⟩ := exists_takeDigits hb
  rw [numberOf, numberOf, numberOf, takeDigits_append hfront, hfront, hback, digitsValue_append,
    hlength]

/-- Digits that do not start with a zero are worth at least a digit and as many zeros. -/
theorem ten_pow_le_numberOf {c : Char} {rest : List Char} (hc : isAsciiDigit c = true)
    (hrest : ∀ d ∈ rest, isAsciiDigit d = true) (hzero : c ≠ '0') :
    10 ^ rest.length ≤ numberOf (c :: rest) := by
  have hone : 1 ≤ numberOf [c] := by
    have hlow := (toNat_of_isAsciiDigit hc).1
    have hne : c.toNat ≠ '0'.toNat := mt Char.toNat_inj.mp hzero
    have hnumber : numberOf [c] = c.toNat - 48 := by
      rw [numberOf, takeDigits_cons_of_some (digitValue?_of_isAsciiDigit hc)]
      exact Nat.zero_add _
    rw [hnumber]
    exact Nat.sub_pos_of_lt (Nat.lt_of_le_of_ne hlow hne.symm)
  calc 10 ^ rest.length ≤ numberOf [c] * 10 ^ rest.length := Nat.le_mul_of_pos_left _ hone
    _ ≤ numberOf [c] * 10 ^ rest.length + numberOf rest := Nat.le_add_right ..
    _ = numberOf (c :: rest) := (numberOf_append (by simpa using hc) hrest).symm

theorem numberOf_decimal (n : Nat) : numberOf (decimal n) = n := by
  obtain ⟨digits, htake, hvalue⟩ := exists_takeDigits_decimal n
  rw [numberOf, htake, hvalue]

theorem isAsciiDigit_of_mem_zero : ∀ c ∈ ['0'], isAsciiDigit c = true :=
  List.forall_mem_singleton.mpr rfl

theorem isAsciiDigit_of_mem_replicate {k : Nat} :
    ∀ c ∈ List.replicate k '0', isAsciiDigit c = true := by
  intro c hc
  rw [List.eq_of_mem_replicate hc]
  rfl

theorem numberOf_replicate (k : Nat) : numberOf (List.replicate k '0') = 0 := by
  induction k with
  | zero => rfl
  | succ k ih =>
    rw [List.replicate_succ',
      numberOf_append isAsciiDigit_of_mem_replicate isAsciiDigit_of_mem_zero, ih]
    rfl

/-- A number other than zero is written without a zero in front. -/
theorem head?_decimal {n : Nat} (h : n ≠ 0) : (decimal n).head? ≠ some '0' := by
  induction n using Nat.strongRecOn with
  | ind n ih =>
    by_cases hn : n < 10
    · rw [decimal, Nat.toDigits_of_lt_base hn]
      intro e
      have hdigit : ∀ d : Fin 10, (d : Nat).digitChar = '0' → (d : Nat) = 0 := by decide
      exact h (hdigit ⟨n, hn⟩ (Option.some.inj e))
    · have hsplit : decimal n = decimal (n / 10) ++ [(n % 10).digitChar] :=
        Nat.toDigits_of_base_le (by decide) (by omega)
      rw [hsplit, List.head?_append_of_ne_nil _ (decimal_ne_nil _)]
      exact ih (n / 10) (by omega) (by omega)

end Text

namespace Document

open Text (numberOf isAsciiDigit)

/-! ### The sign of a numeral -/

/-- What a numeral denotes by its sign and what follows that. -/
def ofBody? (negative : Bool) (body : List Char) : Option Document := do
  let (whole, rest) := Numeral.spanDigits body
  if !isWholePart whole then none
  else if rest.isEmpty then
    some (int (Binary64.signed negative (numberOf whole)))
  else
    let (fraction, power) ← match rest with
      | '.' :: rest =>
        let (fraction, power) := Numeral.spanDigits rest
        if fraction.isEmpty then none else some (fraction, power)
      | _ => some ([], rest)
    let e ← Numeral.exponent? power
    let x := Decimal.toBinary64 negative ⟨numberOf (whole ++ fraction), e - fraction.length⟩
    if x.isFinite then some (real x) else none

theorem ofNumeral?_signed (negative : Bool) {body : List Char}
    (h : ∀ c ∈ body.head?, isAsciiDigit c = true) :
    ofNumeral? ((if negative then ['-'] else []) ++ body) = ofBody? negative body := by
  cases negative with
  | true => rfl
  | false =>
    rw [if_neg Bool.false_ne_true, List.nil_append]
    cases body with
    | nil => rfl
    | cons c rest =>
      have hc : isAsciiDigit c = true := h c rfl
      unfold ofNumeral?
      split
      rename_i sign hsign
      split at hsign
      · rename_i heq
        obtain rfl := (List.cons.inj heq).1
        cases hc
      · cases hsign
        rfl

/-! ### Numerals with a point or a power of ten -/

theorem isWholePart_of_head? {whole : List Char} (hne : whole ≠ []) (h : whole.head? ≠ some '0') :
    isWholePart whole = true := by
  unfold isWholePart
  split
  · exact absurd rfl hne
  · rfl
  · exact bne_iff_ne.mpr h

theorem isNumberChar_of_isAsciiDigit {c : Char} (h : isAsciiDigit c = true) :
    isNumberChar c = true := by
  simp [isNumberChar, h]

/-- The parts of the numeral of a real number. -/
structure Parts where
  whole : List Char
  fraction : List Char
  power : List Char
  exponent : Int
  isWhole : isWholePart whole = true
  whole_digits : ∀ c ∈ whole, isAsciiDigit c = true
  fraction_digits : ∀ c ∈ fraction, isAsciiDigit c = true
  power_means : Numeral.exponent? power = some exponent
  power_head : ∀ c ∈ power.head?, c = 'e'
  power_chars : ∀ c ∈ power, isNumberChar c = true
  isReal : fraction ≠ [] ∨ power ≠ []

namespace Parts

def text (p : Parts) (negative : Bool) : List Char :=
  (if negative then ['-'] else []) ++ (p.whole ++ (Numeral.pointed p.fraction ++ p.power))

/-- The text without its sign. -/
def body (p : Parts) : List Char := p.whole ++ (Numeral.pointed p.fraction ++ p.power)

/-- The decimal that the parts denote. -/
def decimal (p : Parts) : Decimal :=
  ⟨numberOf (p.whole ++ p.fraction), p.exponent - p.fraction.length⟩

variable (p : Parts)

theorem text_eq (negative : Bool) :
    p.text negative = (if negative then ['-'] else []) ++ p.body := rfl

theorem whole_ne_nil : p.whole ≠ [] := by
  intro h
  have hwhole := p.isWhole
  rw [h] at hwhole
  cases hwhole

theorem power_stops : ∀ c ∈ p.power.head?, isAsciiDigit c = false := by
  intro c hc
  rw [p.power_head c hc]
  rfl

/-- **A numeral with a point or a power of ten** is read by its parts. -/
theorem ofNumeral?_text (negative : Bool)
    (hfinite : (p.decimal.toBinary64 negative).isFinite = true) :
    ofNumeral? (p.text negative) = some (real (p.decimal.toBinary64 negative)) := by
  have hhead : ∀ c ∈ (p.whole ++ (Numeral.pointed p.fraction ++ p.power)).head?,
      isAsciiDigit c = true := by
    rw [List.head?_append_of_ne_nil _ p.whole_ne_nil]
    exact fun c hc => p.whole_digits c (List.mem_of_mem_head? hc)
  have hspan : Numeral.spanDigits (p.whole ++ (Numeral.pointed p.fraction ++ p.power)) =
      (p.whole, Numeral.pointed p.fraction ++ p.power) := by
    refine Numeral.spanDigits_append p.whole_digits ?_
    cases hfraction : p.fraction with
    | nil => exact p.power_stops
    | cons d rest =>
      rintro c ⟨⟩
      rfl
  have hdecimal : (⟨numberOf (p.whole ++ p.fraction), p.exponent - p.fraction.length⟩ : Decimal) =
      p.decimal := rfl
  rw [text, ofNumeral?_signed negative hhead, ofBody?, hspan]
  dsimp only
  rw [p.isWhole, Bool.not_true, if_neg Bool.false_ne_true]
  cases hfraction : p.fraction with
  | nil =>
    obtain ⟨e, rest, hrest⟩ := List.exists_cons_of_ne_nil
      (p.isReal.resolve_left fun h => h hfraction)
    obtain rfl : e = 'e' := p.power_head e (by rw [hrest]; rfl)
    have hmeans := p.power_means
    rw [hrest] at hmeans
    rw [hfraction] at hdecimal
    simp only [Numeral.pointed, List.nil_append, hrest, List.isEmpty_cons, Bool.false_eq_true,
      if_false, hmeans, Option.bind_eq_bind, Option.bind_some, hdecimal, hfinite, if_true]
    rfl
  | cons d rest =>
    have hstop : Numeral.spanDigits (d :: (rest ++ p.power)) = (d :: rest, p.power) :=
      Numeral.spanDigits_append (hfraction ▸ p.fraction_digits) p.power_stops
    rw [hfraction] at hdecimal
    simp only [Numeral.pointed, List.cons_append, List.isEmpty_cons, Bool.false_eq_true, if_false,
      hstop, p.power_means, Option.bind_eq_bind, Option.bind_some, hdecimal, hfinite, if_true]

theorem isNumberChar_of_mem_text {negative : Bool} :
    ∀ c ∈ p.text negative, isNumberChar c = true := by
  intro c hc
  rw [text] at hc
  simp only [List.mem_append] at hc
  rcases hc with hc | hc | hc | hc
  · cases negative with
    | false => cases hc
    | true => rw [List.mem_singleton.mp hc]; rfl
  · exact isNumberChar_of_isAsciiDigit (p.whole_digits c hc)
  · cases hfraction : p.fraction with
    | nil => rw [hfraction] at hc; cases hc
    | cons d rest =>
      rw [hfraction] at hc
      rcases List.mem_cons.mp hc with rfl | hc
      · rfl
      · exact isNumberChar_of_isAsciiDigit (p.fraction_digits c (hfraction ▸ hc))
  · exact p.power_chars c hc

theorem text_ne_nil (negative : Bool) : p.text negative ≠ [] := by
  simp [text, p.whole_ne_nil]

end Parts

/-! ### The layout of numbers in documents -/

def numberLayout : NumberLayout := ⟨-5, 16, true, false⟩

theorem pointed_of_ne_nil {digits : List Char} (h : digits ≠ []) :
    Numeral.pointed digits = '.' :: digits := by
  obtain ⟨c, rest, rfl⟩ := List.exists_cons_of_ne_nil h
  rfl

theorem splitSign_written (n : Int) :
    Numeral.splitSign (Numeral.written n) = (decide (n < 0), Text.decimal n.natAbs) := by
  have h : Numeral.splitSign (Numeral.numeral (decide (n < 0)) (Text.decimal n.natAbs) []) = _ :=
    Numeral.splitSign_numeral (Text.decimal_ne_nil n.natAbs) Text.isAsciiDigit_of_mem_decimal
  simpa [Numeral.numeral, Numeral.pointed, Numeral.written] using h

theorem exponentText_eq (first : Int) :
    numberLayout.exponentText first = 'e' :: Numeral.written first := by
  rw [NumberLayout.exponentText, Numeral.written]
  rfl

theorem exponent?_written (first : Int) :
    Numeral.exponent? ('e' :: Numeral.written first) = some first := by
  have hdigits : (Text.decimal first.natAbs).any (!isAsciiDigit ·) = false := by
    rw [List.any_eq_false]
    intro c hc
    rw [Text.isAsciiDigit_of_mem_decimal c hc]
    exact Bool.false_ne_true
  have hnumber : Text.digitsValue (Text.takeDigits (Text.decimal first.natAbs)).1 = first.natAbs :=
    Text.numberOf_decimal _
  rw [Numeral.exponent?, if_pos (.inl rfl), splitSign_written]
  dsimp only
  rw [if_neg (by simp [hdigits, Text.decimal_ne_nil]), hnumber, Binary64.signed_natAbs]

theorem isNumberChar_of_mem_written {n : Int} : ∀ c ∈ Numeral.written n, isNumberChar c = true := by
  intro c hc
  rcases Numeral.mem_written hc with rfl | hdigit
  · rfl
  · exact isNumberChar_of_isAsciiDigit (Text.isAsciiDigit_of_isDigit hdigit)

/-! ### The parts of each layout -/

/-- The digits of a number other than zero. -/
structure IsSignificant (digits : List Char) : Prop where
  ne_nil : digits ≠ []
  all_digits : ∀ c ∈ digits, isAsciiDigit c = true
  head : digits.head? ≠ some '0'

theorem isSignificant_decimal {n : Nat} (h : n ≠ 0) : IsSignificant (Text.decimal n) :=
  ⟨Text.decimal_ne_nil n, Text.isAsciiDigit_of_mem_decimal, Text.head?_decimal h⟩

/-- The decimal with these digits whose first one has the given exponent. -/
def significand (digits : List Char) (first : Int) : Decimal :=
  ⟨numberOf digits, first + 1 - digits.length⟩

namespace IsSignificant

variable {digits : List Char} {first : Int}

/-- Zeros behind the point, then the digits. -/
theorem exists_parts_behindPoint (hs : IsSignificant digits) (hfirst : first < 0) :
    ∃ p : Parts, p.body = numberLayout.positional digits first ∧
      p.decimal.value = (significand digits first).value := by
  have hzeros := Text.isAsciiDigit_of_mem_replicate (k := (-first - 1).toNat)
  have hfraction : List.replicate (-first - 1).toNat '0' ++ digits ≠ [] := by simp [hs.ne_nil]
  refine ⟨{ whole := ['0'], fraction := List.replicate (-first - 1).toNat '0' ++ digits
            power := [], exponent := 0, isWhole := rfl
            whole_digits := Text.isAsciiDigit_of_mem_zero
            fraction_digits := List.forall_mem_append.mpr ⟨hzeros, hs.all_digits⟩
            power_means := rfl, power_head := by simp, power_chars := by simp
            isReal := .inl hfraction }, ?_, ?_⟩
  · rw [NumberLayout.positional, if_pos hfirst, Parts.body, pointed_of_ne_nil hfraction]
    simp
  · have hsame : numberOf (['0'] ++ (List.replicate (-first - 1).toNat '0' ++ digits)) =
        numberOf digits := by
      rw [← List.append_assoc, ← List.replicate_one, List.replicate_append_replicate,
        Text.numberOf_append Text.isAsciiDigit_of_mem_replicate hs.all_digits,
        Text.numberOf_replicate, Nat.zero_mul, Nat.zero_add]
    have hexponent : (0 : Int) - (List.replicate (-first - 1).toNat '0' ++ digits).length =
        first + 1 - digits.length := by
      rw [List.length_append, List.length_replicate]
      omega
    simp only [Parts.decimal, significand, Decimal.value, hsame, hexponent]

/-- A whole number, with zeros at its end. -/
theorem exists_parts_whole (hs : IsSignificant digits) (hfirst : 0 ≤ first)
    (hwhole : digits.length ≤ first.toNat + 1) :
    ∃ p : Parts, p.body = numberLayout.positional digits first ∧
      p.decimal.value = (significand digits first).value := by
  have hzeros := Text.isAsciiDigit_of_mem_replicate (k := first.toNat + 1 - digits.length)
  have hfront : digits ++ List.replicate (first.toNat + 1 - digits.length) '0' ≠ [] := by
    simp [hs.ne_nil]
  have hboth := List.forall_mem_append.mpr ⟨hs.all_digits, hzeros⟩
  refine ⟨{ whole := digits ++ List.replicate (first.toNat + 1 - digits.length) '0'
            fraction := ['0'], power := [], exponent := 0
            isWhole := isWholePart_of_head? hfront (by
              rw [List.head?_append_of_ne_nil _ hs.ne_nil]
              exact hs.head)
            whole_digits := hboth, fraction_digits := Text.isAsciiDigit_of_mem_zero
            power_means := rfl, power_head := by simp, power_chars := by simp
            isReal := .inl (by simp) }, ?_, ?_⟩
  · rw [NumberLayout.positional, if_neg (not_lt_of_ge hfirst)]
    dsimp only
    rw [if_pos hwhole, Parts.body]
    simp [Numeral.pointed, numberLayout]
  · have hexponent : first + 1 - digits.length = (first.toNat + 1 - digits.length : Nat) := by
      omega
    have hsame : numberOf (digits ++ List.replicate (first.toNat + 1 - digits.length) '0' ++
        ['0']) = numberOf digits * 10 ^ (first.toNat + 1 - digits.length) * 10 := by
      rw [Text.numberOf_append hboth Text.isAsciiDigit_of_mem_zero,
        Text.numberOf_append hs.all_digits hzeros, Text.numberOf_replicate, List.length_replicate]
      rfl
    simp only [Parts.decimal, significand, Decimal.value, hsame, hexponent]
    push_cast
    rw [zpow_natCast]
    norm_num
    ring

/-- The point is among the digits. -/
theorem exists_parts_pointed (hs : IsSignificant digits) (hfirst : 0 ≤ first)
    (hwhole : ¬ digits.length ≤ first.toNat + 1) :
    ∃ p : Parts, p.body = numberLayout.positional digits first ∧
      p.decimal.value = (significand digits first).value := by
  have hdrop : digits.drop (first.toNat + 1) ≠ [] := by
    rw [Ne, List.drop_eq_nil_iff]
    exact hwhole
  have htake : digits.take (first.toNat + 1) ≠ [] := by
    rw [Ne, List.take_eq_nil_iff]
    simp [hs.ne_nil]
  have hhead : (digits.take (first.toNat + 1)).head? ≠ some '0' := by
    rw [List.head?_take, if_neg (by omega)]
    exact hs.head
  refine ⟨{ whole := digits.take (first.toNat + 1), fraction := digits.drop (first.toNat + 1)
            power := [], exponent := 0, isWhole := isWholePart_of_head? htake hhead
            whole_digits := fun c hc => hs.all_digits c (List.mem_of_mem_take hc)
            fraction_digits := fun c hc => hs.all_digits c (List.mem_of_mem_drop hc)
            power_means := rfl, power_head := by simp, power_chars := by simp
            isReal := .inl hdrop }, ?_, ?_⟩
  · rw [NumberLayout.positional, if_neg (not_lt_of_ge hfirst)]
    dsimp only
    rw [if_neg hwhole, Parts.body, pointed_of_ne_nil hdrop]
    simp
  · have hexponent : (0 : Int) - (digits.drop (first.toNat + 1)).length =
        first + 1 - digits.length := by
      rw [List.length_drop]
      omega
    simp only [Parts.decimal, significand, Decimal.value, List.take_append_drop, hexponent]

/-- One digit before the point and a power of ten. -/
theorem exists_parts_scientific (hs : IsSignificant digits) :
    ∃ p : Parts, p.body = numberLayout.scientific digits first ∧
      p.decimal.value = (significand digits first).value := by
  obtain ⟨c, rest, rfl⟩ := List.exists_cons_of_ne_nil hs.ne_nil
  obtain ⟨hc, hrest⟩ := List.forall_mem_cons.mp hs.all_digits
  refine ⟨{ whole := [c], fraction := rest, power := 'e' :: Numeral.written first
            exponent := first
            isWhole := isWholePart_of_head? (by simp) (by simpa using hs.head)
            whole_digits := by simpa using hc, fraction_digits := hrest
            power_means := exponent?_written first, power_head := by simp
            power_chars := List.forall_mem_cons.mpr ⟨rfl, isNumberChar_of_mem_written⟩
            isReal := .inr (by simp) }, ?_, ?_⟩
  · rw [Parts.body, NumberLayout.scientific.eq_def]
    cases rest <;> simp [exponentText_eq, Numeral.pointed]
  · have hexponent : first - rest.length = first + 1 - (c :: rest).length := by
      rw [List.length_cons]
      omega
    simp only [Parts.decimal, significand, Decimal.value, List.singleton_append, hexponent]

end IsSignificant

/-- **The parts of a written number** have its value. -/
theorem exists_parts {d : Decimal} (hd : d.digits ≠ 0) :
    ∃ p : Parts, (∀ negative, numberLayout.write negative d = p.text negative) ∧
      p.decimal.value = d.value := by
  have hs := isSignificant_decimal hd
  let digits := Text.decimal d.digits
  let first := d.exponent + digits.length - 1
  have hsame : significand digits first = d := by
    have hexponent : first + 1 - digits.length = d.exponent := by omega
    rw [significand, hexponent, Text.numberOf_decimal]
  suffices h : ∃ p : Parts,
      p.body = (if numberLayout.positionalFrom ≤ first ∧ first < numberLayout.positionalBelow then
        numberLayout.positional digits first else numberLayout.scientific digits first) ∧
      p.decimal.value = (significand digits first).value by
    obtain ⟨p, hbody, hvalue⟩ := h
    exact ⟨p, fun negative => by rw [p.text_eq, hbody]; rfl, hvalue.trans (by rw [hsame])⟩
  split
  · by_cases hnegative : first < 0
    · exact hs.exists_parts_behindPoint hnegative
    · by_cases hwhole : digits.length ≤ first.toNat + 1
      · exact hs.exists_parts_whole (le_of_not_gt hnegative) hwhole
      · exact hs.exists_parts_pointed (le_of_not_gt hnegative) hwhole
  · exact hs.exists_parts_scientific

/-! ### Numbers and what they are read as -/

/-- A numeral that is read as a document. -/
structure IsNumeralOf (numeral : List Char) (d : Document) : Prop where
  ne_nil : numeral ≠ []
  chars : ∀ c ∈ numeral, isNumberChar c = true
  reads : ofNumeral? numeral = some d

theorem Parts.isNumeralOf (p : Parts) {x : Binary64} {negative : Bool} (hx : x.isFinite = true)
    (h : p.decimal.toBinary64 negative = x) : IsNumeralOf (p.text negative) (real x) := by
  subst h
  exact ⟨p.text_ne_nil negative, p.isNumberChar_of_mem_text, p.ofNumeral?_text negative hx⟩

/-- How zero is written. -/
def zeroParts : Parts :=
  ⟨['0'], ['0'], [], 0, rfl, Text.isAsciiDigit_of_mem_zero, Text.isAsciiDigit_of_mem_zero, rfl,
    by simp, by simp, .inl (by simp)⟩

/-- **A finite number** is read back as it was written. -/
theorem isNumeralOf_json {x : Binary64} (h : x.isFinite = true) :
    IsNumeralOf x.json (real x) := by
  cases x with
  | nan | infinity => cases h
  | finite negative mantissa exponent canonical =>
    by_cases hm : mantissa = 0
    · subst hm
      obtain rfl : exponent = -1074 := by rcases canonical with h | h <;> omega
      have hjson : (Binary64.zero negative).json = zeroParts.text negative := by
        cases negative <;> rfl
      show IsNumeralOf (Binary64.zero negative).json (real (Binary64.zero negative))
      rw [hjson]
      exact zeroParts.isNumeralOf rfl rfl
    · obtain ⟨d, hshortest, hdigits, hreads⟩ :=
        Binary64.exists_shortest? negative canonical hm
      obtain ⟨p, htext, hvalue⟩ := exists_parts hdigits
      have hjson : (Binary64.finite negative mantissa exponent canonical).json =
          p.text negative := by
        rw [Binary64.json, hshortest]
        exact htext negative
      rw [hjson]
      exact p.isNumeralOf rfl ((Decimal.toBinary64_congr hvalue negative).trans hreads)

/-- **An integer** is read back as it was written. -/
theorem isNumeralOf_writeInt (n : Int) : IsNumeralOf (writeInt n) (int n) := by
  have hdigits := Text.isAsciiDigit_of_mem_decimal (n := n.natAbs)
  have hne := Text.decimal_ne_nil n.natAbs
  refine ⟨Numeral.written_ne_nil n, isNumberChar_of_mem_written (n := n), ?_⟩
  have hhead : ∀ c ∈ (Text.decimal n.natAbs).head?, isAsciiDigit c = true := fun c hc =>
    hdigits c (List.mem_of_mem_head? hc)
  have hsign : writeInt n =
      (if decide (n < 0) = true then ['-'] else []) ++ Text.decimal n.natAbs := by
    simp only [writeInt, decide_eq_true_eq]
  have hspan : Numeral.spanDigits (Text.decimal n.natAbs) = (Text.decimal n.natAbs, []) := by
    have h : Numeral.spanDigits (Text.decimal n.natAbs ++ []) = _ :=
      Numeral.spanDigits_append hdigits (by simp)
    rwa [List.append_nil] at h
  have hwhole : isWholePart (Text.decimal n.natAbs) = true := by
    by_cases hzero : n.natAbs = 0
    · rw [hzero]
      rfl
    · exact isWholePart_of_head? hne (Text.head?_decimal hzero)
  rw [hsign, ofNumeral?_signed _ hhead, ofBody?, hspan]
  dsimp only
  rw [hwhole, Text.numberOf_decimal, Binary64.signed_natAbs]
  rfl

end Document

end SheetCommand
