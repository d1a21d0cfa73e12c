import SheetCommand.Proofs.Number.Whole
import SheetCommand.Proofs.Text.Lower
import SheetCommand.Sheet.Cell
import SheetCommand.Text.Case.Fold

/-!
# Number — how texts of numbers start

A text in which a number can be read starts, if its first character is an ASCII one, with a blank, a
comma, a sign, a point or a digit, all of which come before the letters (`startsLow_of_number?`). A
number that is shown starts with a minus sign or a digit. Such texts come before all that start with
a letter, with regard to case or without.
-/

namespace SheetCommand

/-! ### First characters -/

namespace Text

/-- The first character is an ASCII letter. -/
def startsWithLetter (text : List Char) : Bool := text.head?.any Char.isAlpha

/-- The first character comes before the letters. -/
def StartsLow (text : List Char) : Prop := ∃ c rest, text = c :: rest ∧ c.toNat < 0x41

variable {a b text : List Char} {c : Char}

theorem StartsLow.append (h : StartsLow a) (b : List Char) : StartsLow (a ++ b) := by
  obtain ⟨c, rest, rfl, hc⟩ := h
  exact ⟨c, rest ++ b, rfl, hc⟩

theorem startsLow_of_isDigit (hne : text ≠ []) (h : ∀ c ∈ text, c.isDigit = true) :
    StartsLow text := by
  obtain ⟨c, rest, rfl⟩ := List.exists_cons_of_ne_nil hne
  have hc := Numeral.toNat_of_isDigit (h c List.mem_cons_self)
  exact ⟨c, rest, rfl, by omega⟩

theorem startsLow_decimal (n : Nat) : StartsLow (decimal n) :=
  startsLow_of_isDigit Nat.toDigits_ne_nil fun _ => isDigit_of_mem_decimal

theorem toNat_of_isAlpha (h : c.isAlpha = true) :
    0x41 ≤ c.toNat ∧ c.toNat < 128 ∧ 0x41 < c.toLower.toNat := by
  have hlt : c.toNat < 128 := by
    have halpha : c.isAlpha = (decide ('A'.val ≤ c.val ∧ c.val ≤ 'Z'.val) ||
        (decide ('a'.val ≤ c.val) && decide (c.val ≤ 'z'.val))) := rfl
    simp only [halpha, Bool.or_eq_true, Bool.and_eq_true, decide_eq_true_eq,
      UInt32.le_iff_toNat_le] at h
    have hupper : UInt32.toNat 'Z'.val = 90 := rfl
    have hlower : UInt32.toNat 'z'.val = 122 := rfl
    have hc : c.val.toNat = c.toNat := rfl
    omega
  refine of_toNat_lt (P := fun c => c.isAlpha = true →
    0x41 ≤ c.toNat ∧ c.toNat < 128 ∧ 0x41 < c.toLower.toNat) ?_ hlt h
  decide +kernel

theorem exists_of_startsWithLetter (h : startsWithLetter text = true) :
    ∃ c rest, text = c :: rest ∧ c.isAlpha = true := by
  cases text with
  | nil => cases h
  | cons c rest => exact ⟨c, rest, rfl, h⟩

/-- **What comes before the letters** comes before a text that starts with one, also without regard
to case. -/
theorem order_fold_eq_lt (ha : StartsLow a) (hb : startsWithLetter b = true) :
    order (fold a) (fold b) = .lt := by
  obtain ⟨c, rest, rfl, hc⟩ := ha
  obtain ⟨d, rest', rfl, hd⟩ := exists_of_startsWithLetter hb
  obtain ⟨-, hlt, hlower⟩ := toNat_of_isAlpha hd
  have hself : c.toLower = c := of_toNat_lt (P := fun c => c.toLower = c) (by decide +kernel) hc
  have hfirst : compare c.toNat d.toLower.toNat = .lt := Nat.compare_eq_lt.mpr (by omega)
  rw [fold_cons, fold_cons, foldChar, foldChar, if_pos (by omega), if_pos hlt, hself]
  simp only [List.cons_append, order, hfirst, Ordering.then]

end Text

/-! ### Reading -/

namespace Numeral

open Text

variable {text rest : List Char} {c : Char}

/-- An ASCII character from the letters on is in no numeral at the start. -/
structure IsLate (c : Char) : Prop where
  low : 0x41 ≤ c.toNat
  high : c.toNat < 128

theorem IsLate.not_leading (h : IsLate c) : isBlank c = false ∧ c ≠ ',' ∧ c ≠ '-' ∧ c ≠ '+' ∧
    c ≠ '.' ∧ isAsciiDigit c = false :=
  of_toNat_lt (P := fun c => 0x41 ≤ c.toNat → isBlank c = false ∧ c ≠ ',' ∧ c ≠ '-' ∧ c ≠ '+' ∧
    c ≠ '.' ∧ isAsciiDigit c = false) (by decide +kernel) h.high h.low

theorem exists_trim_cons (h : isBlank c = false) (rest : List Char) :
    ∃ rest', trim (c :: rest) = c :: rest' := by
  rw [trim, trimBy, List.dropWhile_cons_of_neg (by simp [h]), List.reverse_cons,
    List.dropWhile_append]
  split
  · exact ⟨[], by rw [List.dropWhile_cons_of_neg (by simp [h])]; rfl⟩
  · exact ⟨_, by rw [List.reverse_append]; rfl⟩

/-- A numeral without its underscores, in ASCII, starts as it did. -/
theorem IsLate.exists_joined (h : IsLate c) {ascii joined : List Char}
    (hascii : toAscii? (c :: rest) = some ascii) (hjoined : joinDigits? ascii = some joined) :
    ∃ rest', joined = c :: rest' := by
  rw [toAscii?, List.mapM_cons, if_pos h.high, Option.bind_eq_bind, Option.bind_some,
    Option.bind_eq_bind, Option.bind_eq_some_iff] at hascii
  obtain ⟨after, -, hcons⟩ := hascii
  obtain rfl := Option.some.inj hcons
  rw [joinDigits?, joinFrom] at hjoined
  split at hjoined
  · -- no digit stands before an underscore in front
    rw [if_neg (by decide)] at hjoined
    cases hjoined
  · rw [if_neg (by rintro ⟨hspace, -⟩; cases hspace)] at hjoined
    obtain ⟨joined', -, rfl⟩ := Option.map_eq_some_iff.mp hjoined
    exact ⟨joined', rfl⟩

theorem IsLate.splitSign (h : IsLate c) (rest : List Char) :
    splitSign (c :: rest) = (false, c :: rest) := by
  obtain ⟨-, -, hminus, hplus, -⟩ := h.not_leading
  unfold Numeral.splitSign
  split
  · rename_i heq
    exact absurd (List.cons.inj heq).1 hminus
  · rename_i heq
    exact absurd (List.cons.inj heq).1 hplus
  · rfl

theorem IsLate.plainInt? (h : IsLate c) (rest : List Char) : plainInt? (c :: rest) = none := by
  have hdigit := h.not_leading.2.2.2.2.2
  rw [Numeral.plainInt?, h.splitSign]
  exact if_pos (.inr (.inl (by simp [hdigit])))

theorem IsLate.isFinite_of_plainDecimal? (h : IsLate c) {x : Binary64}
    (hx : plainDecimal? (c :: rest) = some x) : x.isFinite = false := by
  obtain ⟨-, -, -, -, hpoint, hdigit⟩ := h.not_leading
  have hspan : spanDigits (c :: rest) = ([], c :: rest) := by
    rw [spanDigits, List.span_eq_takeWhile_dropWhile, List.takeWhile_cons_of_neg (by simp [hdigit]),
      List.dropWhile_cons_of_neg (by simp [hdigit])]
  have hmagnitude : magnitude? (c :: rest) = none := by
    rw [magnitude?, hspan]
    dsimp only
    split
    · rename_i heq
      exact absurd (List.cons.inj heq).1 hpoint
    · rfl
  rw [plainDecimal?, h.splitSign] at hx
  dsimp only at hx
  rw [hmagnitude] at hx
  split at hx
  · obtain rfl := Option.some.inj hx
    rfl
  · split at hx
    · obtain rfl := Option.some.inj hx
      rfl
    · cases hx

/-- **A text that starts with such a character** is no number. -/
theorem IsLate.number?_eq_none (h : IsLate c) (rest : List Char) : number? (c :: rest) = none := by
  obtain ⟨hblank, hcomma, -⟩ := h.not_leading
  obtain ⟨body, hbody⟩ := exists_trim_cons hblank (rest.filter (· ≠ ','))
  obtain ⟨inner, hinner⟩ := exists_trim_cons hblank body
  have hint : int? (c :: body) = none := by
    refine Option.eq_none_iff_forall_ne_some.mpr fun n hn => ?_
    obtain ⟨ascii, hascii, hn⟩ := Option.bind_eq_some_iff.mp hn
    obtain ⟨joined, hjoined, hn⟩ := Option.bind_eq_some_iff.mp hn
    obtain ⟨rest', rfl⟩ := h.exists_joined hascii hjoined
    rw [h.plainInt?] at hn
    cases hn
  rw [number?, List.filter_cons_of_pos (by simpa using hcomma), hbody, hint]
  cases hdecimal : decimal? (c :: body) with
  | none => rfl
  | some x =>
    rw [decimal?, hinner] at hdecimal
    obtain ⟨ascii, hascii, hdecimal⟩ := Option.bind_eq_some_iff.mp hdecimal
    obtain ⟨joined, hjoined, hx⟩ := Option.bind_eq_some_iff.mp hdecimal
    obtain ⟨rest', rfl⟩ := h.exists_joined hascii hjoined
    exact if_neg (by rw [h.isFinite_of_plainDecimal? hx]; decide)

theorem number?_eq_none_of_letter (h : startsWithLetter text = true) : number? text = none := by
  obtain ⟨c, rest, rfl, hc⟩ := exists_of_startsWithLetter h
  obtain ⟨hlow, hhigh, -⟩ := toNat_of_isAlpha hc
  exact IsLate.number?_eq_none ⟨hlow, hhigh⟩ rest

/-- **The text of a number** starts with a character that comes before the letters. -/
theorem startsLow_of_number? (hascii : ∀ c ∈ text, c.toNat < 128) {n : Number}
    (h : number? text = some n) : StartsLow text := by
  cases text with
  | nil => cases h
  | cons c rest =>
    refine ⟨c, rest, rfl, Nat.lt_of_not_le fun hlow => ?_⟩
    rw [IsLate.number?_eq_none ⟨hlow, hascii c List.mem_cons_self⟩] at h
    cases h

end Numeral

/-! ### Writing -/

open Text

theorem startsLow_signed {digits : List Char} (h : StartsLow digits) (negative : Bool) :
    StartsLow ((if negative then ['-'] else []) ++ digits) := by
  cases negative with
  | false => exact h
  | true => exact ⟨'-', digits, rfl, by decide⟩

theorem NumberLayout.startsLow_write (layout : NumberLayout) (negative : Bool) (d : Decimal) :
    StartsLow (layout.write negative d) := by
  have hdigits := startsLow_decimal d.digits
  refine startsLow_signed ?_ negative
  generalize d.exponent + ((decimal d.digits).length : Int) - 1 = first
  generalize decimal d.digits = digits at hdigits ⊢
  split
  · rw [positional]
    split
    · exact ⟨'0', _, rfl, by decide⟩
    · dsimp only
      split
      · exact (hdigits.append _).append _
      · obtain ⟨c, rest, rfl, hc⟩ := hdigits
        exact ⟨c, _, rfl, hc⟩
  · obtain ⟨c, rest, rfl, hc⟩ := hdigits
    cases rest with
    | nil => exact ⟨c, _, rfl, hc⟩
    | cons d rest => exact ⟨c, _, rfl, hc⟩

theorem Binary64.startsLow_shown {x : Binary64} (h : x.isFinite = true) : StartsLow x.shown := by
  cases x with
  | nan | infinity => cases h
  | finite negative mantissa exponent canonical => exact NumberLayout.startsLow_write ..

theorem CellValue.startsLow_intText {n : Int} {text : List Char} (h : intText n = .ok text) :
    StartsLow text := by
  rw [intText] at h
  split at h
  · cases h
  · obtain rfl := Except.ok.inj h
    split
    · exact ⟨'-', _, rfl, by decide⟩
    · exact startsLow_decimal _

end SheetCommand
