import SheetCommand.Proofs.Document.Numeral
import SheetCommand.Proofs.Number.Closest
import SheetCommand.Proofs.Sheet.Summing

/-!
# Sheet — cells with integer texts

A text of digits counts as the integer that it spells. With more digits than an integer may have it
counts as the nearest number, and as none beyond the range of numbers (`number?_text`). A cell with a
text is equal to a number if it counts as that number's value, and differs from it otherwise
(`satisfies_iff`). An integer that is itself a number is so equal to the texts of that integer alone
(`countsAs_ofInt_iff`).
-/

namespace SheetCommand

namespace Equality

/-- The comparison of numbers with the same symbol. -/
def comparison : Equality → Comparison
  | equal => .equal
  | notEqual => .notEqual

theorem holds_comparison (op : Equality) (order : Option Ordering) :
    op.comparison.holds order = op.holds (order == some .eq) := by
  rcases op with _ | _ <;> rcases order with _ | _ | _ | _ <;> rfl

/-- What the symbol says of two numbers that are equal if the statement is true. -/
def Says : Equality → Prop → Prop
  | equal, p => p
  | notEqual, p => ¬p

instance (op : Equality) (p : Prop) [Decidable p] : Decidable (op.Says p) :=
  match op with
  | equal => inferInstanceAs (Decidable p)
  | notEqual => inferInstanceAs (Decidable ¬p)

theorem says_congr {op : Equality} {p q : Prop} (h : p ↔ q) : op.Says p ↔ op.Says q := by
  rw [propext h]

theorem holds_iff (op : Equality) (same : Bool) : op.holds same = true ↔ op.Says (same = true) := by
  cases op <;> simp [holds, Says]

end Equality

/-- The text of an integer in plain decimal: ASCII digits, with a minus sign in front if it is
negative. -/
structure IntegerText where
  negative : Bool
  digits : List Char
  ne_nil : digits ≠ []
  ascii : ∀ c ∈ digits, Text.isAsciiDigit c = true

namespace IntegerText

def chars (t : IntegerText) : List Char := Numeral.numeral t.negative t.digits []

def text (t : IntegerText) : String := .ofList t.chars

/-- The integer. -/
def value (t : IntegerText) : ℤ := Binary64.signed t.negative (Text.numberOf t.digits)

/-- What the text counts as: the integer, or, with more digits than integers may have, the value of
the number nearest to it, if that is finite. -/
def worth (t : IntegerText) : Option ℚ :=
  if t.digits.length ≤ Numeral.digitLimit then some t.value else (Binary64.nearest t.value).value?

/-- An integer as it is written, without zeros in front. -/
def ofInt (n : ℤ) : IntegerText :=
  ⟨decide (n < 0), Text.decimal n.natAbs, Text.decimal_ne_nil _, Text.isAsciiDigit_of_mem_decimal⟩

theorem value_ofInt (n : ℤ) : (ofInt n).value = n := by
  rw [value, ofInt, Text.numberOf_decimal, Binary64.signed_natAbs]

variable (t : IntegerText) {c : Char}

/-! ### Characters -/

theorem eq_minus_or_digit (h : c ∈ t.chars) : c = '-' ∨ Text.isAsciiDigit c = true := by
  rcases List.mem_append.mp h with h | h
  · split at h
    · exact .inl (List.mem_singleton.mp h)
    · cases h
  · rw [Numeral.pointed, List.append_nil] at h
    exact .inr (t.ascii c h)

theorem toNat_lt (h : c ∈ t.chars) : c.toNat < 128 := by
  rcases t.eq_minus_or_digit h with rfl | hdigit
  · decide
  · have hval := Text.toNat_of_isAsciiDigit hdigit
    omega

/-- No character of the text is dropped when it is read. -/
theorem isKept (h : c ∈ t.chars) : c ≠ ',' ∧ c ≠ '_' ∧ Text.isBlank c = false := by
  rcases t.eq_minus_or_digit h with rfl | hdigit
  · decide
  · refine ⟨?_, ?_, Text.isBlank_of_isDigit (Text.isDigit_of_isAsciiDigit hdigit)⟩
    · rintro rfl; cases hdigit
    · rintro rfl; cases hdigit

/-! ### Reading -/

theorem int?_chars : Numeral.int? t.chars =
    if t.digits.length ≤ Numeral.digitLimit then some t.value else none := by
  have hascii : Numeral.toAscii? t.chars = some t.chars := by
    rw [Numeral.toAscii?_eq fun c hc => .inl (t.toNat_lt hc),
      Text.map_ascii_of_lt fun c hc => t.toNat_lt hc]
  have hjoin : Numeral.joinDigits? t.chars = some t.chars :=
    Numeral.joinFrom_of_not_mem (by decide) fun hm => (t.isKept hm).2.1 rfl
  have hdigits : t.digits.any (!Text.isAsciiDigit ·) = false :=
    List.any_eq_false.mpr fun c hc => by rw [t.ascii c hc]; decide
  have hempty : t.digits.isEmpty = false := List.isEmpty_eq_false_iff.mpr t.ne_nil
  have hplain : Numeral.plainInt? t.chars =
      if Numeral.digitLimit < t.digits.length then none else some t.value := by
    rw [Numeral.plainInt?, chars, Numeral.splitSign_numeral t.ne_nil t.ascii, Numeral.pointed,
      List.append_nil]
    simp only [hempty, hdigits, Bool.false_eq_true, false_or]
    rfl
  simp only [Numeral.int?, hascii, Option.bind_eq_bind, Option.bind_some, hjoin, hplain, ← not_le,
    ite_not]

theorem decimal?_chars : Numeral.decimal? t.chars =
    some (.ofRatio t.negative (Text.numberOf t.digits) 1) :=
  Numeral.decimal?_digits t.ne_nil t.ascii

/-- **What a text of digits counts as.** -/
theorem number?_text : (Numeral.number? t.text.toList).bind Number.value? = t.worth := by
  have hbody : Text.trim (t.chars.filter (· ≠ ',')) = t.chars := by
    have hfilter : t.chars.filter (· ≠ ',') = t.chars :=
      List.filter_eq_self.mpr fun c hc => decide_eq_true (t.isKept hc).1
    rw [hfilter, Text.trim_eq_self fun c hc => (t.isKept hc).2.2]
  have hvalue := Binary64.value?_ofRatio_one t.negative (Text.numberOf t.digits)
  rw [← value, Binary64.ofInt_eq_nearest] at hvalue
  rw [text, String.toList_ofList, Numeral.number?, worth]
  simp only [hbody, t.int?_chars, t.decimal?_chars]
  by_cases hfew : t.digits.length ≤ Numeral.digitLimit
  · rw [if_pos hfew, if_pos hfew]
    rfl
  · rw [if_neg hfew, if_neg hfew]
    dsimp only
    split
    · exact hvalue
    · rename_i hinfinite
      rw [← hvalue]
      exact (Option.not_isSome_iff_eq_none.mp (Binary64.isSome_value?.trans_ne hinfinite)).symm

/-- The text counts as the value of a number. -/
def CountsAs (x : Binary64) : Prop := ∃ q, t.worth = some q ∧ x.value? = some q

/-- **A cell with the text** is equal to a number if the text counts as its value, and differs from
it if not. -/
theorem satisfies_iff (op : Equality) (x : Binary64) :
    (CellValue.text t.text).satisfies op.comparison (.real x) = .ok true ↔
      op.Says (t.CountsAs x) := by
  have hworth := t.number?_text
  rw [CellValue.satisfies, CellValue.number?, CountsAs, ← hworth]
  cases hnumber : Numeral.number? t.text.toList with
  | none =>
    change Except.ok (op.comparison == .notEqual) = .ok true ↔ _
    cases op <;> simp [Equality.comparison, Equality.Says]
  | some m =>
    obtain ⟨p, hp⟩ : ∃ p, m.value? = some p :=
      Number.IsFinite.exists_value? (CellValue.isFinite_of_number? hnumber)
    change Except.ok (op.comparison.holds (m.compare? (.real x))) = .ok true ↔ _
    have hequal := Number.compare?_eq_some_eq_iff (n := .real x) hp
    rw [Except.ok.injEq, Equality.holds_comparison, Equality.holds_iff]
    refine Equality.says_congr ?_
    rw [beq_iff_eq, hequal, Number.value?, Option.bind_some, hp]
    simp

/-! ### Integers that are numbers -/

/-- The text is not made longer than an integer may be by zeros in front. -/
def IsUnpadded : Prop := t.digits.length ≤ Numeral.digitLimit ∨ t.digits.head? ≠ some '0'

variable {t}

/-- More digits than integers may have, the first of them not a zero, are beyond the numbers. -/
theorem two_pow_le_natAbs_value (hmany : Numeral.digitLimit < t.digits.length)
    (hhead : t.digits.head? ≠ some '0') : 2 ^ 1024 ≤ t.value.natAbs := by
  rw [value, Binary64.natAbs_signed]
  obtain ⟨first, rest, hdigits⟩ := List.exists_cons_of_ne_nil t.ne_nil
  have hascii := t.ascii
  rw [hdigits] at hmany hhead hascii ⊢
  obtain ⟨hfirst, hrest⟩ := List.forall_mem_cons.mp hascii
  have hlong : 1024 ≤ 3 * rest.length := by
    rw [List.length_cons, Numeral.digitLimit] at hmany
    omega
  exact (Decimal.two_pow_le_ten_pow_of_le hlong).trans
    (Text.ten_pow_le_numberOf hfirst hrest fun h => hhead (congrArg some h))

/-- **An integer that is a number** is what a text of that integer counts as, and no other text. -/
theorem countsAs_ofInt_iff {n : ℤ} (hn : ∃ y : Binary64, y.value? = some (n : ℚ))
    (ht : t.IsUnpadded) : t.CountsAs (.ofInt n) ↔ t.value = n := by
  obtain ⟨y, hy⟩ := hn
  have hvalue : (Binary64.ofInt n).value? = some (n : ℚ) := by
    rw [Binary64.ofInt_eq_nearest, Binary64.value?_nearest_of_value? hy]
  have hcounts : t.CountsAs (.ofInt n) ↔ t.worth = some (n : ℚ) := by
    simp [CountsAs, hvalue]
  rw [hcounts, worth]
  by_cases hfew : t.digits.length ≤ Numeral.digitLimit
  · rw [if_pos hfew, Option.some.injEq, Int.cast_inj]
  · have hlarge := two_pow_le_natAbs_value (Nat.lt_of_not_le hfew) (ht.resolve_left hfew)
    have hinfinite := Binary64.isFinite_ofInt_eq_false hlarge
    rw [if_neg hfew, ← Binary64.ofInt_eq_nearest]
    refine iff_of_false (fun h => ?_) ?_
    · rw [← Binary64.isSome_value?, h] at hinfinite
      cases hinfinite
    · rintro rfl
      rw [← Binary64.isSome_value?, hvalue] at hinfinite
      cases hinfinite

end IntegerText

end SheetCommand
