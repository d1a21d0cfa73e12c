import SheetCommand.Proofs.Number.Digits
import SheetCommand.Proofs.Number.Nearest

/-!
# Number — whole numbers

The decimal digits of an integer are read as the number nearest to it (`decimal?_written`), which up
to `2 ^ 53` in absolute value is the integer itself (`toInt?_ofInt`).
-/

namespace SheetCommand

/-! ### Digits -/

namespace Text

theorem digitValue?_digitChar {d : Nat} (h : d < 10) : digitValue? d.digitChar = some d :=
  (by decide : ∀ d : Fin 10, digitValue? (d : Nat).digitChar = some (d : Nat)) ⟨d, h⟩

theorem takeDigits_append {text : List Char} {digits : List Nat}
    (h : takeDigits text = (digits, [])) (rest : List Char) :
    takeDigits (text ++ rest) = (digits ++ (takeDigits rest).1, (takeDigits rest).2) := by
  induction text generalizing digits with
  | nil => cases h; rfl
  | cons c text ih =>
    cases hc : digitValue? c with
    | none => rw [takeDigits_cons_of_none hc] at h; cases h
    | some d =>
      rw [takeDigits_cons_of_some hc] at h
      obtain ⟨rfl, hrest⟩ := Prod.mk.inj h
      rw [List.cons_append, takeDigits_cons_of_some hc, ih (Prod.ext rfl hrest)]
      rfl

/-- **The digits of a number** are read back as the number. -/
theorem exists_takeDigits_decimal (n : Nat) :
    ∃ digits, takeDigits (decimal n) = (digits, []) ∧ digitsValue digits = n := by
  induction n using Nat.strongRecOn with
  | ind n ih =>
    have hone : ∀ d, d < 10 → takeDigits [d.digitChar] = ([d], []) := fun d hd => by
      rw [takeDigits_cons_of_some (digitValue?_digitChar hd), takeDigits_nil]
    by_cases hn : n < 10
    · refine ⟨[n], ?_, by simp [digitsValue]⟩
      rw [decimal, Nat.toDigits_of_lt_base hn, hone n hn]
    · obtain ⟨digits, htake, hvalue⟩ := ih (n / 10) (by omega)
      have hlast : n % 10 < 10 := Nat.mod_lt _ (by decide)
      have hsplit : decimal n = decimal (n / 10) ++ [(n % 10).digitChar] :=
        Nat.toDigits_of_base_le (by decide) (by omega)
      refine ⟨digits ++ [n % 10], ?_, ?_⟩
      · rw [hsplit, takeDigits_append htake, hone _ hlast]
      · rw [digitsValue_append_one, hvalue]; omega

theorem isDigit_of_mem_decimal {n : Nat} {c : Char} (h : c ∈ decimal n) : c.isDigit = true :=
  Nat.isDigit_of_mem_toDigits (by decide) (by decide) h

theorem toNat_of_isAsciiDigit {c : Char} (h : isAsciiDigit c = true) :
    48 ≤ c.toNat ∧ c.toNat ≤ 57 := by
  simpa [isAsciiDigit, Char.le_def, UInt32.le_iff_toNat_le] using h

theorem digitValue?_of_isAsciiDigit {c : Char} (h : isAsciiDigit c = true) :
    digitValue? c = some (c.toNat - 48) := by
  have hval := toNat_of_isAsciiDigit h
  unfold digitValue?
  dsimp only
  rw [if_pos (by omega), if_pos hval]

theorem isDigit_of_isAsciiDigit {c : Char} (h : isAsciiDigit c = true) : isDigit c = true := by
  rw [isDigit, digitValue?_of_isAsciiDigit h]
  rfl

theorem isAsciiDigit_of_isDigit {c : Char} (h : c.isDigit = true) : isAsciiDigit c = true := by
  simpa [isAsciiDigit, Char.isDigit, Char.le_def, UInt32.le_iff_toNat_le] using h

theorem isAsciiDigit_of_mem_decimal {n : Nat} : ∀ c ∈ decimal n, isAsciiDigit c = true :=
  fun _ hc => isAsciiDigit_of_isDigit (isDigit_of_mem_decimal hc)

theorem decimal_ne_nil (n : Nat) : decimal n ≠ [] := Nat.toDigits_ne_nil

end Text

namespace Numeral

/-- The decimal digits of an integer, with a sign if it is negative. -/
def written (n : Int) : List Char := (if n < 0 then ['-'] else []) ++ Text.decimal n.natAbs

theorem toNat_of_isDigit {c : Char} (h : c.isDigit = true) : 48 ≤ c.toNat ∧ c.toNat ≤ 57 := by
  simpa [Char.isDigit, UInt32.le_iff_toNat_le] using h

theorem toBinary64_whole (negative : Bool) (n : Nat) :
    Decimal.toBinary64 negative ⟨n, 0⟩ = .ofRatio negative n 1 := by
  rw [Decimal.toBinary64_eq_ofRatio]
  simp

theorem mem_written {n : Int} {c : Char} (h : c ∈ written n) : c = '-' ∨ c.isDigit = true := by
  rcases List.mem_append.mp h with h | h
  · split at h
    · exact .inl (List.mem_singleton.mp h)
    · cases h
  · exact .inr (Text.isDigit_of_mem_decimal h)

theorem written_ne_nil (n : Int) : written n ≠ [] := by
  simp [written, Text.decimal, Nat.toDigits_ne_nil]

theorem length_written_le {n : Int} {k : Nat} (hk : 0 < k) (h : n.natAbs < 10 ^ k) :
    (written n).length ≤ k + 1 := by
  have hdigits := (Nat.length_toDigits_le_iff (b := 10) (by decide) hk).mpr h
  rw [written, List.length_append, Text.decimal]
  split <;> simp <;> omega

/-- Digits with or without a minus sign are read as the number nearest to what they spell. -/
theorem decimal?_digits {negative : Bool} {digits : List Char} (hne : digits ≠ [])
    (hdigits : ∀ c ∈ digits, Text.isAsciiDigit c = true) :
    decimal? (numeral negative digits []) =
      some (.ofRatio negative (Text.digitsValue (Text.takeDigits digits).1) 1) := by
  have hascii : digits.map Text.ascii = digits := Text.map_ascii_of_lt fun c hc => by
    have hval := Text.toNat_of_isAsciiDigit (hdigits c hc)
    omega
  rw [decimal?_numeral hne (fun c hc => Text.isDigit_of_isAsciiDigit (hdigits c hc)) (by simp),
    List.append_nil, hascii]
  exact congrArg some (toBinary64_whole ..)

/-- **The digits of an integer** are read as the number nearest to it. -/
theorem decimal?_written (n : Int) : decimal? (written n) = some (.ofInt n) := by
  have hwritten : written n = numeral (decide (n < 0)) (Text.decimal n.natAbs) [] := by
    simp [written, numeral, pointed]
  obtain ⟨digits, htake, hvalue⟩ := Text.exists_takeDigits_decimal n.natAbs
  rw [hwritten, decimal?_digits (Text.decimal_ne_nil _) Text.isAsciiDigit_of_mem_decimal, htake,
    hvalue]
  rfl

/-- **A numeral in range**: with at most 308 digits before the point it is read as a finite number. -/
theorem isFinite_numeral {negative : Bool} {whole fraction : List Char} {x : Binary64}
    (hne : whole ≠ []) (hwhole : ∀ c ∈ whole, Text.isDigit c = true)
    (hfraction : ∀ c ∈ fraction, Text.isDigit c = true) (hlength : whole.length ≤ 308)
    (h : decimal? (numeral negative whole fraction) = some x) : x.isFinite = true := by
  rw [decimal?_numeral hne hwhole hfraction] at h
  obtain rfl := Option.some.inj h
  refine Decimal.isFinite_toBinary64 ?_ negative
  have hdigits := Text.digitsValue_takeDigits_lt ((whole ++ fraction).map Text.ascii)
  rw [List.length_map, List.length_append, Nat.pow_add] at hdigits
  generalize Text.digitsValue _ = n at hdigits ⊢
  have hten : (0 : ℚ) < 10 ^ fraction.length := by positivity
  have hle : (n : ℚ) ≤ 10 ^ whole.length * 10 ^ fraction.length := by exact_mod_cast hdigits.le
  rw [Decimal.value, zero_sub, zpow_neg, zpow_natCast, ← div_eq_mul_inv, div_le_iff₀ hten]
  refine hle.trans (mul_le_mul_of_nonneg_right ?_ hten.le)
  exact pow_le_pow_right₀ (by norm_num) hlength

end Numeral

/-! ### Exactness -/

namespace Binary64

theorem roundQuotient_one (n : Nat) : roundQuotient n 1 = n := by
  simp [roundQuotient, Nat.mod_one]

theorem signed_natAbs (n : Int) : signed (decide (n < 0)) n.natAbs = n := by
  unfold signed
  split <;> rename_i hn <;> simp at hn <;> omega

theorem isFinite_ofInt_eq_false {n : Int} (h : 2 ^ 1024 ≤ n.natAbs) : (ofInt n).isFinite = false := by
  have hlarge : (2 : ℚ) ^ (1024 : ℤ) ≤ (n.natAbs : ℚ) / (1 : Nat) := by
    rw [Nat.cast_one, div_one]
    exact_mod_cast h
  rw [ofInt, ofRatio_of_large Nat.one_ne_zero hlarge]
  rfl

/-- **Integers up to `2 ^ 53`** are binary64 numbers. -/
theorem toInt?_ofInt {n : Int} (h : n.natAbs ≤ 2 ^ 53) : (ofInt n).toInt? = some n := by
  by_cases hzero : n.natAbs = 0
  · obtain rfl := Int.natAbs_eq_zero.mp hzero
    decide +kernel
  have hlow := Nat.log2_self_le hzero
  have hhigh := Nat.lt_log2_self (n := n.natAbs)
  by_cases hlog : n.natAbs.log2 ≤ 52
  · obtain ⟨k, hk⟩ : ∃ k, n.natAbs.log2 + k = 52 := ⟨52 - n.natAbs.log2, by omega⟩
    have hexp : (n.natAbs.log2 : Int) - (Nat.log2 1 : Nat) - 52 = -(k : Int) := by
      rw [show Nat.log2 1 = 0 by decide]; omega
    have hmin : 2 ^ 52 ≤ n.natAbs * 2 ^ k := by
      calc 2 ^ 52 = 2 ^ n.natAbs.log2 * 2 ^ k := by rw [← hk, Nat.pow_add]
        _ ≤ n.natAbs * 2 ^ k := Nat.mul_le_mul_right _ hlow
    have hmax : n.natAbs * 2 ^ k < 2 ^ 53 := by
      calc n.natAbs * 2 ^ k < 2 ^ (n.natAbs.log2 + 1) * 2 ^ k :=
            Nat.mul_lt_mul_of_pos_right hhigh (Nat.two_pow_pos k)
        _ = 2 ^ 53 := by rw [← Nat.pow_add]; congr 1; omega
    have hexponent : exponentOf n.natAbs 1 = -(k : Int) := by
      simp only [exponentOf, hexp]
      simp only [Int.neg_neg, Int.toNat_natCast, Int.toNat_neg_natCast]
      rw [if_neg (by omega)]
      omega
    have hcanonical : Canonical (n.natAbs * 2 ^ k) (-(k : Int)) :=
      .inl ⟨hmin, hmax, by omega, by omega⟩
    rw [ofInt, ofRatio, if_neg hzero]
    simp only [hexponent, Int.neg_neg, Int.toNat_natCast, Int.toNat_neg_natCast, Nat.pow_zero,
      Nat.mul_one, roundQuotient_one, pack, dif_pos hcanonical, toInt?, Nat.mul_mod_left, if_true,
      Nat.mul_div_cancel _ (Nat.two_pow_pos k), signed_natAbs]
  · have hmax : n.natAbs = 2 ^ 53 := by
      refine Nat.le_antisymm h (Nat.le_trans (Nat.pow_le_pow_right (by decide) ?_) hlow)
      omega
    rcases Int.natAbs_eq n with hn | hn <;> rw [hn, hmax] <;> decide +kernel
end Binary64

end SheetCommand
