import SheetCommand.Proofs.Number.Nearest

/-!
# Number — the shortest digits

The digits that are written for a number read back as that number (`exists_shortest?`). As long as
fewer digits are tried each try is checked by reading it back; what is left are seventeen digits,
which are always enough: they are at most half of their last unit away from the number, and that is
less than a quarter of the distance between numbers there (`isNear_seventeen`).
-/

namespace SheetCommand

namespace Decimal

/-- A power of ten against a power of two, by two approximations of the ratio of their logarithms. -/
theorem zpow_ten_le_zpow_two {k n : ℤ} (hup : 10 * k ≤ 3 * n) (hdown : 93 * k ≤ 28 * n) :
    (10 : ℚ) ^ k ≤ 2 ^ n := by
  rcases le_total 0 k with hk | hk
  · lift k to ℕ using hk
    lift n to ℕ using by omega
    exact_mod_cast ten_pow_le_two_pow (k := k) (l := n) (by omega)
  · rcases le_total 0 n with hn | hn
    · exact (zpow_le_one_of_nonpos₀ (by norm_num) hk).trans (one_le_zpow₀ one_le_two hn)
    · obtain ⟨k, rfl⟩ := Int.exists_eq_neg_ofNat hk
      obtain ⟨n, rfl⟩ := Int.exists_eq_neg_ofNat hn
      have hle : 2 ^ n ≤ 10 ^ k := by
        refine (Nat.pow_le_pow_iff_left (n := 28) (by decide)).mp ?_
        calc (2 ^ n) ^ 28 = 2 ^ (28 * n) := by rw [← Nat.pow_mul, Nat.mul_comm]
          _ ≤ 2 ^ (93 * k) := Nat.pow_le_pow_right (by decide) (by omega)
          _ = (2 ^ 93) ^ k := by rw [Nat.pow_mul]
          _ ≤ (10 ^ 28) ^ k := Nat.pow_le_pow_left (by decide) k
          _ = (10 ^ k) ^ 28 := by rw [← Nat.pow_mul, Nat.mul_comm, Nat.pow_mul]
      have hle' : (2 : ℚ) ^ n ≤ 10 ^ k := by exact_mod_cast hle
      rw [zpow_neg, zpow_neg, zpow_natCast, zpow_natCast]
      exact inv_anti₀ (pow_pos two_pos n) hle'

/-! ### Zeros at the end -/

theorem value_trimZeros (fuel : Nat) (d : Decimal) : (d.trimZeros fuel).value = d.value := by
  induction fuel generalizing d with
  | zero => rfl
  | succ fuel ih =>
    rw [trimZeros]
    split
    · rename_i h
      have hdigits : ((10 * (d.digits / 10) : Nat) : ℚ) = d.digits := by
        rw [Nat.mul_div_cancel' (Nat.dvd_of_mod_eq_zero h.2)]
      rw [ih, value, value, ← hdigits, zpow_add_one₀ (by norm_num)]
      push_cast
      ring
    · rfl

end Decimal

namespace Binary64

variable {num den : Nat} {first : ℤ}

/-! ### The first digit -/

theorem powerFits_iff (hd : den ≠ 0) (k : ℤ) :
    powerFits num den k = true ↔ (10 : ℚ) ^ k ≤ num / den := by
  have hpos : (0 : ℚ) < (den * 10 ^ k.toNat : Nat) := by
    exact_mod_cast Nat.mul_pos (Nat.pos_of_ne_zero hd) (Nat.pow_pos (by decide))
  have hscale := scaled_div (b := 10) (by decide) num den k
  rw [powerFits, decide_eq_true_iff, ← one_le_div₀ (zpow_pos (by norm_num) k),
    show (10 : ℚ) = (10 : Nat) by norm_num, ← hscale, le_div_iff₀ hpos, one_mul]
  exact_mod_cast Iff.rfl

/-- **The first digit** of a value in the range of numbers is not zero. -/
theorem pow_decimalExponent_le (hn : num ≠ 0) (hd : den ≠ 0)
    (hlow : (2 : ℚ) ^ (-1074 : ℤ) ≤ num / den) (hhigh : (num : ℚ) / den < 2 ^ (1024 : ℤ)) :
    (10 : ℚ) ^ decimalExponent num den ≤ num / den := by
  obtain ⟨hbelow, habove⟩ := log2_bounds hn hd
  rw [decimalExponent]
  generalize (num.log2 : ℤ) - den.log2 = bits at hbelow habove
  have hleast := (zpow_lt_zpow_iff_right₀ one_lt_two).mp (hlow.trans_lt habove)
  have hmost := (zpow_lt_zpow_iff_right₀ one_lt_two).mp (hbelow.trans hhigh)
  rw [Int.fdiv_eq_ediv_of_nonneg _ (by decide)]
  -- all estimates but the last are checked
  split
  · exact (powerFits_iff hd _).mp ‹_›
  · split
    · exact (powerFits_iff hd _).mp ‹_›
    · split
      · exact (powerFits_iff hd _).mp ‹_›
      · split
        · exact (powerFits_iff hd _).mp ‹_›
        · exact (Decimal.zpow_ten_le_zpow_two (by omega) (by omega)).trans hbelow.le

/-! ### Seventeen digits -/

theorem value_inUnits (num den : Nat) (unit : ℤ) :
    ((inUnits num den unit).1 : ℚ) / (inUnits num den unit).2 = num / den / 10 ^ unit := by
  exact_mod_cast scaled_div (b := 10) (by decide) num den unit

theorem inUnits_snd_pos (num : Nat) (hd : den ≠ 0) (unit : ℤ) : 0 < (inUnits num den unit).2 :=
  Nat.mul_pos (Nat.pos_of_ne_zero hd) (Nat.pow_pos (by decide))

/-- A value in units of a power of ten, rounded to an integer, is half a unit away at most. -/
theorem abs_value_sub_le (num : Nat) (hd : den ≠ 0) (unit : ℤ) :
    |Decimal.value ⟨roundQuotient (inUnits num den unit).1 (inUnits num den unit).2, unit⟩ -
      num / den| ≤ 10 ^ unit / 2 := by
  have hten : (0 : ℚ) < 10 ^ unit := zpow_pos (by norm_num) _
  have hround := abs_sub_roundQuotient_le (n := (inUnits num den unit).1)
    (inUnits_snd_pos num hd unit)
  rw [value_inUnits] at hround
  generalize roundQuotient (inUnits num den unit).1 (inUnits num den unit).2 = digits at hround ⊢
  have hsplit : (num : ℚ) / den / 10 ^ unit - digits =
      -((digits * 10 ^ unit - num / den) / 10 ^ unit) := by
    field_simp
    ring
  rw [hsplit, abs_neg, abs_div, abs_of_pos hten, div_le_iff₀ hten] at hround
  rw [Decimal.value]
  linarith

/-- **Seventeen digits** are enough: half of the last is closer than any other number. -/
theorem isNear_seventeen {mantissa : Nat} {exponent : ℤ} {w : ℚ}
    (canonical : Canonical mantissa exponent)
    (hfirst : (10 : ℚ) ^ first ≤ mantissa * 2 ^ exponent)
    (hw : |w - mantissa * 2 ^ exponent| ≤ 10 ^ (first - 16) / 2) : IsNear mantissa exponent w := by
  have htwo : (0 : ℚ) < 2 ^ exponent := zpow_pos two_pos exponent
  have hunit : (10 : ℚ) ^ (first - 16) ≤ mantissa * 2 ^ exponent / 10 ^ 16 := by
    rw [zpow_sub₀ (by norm_num), le_div_iff₀ (by norm_num)]
    norm_num
    linarith
  constructor
  · have hbits : (mantissa : ℚ) ≤ 2 ^ 53 := by
      have : mantissa ≤ 2 ^ 53 := by rcases canonical with h | h <;> omega
      exact_mod_cast this
    have hmul := mul_le_mul_of_nonneg_right hbits htwo.le
    linarith
  · rintro rfl -
    have hnear := (abs_le.mp hw).1
    push_cast at hunit hnear ⊢
    linarith

/-! ### Reading back -/

theorem roundQuotient_eq_or (n d : Nat) :
    roundQuotient n d = n / d ∨ roundQuotient n d = n / d + 1 := by
  rw [roundQuotient]
  split
  · exact .inl rfl
  · split
    · exact .inr rfl
    · rcases Nat.mod_two_eq_zero_or_one (n / d) with h | h <;> rw [h]
      · exact .inl rfl
      · exact .inr rfl

/-- What has been checked reads back. -/
theorem toBinary64_of_readsBack? {x : Binary64} {count : Nat} {d : Decimal}
    (h : readsBack? x num den first count = some d) : d.toBinary64 x.isNegative = x := by
  rw [readsBack?] at h
  generalize inUnits num den (first - count + 1) = units at h
  obtain ⟨n, k⟩ := units
  dsimp only at h
  split at h
  · rename_i hbelow habove
    obtain rfl := Option.some.inj h
    rcases roundQuotient_eq_or n k with hround | hround <;> rw [hround]
    · exact eq_of_beq hbelow
    · exact eq_of_beq habove
  · rename_i hbelow _
    obtain rfl := Option.some.inj h
    exact eq_of_beq hbelow
  · rename_i _ habove
    obtain rfl := Option.some.inj h
    exact eq_of_beq habove
  · cases h

/-- The digits are those of a try that has been checked, or there are seventeen of them. -/
theorem shortestFrom_cases (x : Binary64) (num den : Nat) (first : ℤ) (fuel count : Nat) :
    (shortestFrom x num den first fuel count).toBinary64 x.isNegative = x ∨
      ∃ unit, unit = first - (count + fuel : Nat) + 1 ∧ shortestFrom x num den first fuel count =
        ⟨roundQuotient (inUnits num den unit).1 (inUnits num den unit).2, unit⟩ := by
  induction fuel generalizing count with
  | zero => exact .inr ⟨_, rfl, rfl⟩
  | succ fuel ih =>
    rw [shortestFrom]
    split
    · rename_i d hd
      exact .inl (toBinary64_of_readsBack? hd)
    · rw [show count + (fuel + 1) = count + 1 + fuel by omega]
      exact ih (count + 1)

theorem ratio_value (mantissa : Nat) (exponent : ℤ) :
    ((ratio mantissa exponent).1 : ℚ) / (ratio mantissa exponent).2 = mantissa * 2 ^ exponent := by
  have hpow : (2 : ℚ) ^ (-exponent).toNat ≠ 0 := pow_ne_zero _ two_ne_zero
  rw [ratio]
  push_cast
  rw [div_eq_iff hpow, pow_toNat_eq two_ne_zero exponent, mul_assoc]

/-- A number other than zero is at least the least one there is. -/
theorem two_pow_le_value {mantissa : Nat} {exponent : ℤ} (canonical : Canonical mantissa exponent)
    (hm : mantissa ≠ 0) : (2 : ℚ) ^ (-1074 : ℤ) ≤ mantissa * 2 ^ exponent := by
  have hone : (1 : ℚ) ≤ mantissa := by exact_mod_cast Nat.pos_of_ne_zero hm
  have hleast : (2 : ℚ) ^ (-1074 : ℤ) ≤ 2 ^ exponent :=
    zpow_le_zpow_right₀ one_le_two (by rcases canonical with h | h <;> omega)
  calc (2 : ℚ) ^ (-1074 : ℤ) ≤ 1 * 2 ^ exponent := by rwa [one_mul]
    _ ≤ mantissa * 2 ^ exponent := mul_le_mul_of_nonneg_right hone (zpow_pos two_pos exponent).le

theorem value_lt_two_pow {mantissa : Nat} {exponent : ℤ} (canonical : Canonical mantissa exponent) :
    (mantissa : ℚ) * 2 ^ exponent < 2 ^ (1024 : ℤ) := by
  have hbits : (mantissa : ℚ) < 2 ^ 53 := by
    have : mantissa < 2 ^ 53 := by rcases canonical with h | h <;> omega
    exact_mod_cast this
  have hmost : (2 : ℚ) ^ exponent ≤ 2 ^ (971 : ℤ) :=
    zpow_le_zpow_right₀ one_le_two (by rcases canonical with h | h <;> omega)
  calc (mantissa : ℚ) * 2 ^ exponent < 2 ^ 53 * 2 ^ exponent :=
        mul_lt_mul_of_pos_right hbits (zpow_pos two_pos exponent)
    _ ≤ 2 ^ 53 * 2 ^ (971 : ℤ) := mul_le_mul_of_nonneg_left hmost (by norm_num)
    _ = 2 ^ (1024 : ℤ) := by rw [← zpow_natCast, ← zpow_add₀ two_ne_zero]; rfl

/-- Digits that read back do so without the zeros at their end. -/
theorem reads_trimZeros {negative : Bool} {mantissa : Nat} {exponent : ℤ}
    {canonical : Canonical mantissa exponent} (hm : mantissa ≠ 0) {d : Decimal}
    (hd : d.toBinary64 negative = finite negative mantissa exponent canonical) (fuel : Nat) :
    (d.trimZeros fuel).digits ≠ 0 ∧
      (d.trimZeros fuel).toBinary64 negative = finite negative mantissa exponent canonical := by
  have htrim := (Decimal.toBinary64_congr (Decimal.value_trimZeros fuel d) negative).trans hd
  refine ⟨fun hzero => ?_, htrim⟩
  rw [Decimal.toBinary64, if_pos hzero] at htrim
  injection htrim with _ hmantissa
  exact hm hmantissa.symm

/-- Seventeen digits that are near a number are not all zero. -/
theorem digits_ne_zero_of_seventeen {mantissa : Nat} {exponent first : ℤ} {d : Decimal}
    (hfirst : (10 : ℚ) ^ first ≤ mantissa * 2 ^ exponent)
    (herror : |d.value - mantissa * 2 ^ exponent| ≤ 10 ^ (first - 16) / 2) : d.digits ≠ 0 := by
  intro hzero
  have hpos : (0 : ℚ) ≤ mantissa * 2 ^ exponent := by positivity
  have hsmall : (10 : ℚ) ^ (first - 16) / 2 < 10 ^ first := by
    rw [zpow_sub₀ (by norm_num)]
    have hten : (0 : ℚ) < 10 ^ first := zpow_pos (by norm_num) _
    norm_num
    linarith
  rw [Decimal.value, hzero, Nat.cast_zero, zero_mul, zero_sub, abs_neg, abs_of_nonneg hpos] at herror
  linarith

/-- **The shortest digits** read back as their number. -/
theorem exists_shortest? (negative : Bool) {mantissa : Nat} {exponent : ℤ}
    (canonical : Canonical mantissa exponent) (hm : mantissa ≠ 0) :
    ∃ d, (finite negative mantissa exponent canonical).shortest? = some d ∧ d.digits ≠ 0 ∧
      d.toBinary64 negative = finite negative mantissa exponent canonical := by
  have hvalue := ratio_value mantissa exponent
  have hnum : (ratio mantissa exponent).1 ≠ 0 :=
    Nat.mul_ne_zero hm (Nat.two_pow_pos _).ne'
  have hden : (ratio mantissa exponent).2 ≠ 0 := (Nat.two_pow_pos _).ne'
  rw [shortest?, if_neg hm]
  generalize ratio mantissa exponent = quotient at hvalue hnum hden
  obtain ⟨num, den⟩ := quotient
  dsimp only at hvalue hnum hden ⊢
  have hfirst := pow_decimalExponent_le hnum hden (hvalue ▸ two_pow_le_value canonical hm)
    (hvalue ▸ value_lt_two_pow canonical)
  generalize decimalExponent num den = first at hfirst
  refine ⟨_, rfl, reads_trimZeros hm ?_ 20⟩
  rcases shortestFrom_cases (finite negative mantissa exponent canonical) num den first 16 1 with
    hchecked | ⟨unit, hunit, hlast⟩
  · exact hchecked
  · obtain rfl : unit = first - 16 := by omega
    rw [hlast]
    have herror := abs_value_sub_le num hden (first - 16)
    rw [hvalue] at hfirst herror
    exact Decimal.toBinary64_of_near canonical (digits_ne_zero_of_seventeen hfirst herror)
      (isNear_seventeen canonical hfirst herror) negative

end Binary64

end SheetCommand
