import SheetCommand.Proofs.Number.Exact
import SheetCommand.Proofs.Number.Whole

/-!
# Number — no number is closer

What a value is rounded to, if it is finite, is as close to the value as any number
(`abs_sub_nearest_le`). So a value that some number has is kept (`value?_nearest_of_value?`).
-/

namespace SheetCommand

/-- No integer is closer to a quotient than what it is rounded to. -/
theorem abs_sub_roundQuotient_le_abs_sub {n d : Nat} (hd : 0 < d) (k : ℤ) :
    |(n : ℚ) / d - roundQuotient n d| ≤ |(n : ℚ) / d - k| := by
  have hround := abs_sub_roundQuotient_le (n := n) hd
  generalize roundQuotient n d = m at hround ⊢
  by_cases hk : k = m
  · rw [hk, Int.cast_natCast]
  · -- another integer is at least one away from the first
    have hone : (1 : ℚ) ≤ |(k : ℚ) - m| := by
      have hint : 1 ≤ |k - (m : ℤ)| := Int.one_le_abs (sub_ne_zero.mpr hk)
      exact_mod_cast hint
    have hfar : (1 : ℚ) ≤ |(n : ℚ) / d - k| + |(n : ℚ) / d - m| := by
      calc (1 : ℚ) ≤ |(k : ℚ) - m| := hone
        _ ≤ |(k : ℚ) - n / d| + |(n : ℚ) / d - m| := abs_sub_le ..
        _ = |(n : ℚ) / d - k| + |(n : ℚ) / d - m| := by rw [abs_sub_comm (k : ℚ)]
    linarith

namespace Binary64

variable {x y : Binary64} {p q r : ℚ} {e f : ℤ} {num den m : Nat} {negative : Bool}

theorem value?_finite {canonical : Canonical m e} :
    (finite negative m e canonical).value? = some ((signed negative m : ℚ) * 2 ^ e) := rfl

theorem value?_of_pack (h : (pack negative m e).value? = some p) :
    p = (signed negative m : ℚ) * 2 ^ e := by
  rw [pack] at h
  split at h
  · exact (Option.some.inj h).symm
  · split at h
    · rename_i hup
      obtain rfl := hup.1
      have hdouble : signed negative (2 ^ 53) = signed negative (2 ^ 52) * 2 := by
        cases negative <;> rfl
      rw [value?_finite] at h
      rw [← Option.some.inj h, hdouble, zpow_add_one₀ two_ne_zero, Int.cast_mul, Int.cast_ofNat,
        mul_right_comm, mul_assoc]
    · cases h

/-- What a positive quotient is rounded to is as close to it as any mantissa at any exponent. -/
theorem abs_sub_rounded_le (hn : num ≠ 0) (hd : den ≠ 0) {k : ℤ} (hk : |k| ≤ 2 ^ 53)
    (hf : -1074 ≤ f) :
    let e := exponentOf num den
    |(num : ℚ) / den - roundQuotient (num * 2 ^ (-e).toNat) (den * 2 ^ e.toNat) * 2 ^ e| ≤
      |(num : ℚ) / den - k * 2 ^ f| := by
  intro e
  have hexponent : IsExponent ((num : ℚ) / den) e := isExponent_exponentOf hn hd
  have htwo : (0 : ℚ) < 2 ^ e := zpow_pos two_pos e
  have hscale : (num : ℚ) / den = (num * 2 ^ (-e).toNat : Nat) / (den * 2 ^ e.toNat : Nat) * 2 ^ e :=
    ((scaled_div two_ne_zero num den e).symm ▸ (div_mul_cancel₀ _ htwo.ne')).symm
  -- at the exponent of the quotient the mantissas are integers, and the nearest one is taken
  have hsame : ∀ j : ℤ, |(num : ℚ) / den -
      roundQuotient (num * 2 ^ (-e).toNat) (den * 2 ^ e.toNat) * 2 ^ e| ≤
        |(num : ℚ) / den - j * 2 ^ e| := by
    intro j
    have hnearest := abs_sub_roundQuotient_le_abs_sub (n := num * 2 ^ (-e).toNat)
      (Nat.mul_pos (Nat.pos_of_ne_zero hd) (Nat.two_pow_pos e.toNat)) j
    rw [hscale, ← sub_mul, ← sub_mul, abs_mul, abs_mul]
    exact mul_le_mul_of_nonneg_right hnearest (abs_nonneg _)
  rcases le_or_gt e f with hle | hlt
  · obtain ⟨l, hl⟩ := Int.le.dest hle
    have hwhole : (k : ℚ) * 2 ^ f = ((k * 2 ^ l : ℤ) : ℚ) * 2 ^ e := by
      rw [← hl, zpow_add₀ two_ne_zero, zpow_natCast]
      push_cast
      ring
    rw [hwhole]
    exact hsame _
  · -- a lower exponent gives numbers below the quotient, on its far side from `2 ^ 52 * 2 ^ e`
    have habove : (2 : ℚ) ^ 52 * 2 ^ e ≤ num / den := hexponent.above.resolve_left (by omega)
    have hbelow : (k : ℚ) * 2 ^ f ≤ 2 ^ 52 * 2 ^ e := by
      calc (k : ℚ) * 2 ^ f ≤ 2 ^ 53 * 2 ^ f := by
            refine mul_le_mul_of_nonneg_right ?_ (zpow_pos two_pos f).le
            exact_mod_cast (le_abs_self k).trans hk
        _ = 2 ^ 52 * 2 ^ (f + 1) := by rw [zpow_add_one₀ two_ne_zero]; ring
        _ ≤ 2 ^ 52 * 2 ^ e :=
            mul_le_mul_of_nonneg_left (zpow_le_zpow_right₀ one_le_two hlt) (by positivity)
    calc _ ≤ |(num : ℚ) / den - ((2 ^ 52 : ℤ) : ℚ) * 2 ^ e| := hsame _
      _ = num / den - 2 ^ 52 * 2 ^ e := by
          push_cast
          exact abs_of_nonneg (sub_nonneg.mpr habove)
      _ ≤ num / den - k * 2 ^ f := by linarith
      _ ≤ |(num : ℚ) / den - k * 2 ^ f| := le_abs_self _

/-- The value of a number is an integer of at most 53 bits times a power of two. -/
theorem exists_mantissa (h : y.value? = some r) :
    ∃ (k : ℤ) (f : ℤ), |k| ≤ 2 ^ 53 - 1 ∧ -1074 ≤ f ∧ f ≤ 971 ∧ r = k * 2 ^ f := by
  cases y with
  | nan | infinity => cases h
  | finite s m f canonical =>
    have hbits : m < 2 ^ 53 ∧ -1074 ≤ f ∧ f ≤ 971 := by rcases canonical with h | h <;> omega
    refine ⟨signed s m, f, ?_, hbits.2.1, hbits.2.2, (Option.some.inj h).symm⟩
    rw [Int.abs_eq_natAbs, natAbs_signed]
    omega

/-- **No number is closer** to a quotient than what it is rounded to. -/
theorem abs_sub_ofRatio_le (hd : den ≠ 0) (h : (ofRatio negative num den).value? = some p)
    (hy : y.value? = some r) :
    |(signed negative num : ℚ) / den - p| ≤ |(signed negative num : ℚ) / den - r| := by
  by_cases hn : num = 0
  · subst hn
    obtain rfl : p = 0 := by
      rw [ofRatio, if_pos rfl] at h
      rw [← Option.some.inj h]
      cases negative <;> simp [Scaled.value, signed]
    cases negative <;> simp [signed]
  · rw [ofRatio, if_neg hn] at h
    obtain rfl := value?_of_pack h
    obtain ⟨k, f, hk, hf, -, rfl⟩ := exists_mantissa hy
    -- a sign in front of both numbers changes no distance
    cases negative with
    | false => exact abs_sub_rounded_le hn hd (hk.trans (by decide)) hf
    | true =>
      have hflip : ∀ a b : ℚ, |-a - b| = |a - -b| := fun a b => by
        rw [← abs_neg, neg_sub, sub_neg_eq_add, sub_neg_eq_add, add_comm]
      have hrounded := abs_sub_rounded_le (k := -k) hn hd (by rw [abs_neg]; exact hk.trans (by decide)) hf
      simp only [signed, if_true]
      push_cast at hrounded ⊢
      rw [neg_div, neg_mul, hflip, hflip, neg_neg, ← neg_mul]
      exact hrounded

theorem signed_div_den (q : ℚ) : (signed (decide (q < 0)) q.num.natAbs : ℚ) / q.den = q := by
  have hnum : signed (decide (q < 0)) q.num.natAbs = q.num := by
    simp only [← Rat.num_neg, signed_natAbs]
  rw [hnum, Rat.num_div_den]

/-- **No number is closer** to a value than the nearest one. -/
theorem abs_sub_nearest_le (h : (nearest q).value? = some p) (hy : y.value? = some r) :
    |q - p| ≤ |q - r| := by
  have hclosest := abs_sub_ofRatio_le q.den_nz h hy
  rwa [signed_div_den] at hclosest

/-- The nearest number to the value of a number has that value. -/
theorem value?_nearest_of_value? (hy : y.value? = some q) : (nearest q).value? = some q := by
  have hfinite : (nearest q).isFinite = true := by
    obtain ⟨k, f, hk, -, hf, hq⟩ := exists_mantissa hy
    refine isFinite_ofRatio q.den_nz ?_ _
    have habs : (q.num.natAbs : ℚ) / q.den = |q| := by
      rw [Nat.cast_natAbs, Int.cast_abs, ← Nat.abs_cast q.den, ← abs_div, Rat.num_div_den]
    rw [habs, hq, abs_mul, abs_of_pos (zpow_pos two_pos f : (0 : ℚ) < 2 ^ f)]
    refine mul_le_mul ?_ (zpow_le_zpow_right₀ one_le_two hf) (zpow_pos two_pos f).le (by norm_num)
    exact_mod_cast hk
  obtain ⟨p, hp⟩ := Option.isSome_iff_exists.mp (isSome_value?.trans hfinite)
  have hclosest := abs_sub_nearest_le hp hy
  rw [sub_self, abs_zero, abs_nonpos_iff, sub_eq_zero] at hclosest
  rw [hp, ← hclosest]

end Binary64

end SheetCommand
