import SheetCommand.Number.Numeral
import SheetCommand.Proofs.Number.Nearest

/-!
# Number — exact values

A finite number and an integer have an exact value, and two of them compare as their values do
(`compare?_eq_cmp`), whatever kind either is of. A number is equal to an integer if that is its value
(`toInt?_eq_some_iff`). The sum of two finite numbers is the number nearest to the sum of their values
(`rounds_add`).
-/

namespace SheetCommand

/-! ### Scaled integers -/

namespace Scaled

def value (x : Scaled) : ℚ := x.mantissa * 2 ^ x.exponent

variable {x y : Scaled} {e : ℤ}

theorem value_ofInt (n : ℤ) : (ofInt n).value = n := by
  simp [value, ofInt]

theorem mantissaAt_mul (h : e ≤ x.exponent) : (x.mantissaAt e : ℚ) * 2 ^ e = x.value := by
  obtain ⟨k, hk⟩ := Int.eq_ofNat_of_zero_le (Int.sub_nonneg_of_le h)
  have hsum : x.exponent = k + e := by omega
  rw [mantissaAt, value, hk, Int.toNat_natCast, hsum, zpow_add₀ two_ne_zero, zpow_natCast]
  push_cast
  rw [mul_assoc]

theorem compare_eq_cmp (x y : Scaled) : x.compare y = cmp x.value y.value := by
  have htwo : (0 : ℚ) < 2 ^ min x.exponent y.exponent := zpow_pos two_pos _
  rw [← mantissaAt_mul (Int.min_le_left x.exponent y.exponent),
    ← mantissaAt_mul (Int.min_le_right x.exponent y.exponent), cmp_mul_pos_right htwo,
    Int.cast_strictMono.cmp_map_eq, cmp_eq_compare, compare]

theorem compare_swap (x y : Scaled) : (x.compare y).swap = y.compare x := by
  rw [compare_eq_cmp, compare_eq_cmp, cmp_swap]

theorem value_add (x y : Scaled) : (x.add y).value = x.value + y.value := by
  rw [← mantissaAt_mul (Int.min_le_left x.exponent y.exponent),
    ← mantissaAt_mul (Int.min_le_right x.exponent y.exponent), add, value]
  push_cast
  rw [add_mul]

end Scaled

/-! ### Numbers -/

namespace Binary64

/-- The value of a finite number. -/
def value? (x : Binary64) : Option ℚ := x.scaled?.map Scaled.value

/-- The number nearest to a value. -/
def nearest (q : ℚ) : Binary64 := ofRatio (q < 0) q.num.natAbs q.den

/-- A number is the nearest to a value; a zero may have either sign. -/
def Rounds (x : Binary64) (q : ℚ) : Prop := if q = 0 then x.isZero = true else x = nearest q

variable {x y : Binary64} {p q : ℚ}

theorem isSome_value? : x.value?.isSome = x.isFinite := by
  cases x <;> rfl

theorem compare?_eq_cmp (hx : x.value? = some p) (hy : y.value? = some q) :
    x.compare? y = some (cmp p q) := by
  cases x with
  | nan | infinity => cases hx
  | finite s m e hm =>
    cases y with
    | nan | infinity => cases hy
    | finite t n f hn =>
      obtain rfl := Option.some.inj hx
      obtain rfl := Option.some.inj hy
      exact congrArg some (Scaled.compare_eq_cmp ..)

theorem compare?_swap (x y : Binary64) : (x.compare? y).map Ordering.swap = y.compare? x := by
  cases x with
  | nan => cases y <;> rfl
  | infinity s =>
    cases y with
    | nan => rfl
    | infinity t => cases s <;> cases t <;> rfl
    | finite => cases s <;> rfl
  | finite s m e hm =>
    cases y with
    | nan => rfl
    | infinity t => cases t <;> rfl
    | finite t n f hn => exact congrArg some (Scaled.compare_swap ..)

theorem compareInt?_eq_cmp (n : ℤ) (hy : y.value? = some q) :
    compareInt? n y = some (cmp (n : ℚ) q) := by
  cases y with
  | nan | infinity => cases hy
  | finite t m f hm =>
    obtain rfl := Option.some.inj hy
    rw [← Scaled.value_ofInt]
    exact congrArg some (Scaled.compare_eq_cmp ..)

/-! ### Integers -/

theorem natAbs_signed (negative : Bool) (n : Nat) : (signed negative n).natAbs = n := by
  cases negative <;> simp [signed]

theorem signed_mul (negative : Bool) (m n : Nat) :
    signed negative (m * n) = signed negative m * n := by
  cases negative <;> simp [signed]

theorem signed_eq_mul_iff {negative : Bool} {m d : Nat} {n : ℤ} (hd : 0 < d) :
    signed negative m = n * d ↔ m % d = 0 ∧ signed negative (m / d) = n := by
  constructor
  · intro h
    have hmod : m % d = 0 := by
      have habs := congrArg Int.natAbs h
      rw [natAbs_signed, Int.natAbs_mul, Int.natAbs_natCast] at habs
      rw [habs, Nat.mul_mod_left]
    refine ⟨hmod, mul_right_cancel₀ (Int.natCast_ne_zero.mpr hd.ne') ?_⟩
    rw [← signed_mul, Nat.div_mul_cancel (Nat.dvd_of_mod_eq_zero hmod), h]
  · rintro ⟨hmod, rfl⟩
    rw [← signed_mul, Nat.div_mul_cancel (Nat.dvd_of_mod_eq_zero hmod)]

/-- **The integer that a number is equal to** is its value. -/
theorem toInt?_eq_some_iff {n : ℤ} : x.toInt? = some n ↔ x.value? = some (n : ℚ) := by
  cases x with
  | nan | infinity => exact ⟨nofun, nofun⟩
  | finite s m e canonical =>
    have hpow : (2 : ℚ) ^ (-e).toNat ≠ 0 := pow_ne_zero _ two_ne_zero
    -- with both powers of two the equation is one of integers
    have hvalue : (finite s m e canonical).value? = some (n : ℚ) ↔
        signed s m * (2 ^ e.toNat : Nat) = n * (2 ^ (-e).toNat : Nat) := by
      rw [value?, scaled?, Option.map_some, Option.some.injEq, Scaled.value,
        ← mul_left_inj' hpow, mul_assoc, ← pow_toNat_eq two_ne_zero]
      norm_cast
    rw [hvalue, ← signed_mul, signed_eq_mul_iff (Nat.two_pow_pos _), toInt?]
    rcases Int.le_total 0 e with he | he
    · rw [Int.toNat_of_nonpos (Int.neg_nonpos_of_nonneg he)]
      simp [Nat.mod_one]
    · rw [Int.toNat_of_nonpos he]
      simp [ite_eq_iff]

/-! ### Rounding -/

theorem ofScaled_eq_nearest (x : Scaled) : ofScaled x = nearest x.value := by
  have htwo : (0 : ℚ) < 2 ^ x.exponent := zpow_pos two_pos _
  have hneg : x.mantissa < 0 ↔ x.value < 0 := by
    rw [Scaled.value, mul_neg_iff, Int.cast_lt_zero]
    simp [htwo, htwo.not_gt]
  have hvalue : ((x.mantissa.natAbs * 2 ^ x.exponent.toNat : Nat) : ℚ) /
      (2 ^ (-x.exponent).toNat : Nat) = x.value.num.natAbs / x.value.den := by
    have hscaled := scaled_div (b := 2) two_ne_zero x.mantissa.natAbs 1 (-x.exponent)
    rw [neg_neg, one_mul, Nat.cast_one, div_one, zpow_neg, div_inv_eq_mul] at hscaled
    rw [hscaled, Nat.cast_natAbs, Nat.cast_natAbs, Int.cast_abs, Int.cast_abs,
      ← abs_of_pos (Nat.cast_pos.mpr x.value.den_pos : (0 : ℚ) < x.value.den), ← abs_div,
      Rat.num_div_den, Scaled.value, abs_mul, Nat.cast_ofNat, abs_of_pos htwo]
  simp only [ofScaled, nearest, hneg]
  refine ofRatio_congr (Nat.two_pow_pos _).ne' x.value.den_nz ?_ _
  rw [div_eq_div_iff (by positivity) (Nat.cast_ne_zero.mpr x.value.den_nz)] at hvalue
  exact_mod_cast hvalue

theorem ofInt_eq_nearest (n : ℤ) : ofInt n = nearest n := by
  rw [ofInt, nearest]
  simp

/-- The sign of a zero makes no difference to its value. -/
theorem value?_ofRatio_one (negative : Bool) (n : Nat) :
    (ofRatio negative n 1).value? = (ofInt (signed negative n)).value? := by
  rw [ofInt, natAbs_signed]
  by_cases hn : n = 0
  · subst hn
    rw [ofRatio, ofRatio, if_pos rfl, if_pos rfl]
    cases negative <;> simp [zero, value?, scaled?, Scaled.value, signed]
  · have hsign : decide (signed negative n < 0) = negative := by
      cases negative <;> simp [signed, Nat.pos_of_ne_zero hn]
    rw [hsign]

/-- **The sum of two finite numbers** is the one nearest to the sum of their values. -/
theorem rounds_add (hx : x.value? = some p) (hy : y.value? = some q) :
    (x.add y).Rounds (p + q) := by
  cases x with
  | nan | infinity => cases hx
  | finite s m e hm =>
    cases y with
    | nan | infinity => cases hy
    | finite t n f hn =>
      obtain rfl := Option.some.inj hx
      obtain rfl := Option.some.inj hy
      have hzero : (Scaled.add ⟨signed s m, e⟩ ⟨signed t n, f⟩).mantissa = 0 ↔
          (Scaled.add ⟨signed s m, e⟩ ⟨signed t n, f⟩).value = 0 := by
        rw [Scaled.value, mul_eq_zero, Int.cast_eq_zero]
        exact (or_iff_left (zpow_pos two_pos _).ne').symm
      rw [Rounds, ← Scaled.value_add, add]
      simp only [hzero]
      split
      · rfl
      · rw [ofScaled_eq_nearest]

end Binary64

namespace Number

/-- The value of an integer or a finite number. -/
def value? : Number → Option ℚ
  | int n => some n
  | real x => x.value?

variable {m n : Number} {p q : ℚ}

/-- **Numbers compare as their values do.** -/
theorem compare?_eq_cmp (hm : m.value? = some p) (hn : n.value? = some q) :
    m.compare? n = some (cmp p q) := by
  cases m with
  | int m =>
    obtain rfl := Option.some.inj hm
    cases n with
    | int n =>
      obtain rfl := Option.some.inj hn
      rw [Int.cast_strictMono.cmp_map_eq, cmp_eq_compare, compare?]
    | real y => exact Binary64.compareInt?_eq_cmp m hn
  | real x =>
    cases n with
    | int n =>
      obtain rfl := Option.some.inj hn
      rw [compare?, Binary64.compareInt?_eq_cmp n hm, Option.map_some, cmp_swap]
    | real y => exact Binary64.compare?_eq_cmp hm hn

/-- Numbers are equal if their values are. What has no value is equal to nothing that has one. -/
theorem compare?_eq_some_eq_iff (hm : m.value? = some p) :
    m.compare? n = some .eq ↔ n.value? = some p := by
  cases hn : n.value? with
  | some q => rw [compare?_eq_cmp hm hn, Option.some.injEq, cmp_eq_eq_iff, Option.some.injEq, eq_comm]
  | none =>
    refine iff_of_false (fun h => ?_) nofun
    cases n with
    | int n => cases hn
    | real y =>
      -- an infinity is on one side of everything that has a value
      cases m with
      | int m =>
        cases y with
        | finite => cases hn
        | nan => cases h
        | infinity t => cases t <;> cases h
      | real x =>
        cases x with
        | nan | infinity => cases hm
        | finite =>
          cases y with
          | finite => cases hn
          | nan => cases h
          | infinity t => cases t <;> cases h

theorem compare?_swap (m n : Number) : (m.compare? n).map Ordering.swap = n.compare? m := by
  cases m with
  | int m =>
    cases n with
    | int n => exact congrArg some (Int.compare_swap m n)
    | real y => rfl
  | real x =>
    cases n with
    | int n =>
      rw [compare?, compare?, Option.map_map,
        funext (f := Ordering.swap ∘ Ordering.swap) fun _ => Ordering.swap_swap]
      exact Option.map_id'
    | real y => exact Binary64.compare?_swap x y

end Number

end SheetCommand
