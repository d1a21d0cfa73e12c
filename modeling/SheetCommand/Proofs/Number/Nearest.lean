import Mathlib.Algebra.Order.Field.Power
import Mathlib.Data.Rat.Cast.Order
import Mathlib.Tactic.FieldSimp
import Mathlib.Tactic.Linarith
import Mathlib.Tactic.Positivity
import Mathlib.Tactic.NormNum
import Mathlib.Tactic.Ring
import SheetCommand.Number.Decimal

/-!
# Number — the nearest number

Rounding depends on the value that is rounded alone, however it is given as a quotient
(`ofRatio_congr`) or as digits and a power of ten (`toBinary64_congr`); the guards of the latter make
no difference (`toBinary64_eq_ofRatio`). A value that is less than half a unit away from a number, or
less than a quarter below a power of two, is rounded to that number (`ofRatio_of_near`).
-/

namespace SheetCommand

/-! ### Quotients -/

section

variable {n d n' d' : Nat}

theorem roundQuotient_mul_right (n d : Nat) {k : Nat} (hk : 0 < k) :
    roundQuotient (n * k) (d * k) = roundQuotient n d := by
  have hlt : ∀ a b : Nat, a * k < b * k ↔ a < b := fun a b => Nat.mul_lt_mul_right hk
  rw [roundQuotient, roundQuotient, Nat.mul_div_mul_right n d hk, Nat.mul_mod_mul_right]
  simp only [← Nat.mul_assoc, hlt]

/-- Rounding a quotient depends on its value alone. -/
theorem roundQuotient_congr (hd : 0 < d) (hd' : 0 < d') (h : n * d' = n' * d) :
    roundQuotient n d = roundQuotient n' d' := by
  rw [← roundQuotient_mul_right n d hd', h, Nat.mul_comm d d', roundQuotient_mul_right n' d' hd]

/-- What a quotient is rounded to is at most a half away. -/
theorem abs_sub_roundQuotient_le (hd : 0 < d) :
    |(n : ℚ) / d - roundQuotient n d| ≤ 1 / 2 := by
  have hpos : (0 : ℚ) < d := by exact_mod_cast hd
  have hsplit : (n : ℚ) / d = (n / d : Nat) + (n % d : Nat) / d := by
    have hdiv : ((d * (n / d) + n % d : Nat) : ℚ) = n := by rw [Nat.div_add_mod]
    field_simp
    push_cast at hdiv
    linarith
  have hlt : ((n % d : Nat) : ℚ) / d < 1 := by
    rw [div_lt_one hpos]
    exact_mod_cast Nat.mod_lt n hd
  have hnonneg : (0 : ℚ) ≤ ((n % d : Nat) : ℚ) / d := by positivity
  have hhalf : ∀ r : Nat, (2 * r ≤ d ↔ (r : ℚ) / d ≤ 1 / 2) ∧ (d ≤ 2 * r ↔ 1 / 2 ≤ (r : ℚ) / d) := by
    intro r
    rw [div_le_iff₀ hpos, le_div_iff₀ hpos]
    constructor
    · rw [← Nat.cast_le (α := ℚ)]
      push_cast
      constructor <;> intro h <;> linarith
    · rw [← Nat.cast_le (α := ℚ)]
      push_cast
      constructor <;> intro h <;> linarith
  rw [hsplit, roundQuotient, abs_le]
  split
  · rename_i h
    have hle := (hhalf _).1.mp h.le
    constructor <;> linarith
  · split
    · rename_i h
      have hle := (hhalf _).2.mp h.le
      constructor <;> push_cast <;> linarith
    · -- halfway between two, to either
      have hle := (hhalf (n % d)).1.mp (by omega)
      have hge := (hhalf (n % d)).2.mp (by omega)
      rcases Nat.mod_two_eq_zero_or_one (n / d) with h | h <;> rw [h] <;>
        constructor <;> push_cast <;> linarith

/-- An integer less than a half away from a quotient is what it is rounded to. -/
theorem roundQuotient_eq_of_near {m : Nat} (hd : 0 < d) (h : |(n : ℚ) / d - m| < 1 / 2) :
    roundQuotient n d = m := by
  have hround := abs_sub_roundQuotient_le (n := n) hd
  rw [abs_le] at hround
  rw [abs_lt] at h
  have hlt : (roundQuotient n d : ℚ) < m + 1 := by linarith
  have hgt : (m : ℚ) < roundQuotient n d + 1 := by linarith
  have hlt' : roundQuotient n d < m + 1 := by exact_mod_cast hlt
  have hgt' : m < roundQuotient n d + 1 := by exact_mod_cast hgt
  omega

end

/-- A power with an integer exponent as a quotient of powers. -/
theorem pow_toNat_eq {b : ℚ} (hb : b ≠ 0) (e : ℤ) : b ^ e.toNat = b ^ e * b ^ (-e).toNat := by
  obtain ⟨n, rfl | rfl⟩ := e.eq_nat_or_neg
  · simp
  · simp [hb]

theorem scaled_div {b : Nat} (hb : b ≠ 0) (num den : Nat) (e : ℤ) :
    ((num * b ^ (-e).toNat : Nat) : ℚ) / (den * b ^ e.toNat : Nat) = num / den / (b : ℚ) ^ e := by
  have hb' : (b : ℚ) ≠ 0 := by exact_mod_cast hb
  have hpow : (b : ℚ) ^ (-e).toNat ≠ 0 := pow_ne_zero _ hb'
  push_cast
  rw [pow_toNat_eq hb' e, ← mul_assoc, mul_div_mul_right _ _ hpow, ← div_div]

namespace Binary64

/-! ### Exponents -/

/-- The exponent at which a value has a mantissa of 53 bits, or the least exponent. -/
structure IsExponent (v : ℚ) (e : ℤ) : Prop where
  least : -1074 ≤ e
  below : v < 2 ^ 53 * 2 ^ e
  above : e = -1074 ∨ 2 ^ 52 * 2 ^ e ≤ v

variable {v : ℚ} {e f : ℤ} {num den : Nat}

theorem IsExponent.le (he : IsExponent v e) (hf : IsExponent v f) : e ≤ f := by
  rcases he.above with h | h
  · exact h ▸ hf.least
  · have hlt : (2 : ℚ) ^ (52 + e) < 2 ^ (53 + f) := by
      rw [zpow_add₀ two_ne_zero, zpow_add₀ two_ne_zero]
      exact h.trans_lt hf.below
    have := (zpow_lt_zpow_iff_right₀ one_lt_two).mp hlt
    omega

theorem IsExponent.unique (he : IsExponent v e) (hf : IsExponent v f) : e = f :=
  le_antisymm (he.le hf) (hf.le he)

/-- The bit lengths give the value up to a factor of two on either side. -/
theorem log2_bounds (hn : num ≠ 0) (hd : den ≠ 0) :
    (2 : ℚ) ^ ((num.log2 : ℤ) - den.log2 - 1) < num / den ∧
      (num : ℚ) / den < 2 ^ ((num.log2 : ℤ) - den.log2 + 1) := by
  have hnum : (2 : ℚ) ^ (num.log2 : ℤ) ≤ num ∧ (num : ℚ) < 2 ^ ((num.log2 : ℤ) + 1) := by
    constructor
    · exact_mod_cast Nat.log2_self_le hn
    · exact_mod_cast Nat.lt_log2_self
  have hden : (2 : ℚ) ^ (den.log2 : ℤ) ≤ den ∧ (den : ℚ) < 2 ^ ((den.log2 : ℤ) + 1) := by
    constructor
    · exact_mod_cast Nat.log2_self_le hd
    · exact_mod_cast Nat.lt_log2_self
  have hpos : (0 : ℚ) < den := by exact_mod_cast Nat.pos_of_ne_zero hd
  have htwo : ∀ k : ℤ, (0 : ℚ) < 2 ^ k := fun k => zpow_pos two_pos k
  constructor
  · rw [lt_div_iff₀ hpos]
    calc (2 : ℚ) ^ ((num.log2 : ℤ) - den.log2 - 1) * den
        < 2 ^ ((num.log2 : ℤ) - den.log2 - 1) * 2 ^ ((den.log2 : ℤ) + 1) :=
          mul_lt_mul_of_pos_left hden.2 (htwo _)
      _ = 2 ^ (num.log2 : ℤ) := by rw [← zpow_add₀ two_ne_zero]; congr 1; ring
      _ ≤ num := hnum.1
  · rw [div_lt_iff₀ hpos]
    calc (num : ℚ) < 2 ^ ((num.log2 : ℤ) + 1) := hnum.2
      _ = 2 ^ ((num.log2 : ℤ) - den.log2 + 1) * 2 ^ (den.log2 : ℤ) := by
          rw [← zpow_add₀ two_ne_zero]; congr 1; ring
      _ ≤ 2 ^ ((num.log2 : ℤ) - den.log2 + 1) * den :=
          mul_le_mul_of_nonneg_left hden.1 (htwo _).le

/-- What the comparison of a quotient with a guess at its exponent says of its value. -/
theorem scaled_lt_iff (hd : den ≠ 0) (k : ℤ) :
    num * 2 ^ (-k).toNat < 2 ^ 52 * den * 2 ^ k.toNat ↔ (num : ℚ) / den < 2 ^ (k + 52) := by
  have hscale := scaled_div (b := 2) two_ne_zero num den k
  have hdpos : (0 : ℚ) < (den * 2 ^ k.toNat : Nat) := by
    exact_mod_cast Nat.mul_pos (Nat.pos_of_ne_zero hd) (Nat.two_pow_pos _)
  have hadd : (2 : ℚ) ^ (k + 52) = 2 ^ 52 * 2 ^ k := by
    rw [zpow_add₀ two_ne_zero, mul_comm]
    rfl
  rw [hadd, ← div_lt_iff₀ (zpow_pos two_pos k), ← Nat.cast_ofNat (R := ℚ) (n := 2), ← hscale,
    div_lt_iff₀ hdpos]
  norm_cast
  rw [Nat.mul_assoc]

/-- The exponent of a value between two powers of two. -/
theorem isExponent_max {q : ℚ} {k : ℤ} (hlow : (2 : ℚ) ^ (k + 52) ≤ q)
    (hhigh : q < 2 ^ (k + 53)) : IsExponent q (max k (-1074)) := by
  have hadd : ∀ (n : Nat) (l : ℤ), (2 : ℚ) ^ n * 2 ^ l = 2 ^ (l + n) := by
    intro n l
    rw [zpow_add₀ two_ne_zero, zpow_natCast, mul_comm]
  refine ⟨le_max_right .., ?_, ?_⟩
  · rw [hadd]
    exact hhigh.trans_le (zpow_le_zpow_right₀ one_le_two (by push_cast; omega))
  · rcases le_total k (-1074) with h | h
    · exact .inl (max_eq_right h)
    · rw [max_eq_left h, hadd]
      exact .inr hlow

/-- **The exponent of a quotient** is that of its value. -/
theorem isExponent_exponentOf (hn : num ≠ 0) (hd : den ≠ 0) :
    IsExponent (num / den) (exponentOf num den) := by
  obtain ⟨hlow, hhigh⟩ := log2_bounds hn hd
  simp only [exponentOf, scaled_lt_iff hd]
  generalize hk : (num.log2 : ℤ) - den.log2 - 52 = k
  split
  · rename_i hlt
    refine isExponent_max ?_ (by rwa [show k - 1 + 53 = k + 52 by ring])
    rw [show k - 1 + 52 = (num.log2 : ℤ) - den.log2 - 1 by omega]
    exact hlow.le
  · rename_i hge
    refine isExponent_max (not_lt.mp hge) ?_
    rwa [show k + 53 = (num.log2 : ℤ) - den.log2 + 1 by omega]

/-! ### Rounding -/

/-- **Rounding depends on the value alone.** -/
theorem ofRatio_congr {num' den' : Nat} (hd : den ≠ 0) (hd' : den' ≠ 0)
    (h : num * den' = num' * den) (negative : Bool) :
    ofRatio negative num den = ofRatio negative num' den' := by
  by_cases hn : num = 0
  · have hn' : num' = 0 := by
      rw [hn, Nat.zero_mul] at h
      exact (Nat.mul_eq_zero.mp h.symm).resolve_right hd
    rw [hn, hn', ofRatio, ofRatio, if_pos rfl, if_pos rfl]
  · have hn' : num' ≠ 0 := by
      rintro rfl
      rw [Nat.zero_mul] at h
      exact (Nat.mul_eq_zero.mp h).elim hn hd'
    have hvalue : (num : ℚ) / den = num' / den' := by
      rw [div_eq_div_iff (by exact_mod_cast hd) (by exact_mod_cast hd')]
      exact_mod_cast h
    have hexponent : exponentOf num den = exponentOf num' den' :=
      (isExponent_exponentOf hn hd).unique (hvalue ▸ isExponent_exponentOf hn' hd')
    have hround : ∀ a b : Nat, 0 < b → roundQuotient (num * a) (den * b) =
        roundQuotient (num' * a) (den' * b) := fun a b hb =>
      roundQuotient_congr (Nat.mul_pos (Nat.pos_of_ne_zero hd) hb)
        (Nat.mul_pos (Nat.pos_of_ne_zero hd') hb)
        (by rw [Nat.mul_mul_mul_comm, h, Nat.mul_mul_mul_comm])
    rw [ofRatio, ofRatio, if_neg hn, if_neg hn']
    dsimp only
    rw [hexponent, hround _ _ (Nat.two_pow_pos _)]

/-- A value so close to a number that it is rounded to it. -/
structure IsNear (mantissa : Nat) (exponent : ℤ) (w : ℚ) : Prop where
  half : |w - mantissa * 2 ^ exponent| < 2 ^ exponent / 2
  /-- Below a power of two the numbers are closer to each other. -/
  quarter : mantissa = 2 ^ 52 → -1074 < exponent →
    mantissa * 2 ^ exponent - 2 ^ exponent / 4 < w

variable {mantissa : Nat} {exponent : ℤ}

/-- The nearest integer at an exponent. -/
theorem round_at (hd : den ≠ 0) {m : Nat} (h : |(num : ℚ) / den - m * 2 ^ e| < 2 ^ e / 2) :
    roundQuotient (num * 2 ^ (-e).toNat) (den * 2 ^ e.toNat) = m := by
  refine roundQuotient_eq_of_near
    (Nat.mul_pos (Nat.pos_of_ne_zero hd) (Nat.two_pow_pos _)) ?_
  have htwo : (0 : ℚ) < 2 ^ e := zpow_pos two_pos e
  rw [scaled_div two_ne_zero]
  push_cast
  have hsplit : (num : ℚ) / den / 2 ^ e - m = (num / den - m * 2 ^ e) / 2 ^ e := by
    field_simp
  rw [hsplit, abs_div, abs_of_pos htwo, div_lt_iff₀ htwo]
  linarith

/-- A value near a number, but below it and below a power of two, where the exponent is one
less. -/
theorem ofRatio_of_near_below (canonical : Canonical mantissa exponent) (hn : num ≠ 0)
    (hd : den ≠ 0) (h : IsNear mantissa exponent (num / den)) (hleast : exponent ≠ -1074)
    (hlow : (num : ℚ) / den < 2 ^ 52 * 2 ^ exponent) (negative : Bool) :
    ofRatio negative num den = finite negative mantissa exponent canonical := by
  have htwo : (0 : ℚ) < 2 ^ exponent := zpow_pos two_pos exponent
  have hnear := abs_lt.mp h.half
  have hnormal : 2 ^ 52 ≤ mantissa ∧ -1074 ≤ exponent ∧ exponent ≤ 971 := by
    rcases canonical with h | h <;> omega
  have hmantissa : mantissa = 2 ^ 52 := by
    by_contra hne
    have hge : (2 ^ 52 : ℚ) + 1 ≤ mantissa := by
      have : 2 ^ 52 + 1 ≤ mantissa := by omega
      exact_mod_cast this
    have := mul_le_mul_of_nonneg_right hge htwo.le
    linarith
  subst hmantissa
  have hquarter := h.quarter rfl (by omega)
  have hhalf : (2 : ℚ) ^ exponent = 2 * 2 ^ (exponent - 1) := by
    rw [mul_comm, ← zpow_add_one₀ two_ne_zero, sub_add_cancel]
  push_cast at hquarter
  rw [hhalf] at hquarter hlow
  have htwo' : (0 : ℚ) < 2 ^ (exponent - 1) := zpow_pos two_pos _
  have hdown : IsExponent ((num : ℚ) / den) (exponent - 1) := by
    refine ⟨by omega, by linarith, .inr ?_⟩
    linarith
  have hround : |(num : ℚ) / den - (2 ^ 53 : Nat) * 2 ^ (exponent - 1)| <
      2 ^ (exponent - 1) / 2 := by
    rw [abs_lt]
    push_cast
    constructor <;> linarith
  have hwide : ¬ Canonical (2 ^ 53) (exponent - 1) := by
    rintro (h | h) <;> omega
  have hup : Canonical (2 ^ 52) (exponent - 1 + 1) := by rwa [sub_add_cancel]
  rw [ofRatio, if_neg hn]
  dsimp only
  rw [(isExponent_exponentOf hn hd).unique hdown, round_at hd hround, pack, dif_neg hwide,
    dif_pos ⟨rfl, hup⟩]
  simp only [sub_add_cancel]

/-- **A value near a number** is rounded to it. -/
theorem ofRatio_of_near (canonical : Canonical mantissa exponent) (hn : num ≠ 0) (hd : den ≠ 0)
    (h : IsNear mantissa exponent (num / den)) (negative : Bool) :
    ofRatio negative num den = finite negative mantissa exponent canonical := by
  have htwo : (0 : ℚ) < 2 ^ exponent := zpow_pos two_pos exponent
  have hnear := abs_lt.mp h.half
  have hleast : -1074 ≤ exponent := by rcases canonical with h | h <;> omega
  have hbits : mantissa < 2 ^ 53 := by rcases canonical with h | h <;> omega
  have htop : (mantissa : ℚ) + 1 ≤ 2 ^ 53 := by exact_mod_cast hbits
  have hbelow : (num : ℚ) / den < 2 ^ 53 * 2 ^ exponent := by
    calc (num : ℚ) / den < (mantissa + 1) * 2 ^ exponent := by linarith
      _ ≤ 2 ^ 53 * 2 ^ exponent := mul_le_mul_of_nonneg_right htop htwo.le
  by_cases habove : exponent = -1074 ∨ 2 ^ 52 * 2 ^ exponent ≤ (num : ℚ) / den
  · rw [ofRatio, if_neg hn]
    dsimp only
    rw [(isExponent_exponentOf hn hd).unique ⟨hleast, hbelow, habove⟩, round_at hd h.half, pack,
      dif_pos canonical]
  · rw [not_or, not_le] at habove
    exact ofRatio_of_near_below canonical hn hd h habove.1 habove.2 negative

/-- A mantissa and an exponent that fit give a number. -/
theorem isFinite_pack {m : Nat} (hleast : -1074 ≤ e) (hlow : e = -1074 ∨ 2 ^ 52 ≤ m)
    (hhigh : m < 2 ^ 53 ∧ e ≤ 971 ∨ m = 2 ^ 53 ∧ e < 971) (negative : Bool) :
    (pack negative m e).isFinite = true := by
  rw [pack]
  split
  · rfl
  · rename_i hnot
    have hup : m = 2 ^ 53 ∧ Canonical (2 ^ 52) (e + 1) := by
      rw [Canonical, not_or] at hnot
      rw [Canonical]
      omega
    rw [dif_pos hup]
    rfl

/-- A value up to the largest number is rounded to a number. -/
theorem isFinite_ofRatio (hd : den ≠ 0) (h : (num : ℚ) / den ≤ (2 ^ 53 - 1) * 2 ^ (971 : ℤ))
    (negative : Bool) : (ofRatio negative num den).isFinite = true := by
  by_cases hn : num = 0
  · rw [ofRatio, if_pos hn]
    rfl
  have hexponent := isExponent_exponentOf hn hd
  rw [ofRatio, if_neg hn]
  dsimp only
  generalize exponentOf num den = e at hexponent ⊢
  have htwo : (0 : ℚ) < 2 ^ e := zpow_pos two_pos e
  have hround := abs_le.mp (abs_sub_roundQuotient_le (n := num * 2 ^ (-e).toNat)
    (d := den * 2 ^ e.toNat) (Nat.mul_pos (Nat.pos_of_ne_zero hd) (Nat.two_pow_pos _)))
  rw [scaled_div two_ne_zero] at hround
  generalize roundQuotient (num * 2 ^ (-e).toNat) (den * 2 ^ e.toNat) = m at hround ⊢
  have hbelow : (num : ℚ) / den / 2 ^ e < 2 ^ 53 := (div_lt_iff₀ htwo).mpr hexponent.below
  push_cast at hround
  have hle : (m : ℚ) < 2 ^ 53 + 1 := by linarith
  have hle' : m < 2 ^ 53 + 1 := by exact_mod_cast hle
  refine isFinite_pack hexponent.least (hexponent.above.imp_right fun habove => ?_) ?_ negative
  · have hge : (2 ^ 52 : ℚ) < m + 1 := by
      have := (le_div_iff₀ htwo).mpr habove
      linarith
    have hge' : 2 ^ 52 < m + 1 := by exact_mod_cast hge
    omega
  · rcases lt_trichotomy e 971 with hlt | rfl | hgt
    · omega
    · -- at the largest exponent the mantissa is not rounded up beyond its bits
      have htop : (num : ℚ) / den / 2 ^ (971 : ℤ) ≤ 2 ^ 53 - 1 := (div_le_iff₀ htwo).mpr h
      have hlt : (m : ℚ) < 2 ^ 53 := by linarith
      have hlt' : m < 2 ^ 53 := by exact_mod_cast hlt
      omega
    · have habove := hexponent.above.resolve_left (by omega)
      have hlt : (2 : ℚ) ^ (52 + e) < 2 ^ (53 + 971 : ℤ) := by
        rw [zpow_add₀ two_ne_zero, zpow_add₀ two_ne_zero]
        refine (habove.trans h).trans_lt ?_
        exact mul_lt_mul_of_pos_right (by norm_num) (zpow_pos two_pos _)
      have := (zpow_lt_zpow_iff_right₀ one_lt_two).mp hlt
      omega

/-- A value beyond the range is rounded to an infinity. -/
theorem ofRatio_of_large (hd : den ≠ 0) (h : (2 : ℚ) ^ (1024 : ℤ) ≤ num / den) (negative : Bool) :
    ofRatio negative num den = infinity negative := by
  have hn : num ≠ 0 := by
    rintro rfl
    rw [Nat.cast_zero, zero_div] at h
    exact absurd h (not_le.mpr (zpow_pos two_pos _))
  have hexponent := isExponent_exponentOf hn hd
  have hlarge : 971 < exponentOf num den := by
    have hlt : (2 : ℚ) ^ (1024 : ℤ) < 2 ^ (53 + exponentOf num den) := by
      rw [zpow_add₀ two_ne_zero]
      exact h.trans_lt hexponent.below
    have := (zpow_lt_zpow_iff_right₀ one_lt_two).mp hlt
    omega
  rw [ofRatio, if_neg hn]
  dsimp only
  rw [pack, dif_neg (by rintro (h | h) <;> omega), dif_neg (by rintro ⟨-, h | h⟩ <;> omega)]

/-- A value below half the least number is rounded to zero. -/
theorem ofRatio_of_small (hd : den ≠ 0) (h : (num : ℚ) / den < 2 ^ (-1075 : ℤ)) (negative : Bool) :
    ofRatio negative num den = zero negative := by
  by_cases hn : num = 0
  · rw [ofRatio, if_pos hn]
  · have hexponent := isExponent_exponentOf hn hd
    have hpos : (0 : ℚ) ≤ num / den := by positivity
    have hleast : exponentOf num den = -1074 := by
      refine hexponent.above.resolve_right fun habove => ?_
      have hlt : (2 : ℚ) ^ (52 + exponentOf num den) < 2 ^ (-1075 : ℤ) := by
        rw [zpow_add₀ two_ne_zero]
        exact habove.trans_lt h
      have := (zpow_lt_zpow_iff_right₀ one_lt_two).mp hlt
      have := hexponent.least
      omega
    have hround : |(num : ℚ) / den - (0 : Nat) * 2 ^ (-1074 : ℤ)| < 2 ^ (-1074 : ℤ) / 2 := by
      rw [Nat.cast_zero, zero_mul, sub_zero, abs_of_nonneg hpos]
      refine h.trans_le (le_of_eq ?_)
      rw [show (-1074 : ℤ) = -1075 + 1 from rfl, zpow_add_one₀ two_ne_zero]
      ring
    rw [ofRatio, if_neg hn]
    dsimp only
    rw [hleast, round_at hd hround, pack, dif_pos canonical_zero, zero]

end Binary64

/-! ### Decimals -/

namespace Decimal

open Binary64

/-- The value of a decimal. -/
def value (d : Decimal) : ℚ := d.digits * 10 ^ d.exponent

theorem quotient_eq_value (d : Decimal) : ((d.digits * 10 ^ d.exponent.toNat : Nat) : ℚ) /
    (10 ^ (-d.exponent).toNat : Nat) = d.value := by
  have hpow : (10 : ℚ) ^ (-d.exponent).toNat ≠ 0 := pow_ne_zero _ (by decide)
  push_cast
  rw [value, div_eq_iff hpow, pow_toNat_eq (by decide) d.exponent, mul_assoc]

/-- A thousand is less than the tenth power of two. -/
theorem ten_pow_le_two_pow {k l : Nat} (h : 10 * k ≤ 3 * l) : 10 ^ k ≤ 2 ^ l := by
  refine (Nat.pow_le_pow_iff_left (n := 10) (by decide)).mp ?_
  calc (10 ^ k) ^ 10 = 10 ^ (10 * k) := by rw [← Nat.pow_mul, Nat.mul_comm]
    _ ≤ 10 ^ (3 * l) := Nat.pow_le_pow_right (by decide) h
    _ = 1000 ^ l := by rw [Nat.pow_mul]
    _ ≤ 1024 ^ l := Nat.pow_le_pow_left (by decide) l
    _ = (2 ^ l) ^ 10 := by rw [← Nat.pow_mul, Nat.mul_comm, Nat.pow_mul]

/-- Eight is less than ten. -/
theorem two_pow_le_ten_pow_of_le {k l : Nat} (h : l ≤ 3 * k) : 2 ^ l ≤ 10 ^ k := by
  calc 2 ^ l ≤ 2 ^ (3 * k) := Nat.pow_le_pow_right (by decide) h
    _ = 8 ^ k := by rw [Nat.pow_mul]
    _ ≤ 10 ^ k := Nat.pow_le_pow_left (by decide) k

theorem two_pow_le_largest : (2 : ℚ) ^ (1024 : ℤ) ≤ 10 ^ (311 : ℤ) := by
  have h : 2 ^ 1024 ≤ 10 ^ 311 := by decide +kernel
  exact_mod_cast h

theorem smallest_le_two_pow : (10 : ℚ) ^ (-331 : ℤ) ≤ 2 ^ (-1075 : ℤ) := by
  have h : 2 ^ 1075 ≤ 10 ^ 331 := by decide +kernel
  have h' : (2 : ℚ) ^ (1075 : ℤ) ≤ 10 ^ (331 : ℤ) := by exact_mod_cast h
  rw [zpow_neg, zpow_neg]
  exact inv_anti₀ (zpow_pos two_pos _) h'

/-- Digits and an exponent that make a value beyond the range. -/
theorem two_pow_le_value_of_large {d : Decimal} (hzero : d.digits ≠ 0)
    (h : 311 ≤ ((d.digits.log2 * 3 / 10 : Nat) : ℤ) + d.exponent) :
    (2 : ℚ) ^ (1024 : ℤ) ≤ d.value := by
  have hten : (0 : ℚ) < 10 ^ d.exponent := zpow_pos (by norm_num) _
  have hdigits : (10 : ℚ) ^ (d.digits.log2 * 3 / 10 : Nat) ≤ d.digits := by
    exact_mod_cast (ten_pow_le_two_pow (by omega)).trans (Nat.log2_self_le hzero)
  calc (2 : ℚ) ^ (1024 : ℤ) ≤ 10 ^ (311 : ℤ) := two_pow_le_largest
    _ ≤ 10 ^ ((d.digits.log2 * 3 / 10 : Nat) + d.exponent) :=
      zpow_le_zpow_right₀ (by norm_num) h
    _ = 10 ^ (d.digits.log2 * 3 / 10 : Nat) * 10 ^ d.exponent := by
      rw [zpow_add₀ (by norm_num), zpow_natCast]
    _ ≤ d.digits * 10 ^ d.exponent := mul_le_mul_of_nonneg_right hdigits hten.le

/-- Digits and an exponent that make a value too small for a number. -/
theorem value_lt_two_pow_of_small {d : Decimal}
    (h : ((d.digits.log2 / 3 + 1 : Nat) : ℤ) + d.exponent ≤ -331) :
    d.value < 2 ^ (-1075 : ℤ) := by
  have hten : (0 : ℚ) < 10 ^ d.exponent := zpow_pos (by norm_num) _
  have hdigits : (d.digits : ℚ) < 10 ^ (d.digits.log2 / 3 + 1 : Nat) := by
    exact_mod_cast Nat.lt_log2_self.trans_le (two_pow_le_ten_pow_of_le (by omega))
  calc (d.digits : ℚ) * 10 ^ d.exponent
      < 10 ^ (d.digits.log2 / 3 + 1 : Nat) * 10 ^ d.exponent :=
        mul_lt_mul_of_pos_right hdigits hten
    _ = 10 ^ ((d.digits.log2 / 3 + 1 : Nat) + d.exponent) := by
      rw [zpow_add₀ (by norm_num), zpow_natCast]
    _ ≤ 10 ^ (-331 : ℤ) := zpow_le_zpow_right₀ (by norm_num) h
    _ ≤ 2 ^ (-1075 : ℤ) := smallest_le_two_pow

/-- **The guards** of the conversion make no difference. -/
theorem toBinary64_eq_ofRatio (negative : Bool) (d : Decimal) : d.toBinary64 negative =
    .ofRatio negative (d.digits * 10 ^ d.exponent.toNat) (10 ^ (-d.exponent).toNat) := by
  have hden : 10 ^ (-d.exponent).toNat ≠ 0 := (Nat.pow_pos (by decide)).ne'
  rw [toBinary64]
  by_cases hzero : d.digits = 0
  · rw [if_pos hzero, ofRatio, if_pos (by rw [hzero, Nat.zero_mul])]
  · rw [if_neg hzero]
    split
    · rename_i hlarge
      refine (ofRatio_of_large hden ?_ negative).symm
      rw [quotient_eq_value]
      exact two_pow_le_value_of_large hzero (by omega)
    · split
      · rename_i hsmall
        refine (ofRatio_of_small hden ?_ negative).symm
        rw [quotient_eq_value]
        exact value_lt_two_pow_of_small (by omega)
      · rfl

/-- **Decimals of one value** are read as one number. -/
theorem toBinary64_congr {d d' : Decimal} (h : d.value = d'.value) (negative : Bool) :
    d.toBinary64 negative = d'.toBinary64 negative := by
  have hden : ∀ d : Decimal, 10 ^ (-d.exponent).toNat ≠ 0 := fun _ => (Nat.pow_pos (by decide)).ne'
  rw [toBinary64_eq_ofRatio, toBinary64_eq_ofRatio]
  refine ofRatio_congr (hden d) (hden d') ?_ negative
  rw [← quotient_eq_value, ← quotient_eq_value,
    div_eq_div_iff (by exact_mod_cast hden d) (by exact_mod_cast hden d')] at h
  exact_mod_cast h

theorem ten_pow_le_largest : (10 : ℚ) ^ 308 ≤ (2 ^ 53 - 1) * 2 ^ (971 : ℤ) := by
  have h : 10 ^ 308 ≤ 9007199254740991 * 2 ^ 971 := by decide +kernel
  rw [show (2 ^ 53 - 1 : ℚ) = 9007199254740991 by norm_num]
  exact_mod_cast h

/-- A decimal up to the power of ten with 308 zeros is in the range of numbers. -/
theorem isFinite_toBinary64 {d : Decimal} (h : d.value ≤ 10 ^ 308) (negative : Bool) :
    (d.toBinary64 negative).isFinite = true := by
  rw [toBinary64_eq_ofRatio]
  refine isFinite_ofRatio (Nat.pow_pos (by decide)).ne' ?_ negative
  rw [quotient_eq_value]
  exact h.trans ten_pow_le_largest

/-- **A decimal near a number** is read as that number. -/
theorem toBinary64_of_near {mantissa : Nat} {exponent : ℤ} {d : Decimal}
    (canonical : Canonical mantissa exponent) (hd : d.digits ≠ 0)
    (h : IsNear mantissa exponent d.value) (negative : Bool) :
    d.toBinary64 negative = finite negative mantissa exponent canonical := by
  rw [toBinary64_eq_ofRatio]
  refine ofRatio_of_near canonical ?_ (Nat.pow_pos (by decide)).ne' ?_ negative
  · exact Nat.mul_ne_zero hd (Nat.pow_pos (by decide)).ne'
  · rwa [quotient_eq_value]

end Decimal

end SheetCommand
