import SheetCommand.Number.Binary64

/-!
# Number — decimal digits

Reading and writing binary64 numbers in decimal, in exact arithmetic. A decimal is a whole number of
units `10 ^ exponent`.

* `Decimal.toBinary64` is the number nearest to a decimal.
* `Binary64.shortest?` gives the fewest significant digits that read back as the same number, and of
  those the decimal nearest to it.
* `Binary64.rounded?` rounds to a fixed count of significant digits, a half to the even digit.
-/

namespace SheetCommand

-- Powers are those of the core library in every context the module is read in.
attribute [local instance (high)] instPowNat

/-- `digits` units of size `10 ^ exponent`. -/
structure Decimal where
  digits : Nat
  exponent : Int

namespace Decimal

/-- The number nearest to `± digits · 10 ^ exponent`. The two guards only keep the powers of ten
small: beyond them the value is far outside the range of finite, or of nonzero, numbers. -/
def toBinary64 (negative : Bool) (d : Decimal) : Binary64 :=
  if d.digits = 0 then .zero negative
  else if (d.digits.log2 * 3 / 10 : Nat) + d.exponent > 310 then .infinity negative
  else if (d.digits.log2 / 3 + 1 : Nat) + d.exponent < -330 then .zero negative
  else .ofRatio negative (d.digits * 10 ^ d.exponent.toNat) (10 ^ (-d.exponent).toNat)

/-- Drops zeros at the end, at most `fuel` of them. -/
def trimZeros : Nat → Decimal → Decimal
  | 0, d => d
  | fuel + 1, d =>
    if d.digits ≠ 0 ∧ d.digits % 10 = 0 then trimZeros fuel ⟨d.digits / 10, d.exponent + 1⟩ else d

end Decimal

namespace Binary64

/-- Whether `10 ^ k ≤ num / den`. -/
def powerFits (num den : Nat) (k : Int) : Bool := den * 10 ^ k.toNat ≤ num * 10 ^ (-k).toNat

/-- The exponent of the first significant digit of `num / den`: the estimate from the bit lengths is
off by at most two. -/
def decimalExponent (num den : Nat) : Int :=
  let estimate := Int.fdiv (((num.log2 : Int) - den.log2) * 30103) 100000
  let fits := powerFits num den
  if fits (estimate + 2) then estimate + 2
  else if fits (estimate + 1) then estimate + 1
  else if fits estimate then estimate
  else if fits (estimate - 1) then estimate - 1
  else estimate - 2

/-- A positive finite number as a quotient. -/
def ratio (mantissa : Nat) (exponent : Int) : Nat × Nat :=
  (mantissa * 2 ^ exponent.toNat, 2 ^ (-exponent).toNat)

/-- The value `num / den` as a quotient of units `10 ^ exponent`. -/
def inUnits (num den : Nat) (exponent : Int) : Nat × Nat :=
  (num * 10 ^ (-exponent).toNat, den * 10 ^ exponent.toNat)

/-- The decimal with `count` significant digits that reads back as `x`, the nearer of the two
neighbours of the value if both do. -/
def readsBack? (x : Binary64) (num den : Nat) (first : Int) (count : Nat) : Option Decimal :=
  let exponent := first - count + 1
  let (n, d) := inUnits num den exponent
  let below : Decimal := ⟨n / d, exponent⟩
  let above : Decimal := ⟨n / d + 1, exponent⟩
  let nearest : Decimal := ⟨roundQuotient n d, exponent⟩
  let reads (c : Decimal) : Bool := c.toBinary64 x.isNegative == x
  match reads below, reads above with
  | true, true => some nearest
  | true, false => some below
  | false, true => some above
  | false, false => none

/-- The first of `count`, `count + 1`, … digits that suffice, trying `fuel` counts. -/
def shortestFrom (x : Binary64) (num den : Nat) (first : Int) : Nat → Nat → Decimal
  | 0, count => ⟨roundQuotient (inUnits num den (first - count + 1)).1
      (inUnits num den (first - count + 1)).2, first - count + 1⟩
  | fuel + 1, count =>
    match readsBack? x num den first count with
    | some d => d
    | none => shortestFrom x num den first fuel (count + 1)

/-- The fewest digits that read back as the number; none for zero and what is not finite. -/
def shortest? : Binary64 → Option Decimal
  | x@(finite _ mantissa exponent _) =>
    if mantissa = 0 then none
    else
      let (num, den) := ratio mantissa exponent
      some ((shortestFrom x num den (decimalExponent num den) 16 1).trimZeros 20)
  | _ => none

/-- The value rounded to `count` significant digits, without zeros at the end. -/
def rounded? (count : Nat) : Binary64 → Option Decimal
  | finite _ mantissa exponent _ =>
    if mantissa = 0 then none
    else
      let (num, den) := ratio mantissa exponent
      let unit := decimalExponent num den - count + 1
      let (n, d) := inUnits num den unit
      some (Decimal.trimZeros (count + 1) ⟨roundQuotient n d, unit⟩)
  | _ => none

end Binary64

end SheetCommand
