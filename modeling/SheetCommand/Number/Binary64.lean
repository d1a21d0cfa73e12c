/-!
# Number — binary64

A binary64 number is not a number, an infinity, or a mantissa times a power of two in its one
canonical form, so equal values have equal representations (the two zeros differ by their sign).
Every operation computes its exact result over the integers and rounds it once, to the nearest
number, ties to the even mantissa: `ofRatio` is the only place where rounding happens.

* `ofRatio` rounds a quotient; beyond the largest finite number it gives an infinity.
* `compare?` compares exact values, across numbers and integers alike.
-/

namespace SheetCommand

-- Powers are those of the core library in every context the module is read in.
attribute [local instance (high)] instPowNat

/-- The nearest integer to `num / den`; halfway between two, the even one. -/
def roundQuotient (num den : Nat) : Nat :=
  let q := num / den
  let r := num % den
  if 2 * r < den then q else if den < 2 * r then q + 1 else q + q % 2

namespace Binary64

/-- Mantissa and exponent of a normal number, or of zero and the numbers below the normal ones. -/
def Canonical (mantissa : Nat) (exponent : Int) : Prop :=
  (2 ^ (52 : Nat) ≤ mantissa ∧ mantissa < 2 ^ (53 : Nat) ∧ -1074 ≤ exponent ∧ exponent ≤ 971) ∨
    (mantissa < 2 ^ (52 : Nat) ∧ exponent = -1074)

instance (mantissa : Nat) (exponent : Int) : Decidable (Canonical mantissa exponent) :=
  inferInstanceAs (Decidable (_ ∨ _))

end Binary64

inductive Binary64 where
  | nan
  | infinity (negative : Bool)
  | finite (negative : Bool) (mantissa : Nat) (exponent : Int)
      (canonical : Binary64.Canonical mantissa exponent)
  deriving DecidableEq

/-- An integer times a power of two. -/
structure Scaled where
  mantissa : Int
  exponent : Int

namespace Scaled

/-- The mantissa over a smaller exponent. -/
def mantissaAt (x : Scaled) (exponent : Int) : Int :=
  x.mantissa * 2 ^ (x.exponent - exponent).toNat

def ofInt (n : Int) : Scaled := ⟨n, 0⟩

def compare (x y : Scaled) : Ordering :=
  let e := min x.exponent y.exponent
  Ord.compare (x.mantissaAt e) (y.mantissaAt e)

def add (x y : Scaled) : Scaled :=
  let e := min x.exponent y.exponent
  ⟨x.mantissaAt e + y.mantissaAt e, e⟩

end Scaled

namespace Binary64

theorem canonical_zero : Canonical 0 (-1074) := by decide

def zero (negative : Bool) : Binary64 := finite negative 0 (-1074) canonical_zero

instance : Inhabited Binary64 := ⟨zero false⟩

/-! ### Rounding -/

/-- A mantissa of at most `2 ^ 53` over an exponent; an infinity if the exponent is too large. -/
def pack (negative : Bool) (mantissa : Nat) (exponent : Int) : Binary64 :=
  if h : Canonical mantissa exponent then finite negative mantissa exponent h
  else if h : mantissa = 2 ^ (53 : Nat) ∧ Canonical (2 ^ (52 : Nat)) (exponent + 1) then
    finite negative (2 ^ (52 : Nat)) (exponent + 1) h.2
  else infinity negative

/-- The exponent at which `num / den` has a mantissa of 53 bits, or the least exponent. -/
def exponentOf (num den : Nat) : Int :=
  let e : Int := (num.log2 : Int) - den.log2 - 52
  let e := if num * 2 ^ (-e).toNat < 2 ^ (52 : Nat) * den * 2 ^ e.toNat then e - 1 else e
  max e (-1074)

/-- The number nearest to `± num / den`. -/
def ofRatio (negative : Bool) (num den : Nat) : Binary64 :=
  if num = 0 then zero negative
  else
    let e := exponentOf num den
    pack negative (roundQuotient (num * 2 ^ (-e).toNat) (den * 2 ^ e.toNat)) e

def ofScaled (x : Scaled) : Binary64 :=
  ofRatio (x.mantissa < 0) (x.mantissa.natAbs * 2 ^ x.exponent.toNat) (2 ^ (-x.exponent).toNat)

/-- The number nearest to an integer, or an infinity. -/
def ofInt (n : Int) : Binary64 := ofRatio (n < 0) n.natAbs 1

/-! ### Exact values -/

def isNegative : Binary64 → Bool
  | nan => false
  | infinity negative => negative
  | finite negative _ _ _ => negative

def isFinite : Binary64 → Bool
  | finite .. => true
  | _ => false

def isZero : Binary64 → Bool
  | finite _ mantissa _ _ => mantissa == 0
  | _ => false

def signed (negative : Bool) (n : Nat) : Int := if negative then -(n : Int) else n

/-- The exact value of a finite number. -/
def scaled? : Binary64 → Option Scaled
  | finite negative mantissa exponent _ => some ⟨signed negative mantissa, exponent⟩
  | _ => none

/-- The integer that a number is equal to, if there is one. -/
def toInt? : Binary64 → Option Int
  | finite negative mantissa exponent _ =>
    let den := 2 ^ (-exponent).toNat
    if mantissa % den = 0 then some (signed negative (mantissa / den * 2 ^ exponent.toNat))
    else none
  | _ => none

/-- How two numbers compare; nothing compares with what is not a number. -/
def compare? : Binary64 → Binary64 → Option Ordering
  | nan, _ => none
  | _, nan => none
  | infinity s, infinity t =>
    some (if s = t then .eq else if s then .lt else .gt)
  | infinity s, finite .. => some (if s then .lt else .gt)
  | finite .., infinity t => some (if t then .gt else .lt)
  | finite s m e _, finite t n f _ => some (Scaled.compare ⟨signed s m, e⟩ ⟨signed t n, f⟩)

/-- How an integer compares with a number. -/
def compareInt? (n : Int) : Binary64 → Option Ordering
  | nan => none
  | infinity t => some (if t then .gt else .lt)
  | finite t m f _ => some (Scaled.compare (.ofInt n) ⟨signed t m, f⟩)

/-- The sum; an exact zero is negative only if both terms are. -/
def add : Binary64 → Binary64 → Binary64
  | nan, _ => nan
  | _, nan => nan
  | infinity s, infinity t => if s = t then infinity s else nan
  | infinity s, finite .. => infinity s
  | finite .., infinity t => infinity t
  | finite s m e _, finite t n f _ =>
    let sum := Scaled.add ⟨signed s m, e⟩ ⟨signed t n, f⟩
    if sum.mantissa = 0 then zero (s && t) else ofScaled sum

end Binary64

end SheetCommand
