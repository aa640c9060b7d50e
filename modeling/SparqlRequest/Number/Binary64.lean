/-
# Number.Binary64 -- double-precision numbers as exact values

A double is not a number, an infinity, or plus or minus `mantissa · 2 ^ scale` with a
mantissa below 2⁵³ and a scale from -1074 to 971.  `ofBits` reads the interchange
format of IEEE 754.  Arithmetic is exact arithmetic on naturals followed by one
rounding: `nearest` gives the double nearest to a fraction, of two equally near ones
the one with the even mantissa, and nothing when the fraction rounds beyond the
greatest finite double.
-/
import SparqlRequest.Number.Power
import SparqlRequest.Text.Basic

set_option autoImplicit false

namespace SparqlRequest

open Number (twoTo)

/-- A magnitude `mantissa · 2 ^ scale`. -/
structure Magnitude where
  mantissa : Nat
  scale : Int
  deriving DecidableEq, Repr

/-- A double-precision number. -/
inductive Binary64 where
  | notANumber
  | infinite (negative : Bool)
  | finite (negative : Bool) (magnitude : Magnitude)
  deriving DecidableEq, Repr

namespace Magnitude

/-- The scale of the least positive double. -/
def leastScale : Int := -1074

/-- The scale of the greatest finite double. -/
def greatestScale : Int := 971

def zero : Magnitude := ⟨0, leastScale⟩

def fraction (x : Magnitude) : Nat × Nat :=
  (x.mantissa * twoTo x.scale.toNat, twoTo (-x.scale).toNat)

/-- The integer nearest to `num / den`, the even one of two equally near. -/
def roundHalfEven (num den : Nat) : Nat :=
  let whole := num / den
  let rest := num % den
  if 2 * rest < den then whole
  else if den < 2 * rest then whole + 1
  else whole + whole % 2

/-- The scale at which `num / den`, neither of them zero, has a whole part of 53
binary digits, or the least scale if that is greater. -/
def scaleOf (num den : Nat) : Int :=
  let span : Int := (num.log2 : Int) - (den.log2 : Int)
  let reaches := decide (den * twoTo span.toNat ≤ num * twoTo (-span).toNat)
  max leastScale (if reaches then span - 52 else span - 53)

/-- The magnitude of the double nearest to `num / den`; none when the greatest
finite double is exceeded. -/
def nearest (num den : Nat) : Option Magnitude :=
  if num = 0 then some zero
  else
    let scale := scaleOf num den
    let mantissa := roundHalfEven (num * twoTo (-scale).toNat) (den * twoTo scale.toNat)
    let x : Magnitude :=
      if mantissa = twoTo 53 then ⟨twoTo 52, scale + 1⟩ else ⟨mantissa, scale⟩
    if greatestScale < x.scale then none else some x

def mul (x y : Magnitude) : Option Magnitude :=
  nearest (x.fraction.1 * y.fraction.1) (x.fraction.2 * y.fraction.2)

def div (x y : Magnitude) : Option Magnitude :=
  nearest (x.fraction.1 * y.fraction.2) (x.fraction.2 * y.fraction.1)

end Magnitude

namespace Binary64

/-- Reads the interchange format: a sign bit, eleven bits of exponent, and the 52
low bits of the mantissa. -/
def ofBits (bits : Nat) : Binary64 :=
  let negative := decide (bits / twoTo 63 % 2 = 1)
  let exponent : Nat := bits / twoTo 52 % twoTo 11
  let low : Nat := bits % twoTo 52
  if exponent = 2047 then
    if low = 0 then .infinite negative else .notANumber
  else if exponent = 0 then .finite negative ⟨low, Magnitude.leastScale⟩
  else .finite negative ⟨twoTo 52 + low, (exponent : Int) - 1075⟩

end Binary64

end SparqlRequest
