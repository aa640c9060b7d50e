/-
# Json.Numeral -- from the digits of a JSON number to its value

A number has whole digits, perhaps decimals, and perhaps an exponent.  Whole digits alone
are an integer when that fits sixty-four bits; minus zero is the double.  Every other
number is a double, and these steps make it.

* The digits are gathered into one natural number as long as it stays below 2⁶⁴.  A whole
  digit that no longer fits raises the exponent by one instead, and from the first decimal
  that no longer fits all decimals are dropped.
* That number is rounded to a double, and multiplied with or divided by the double nearest
  to the power of ten that the exponent asks for.  Powers beyond 10³⁰⁸ are divided by in
  steps, until nothing is left.
* A number too great for a double is refused.
-/
import SparqlRequest.Json.Basic
import SparqlRequest.Number.Written

set_option autoImplicit false

namespace SparqlRequest

/-- A number as it is written. -/
structure Numeral where
  negative : Bool
  whole : Text
  /-- The digits behind the point, if there is a point. -/
  decimals : Option Text
  /-- The exponent, whether it is negative and its digits, if there is one. -/
  exponent : Option (Bool × Text)
  deriving Repr

namespace Numeral

/-- The bound below which digits are gathered, and of integers without a sign. -/
def wordBound : Nat := Number.twoTo 64

/-- The greatest exponent that is told from a greater one. -/
def greatestExponent : Nat := Number.twoTo 31 - 1

/-- Gathers digits as long as the number stays below the bound; also the digits left. -/
def gather : Nat → Text → Nat × Text
  | n, [] => (n, [])
  | n, c :: t =>
      let next := 10 * n + Number.digitsValue [c]
      if next < wordBound then gather next t else (n, c :: t)

def tenPower (n : Nat) : Magnitude := (Magnitude.nearest (Number.tenTo n) 1).getD .zero

def greatestPower : Nat := 308

/-- Divides by the greatest power of ten so many times, as long as something is left,
and then by one more power. -/
def lowered (power : Nat) : Nat → Magnitude → Option Magnitude
  | 0, x => x.div (tenPower power)
  | steps + 1, x =>
      if x.mantissa = 0 then some x
      else (x.div (tenPower greatestPower)).bind (lowered power steps)

/-- The double of a gathered number and a power of ten. -/
def scaled (n : Nat) (power : Int) : Option Magnitude :=
  match Magnitude.nearest n 1 with
  | none => none
  | some x =>
      if power < 0 then
        let steps := ((-power).toNat - 1) / greatestPower
        lowered ((-power).toNat - steps * greatestPower) steps x
      else if power ≤ greatestPower then x.mul (tenPower power.toNat)
      else if x.mantissa = 0 then some x
      else none

/-- The double of a number. -/
def magnitude? (numeral : Numeral) : Option Magnitude :=
  let (first, extra) := gather 0 numeral.whole
  let decimals := numeral.decimals.getD []
  let (n, dropped) := gather first decimals
  let power : Int := (extra.length : Int) - ((decimals.length - dropped.length : Nat) : Int)
  match numeral.exponent with
  | none => scaled n power
  | some (negative, digits) =>
      let size := Number.digitsValue digits
      if greatestExponent < size then
        if n ≠ 0 ∧ !negative then none else some .zero
      else scaled n (if negative then power - (size : Int) else power + (size : Int))

/-- The integer that whole digits alone describe, if it is one of sixty-four bits. -/
def integer? (numeral : Numeral) : Option Int :=
  let n := Number.digitsValue numeral.whole
  if numeral.decimals.isSome || numeral.exponent.isSome then none
  else if numeral.negative then
    if 0 < n ∧ n ≤ Number.twoTo 63 then some (-(n : Int)) else none
  else if n < wordBound then some (n : Int)
  else none

def value? (numeral : Numeral) : Option Json :=
  match numeral.integer? with
  | some i => some (.integer i)
  | none => numeral.magnitude?.map (.double numeral.negative)

end Numeral

end SparqlRequest
