/-
# Number.Written -- how numbers are written

Two forms of doubles are in use.

* The *full* form never has an exponent and no point in a whole number: `2.5`, `3`,
  `0.0000001`, `1000000000000000000000`, `-0`.  It serves the values of terms.
* The *compact* form always shows that the number is a double: a point with at least
  one decimal from 10⁻⁵ up to below 10¹⁶ and for zero, and beyond that one digit before
  the point and an exponent that shows its sign: `3.0`, `0.00001`, `1e-6`,
  `1.5e+300`.  It serves JSON.

Both write the fewest digits that read back.  Of two equally near choices the full form
takes the greater, the compact form the even one.
-/
import SparqlRequest.Number.Shortest

set_option autoImplicit false

namespace SparqlRequest

namespace Number

def ofNat (n : Nat) : Text := Nat.toDigits 10 n

/-- An integer in decimal digits, with a hyphen before a negative one. -/
def ofInt : Int → Text
  | .ofNat n => ofNat n
  | .negSucc n => '-' :: ofNat (n + 1)

def digitsValue (t : Text) : Nat := t.foldl (fun n c => 10 * n + (c.toNat - '0'.toNat)) 0

def hexValue? (c : Char) : Option Nat :=
  if '0' ≤ c ∧ c ≤ '9' then some (c.toNat - '0'.toNat)
  else if 'a' ≤ c ∧ c ≤ 'f' then some (c.toNat - 'a'.toNat + 10)
  else if 'A' ≤ c ∧ c ≤ 'F' then some (c.toNat - 'A'.toNat + 10)
  else none

/-- A hyphen for a negative number. -/
def sign (negative : Bool) : Text := if negative then ['-'] else []

end Number

namespace Decimal

def leadingPower (d : Decimal) : Int :=
  d.exponent + ((Number.ofNat d.digits).length : Int) - 1

/-- The decimals without an exponent: a whole number ends in `whole`, and a number below
one has a zero before the point. -/
def positional (whole : Text) (d : Decimal) : Text :=
  let digits := Number.ofNat d.digits
  if 0 ≤ d.exponent then digits ++ List.replicate d.exponent.toNat '0' ++ whole
  else
    let places := (-d.exponent).toNat
    if places < digits.length then
      digits.take (digits.length - places) ++ '.' :: digits.drop (digits.length - places)
    else '0' :: '.' :: List.replicate (places - digits.length) '0' ++ digits

/-- One digit before the point, and the power of ten after an `e`, with its sign. -/
def scientific (d : Decimal) : Text :=
  let power := d.leadingPower
  let digits := Number.ofNat d.digits
  let sign := if power < 0 then '-' else '+'
  let rest := digits.drop 1
  digits.take 1 ++ (if rest.isEmpty then [] else '.' :: rest) ++
    'e' :: sign :: Number.ofNat power.natAbs

end Decimal

namespace Binary64

/-- The full form: never an exponent, and no point in a whole number. -/
def full : Binary64 → Text
  | .notANumber => "NaN".toList
  | .infinite negative => Number.sign negative ++ "inf".toList
  | .finite negative x => Number.sign negative ++ (x.shortest .upward).positional []

end Binary64

namespace Magnitude

/-- The compact form: a point or an exponent in every number. -/
def compact (x : Magnitude) : Text :=
  let d := x.shortest .toEven
  if x.mantissa = 0 ∨ (-5 ≤ d.leadingPower ∧ d.leadingPower < 16) then
    d.positional ['.', '0']
  else d.scientific

end Magnitude

end SparqlRequest
