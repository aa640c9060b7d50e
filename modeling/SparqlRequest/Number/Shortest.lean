/-
# Number.Shortest -- the fewest decimal digits that read back

Among the decimal numbers that round to a given double, `Magnitude.shortest` finds
one with the fewest digits, and of several the one nearest to the double.  The reals
that round to a double form an interval around it, ends included exactly when its
mantissa is even.  For 1, 2, … 17 digits the two neighbours of the double on the grid
of decimals with that many digits are tested in exact arithmetic; the first grid with
a hit wins, and of two hits the nearer.  How an exact tie between two hits goes is a
parameter, because two written forms of this library differ in it.
-/
import SparqlRequest.Number.Binary64

set_option autoImplicit false

namespace SparqlRequest

open Number (twoTo tenTo)

/-- A decimal magnitude `digits · 10 ^ exponent`. -/
structure Decimal where
  digits : Nat
  exponent : Int
  deriving DecidableEq, Repr

/-- How a choice between two equally near decimals goes. -/
inductive TieRule where
  | upward
  | toEven
  deriving DecidableEq, Repr

namespace Magnitude

/-- The reals that round to a double, over one denominator: the least and the
greatest of them, the double itself, and whether the ends belong to them. -/
structure Interval where
  least : Nat
  middle : Nat
  greatest : Nat
  denominator : Nat
  closed : Bool

/-- The interval of a double.  Half a unit lies on either side, except below the
least mantissa of a binade, where the next double is half as far. -/
def interval (x : Magnitude) : Interval :=
  let unit := twoTo (x.scale - 2).toNat
  let below := if x.mantissa = twoTo 52 ∧ leastScale < x.scale then 1 else 2
  { least := (4 * x.mantissa - below) * unit
    middle := 4 * x.mantissa * unit
    greatest := (4 * x.mantissa + 2) * unit
    denominator := twoTo (2 - x.scale).toNat
    closed := decide (x.mantissa % 2 = 0) }

def digitCount (n : Nat) : Nat := (Nat.toDigits 10 n).length

/-- The power of ten of the leading digit of `num / den`, neither of them zero. -/
def leadingPower (num den : Nat) : Int :=
  if den ≤ num then (digitCount (num / den) : Int) - 1
  else -(digitCount ((den - 1) / num) : Int)

/-- The better neighbour on the grid of decimals with `count` digits, when one of the
two lies in the interval. -/
def onGrid (tie : TieRule) (i : Interval) (count : Nat) : Option Decimal :=
  let exponent := leadingPower i.middle i.denominator - (count : Int) + 1
  let up := tenTo (-exponent).toNat
  let step := i.denominator * tenTo exponent.toNat
  let low := i.middle * up / step
  let inside (n : Nat) : Bool :=
    if i.closed then i.least * up ≤ n * step && n * step ≤ i.greatest * up
    else i.least * up < n * step && n * step < i.greatest * up
  let fromLow := i.middle * up - low * step
  let toHigh := (low + 1) * step - i.middle * up
  let high := ⟨low + 1, exponent⟩
  match inside low, inside (low + 1) with
  | true, false => some ⟨low, exponent⟩
  | false, true => some high
  | false, false => none
  | true, true =>
      if fromLow < toHigh then some ⟨low, exponent⟩
      else if toHigh < fromLow then some high
      else
        match tie with
        | .upward => some high
        | .toEven => if low % 2 = 0 then some ⟨low, exponent⟩ else some high

/-- The decimal with the fewest digits that reads back as the double, the nearest of
several.  Seventeen digits always suffice. -/
def shortest (tie : TieRule) (x : Magnitude) : Decimal :=
  if x.mantissa = 0 then ⟨0, 0⟩
  else
    match (List.range 17).findSome? fun n => onGrid tie x.interval (n + 1) with
    | some d => if d.digits = 10 then ⟨1, d.exponent + 1⟩ else d
    | none => ⟨0, 0⟩

end Magnitude

end SparqlRequest
