/-
# Number.Power -- powers of two and ten

The powers by which exact arithmetic on doubles and decimals scales, and the bounds of
integers with a given number of bits.
-/

set_option autoImplicit false

namespace SparqlRequest.Number

def twoTo (n : Nat) : Nat := Nat.pow 2 n

def tenTo (n : Nat) : Nat := Nat.pow 10 n

end SparqlRequest.Number
