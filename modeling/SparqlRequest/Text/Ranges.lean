/-
# Text.Ranges -- sets of characters given as ranges of code points

A Unicode property is a list of closed ranges of code points, kept in a table.
-/
import SparqlRequest.Text.Basic

set_option autoImplicit false

namespace SparqlRequest.Text

/-- A closed range of code points, from its first to its last. -/
abbrev CodeRange := Nat × Nat

def inRanges (ranges : List CodeRange) (code : Nat) : Bool :=
  ranges.any fun range => range.1 ≤ code && code ≤ range.2

end SparqlRequest.Text
