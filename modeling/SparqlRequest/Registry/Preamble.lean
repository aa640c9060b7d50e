/-
# Registry.Preamble -- the declarations as text

The base comes first, then each prefix on a line of its own, and an empty line ends the
declarations if there are any.  A URI that would break out of its angle brackets is
refused; of several the first in this order is named.
-/
import SparqlRequest.Lexical.Safety
import SparqlRequest.Registry.Basic

set_option autoImplicit false

namespace SparqlRequest.Registry

def baseLine : Option Text → Except Error Text
  | none => .ok []
  | some base => do
      let uri ← Lexical.checkUri base
      return "BASE <".toList ++ uri ++ ['>', '\n']

def prefixLines : List (Text × Text) → Except Error Text
  | [] => .ok []
  | (name, uri) :: rest => do
      let uri ← Lexical.checkUri uri
      let lines ← prefixLines rest
      return "PREFIX ".toList ++ name ++ ": <".toList ++ uri ++ ['>', '\n'] ++ lines

/-- The declarations as they stand before a statement. -/
def preamble (registry : Registry) : Except Error Text := do
  let first ← baseLine registry.base
  let rest ← prefixLines registry.prefixes
  let lines := first ++ rest
  return if lines.isEmpty then [] else lines ++ ['\n']

end SparqlRequest.Registry
