/-
# Registry.Registration -- declarations handed over in one call

A registration sets the base, declares one prefix, or declares several in turn.  A map
declares its entries in the order of their names, whether it comes with its entries in
that order or in any other.
-/
import SparqlRequest.NameMap

set_option autoImplicit false

namespace SparqlRequest

/-- Declarations handed over in one call. -/
inductive Registration where
  | base (uri : Text)
  | one (name uri : Text)
  | several (pairs : List (Text × Text))
  deriving DecidableEq, Repr

namespace Registration

def ofMap (map : NameMap) : Registration := .several map.entries

/-- The order of pairs: by the first text, then by the second. -/
def pairBefore (p q : Text × Text) : Bool :=
  if p.1 = q.1 then Text.before p.2 q.2 else Text.before p.1 q.1

/-- The declarations of entries that come in no particular order. -/
def ofUnordered (entries : List (Text × Text)) : Registration :=
  .several (entries.mergeSort fun p q => !pairBefore q p)

end Registration

end SparqlRequest
