/-
# Json.Basic -- JSON values

A value of RFC 8259.  Numbers are integers of sixty-four bits, with or without a sign, or
finite doubles.  The members of an object stand in the order of their names, each name
once.
-/
import SparqlRequest.NameMap
import SparqlRequest.Number.Binary64

set_option autoImplicit false

namespace SparqlRequest

/-- A JSON value. -/
inductive Json where
  | null
  | boolean (b : Bool)
  | integer (i : Int)
  | double (negative : Bool) (magnitude : Magnitude)
  | string (t : Text)
  | array (items : List Json)
  | object (members : List (Text × Json))
  deriving Repr

end SparqlRequest
