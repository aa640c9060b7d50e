/-
# Statement.Basic -- a finished statement and its way to an endpoint

A statement is a text that is known to be a query or an update.  It travels with
parameters; `Delivery` is the two together, what a transport is handed.  `Execution` records
what one execution handed over, which is at most one delivery, and what came of it.
-/
import SparqlRequest.Json.Basic
import SparqlRequest.Statement.Kind

set_option autoImplicit false

namespace SparqlRequest

/-- A text with its kind. -/
structure Statement where
  text : Text
  kind : StatementKind
  deriving DecidableEq, Repr

/-- The statement of a text, if the text has an operative keyword. -/
def Statement.ofText (text : Text) : Except Error Statement :=
  (StatementKind.classify text).map fun kind => ⟨text, kind⟩

abbrev Parameters := List (Text × Text)

/-- What a transport is handed. -/
structure Delivery where
  statement : Statement
  parameters : Parameters
  deriving DecidableEq, Repr

/-- The way to an endpoint: what comes back for a delivery. -/
abbrev Transport := Delivery → Except TransportError Text

/-- What one execution handed to the transport, and its outcome. -/
structure Execution where
  sent : List Delivery
  outcome : Except Error Json

end SparqlRequest
