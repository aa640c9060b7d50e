/-
# Query.Basic -- a statement on its way to an endpoint

A query starts from a template and a registry of its own.  Bindings change the working
text, registrations change the registry, and the template stays as it was given.  The
finished text is the preamble of the registry followed by the working text; bindings never
reach into the preamble.

Executing a query hands its transport one delivery, or none when the preamble or the
classification fails; the reply is read as JSON.
-/
import SparqlRequest.Query.Placeholder
import SparqlRequest.Registry.Inspect
import SparqlRequest.Registry.Preamble
import SparqlRequest.Statement.Basic
import SparqlRequest.Statement.Reply
import SparqlRequest.Term.Basic

set_option autoImplicit false

namespace SparqlRequest

/-- A template with the bindings and declarations made so far. -/
structure Query where
  template : Text
  text : Text
  registry : Registry
  deriving DecidableEq, Repr

namespace Query

/-- The query of a template, before any binding. -/
def create (template : Text) (registry : Registry) : Query := ⟨template, template, registry⟩

def bind (query : Query) (name replacement : Text) : Query :=
  { query with text := Placeholder.substitute name replacement query.text }

def bindTerm (query : Query) (name : Text) (term : Term) : Query := query.bind name term.format

def bindAll (query : Query) (bindings : List (Text × Text)) : Query :=
  bindings.foldl (fun query binding => query.bind binding.1 binding.2) query

def register (query : Query) (registration : Registration) : Query :=
  { query with registry := query.registry.register registration }

def registerCommon (query : Query) (names : List Text) : Except Error Query :=
  (query.registry.registerCommon names).map fun registry => { query with registry := registry }

/-- The finished text: the preamble, then the working text. -/
def render (query : Query) : Except Error Text :=
  query.registry.preamble.map fun preamble => preamble ++ query.text

def statement (query : Query) : Except Error Statement :=
  query.render.bind Statement.ofText

def kind (query : Query) : Except Error StatementKind := query.statement.map Statement.kind

/-- Hands the finished statement to a transport and reads the reply. -/
def execute (query : Query) (transport : Transport) (parameters : Parameters) : Execution :=
  match query.statement with
  | .error error => ⟨[], .error error⟩
  | .ok statement =>
      let delivery : Delivery := ⟨statement, parameters⟩
      match transport delivery with
      | .error error => ⟨[delivery], .error (.transport error)⟩
      | .ok body => ⟨[delivery], readReply body⟩

def inspect (query : Query) : Text :=
  Text.record "Query".toList
    [("original".toList, Text.quoted query.template), ("text".toList, Text.quoted query.text),
      ("registry".toList, query.registry.inspect)]
    []

end Query

end SparqlRequest
