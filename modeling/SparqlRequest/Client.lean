/-
# Client -- declarations that outlive a query

A client keeps a registry.  Each query that it starts gets a copy, so what is declared
later changes no query that already exists, and no query changes its client.
-/
import SparqlRequest.Query.Basic

set_option autoImplicit false

namespace SparqlRequest

/-- A registry from which queries start. -/
structure Client where
  registry : Registry
  deriving DecidableEq, Repr

namespace Client

def new : Client := ⟨Registry.empty⟩

def register (client : Client) (registration : Registration) : Client :=
  ⟨client.registry.register registration⟩

def registerCommon (client : Client) (names : List Text) : Except Error Client :=
  (client.registry.registerCommon names).map Client.mk

/-- Starts a query from a template, with the declarations made so far. -/
def query (client : Client) (template : Text) : Query := Query.create template client.registry

/-- The client shown for inspection; its way to the endpoint is left out. -/
def inspect (client : Client) : Text :=
  Text.record "SparqlClient".toList [("registry".toList, client.registry.inspect)]
    ", ..".toList

end Client

end SparqlRequest
