/-
# Protocol.Round -- from a configuration to an outcome

One round takes a configuration, a template, bindings and parameters to an outcome, over
the HTTP library.  The stages fail in this order: the settings of the client, the
declarations of the configuration, the preamble, the classification, the transport, the
reading of the reply.  Only a round that comes as far as the transport posts anything.
-/
import SparqlRequest.Client
import SparqlRequest.Protocol.Http

set_option autoImplicit false

namespace SparqlRequest.Http

/-- What a round handed to the transport, what the transport posted of it, the requests that
servers received, and the outcome. -/
structure Round where
  sent : List Delivery
  posts : List Post
  requests : List Request
  outcome : Except Error Json

/-- A connector and a client with the declarations of a configuration. -/
def connect (library : Library) (config : Config) : Except Error (Connector × Client) := do
  let connector ← Connector.ofConfig library config
  let registry ← config.registry
  return (connector, ⟨registry⟩)

def perform (library : Library) (connector : Connector) (query : Query)
    (parameters : Parameters) : Round :=
  let execution := query.execute (connector.transport library) parameters
  { sent := execution.sent
    posts := execution.sent.map connector.post
    requests := execution.sent.flatMap fun delivery =>
      (connector.exchange library delivery).requests
    outcome := execution.outcome }

/-- Executes a template under a configuration. -/
def round (library : Library) (config : Config) (template : Text)
    (bindings : List (Text × Text)) (parameters : Parameters) : Round :=
  match connect library config with
  | .error error => ⟨[], [], [], .error error⟩
  | .ok (connector, client) =>
      perform library connector ((client.query template).bindAll bindings) parameters

end SparqlRequest.Http
