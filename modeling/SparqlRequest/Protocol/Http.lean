/-
# Protocol.Http -- statements posted to an endpoint

A delivery goes to the endpoint as one POST with a form body: the statement under the name
of its kind, two parameters that ask for JSON results, then the parameters of the
delivery.  A connector knows the endpoint, the Accept header and the settings of its client,
and fails to be made where the library builds no client with these settings.

Only an error that arose while connecting is a failure to connect; any other is a failure
without a status.  The text of a reply is read before its status is looked at, so a reply
that breaks off has no status either.  A complete one fails from status 300 on.
-/
import SparqlRequest.Config
import SparqlRequest.Protocol.Form
import SparqlRequest.Protocol.Library
import SparqlRequest.Query.Basic

set_option autoImplicit false

namespace SparqlRequest.Http

/-- An endpoint and how to speak to it. -/
structure Connector where
  endpoint : Text
  accept : Text
  settings : Settings
  deriving DecidableEq, Repr

def formType : Text := "application/x-www-form-urlencoded".toList

def resultsType : Text := "application/sparql-results+json".toList

/-- The parameters of every request. -/
def standingParameters : Parameters :=
  [("format".toList, resultsType), ("content-type".toList, resultsType)]

/-- The pairs of a form body: the statement, what every request asks for, and the
parameters of this one. -/
def pairs (delivery : Delivery) : List (Text × Text) :=
  (delivery.statement.kind.field, delivery.statement.text) ::
    (standingParameters ++ delivery.parameters)

/-- What an error of the library means to the transport. -/
def mapNetworkError (error : NetworkError) : TransportError :=
  if error.isConnect then .connect error.shown else .failed none error.shown

/-- What the transport makes of an exchange. -/
def Exchange.reply (exchange : Exchange) : Except TransportError Text :=
  match exchange.response with
  | .error error => .error (mapNetworkError error)
  | .ok response =>
      match response.text with
      | .error error => .error (mapNetworkError error)
      | .ok text =>
          if 300 ≤ response.status then .error (.failed (some response.status) text)
          else .ok text

def Settings.ofConfig (config : Config) : Settings := ⟨config.timeoutSeconds, config.userAgent⟩

namespace Connector

def ofConfig (library : Library) (config : Config) : Except Error Connector :=
  match library.refusal? (.ofConfig config) with
  | some shown => .error (.config (.noClient shown))
  | none => .ok ⟨config.endpoint, config.accept, .ofConfig config⟩

def post (connector : Connector) (delivery : Delivery) : Post where
  url := connector.endpoint
  contentType := formType
  accept := connector.accept
  body := Form.encode (pairs delivery)

def exchange (connector : Connector) (library : Library) (delivery : Delivery) : Exchange :=
  library.send connector.settings (connector.post delivery)

def transport (connector : Connector) (library : Library) : Transport :=
  fun delivery => (connector.exchange library delivery).reply

def inspect (connector : Connector) : Text :=
  Text.record "HttpTransport".toList
    [("endpoint".toList, Text.quoted connector.endpoint),
      ("accept".toList, Text.quoted connector.accept)]
    []

end Connector

end SparqlRequest.Http
