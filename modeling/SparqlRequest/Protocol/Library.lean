/-
# Protocol.Library -- the HTTP library, by what is asked of it

Requests are made by an HTTP library, which is no part of this development.  A client is
built with settings, a POST is handed to it, and a response comes back or an error.  The
status of a response is there before its body: the text of the body is read afterwards, and
that can fail by itself.  An error says whether it arose while a connection was made.

A `Library` is the library together with everything that it reaches.  Nothing is assumed
of one here; `Protocol.Network` says what the library is known to do, and has one that does it.
-/
import SparqlRequest.Text.Basic

set_option autoImplicit false

namespace SparqlRequest.Http

/-- What a client of the library is built with. -/
structure Settings where
  /-- The limit for a request, from making the connection to the last byte of the reply. -/
  timeoutSeconds : Nat
  userAgent : Text
  deriving DecidableEq, Repr

/-- A POST as it is handed to the library. -/
structure Post where
  url : Text
  contentType : Text
  accept : Text
  body : Text
  deriving DecidableEq, Repr

inductive Method where
  | get
  | post
  deriving DecidableEq, Repr

/-- A request as a server receives it. -/
structure Request where
  method : Method
  url : Text
  /-- The media type of the body; a GET has none. -/
  contentType : Option Text
  accept : Text
  userAgent : Text
  body : Text
  deriving DecidableEq, Repr

/-- Why the library brought nothing back. -/
structure NetworkError where
  isConnect : Bool
  shown : Text
  deriving DecidableEq, Repr

/-- A response whose head is there, and what reading its text comes to. -/
structure Response where
  status : Nat
  text : Except NetworkError Text

/-- What a POST came to: the requests that servers received, in order, and the response. -/
structure Exchange where
  requests : List Request
  response : Except NetworkError Response

/-- An HTTP library and what it reaches. -/
structure Library where
  /-- Why no client can be built with settings, if so. -/
  refusal? : Settings → Option Text
  acceptsUrl : Text → Bool
  /-- The text can be the value of a header. -/
  acceptsValue : Text → Bool
  send : Settings → Post → Exchange

/-- The status and the text of a response, both of which have to come in. -/
def Exchange.received (exchange : Exchange) : Except NetworkError (Nat × Text) :=
  exchange.response.bind fun response => response.text.map fun text => (response.status, text)

/-- The request that a POST is to begin with. -/
def Post.request (post : Post) (settings : Settings) : Request where
  method := .post
  url := post.url
  contentType := some post.contentType
  accept := post.accept
  userAgent := settings.userAgent
  body := post.body

end SparqlRequest.Http
