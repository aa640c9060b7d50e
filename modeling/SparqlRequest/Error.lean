/-
# Error -- why a statement cannot be built or sent

Every failure is a cause, and `Error.message` says it in words.  A cause keeps what the
message names: the text that was refused, or the source that no IRI could be made from.
A failure of the transport tells its caller only that there was no connection, or that
the endpoint did not do what was asked; the status and the endpoint's own words go with
the cause and not into the message.
-/
import SparqlRequest.Files
import SparqlRequest.Number.Written
import SparqlRequest.Term.IriSource

set_option autoImplicit false

namespace SparqlRequest

/-- What is wrong with the source of an IRI. -/
inductive IriFault where
  /-- A map of so many entries is no prefixed name. -/
  | entryCount (count : Nat)
  | badLabel (name : Text)
  | badLocalName (name : Text)
  deriving DecidableEq, Repr

/-- Why a transport brought no reply back.  The detail is what the endpoint said, or what is
said of the network. -/
inductive TransportError where
  | connect (detail : Text)
  | failed (status : Option Nat) (detail : Text)
  deriving DecidableEq, Repr

/-- What is wrong with a configuration. -/
inductive ConfigFault where
  | unreadable (path : Text) (fault : FileFault)
  /-- The text is no configuration, in the words of the reader of TOML. -/
  | notToml (shown : Text)
  /-- There is no HTTP client with the settings, in the words of the HTTP library. -/
  | noClient (shown : Text)
  deriving DecidableEq, Repr

/-- Why a statement cannot be built or sent. -/
inductive Error where
  | invalidIri (fault : IriFault)
  /-- The URI would break out of its angle brackets. -/
  | suspiciousIri (uri : Text)
  | nulInLiteral
  | invalidDatatype (source : IriSource)
  | invalidLanguageTag (tag : Text)
  | unknownLabel (name : Text)
  /-- The statement has no operative keyword. -/
  | malformedStatement (text : Text)
  | transport (error : TransportError)
  /-- The reply is not JSON. -/
  | invalidResponse
  | config (fault : ConfigFault)
  deriving DecidableEq

def IriFault.message : IriFault → Text
  | .entryCount count =>
      "prefixed name mapping must have exactly one entry, got ".toList ++ Number.ofNat count
  | .badLabel name => "bad prefix name ".toList ++ Text.quoted name
  | .badLocalName name => "bad local name ".toList ++ Text.quoted name

/-- The failure in words, the same for every detail. -/
def TransportError.message : TransportError → Text
  | .connect _ => "Could not connect to SPARQL endpoint.".toList
  | .failed _ _ => "SPARQL query failed.".toList

def ConfigFault.message : ConfigFault → Text
  | .unreadable path fault => "cannot read ".toList ++ path ++ ": ".toList ++ fault.message
  | .notToml shown => "TOML parse error: ".toList ++ shown
  | .noClient shown => "failed to create HTTP client: ".toList ++ shown

def Error.message : Error → Text
  | .invalidIri fault => "invalid IRI: ".toList ++ fault.message
  | .suspiciousIri uri => "refusing to use suspicious IRI: ".toList ++ Text.quoted uri
  | .nulInLiteral => "refusing to encode string with null character".toList
  | .invalidDatatype source =>
      "datatype must be a URI or a single-entry prefixed name, got ".toList ++ source.shown
  | .invalidLanguageTag tag => "invalid language tag: ".toList ++ Text.quoted tag
  | .unknownLabel name => "\x60".toList ++ name ++ "\x60 is not a known prefix".toList
  | .malformedStatement text => "malformed statement: ".toList ++ Text.quoted text
  | .transport error => error.message
  | .invalidResponse => "invalid response: Could not parse response body.".toList
  | .config fault => "configuration error: ".toList ++ fault.message

end SparqlRequest
