/-
# Term.Iri -- IRIs as terms

An IRI is written in full between angle brackets, or as a prefixed name.  Beside its
form it carries the name of its namespace, where one is known: the name before the colon
of a prefixed name, and `xsd` for a full URI in the XML Schema namespace.  The datatypes
that have bare values are recognised by that name and the local name, so both ways to
write such a datatype are recognised alike.

`Iri.create` is the way to make one; it refuses a URI that would break out of its
brackets, a map that is not one entry, and names that no prefixed name can hold, the
name before the colon being judged first.
-/
import SparqlRequest.Lexical.BareType
import SparqlRequest.Lexical.Name
import SparqlRequest.Lexical.Safety
import SparqlRequest.Vocabulary

set_option autoImplicit false

namespace SparqlRequest

namespace Iri

/-- The two ways to write an IRI. -/
inductive Form where
  | full (uri : Text)
  | prefixed (label name : Text)
  deriving DecidableEq, Repr

end Iri

/-- An IRI: its form, and the name of its namespace where one is known. -/
structure Iri where
  form : Iri.Form
  namespaceName : Option Text
  deriving DecidableEq, Repr

namespace Iri

def ofUri (uri : Text) : Except Error Iri := do
  let uri ← Lexical.checkUri uri
  let known := if Text.startsWith Vocabulary.xsd uri then some Vocabulary.xsdLabel else none
  return ⟨.full uri, known⟩

def ofName (label name : Text) : Except Error Iri :=
  if !Lexical.isLabel label then .error (.invalidIri (.badLabel label))
  else if !Lexical.isLocalName name then .error (.invalidIri (.badLocalName name))
  else .ok ⟨.prefixed label name, some label⟩

def create : IriSource → Except Error Iri
  | .uri text => ofUri text
  | .mapping map =>
      match map.entries with
      | [(label, name)] => ofName label name
      | entries => .error (.invalidIri (.entryCount entries.length))

/-- The IRI of a datatype of XML Schema, in full. -/
def xsd (type : Lexical.BareType) : Iri :=
  ⟨.full (Vocabulary.xsd ++ type.localName), some Vocabulary.xsdLabel⟩

/-- The source that describes the IRI as it is written. -/
def source (iri : Iri) : IriSource :=
  match iri.form with
  | .full uri => .uri uri
  | .prefixed label name => .ofName label name

def uri? (iri : Iri) : Option Text :=
  match iri.form with
  | .full uri => some uri
  | .prefixed _ _ => none

/-- The name behind the namespace: behind the colon, or behind the XML Schema
namespace in a full URI. -/
def localName? (iri : Iri) : Option Text :=
  match iri.form with
  | .full uri => Text.after? Vocabulary.xsd uri
  | .prefixed _ name => some name

def bareType? (iri : Iri) : Option Lexical.BareType :=
  if iri.namespaceName = some Vocabulary.xsdLabel then
    iri.localName?.bind Lexical.BareType.ofLocalName?
  else none

def format (iri : Iri) : Text :=
  match iri.form with
  | .full uri => ['<'] ++ uri ++ ['>']
  | .prefixed label name => label ++ [':'] ++ name

end Iri

end SparqlRequest
