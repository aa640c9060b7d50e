/-
# Vocabulary -- the well-known namespaces

The namespaces that SPARQL 1.1 introduces before its first example, under the names
that it gives them, in the order in which they are declared when all of them are asked
for.
-/
import SparqlRequest.Text.Basic

set_option autoImplicit false

namespace SparqlRequest.Vocabulary

/-- The XML Schema namespace, where the datatypes live. -/
def xsd : Text := "http://www.w3.org/2001/XMLSchema#".toList

def xsdLabel : Text := "xsd".toList

/-- The well-known names with their namespaces. -/
def common : List (Text × Text) :=
  [("rdf".toList, "http://www.w3.org/1999/02/22-rdf-syntax-ns#".toList),
    ("rdfs".toList, "http://www.w3.org/2000/01/rdf-schema#".toList),
    (xsdLabel, xsd),
    ("fn".toList, "http://www.w3.org/2005/xpath-functions#".toList),
    ("sfn".toList, "http://www.w3.org/ns/sparql#".toList)]

def common? (name : Text) : Option Text :=
  (common.find? fun entry => entry.1 = name).map (·.2)

end SparqlRequest.Vocabulary
