/-
# Term.IriSource -- what an IRI can be made from

An IRI is made from a URI, or from a map that is read as a prefixed name: its one entry
goes from the name before the colon to the name after it.  A map with more or fewer
entries is a possible input, and refused later.
-/
import SparqlRequest.NameMap
import SparqlRequest.Text.Quoted

set_option autoImplicit false

namespace SparqlRequest

/-- What an IRI can be made from. -/
inductive IriSource where
  | uri (text : Text)
  | mapping (map : NameMap)
  deriving DecidableEq

namespace IriSource

def ofName (label name : Text) : IriSource := .mapping (NameMap.empty.insert label name)

/-- The source of a map that comes as pairs in any order. -/
def ofPairs (pairs : List (Text × Text)) : IriSource := .mapping (NameMap.ofPairs pairs)

/-- A source as messages show it: a URI between quotation marks, a map as its entries
in order between braces. -/
def shown : IriSource → Text
  | .uri text => Text.quoted text
  | .mapping map =>
      let entry (pair : Text × Text) : Text :=
        Text.quoted pair.1 ++ [':', ' '] ++ Text.quoted pair.2
      ['\x7b'] ++ Text.joinWith [',', ' '] (map.entries.map entry) ++ ['\x7d']

end IriSource

end SparqlRequest
