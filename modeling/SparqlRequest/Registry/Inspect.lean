/-
# Registry.Inspect -- a registry shown for inspection

A record is shown by its name and its fields between braces, a list by its items between
brackets, and an optional text as `None` or as `Some` with the quoted text.
-/
import SparqlRequest.Registry.Basic
import SparqlRequest.Text.Quoted

set_option autoImplicit false

namespace SparqlRequest

namespace Text

/-- A record with its name and its shown fields; `more` ends a record that does not show
all of them. -/
def record (name : Text) (fields : List (Text × Text)) (more : Text) : Text :=
  let shown := fields.map fun field => field.1 ++ [':', ' '] ++ field.2
  name ++ [' ', '\x7b', ' '] ++ joinWith [',', ' '] shown ++ more ++ [' ', '\x7d']

def optional : Option Text → Text
  | none => "None".toList
  | some t => "Some(".toList ++ quoted t ++ [')']

end Text

def Registry.inspect (registry : Registry) : Text :=
  let pair (entry : Text × Text) : Text :=
    ['('] ++ Text.quoted entry.1 ++ [',', ' '] ++ Text.quoted entry.2 ++ [')']
  let pairs := ['['] ++ Text.joinWith [',', ' '] (registry.prefixes.map pair) ++ [']']
  Text.record "Registry".toList
    [("base".toList, Text.optional registry.base), ("prefixes".toList, pairs)] []

end SparqlRequest
