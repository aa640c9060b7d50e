/-
# Registry.Basic -- the declarations that stand before a statement

A registry holds a base, if one was set, and prefixes in the order in which their names
were first declared.  Declaring a name again changes its URI and leaves its place.
Well-known prefixes are declared by name, or all at once; every name of a call is looked
up before the first is declared, so an unknown name changes nothing.
-/
import SparqlRequest.Error
import SparqlRequest.Registry.Registration
import SparqlRequest.Vocabulary

set_option autoImplicit false

namespace SparqlRequest

/-- The declarations that stand before a statement. -/
structure Registry where
  base : Option Text
  prefixes : List (Text × Text)
  deriving DecidableEq, Repr

namespace Registry

def empty : Registry := ⟨none, []⟩

def isEmpty (registry : Registry) : Bool := registry.base.isNone && registry.prefixes.isEmpty

def uri? (registry : Registry) (name : Text) : Option Text :=
  (registry.prefixes.find? fun entry => entry.1 = name).map (·.2)

def setBase (registry : Registry) (uri : Text) : Registry := { registry with base := some uri }

/-- Gives a name its URI: in its place when it is there, and at the end when it is new. -/
def declareIn (name uri : Text) : List (Text × Text) → List (Text × Text)
  | [] => [(name, uri)]
  | entry :: rest =>
      if entry.1 = name then (name, uri) :: rest else entry :: declareIn name uri rest

def declare (registry : Registry) (name uri : Text) : Registry :=
  { registry with prefixes := declareIn name uri registry.prefixes }

def declareAll (registry : Registry) (pairs : List (Text × Text)) : Registry :=
  pairs.foldl (fun registry pair => registry.declare pair.1 pair.2) registry

/-- Declarations in two calls are those of one. -/
theorem declareAll_append (registry : Registry) (pairs more : List (Text × Text)) :
    registry.declareAll (pairs ++ more) = (registry.declareAll pairs).declareAll more :=
  List.foldl_append

def register (registry : Registry) : Registration → Registry
  | .base uri => registry.setBase uri
  | .one name uri => registry.declare name uri
  | .several pairs => registry.declareAll pairs

/-- The declarations of well-known names, in the order in which they are named; the
first name that is not well known is refused. -/
def commonPairs : List Text → Except Error (List (Text × Text))
  | [] => .ok []
  | name :: names =>
      match Vocabulary.common? name with
      | none => .error (.unknownLabel name)
      | some uri => (commonPairs names).map fun pairs => (name, uri) :: pairs

/-- Declares well-known prefixes: the named ones, or all of them when none is named. -/
def registerCommon (registry : Registry) (names : List Text) : Except Error Registry :=
  if names = [] then .ok (registry.declareAll Vocabulary.common)
  else (commonPairs names).map registry.declareAll

end Registry

end SparqlRequest
