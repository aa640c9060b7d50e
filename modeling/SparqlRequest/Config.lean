/-
# Config -- the settings of a client

A configuration names an endpoint and how to speak to it, and declares what every
statement starts with: a base, well-known prefixes by name, and prefixes of its own.  The
name `*` anywhere among the well-known ones selects all of them.
-/
import SparqlRequest.Registry.Basic

set_option autoImplicit false

namespace SparqlRequest

/-- The settings of a client. -/
structure Config where
  endpoint : Text
  timeoutSeconds : Nat
  userAgent : Text
  accept : Text
  base : Option Text
  commonPrefixes : List Text
  prefixes : List (Text × Text)
  deriving DecidableEq, Repr

namespace Config

def standard : Config where
  endpoint := []
  timeoutSeconds := 30
  userAgent := "sparql-client/0.1.0".toList
  accept := "application/sparql-results+json,application/json".toList
  base := none
  commonPrefixes := []
  prefixes := []

/-- The name that selects all well-known prefixes. -/
def everyName : Text := ['*']

def withCommon (names : List Text) (registry : Registry) : Except Error Registry :=
  if names.contains everyName then registry.registerCommon []
  else if names.isEmpty then .ok registry
  else registry.registerCommon names

/-- The declarations of a configuration: the base, the well-known prefixes, its own. -/
def registry (config : Config) : Except Error Registry :=
  let start : Registry := ⟨config.base, []⟩
  (withCommon config.commonPrefixes start).map fun registry =>
    registry.declareAll config.prefixes

end Config

end SparqlRequest
