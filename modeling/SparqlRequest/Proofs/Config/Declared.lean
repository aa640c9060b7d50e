/-
# Proofs.Config.Declared -- what a configuration declares, and when it cannot

A configuration fails for one reason only: without the name that selects all, it names
something that is not well known.  Otherwise it declares its base, what it selects of the
well-known names, and its own prefixes, in this order.
-/
import SparqlRequest.Config
import SparqlRequest.Proofs.Registry.WellKnown

set_option autoImplicit false

namespace SparqlRequest.Config

open Vocabulary

def firstUnknown? (config : Config) : Option Text :=
  if config.commonPrefixes.contains everyName then none
  else Vocabulary.firstUnknown? config.commonPrefixes

/-- What a configuration selects of the well-known declarations. -/
def selection (config : Config) : List (Text × Text) :=
  if config.commonPrefixes.contains everyName then common
  else declarationsOf config.commonPrefixes

/-- The well-known names that a configuration asks for, all of them in the order of the table
where it selects all. -/
def commonNames (config : Config) : List Text :=
  if config.commonPrefixes.contains everyName then names else config.commonPrefixes

theorem firstUnknown?_eq (config : Config) :
    config.firstUnknown? = Vocabulary.firstUnknown? config.commonNames := by
  rw [firstUnknown?, commonNames]
  split
  · exact firstUnknown?_names.symm
  · rfl

theorem selection_eq (config : Config) : config.selection = declarationsOf config.commonNames := by
  rw [selection, commonNames]
  split
  · exact declarationsOf_names.symm
  · rfl

def declared (config : Config) : Registry :=
  Registry.declareAll ⟨config.base, []⟩ (config.selection ++ config.prefixes)

/-- The selection of a configuration is declared whole, or its first unknown name is told. -/
theorem withCommon_eq (config : Config) (registry : Registry) :
    withCommon config.commonPrefixes registry =
      config.firstUnknown?.elim (.ok (registry.declareAll config.selection)) fun name =>
        .error (.unknownLabel name) := by
  rw [withCommon, firstUnknown?, selection]
  by_cases every : config.commonPrefixes.contains everyName = true
  · simp only [if_pos every]
    rfl
  · simp only [if_neg every]
    cases names : config.commonPrefixes with
    | nil => rfl
    | cons name more =>
        rw [List.isEmpty_cons, if_neg Bool.false_ne_true, Registry.registerCommon_eq,
          Vocabulary.selection, if_neg (List.cons_ne_nil name more)]
        rfl

/-- **A configuration declares what it says**, unless it asks for a name that is not well
known. -/
theorem registry_eq (config : Config) :
    config.registry =
      config.firstUnknown?.elim (.ok config.declared) fun name =>
        .error (.unknownLabel name) := by
  rw [registry, withCommon_eq]
  cases config.firstUnknown? with
  | none =>
      rw [Option.elim_none, Option.elim_none, declared, Registry.declareAll_append]
      rfl
  | some name => rfl

end SparqlRequest.Config
